import HttpService.Proofs.Server.History

/-!
# What a server registers

The routes of a history are those of its calls, in order, as long as no start has fixed the routes
(`registered`). The registry holds the last route of each key, the keys in the order in which they came
first, and for every other registered route the history has one warning (`registry_of_history`).
-/

set_option autoImplicit false

namespace HttpService

/-- Whether an event says that a route took the place of another one. -/
def Event.isReplacement (e : Event) : Bool :=
  e.message == "duplicate route replaced"

theorem Event.isReplacement_warning {message : String} (h : message ≠ "duplicate route replaced")
    (fields : List (String × String)) : (Event.warning message fields).isReplacement = false :=
  beq_false_of_ne h

theorem Event.countP_isReplacement {events : List Event} (h : ∀ e ∈ events, e.isReplacement = false) :
    events.countP Event.isReplacement = 0 :=
  List.countP_eq_zero.2 fun e he => by
    rw [h e he]
    exact Bool.false_ne_true

section
variable {M E : Type} {F : Family}

theorem Controller.warnings_of_introspect {c : Controller E} {group : String} {mw : List M} {e : Event}
    (h : e ∈ (c.introspect F group mw).2) : e.isReplacement = false := by
  obtain ⟨result, hresult, hwarning⟩ := List.mem_filterMap.1 h
  obtain ⟨m, _, rfl⟩ := List.mem_map.1 hresult
  cases m with
  | rejected name reason =>
    cases hwarning
    exact Event.isReplacement_warning (by decide) _
  | bindable name request response endpoint =>
    unfold introspectMethod at hwarning
    dsimp only at hwarning
    split at hwarning
    · cases hwarning
    · rename_i hskipped
      cases hwarning
      split at hskipped
      · split at hskipped <;> cases hskipped
        exact Event.isReplacement_warning (by decide) _
      · cases hskipped
        exact Event.isReplacement_warning (by decide) _

namespace GroupStep

mutual

theorem warnings_of_build (path : String) (mw : List M) :
    ∀ (step : GroupStep M E), ∀ e ∈ (step.build F path mw).warnings, e.isReplacement = false
  | .use _ => fun _ h => absurd h List.not_mem_nil
  | .bind _ _ => fun _ h => Controller.warnings_of_introspect h
  | .group sub steps => fun e h => by
    rw [build] at h
    exact warnings_of_buildAll _ mw steps e h

theorem warnings_of_buildAll (path : String) (mw : List M) :
    ∀ (steps : List (GroupStep M E)), ∀ e ∈ (buildAll F path mw steps).warnings,
      e.isReplacement = false
  | [] => fun _ h => absurd h List.not_mem_nil
  | step :: steps => fun e h => by
    rw [buildAll] at h
    rcases List.mem_append.1 h with h | h
    · exact warnings_of_build path mw step e h
    · exact warnings_of_buildAll path _ steps e h

end

end GroupStep

end

namespace Server

variable {F : Family} {s : Server}

/-! ## Warnings of other kinds -/

theorem warnings_of_insertBuiltins {t : RouteTable Entry} {pages : List (String × Endpoint)} {e : Event}
    (h : e ∈ (s.insertBuiltins t pages).2) : e.isReplacement = false := by
  induction pages generalizing t with
  | nil => cases h
  | cons page rest ih =>
    unfold insertBuiltins at h
    dsimp only at h
    split at h
    · rcases List.mem_cons.1 h with rfl | h
      · exact Event.isReplacement_warning (by decide) _
      · exact ih h
    · split at h
      · exact ih h
      · cases h

theorem warnings_of_service {e : Event} (h : e ∈ (s.service F).2) : e.isReplacement = false := by
  unfold service at h
  split at h
  · cases h
  · rcases List.mem_append.1 h with h | h
    · unfold builtins at h
      dsimp only at h
      split at h
      · rw [List.mem_singleton.1 h]
        exact Event.isReplacement_warning (by decide) _
      · cases h
    · exact warnings_of_insertBuiltins h

theorem warnings_of_serve {files : Files} {listener : Except String SocketAddress} {e : Event}
    (h : e ∈ (s.serve F files listener).warnings) : e.isReplacement = false := by
  have hservice {result : Except Failure Service} {warnings : List Event}
      (hresult : s.service F = (result, warnings)) (he : e ∈ warnings) : e.isReplacement = false :=
    warnings_of_service (F := F) (s := s) (by rwa [hresult])
  unfold serve at h
  split at h
  · cases h
  · dsimp only at h
    split at h
    · cases h
    · split at h
      · exact hservice ‹_› h
      · split at h
        · exact hservice ‹_› h
        · exact hservice ‹_› h

theorem warnings_of_startOn {files : Files} {listening : Except Failure (Except String SocketAddress)}
    {e : Event} (h : e ∈ (s.startOn F files listening).warnings) : e.isReplacement = false := by
  unfold startOn at h
  dsimp only at h
  split at h
  · cases h
  · exact warnings_of_serve h

/-! ## What is registered -/

/-- The warnings of an answer. -/
def Reply.warnings : Reply → List Event
  | built warnings => warnings
  | started _ warnings => warnings
  | stopped _ => []

/-- The routes that an operation registers. -/
def Occurrence.registered (F : Family) (o : Occurrence) : List (Route Middleware Endpoint) :=
  match o.op with
  | .call c => if o.before.frozen then [] else c.routes F
  | _ => []

theorem registry_of_attempt {files : Files} {listening : Except Failure (Except String SocketAddress)}
    {t : Started} (h : Attempt F s files listening t) : t.server.registry = s.registry := by
  cases h <;> rfl

theorem registry_perform (op : Op) :
    (perform F s op).after.registry = s.registry.putAll ((perform F s op).registered F) := by
  cases op with
  | call c =>
    show (c.apply F s).registry = s.registry.putAll (if s.frozen then [] else c.routes F)
    rw [(c.apply_kept F s).2.2]
    split <;> rfl
  | start files listening => exact registry_of_attempt (attempt_startOn files listening)
  | serve files listener => exact registry_of_attempt (attempt_serve files listener)
  | stop left =>
    show (s.stop left).2.registry = s.registry
    unfold stop
    split <;> rfl

/-- Registering gives a warning of this kind for each route that takes the place of another. -/
theorem replacements_of_register (routes : List (Route Middleware Endpoint)) :
    (s.register routes).2.countP Event.isReplacement + (s.register routes).1.registry.length =
      s.registry.length + (if s.frozen then [] else routes).length := by
  unfold register
  split
  · rw [Event.countP_isReplacement fun e he => ?_]
    · exact Nat.zero_add _
    · rw [List.mem_singleton.1 he]
      exact Event.isReplacement_warning (by decide) _
  · have hall : (s.registry.registerAll routes).2.countP Event.isReplacement =
        (s.registry.registerAll routes).2.length :=
      List.countP_eq_length.2 fun e he => beq_iff_eq.2 (Registry.message_of_mem_registerAll he)
    show (s.registry.registerAll routes).2.countP Event.isReplacement +
      (s.registry.registerAll routes).1.length = _
    rw [hall, Registry.registerAll_fst, Registry.length_registerAll]

theorem replacements_of_step (step : GroupStep Middleware Endpoint) :
    (Server.step F s step).2.1.countP Event.isReplacement + (Server.step F s step).1.registry.length =
      s.registry.length + (if s.frozen then [] else (step.build F "/" []).routes).length := by
  let built := step.build F "/" []
  have hregister : (built.warnings ++ (s.register built.routes).2).countP Event.isReplacement +
      (s.register built.routes).1.registry.length =
        s.registry.length + (if s.frozen then [] else built.routes).length := by
    have hbuild := Event.countP_isReplacement (GroupStep.warnings_of_build (F := F) "/" [] step)
    rw [List.countP_append, hbuild, Nat.zero_add]
    exact replacements_of_register built.routes
  cases step with
  | use m =>
    show 0 + s.registry.length = _
    rw [GroupStep.build, ite_self, Nat.zero_add]
    rfl
  | bind c own => exact hregister
  | group path steps => exact hregister

theorem replacements_of_call (c : Call) :
    (c.warnings F s).countP Event.isReplacement + (c.apply F s).registry.length =
      s.registry.length + (if s.frozen then [] else c.routes F).length := by
  cases c with
  | item step => exact replacements_of_step step
  | metrics =>
    show 0 + s.registry.length = s.registry.length + (if s.frozen then [] else []).length
    rw [ite_self, Nat.zero_add]
    rfl
  | policy p =>
    show 0 + s.registry.length = s.registry.length + (if s.frozen then [] else []).length
    rw [ite_self, Nat.zero_add]
    rfl

/-- An operation gives a warning for each route that it registers and that is not new. -/
theorem replacements_perform (op : Op) :
    (perform F s op).reply.warnings.countP Event.isReplacement +
      (perform F s op).after.registry.length =
        s.registry.length + ((perform F s op).registered F).length := by
  cases op with
  | call c => exact replacements_of_call c
  | start files listening =>
    rw [registry_perform]
    exact (congrArg (· + _) (Event.countP_isReplacement fun e he => warnings_of_startOn he)).trans
      (Nat.zero_add _)
  | serve files listener =>
    rw [registry_perform]
    exact (congrArg (· + _) (Event.countP_isReplacement fun e he => warnings_of_serve he)).trans
      (Nat.zero_add _)
  | stop left =>
    rw [registry_perform]
    exact Nat.zero_add _

/-! ## Whole histories -/

theorem registry_afterAll (ops : List Op) : (afterAll F s ops).registry =
    s.registry.putAll ((history F s ops).flatMap (Occurrence.registered F)) := by
  induction ops generalizing s with
  | nil => rfl
  | cons op ops ih =>
    show (afterAll F (perform F s op).after ops).registry = _
    rw [ih, registry_perform, history, List.flatMap_cons, Registry.putAll_append]

theorem replacements_history (ops : List Op) :
    ((history F s ops).flatMap (·.reply.warnings)).countP Event.isReplacement +
      (afterAll F s ops).registry.length =
        s.registry.length + ((history F s ops).flatMap (Occurrence.registered F)).length := by
  induction ops generalizing s with
  | nil => exact Nat.zero_add _
  | cons op ops ih =>
    have hfirst := replacements_perform (F := F) (s := s) op
    have hrest := ih (s := (perform F s op).after)
    rw [history, List.flatMap_cons, List.flatMap_cons, List.countP_append, List.length_append]
    show _ + (afterAll F (perform F s op).after ops).registry.length = _
    omega

/-- The routes of a call. -/
def Op.routes (F : Family) : Op → List (Route Middleware Endpoint)
  | call c => c.routes F
  | _ => []

/-- Only a start can fix the routes. -/
theorem perform_unfrozen (h : s.frozen = false) {op : Op} (hstarts : (perform F s op).starts = false)
    (hread : ∀ files why, op.attempt? ≠ some (files, .ok (.error why))) :
    (perform F s op).after.frozen = false := by
  have hattempt {files : Files} {listening : Except Failure (Except String SocketAddress)}
      (hop : op.attempt? = some (files, listening)) : (perform F s op).after.frozen = false := by
    rcases (perform_failed hop hstarts).2 with hafter | ⟨_, ⟨why, rfl⟩, _⟩
    · rw [hafter, h]
    · exact absurd hop (hread files why)
  cases op with
  | call c => exact (c.apply_kept F s).2.1.trans h
  | start files listening => exact hattempt rfl
  | serve files listener => exact hattempt rfl
  | stop left =>
    show (s.stop left).2.frozen = false
    unfold stop
    split <;> exact h

/-- As long as no start has succeeded every call registers its routes, unless the system did not say
the address of a listener. -/
theorem registered_history (h : s.frozen = false) {ops : List Op}
    (hstarts : ∀ o ∈ history F s ops, o.starts = false)
    (hread : ∀ op ∈ ops, ∀ files why, op.attempt? ≠ some (files, .ok (.error why))) :
    (history F s ops).flatMap (Occurrence.registered F) = ops.flatMap (Op.routes F) := by
  induction ops generalizing s with
  | nil => rfl
  | cons op ops ih =>
    rw [history] at hstarts
    have hafter := perform_unfrozen h (hstarts _ (.head _)) (hread op (.head _))
    have hop : (perform F s op).registered F = op.routes F := by
      cases op with
      | call c =>
        show (if s.frozen then [] else c.routes F) = c.routes F
        rw [h, if_neg Bool.false_ne_true]
      | _ => rfl
    rw [history, List.flatMap_cons, List.flatMap_cons, hop,
      ih hafter (fun o ho => hstarts o (.tail _ ho)) fun op hop => hread op (.tail _ hop)]

/-- **What a server registers.** Whatever is asked of a new server, in any order, let `routes` be what
its calls registered, through groups and bindings of any depth. The registry

* has each method and path that was registered once, in the order in which they came first;
* finds under a method and a path the route registered last with them, and nothing if there is none;
* holds just the routes that it finds;
* has given one warning `duplicate route replaced` for each registration beyond the routes that it holds.

As long as no start has succeeded nothing that is bound is ignored, unless the system did not say the
address of a listener; after a start that succeeded nothing changes the registry. -/
theorem registry_of_history (F : Family) (settings : Settings) (ops : List Op) :
    let s₀ : Server := { settings }
    let h := history F s₀ ops
    let routes := h.flatMap (Occurrence.registered F)
    let reg := (afterAll F s₀ ops).registry
    reg.map Registry.key = (routes.map Registry.key).eraseDups ∧
    (∀ method path, reg.get? method path = routes.reverse.find? (Registry.answers method path)) ∧
    (∀ r, r ∈ reg ↔ reg.get? r.method r.path = some r) ∧
    (h.flatMap (·.reply.warnings)).countP Event.isReplacement + reg.length = routes.length ∧
    ((∀ o ∈ h, o.starts = false) →
      (∀ op ∈ ops, ∀ files why, op.attempt? ≠ some (files, .ok (.error why))) →
      routes = ops.flatMap (Op.routes F)) ∧
    h.Pairwise fun o o' => o.starts = true → o'.after.registry = o.after.registry := by
  intro s₀ h routes reg
  have hreg : reg = Registry.putAll [] routes := registry_afterAll ops
  refine ⟨?_, fun method path => ?_, fun r => ?_, ?_, registered_history rfl, ?_⟩
  · rw [hreg, Registry.map_key_putAll]
    simp
  · rw [hreg, Registry.get?_putAll]
    exact Option.or_none
  · rw [hreg]
    exact Registry.mem_iff_get? (Registry.distinct_putAll .nil _)
  · exact (replacements_history ops).trans (Nat.zero_add _)
  · refine pairwise_history (fun s op later o ho hstarts => ?_) ops
    obtain ⟨_, a, hafter⟩ := after_of_starts hstarts
    exact history_registry (by rw [hafter]) later o ho

/-- The second controller takes the place of a route of the first one, inside a group. -/
theorem registry_of_two_controllers :
    let marker (verb : String) : Field :=
      ⟨"meta", "meta", "path:\"/items\" method:\"" ++ verb ++ "\"", "", false, .marker⟩
    let F : Family := ⟨[⟨"ListReq", [marker "get"]⟩, ⟨"NewReq", [marker "post"]⟩]⟩
    let method (name : String) (request : TypeInfo) : ControllerMethod Endpoint :=
      .bindable name request ⟨"Item", .any⟩ .health
    let shop : Controller Endpoint :=
      ⟨"Shop", [method "list" ⟨"ListReq", .struct 0⟩, method "create" ⟨"NewReq", .struct 1⟩]⟩
    let stock : Controller Endpoint := ⟨"Stock", [method "list" ⟨"ListReq", .struct 0⟩]⟩
    let ops : List Op := [.call (.item (.bind shop [])), .call (.item (.group "/" [.bind stock []]))]
    let s₀ : Server := { settings := .default }
    let reg := (afterAll F s₀ ops).registry
    reg.map Registry.key = [("GET", "/items"), ("POST", "/items")] ∧
      (reg.get? "GET" "/items").map (·.handler) = some "Stock.list" ∧
      ((history F s₀ ops).flatMap (·.reply.warnings)).countP Event.isReplacement = 1 := by
  intro marker F method shop stock ops s₀ reg
  obtain ⟨hkeys, hget, _, hcount, hall, _⟩ := registry_of_history F s₀.settings ops
  have hroutes := hall (by decide +kernel) (by simp [ops, Op.attempt?])
  rw [hroutes] at hkeys hcount
  have hregistered : (ops.flatMap (Op.routes F)).map Registry.key =
      [("GET", "/items"), ("POST", "/items"), ("GET", "/items")] := by
    decide +kernel
  have hreg : reg.map Registry.key = [("GET", "/items"), ("POST", "/items")] := by
    rw [hkeys, hregistered]
    decide
  refine ⟨hreg, ?_, ?_⟩
  · rw [hget, hroutes]
    decide +kernel
  · have hlength : reg.length = 2 := by rw [← List.length_map (f := Registry.key), hreg]; rfl
    have hthree : (ops.flatMap (Op.routes F)).length = 3 := by
      rw [← List.length_map (f := Registry.key), hregistered]
      rfl
    rw [hthree] at hcount
    exact Nat.add_right_cancel (hlength ▸ hcount)

end Server

end HttpService
