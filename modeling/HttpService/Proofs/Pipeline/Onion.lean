import HttpService.Pipeline.Endpoint
import HttpService.Proofs.Pipeline.Deeds

/-!
# The onion law

A chain of layers around a core, each of which notes when it is entered and when it is left. A layer may
end the chain, may panic on the way in or on the way out, or may be a guard that recovers panics.

`escaping` is the reference semantics of unwinding: the panic that a chain ends in, if any. From it and the
list alone `entries`, `exits` and `caught` say what a run notes and which panics it recovers;
`onion_law` says that the run of the chain does just that, and that a panic is recovered by the nearest
guard around it and by no other (`escaping_eq_some_iff`).
-/

set_option autoImplicit false

namespace HttpService

/-- A layer of an onion of middleware. -/
inductive Layer
  /-- Recovers the panics of what it encloses. -/
  | guard
  /-- Ends the chain on the way in. -/
  | stops (name : String)
  /-- Panics on the way in. -/
  | fails (name : String) (message : Option String)
  /-- Goes on, and notes its exit once the rest returned. -/
  | passes (name : String)
  /-- Goes on, and panics once the rest returned. -/
  | failsBack (name : String) (message : Option String)
  deriving DecidableEq

/-- What a chain encloses: it notes its name, and then perhaps panics. -/
structure Core where
  name : String
  panic : Option (Option String)

def Core.endpoint (c : Core) : Endpoint :=
  .actions (.note (.str c.name) :: (c.panic.map Action.panic).toList)

namespace Layer

def middleware : Layer → Middleware
  | .guard => .recovery
  | .stops name => .user ⟨name, [], false, []⟩
  | .fails name message => .user ⟨name, [.panic message], true, []⟩
  | .passes name => .user ⟨name, [], true, []⟩
  | .failsBack name message => .user ⟨name, [], true, [.panic message]⟩

/-- Whether the layer continues the chain. -/
def continues : Layer → Bool
  | .stops _ => false
  | .fails .. => false
  | _ => true

def entry? : Layer → Option String
  | .guard => none
  | .stops name => some (name ++ ".pre")
  | .fails name _ => some (name ++ ".pre")
  | .passes name => some (name ++ ".pre")
  | .failsBack name _ => some (name ++ ".pre")

end Layer

namespace Onion

/-- The panic that a chain ends in. -/
def escaping (core : Core) : List Layer → Option (Option String)
  | [] => core.panic
  | .guard :: _ => none
  | .stops _ :: _ => none
  | .fails _ message :: _ => some message
  | .passes _ :: inner => escaping core inner
  | .failsBack _ message :: inner => (escaping core inner).or (some message)

/-- The layers up to the first that does not continue. -/
def entered (ls : List Layer) : List Layer :=
  ls.takeWhile Layer.continues ++ (ls.dropWhile Layer.continues).take 1

/-- The layers that continued, outermost first, each with what it encloses. -/
def passed : List Layer → List (Layer × List Layer)
  | [] => []
  | l :: inner => if l.continues then (l, inner) :: passed inner else []

def entries (ls : List Layer) : List String := (entered ls).filterMap Layer.entry?

/-- The core is noted iff all layers continued. -/
def reached (core : Core) (ls : List Layer) : List String :=
  if ls.all Layer.continues then [core.name] else []

/-- A layer that continued is left if what it encloses returned. -/
def exit? (core : Core) : Layer × List Layer → Option String
  | (.passes name, inner) => if escaping core inner = none then some (name ++ ".post") else none
  | _ => none

def exits (core : Core) (ls : List Layer) : List String :=
  ((passed ls).filterMap (exit? core)).reverse

/-- A guard catches the panic that what it encloses ends in. -/
def catch? (core : Core) : Layer × List Layer → Option (Option String)
  | (.guard, inner) => escaping core inner
  | _ => none

/-- The recovered panics, in the order in which they are recovered. -/
def caught (core : Core) (ls : List Layer) : List (Option String) :=
  ((passed ls).filterMap (catch? core)).reverse

/-- All that is noted: the way in, the core, the way out. -/
def journal (core : Core) (ls : List Layer) : List String :=
  entries ls ++ reached core ls ++ exits core ls

/-- The outermost layer itself panics; on the way out it only does so if the rest returned. -/
def Raises (core : Core) (message : Option String) : List Layer → Prop
  | [] => core.panic = some message
  | .fails _ m :: _ => m = message
  | .failsBack _ m :: inner => m = message ∧ escaping core inner = none
  | _ => False

/-- A chain ends in a panic iff a layer in it or the core panics and no guard stands around that. -/
theorem escaping_eq_some_iff (core : Core) (ls : List Layer) (message : Option String) :
    escaping core ls = some message ↔
      ∃ outer inner, ls = outer ++ inner ∧ (∀ l ∈ outer, l.continues = true ∧ l ≠ .guard) ∧
        Raises core message inner := by
  constructor
  · intro h
    induction ls with
    | nil => exact ⟨[], [], rfl, by simp, h⟩
    | cons l ls ih =>
      have under (hl : l.continues = true ∧ l ≠ .guard) (h : escaping core ls = some message) :
          ∃ outer inner, l :: ls = outer ++ inner ∧
            (∀ l ∈ outer, l.continues = true ∧ l ≠ .guard) ∧ Raises core message inner := by
        obtain ⟨outer, inner, rfl, ho, hr⟩ := ih h
        refine ⟨l :: outer, inner, rfl, fun k hk => ?_, hr⟩
        rcases List.mem_cons.1 hk with rfl | hk
        · exact hl
        · exact ho k hk
      cases l with
      | guard => simp [escaping] at h
      | stops name => simp [escaping] at h
      | fails name m => exact ⟨[], _, rfl, by simp, Option.some.inj h⟩
      | passes name => exact under ⟨rfl, by simp⟩ h
      | failsBack name m =>
        cases he : escaping core ls with
        | none =>
          simp only [escaping, he, Option.none_or, Option.some.injEq] at h
          exact ⟨[], _, rfl, by simp, h, he⟩
        | some m' =>
          simp only [escaping, he, Option.some_or, Option.some.injEq] at h
          exact under ⟨rfl, by simp⟩ (by rw [he, h])
  · rintro ⟨outer, inner, rfl, ho, hr⟩
    induction outer with
    | nil =>
      match inner, hr with
      | [], hr => exact hr
      | .fails _ _ :: _, hr => exact congrArg some hr
      | .failsBack _ _ :: _, hr => simp [escaping, hr.1, hr.2]
    | cons l outer ih =>
      have hrest := ih fun k hk => ho k (.tail _ hk)
      have hl := ho l (.head _)
      cases l with
      | guard => exact absurd rfl hl.2
      | stops name => simp [Layer.continues] at hl
      | fails name m => simp [Layer.continues] at hl
      | passes name => exact hrest
      | failsBack name m => simp [escaping, hrest]

/-! ## What stands outside a guard -/

section
variable (core : Core) (inner : List Layer)

/-- The core with its panic left out. -/
def quiet (core : Core) : Core := ⟨core.name, none⟩

theorem escaping_guard (outer : List Layer) :
    escaping core (outer ++ .guard :: inner) = escaping (quiet core) outer := by
  induction outer with
  | nil => rfl
  | cons l outer ih => cases l <;> simp [escaping, ih]

theorem passed_append {outer : List Layer} (h : outer.all Layer.continues = true)
    (ls : List Layer) :
    passed (outer ++ ls) = (passed outer).map (fun p => (p.1, p.2 ++ ls)) ++ passed ls := by
  induction outer with
  | nil => rfl
  | cons l outer ih =>
    simp only [List.all_cons, Bool.and_eq_true] at h
    simp [passed, h.1, ih h.2]

theorem exits_guard {outer : List Layer} (h : outer.all Layer.continues = true) :
    exits core (outer ++ .guard :: inner) = exits core inner ++ exits (quiet core) outer := by
  have houter : ∀ p : Layer × List Layer,
      exit? core (p.1, p.2 ++ .guard :: inner) = exit? (quiet core) p := by
    rintro ⟨l, ls⟩
    cases l <;> simp [exit?, escaping_guard]
  have hinner : (passed (.guard :: inner)).filterMap (exit? core) =
      (passed inner).filterMap (exit? core) := by
    simp [passed, Layer.continues, exit?, List.filterMap_cons]
  unfold exits
  rw [passed_append h, List.filterMap_append, List.filterMap_map, hinner, List.reverse_append,
    ← funext houter]
  rfl

theorem caught_guard {outer : List Layer} (h : outer.all Layer.continues = true) :
    caught core (outer ++ .guard :: inner) =
      caught core inner ++ (escaping core inner).toList ++ caught (quiet core) outer := by
  have houter : ∀ p : Layer × List Layer,
      catch? core (p.1, p.2 ++ .guard :: inner) = catch? (quiet core) p := by
    rintro ⟨l, ls⟩
    cases l <;> simp [catch?, escaping_guard]
  have hinner : ((passed (.guard :: inner)).filterMap (catch? core)).reverse =
      caught core inner ++ (escaping core inner).toList := by
    cases he : escaping core inner <;>
      simp [passed, Layer.continues, catch?, caught, he]
  unfold caught at hinner ⊢
  rw [passed_append h, List.filterMap_append, List.filterMap_map, List.reverse_append, hinner,
    ← funext houter]
  rfl

end

/-! ## Runs -/

/-- A text as it is noted. -/
def noted (text : String) : Note := .value (.str text)

def ending : Option (Option String) → Outcome
  | none => .returned
  | some message => .panicked message

/-- Whatever it starts from, `p` ends in the panic given if any, notes `texts` and records `errors`. -/
structure Leaves (p : Step) (panic : Option (Option String)) (texts : List String)
    (errors : List Failure) : Prop where
  outcome : ∀ ds s, (p ds s).1 = ending panic
  notes : ∀ ds s, (p ds s).2.site.notes = s.site.notes ++ texts.map noted
  errors : ∀ ds s, (p ds s).2.exchange.errors = s.exchange.errors ++ errors

theorem Leaves.skip : Leaves Step.skip none [] [] :=
  ⟨fun _ _ => rfl, fun _ _ => by simp [Step.skip], fun _ _ => by simp [Step.skip]⟩

theorem Leaves.note (text : String) :
    Leaves (.update fun s => s.note (noted text)) none [text] [] :=
  ⟨fun _ _ => rfl, fun _ _ => rfl, fun _ _ => by simp [Step.update]⟩

theorem Leaves.panic (message : Option String) :
    Leaves (Action.step (.panic message)) (some message) [] [] :=
  ⟨fun _ _ => rfl, fun _ _ => by simp [Action.step], fun _ _ => by simp [Action.step]⟩

section
variable {p q : Step} {panic : Option (Option String)} {texts texts' : List String}
  {errors errors' : List Failure}

theorem Leaves.run (h : Leaves p panic texts errors) (ds : List Nat) (s : State) :
    ∃ s', p ds s = (ending panic, s') ∧ s'.site.notes = s.site.notes ++ texts.map noted ∧
      s'.exchange.errors = s.exchange.errors ++ errors :=
  ⟨_, Prod.ext (h.outcome ds s) rfl, h.notes ds s, h.errors ds s⟩

theorem Leaves.of_run
    (h : ∀ ds s, ∃ s', p ds s = (ending panic, s') ∧
      s'.site.notes = s.site.notes ++ texts.map noted ∧
      s'.exchange.errors = s.exchange.errors ++ errors) : Leaves p panic texts errors := by
  refine ⟨fun ds s => ?_, fun ds s => ?_, fun ds s => ?_⟩ <;>
    obtain ⟨s', hrun, hnotes, herrors⟩ := h ds s <;> rw [hrun] <;> assumption

theorem Leaves.andThen (hp : Leaves p none texts errors) (hq : Leaves q panic texts' errors') :
    Leaves (p.andThen q) panic (texts ++ texts') (errors ++ errors') := by
  refine .of_run fun ds s => ?_
  obtain ⟨s₁, hrun₁, hnotes₁, herrors₁⟩ := hp.run ds s
  obtain ⟨s₂, hrun₂, hnotes₂, herrors₂⟩ := hq.run ds s₁
  refine ⟨s₂, by simp [Step.andThen, hrun₁, ending, hrun₂], ?_, ?_⟩
  · rw [hnotes₂, hnotes₁, List.map_append, List.append_assoc]
  · rw [herrors₂, herrors₁, List.append_assoc]

/-- What comes after a panic does not run. -/
theorem Leaves.andThen_panic {message : Option String}
    (hp : Leaves p (some message) texts errors) (q : Step) :
    Leaves (p.andThen q) (some message) texts errors := by
  refine .of_run fun ds s => ?_
  obtain ⟨s₁, hrun, hnotes, herrors⟩ := hp.run ds s
  exact ⟨s₁, by simp [Step.andThen, hrun, ending], hnotes, herrors⟩

/-- A guard returns, with one error for the panic it recovered. -/
theorem Leaves.guarded (h : Leaves p panic texts errors) :
    Leaves (Step.guarded p) none texts
      (errors ++ panic.toList.map Step.recoveredError) := by
  refine .of_run fun ds s => ?_
  obtain ⟨s', hrun, hnotes, herrors⟩ := h.run ds s
  cases panic with
  | none => exact ⟨s', by simp [Step.guarded, hrun, ending], hnotes, by simpa using herrors⟩
  | some message =>
    refine ⟨Step.recover message s', by simp [Step.guarded, hrun, ending], ?_, ?_⟩
    · rw [Step.recover_notes, hnotes]
    · rw [Step.recover_errors, herrors, List.append_assoc]
      rfl

end

/-! ## Layers -/

section
variable (core : Core) (l : Layer) (ls : List Layer)

theorem journal_cons :
    journal core (l :: ls) = l.entry?.toList ++
      if l.continues then journal core ls ++ (exit? core (l, ls)).toList else [] := by
  cases hc : l.continues <;> cases hx : exit? core (l, ls) <;> cases he : l.entry? <;>
    simp [journal, entries, entered, reached, exits, passed, hc, hx, he]

theorem caught_cons :
    caught core (l :: ls) =
      if l.continues then caught core ls ++ (catch? core (l, ls)).toList else [] := by
  cases hc : l.continues <;> cases hx : catch? core (l, ls) <;> simp [caught, passed, hc, hx]

end

theorem leaves_panic (message : Option String) :
    Leaves (Action.steps [.panic message]) (some message) [] [] :=
  (Leaves.panic message).andThen_panic .skip

theorem leaves_core (core : Core) : Leaves core.endpoint.step core.panic [core.name] [] := by
  obtain ⟨name, panic⟩ := core
  cases panic with
  | none => exact (Leaves.note name).andThen .skip
  | some message => exact (Leaves.note name).andThen (leaves_panic message)

section
variable {u : UserMiddleware} {next : Step} {panic : Option (Option String)} {texts : List String}
  {errors : List Failure}

theorem leaves_enter (h : Leaves (Action.steps u.pre) panic [] []) :
    Leaves u.enter panic [u.name ++ ".pre"] [] :=
  (Leaves.note _).andThen h

/-- A user layer that panics on the way in. -/
theorem leaves_around_panic {message : Option String}
    (h : Leaves (Action.steps u.pre) (some message) [] []) (next : Step) :
    Leaves (Middleware.around (.user u) next) (some message) [u.name ++ ".pre"] [] := by
  rw [u.around_eq]
  split
  · exact (leaves_enter h).andThen_panic (next.andThen u.exit)
  · exact leaves_enter h

/-- A user layer that goes on: its way out runs if the rest returned. -/
theorem leaves_around {panic' : Option (Option String)} {texts' : List String} (hpre : u.pre = [])
    (hc : u.continues = true) (hn : Leaves next panic texts errors)
    (hexit : Leaves u.exit panic' texts' []) :
    Leaves (Middleware.around (.user u) next) (panic.or panic')
      ((u.name ++ ".pre") :: (texts ++ if panic = none then texts' else [])) errors := by
  have henter : Leaves u.enter none [u.name ++ ".pre"] [] :=
    leaves_enter (by rw [hpre]; exact Leaves.skip)
  rw [u.around_eq, if_pos hc]
  cases panic with
  | none => simpa using henter.andThen (hn.andThen hexit)
  | some message => simpa using henter.andThen (hn.andThen_panic u.exit)

end

/-- A chain of layers does what the reference semantics says. -/
theorem leaves_chain (core : Core) (ls : List Layer) :
    Leaves (Middleware.chain (ls.map Layer.middleware) core.endpoint.step) (escaping core ls)
      (journal core ls) ((caught core ls).map Step.recoveredError) := by
  induction ls with
  | nil => exact leaves_core core
  | cons l ls ih =>
    rw [List.map_cons, Middleware.chain, List.foldr_cons, ← Middleware.chain, journal_cons,
      caught_cons]
    cases l with
    | guard =>
      have := ih.guarded
      simpa [Layer.middleware, Middleware.around, Layer.entry?, Layer.continues, escaping, exit?,
        catch?] using this
    | stops name => exact leaves_enter (u := ⟨name, [], false, []⟩) .skip
    | fails name message =>
      exact leaves_around_panic (u := ⟨name, [.panic message], true, []⟩) (leaves_panic message) _
    | passes name =>
      have hexit : Leaves (UserMiddleware.exit ⟨name, [], true, []⟩) none [name ++ ".post"] [] :=
        Leaves.skip.andThen (Leaves.note _)
      have := leaves_around rfl rfl ih hexit
      by_cases he : escaping core ls = none <;>
        simpa [Layer.middleware, Layer.entry?, Layer.continues, escaping, exit?, catch?, he]
          using this
    | failsBack name message =>
      have hexit : Leaves (UserMiddleware.exit ⟨name, [], true, [.panic message]⟩)
          (some message) [] [] := (leaves_panic message).andThen_panic _
      have := leaves_around rfl rfl ih hexit
      simpa [Layer.middleware, Layer.entry?, Layer.continues, escaping, exit?, catch?] using this

/-- **The onion law.** A chain of layers notes its entries in order up to the first layer that does not
continue, its core iff all continued, and its exits in reverse order for the layers that continued and
whose inner chain returned. It records one internal error for each panic that a guard caught. A panic
escapes a chain iff no guard stands between, and outside a guard all goes on as around a core that
returns. -/
theorem onion_law (core : Core) (ls : List Layer) (ds : List Nat) (s : State) :
    (∃ s', Middleware.chain (ls.map Layer.middleware) core.endpoint.step ds s =
        ((match escaping core ls with
          | none => .returned
          | some message => .panicked message), s') ∧
      s'.site.notes = s.site.notes ++
        (entries ls ++ (if ls.all Layer.continues then [core.name] else []) ++ exits core ls).map
          (fun text => Note.value (.str text)) ∧
      s'.exchange.errors = s.exchange.errors ++ (caught core ls).map fun message =>
        Failure.new .internalError ("Panic recovered: " ++ message.getD "unknown panic")) ∧
    (∀ message, escaping core ls = some message ↔
      ∃ outer inner, ls = outer ++ inner ∧ (∀ l ∈ outer, l.continues = true ∧ l ≠ .guard) ∧
        Raises core message inner) ∧
    ∀ outer inner, ls = outer ++ .guard :: inner → outer.all Layer.continues = true →
      escaping core ls = escaping ⟨core.name, none⟩ outer ∧
      exits core ls = exits core inner ++ exits ⟨core.name, none⟩ outer ∧
      caught core ls =
        caught core inner ++ (escaping core inner).toList ++ caught ⟨core.name, none⟩ outer := by
  refine ⟨?_, escaping_eq_some_iff core ls, ?_⟩
  · obtain ⟨s', hrun, hnotes, herrors⟩ := (leaves_chain core ls).run ds s
    refine ⟨s', ?_, hnotes, herrors⟩
    rw [hrun]
    cases escaping core ls <;> rfl
  · rintro outer inner rfl ho
    exact ⟨escaping_guard core inner outer, exits_guard core inner ho, caught_guard core inner ho⟩

/-- A panic on the way out is caught by the inner guard; the outer one has nothing left to catch. -/
example :
    let ls : List Layer := [.guard, .passes "a", .guard, .failsBack "b" none, .passes "c"]
    entries ls = ["a.pre", "b.pre", "c.pre"] ∧ exits ⟨"h", none⟩ ls = ["c.post", "a.post"] ∧
      caught ⟨"h", none⟩ ls = [none] := by
  decide

end Onion

end HttpService
