import HttpService.Proofs.Binding.Rules
import HttpService.Proofs.Pipeline.Reach
import HttpService.Proofs.Validation.Order
import HttpService.Server.Service

/-!
# The gate before a handler

A handler is called with a value that was gathered, broke no rule and could be decoded, or it is not
called. `Admits` and `Refuses` are the two sides, `handler_gate` says that every run of a bound endpoint
is on one of them, and that a request served by a route passes there at most once.
-/

set_option autoImplicit false

namespace HttpService

open Validation (Reaches Named Breaks)

/-! ## What gathering fails with -/

/-- Where it fails, it is for an invalid parameter. -/
def OnlyInvalid {α : Type} (x : Except Failure α) : Prop :=
  ∀ e, x = .error e → ∃ message, e = .invalid message

namespace OnlyInvalid

variable {α β : Type} {x : Except Failure α}

theorem ok (a : α) : OnlyInvalid (.ok a) := nofun

theorem invalid (message : String) : OnlyInvalid (.error (.invalid message) : Except Failure α) := by
  rintro _ ⟨⟩
  exact ⟨message, rfl⟩

theorem bind {f : α → Except Failure β} (hx : OnlyInvalid x) (hf : ∀ a, OnlyInvalid (f a)) :
    OnlyInvalid (x.bind f) := by
  cases x with
  | error e =>
    rintro _ ⟨⟩
    exact hx e rfl
  | ok a => exact hf a

theorem map (hx : OnlyInvalid x) (f : α → β) : OnlyInvalid (x.map f) := by
  cases x with
  | error e =>
    rintro _ ⟨⟩
    exact hx e rfl
  | ok a => exact ok _

theorem foldlM {f : β → α → Except Failure β} (hf : ∀ b a, OnlyInvalid (f b a)) (l : List α) (b : β) :
    OnlyInvalid (l.foldlM f b) := by
  induction l generalizing b with
  | nil => exact ok b
  | cons a l ih => exact (hf b a).bind ih

theorem mapM {f : α → Except Failure β} (hf : ∀ a, OnlyInvalid (f a)) (l : List α) :
    OnlyInvalid (l.mapM f) := by
  induction l with
  | nil => exact ok []
  | cons a l ih =>
    rw [List.mapM_cons]
    exact (hf a).bind fun b => ih.bind fun bs => ok _

end OnlyInvalid

theorem Binding.onlyInvalid_coerce (name : String) (s : Shape) (raw : Bytes) :
    OnlyInvalid (coerce name s raw) := by
  unfold coerce
  split
  · exact .ok _
  · exact .invalid _

namespace Gather

variable (F : Family) (st : Struct) (r : Request)

theorem onlyInvalid_fromPath (ms : Members) (f : Field) : OnlyInvalid (fromPath r ms f) := by
  unfold fromPath
  split
  · exact .ok _
  · split
    · exact .ok _
    · exact (Binding.onlyInvalid_coerce _ _ _).bind fun _ => .ok _

theorem onlyInvalid_ofValues (name : String) (s : Shape) (first : Bytes) (values : List Bytes) :
    OnlyInvalid (ofValues name s first values) := by
  unfold ofValues
  split
  · exact (OnlyInvalid.mapM (Binding.onlyInvalid_coerce _ _) _).bind fun _ => .ok _
  · exact Binding.onlyInvalid_coerce _ _ _

theorem onlyInvalid_fromPairs (pairs : List (String × Bytes)) (ms : Members) (f : Field) :
    OnlyInvalid (fromPairs pairs ms f) := by
  unfold fromPairs
  split
  · exact .ok _
  · split
    · exact .ok _
    · split
      · exact .ok _
      · exact (onlyInvalid_ofValues _ _ _ _).bind fun _ => .ok _

theorem onlyInvalid_multipartPairs (contentType : String) (body : Bytes) :
    OnlyInvalid (multipartPairs contentType body) := by
  unfold multipartPairs
  split
  · exact .ok _
  · exact .invalid _
  · exact .invalid _

theorem onlyInvalid_bodyJson (body : Bytes) : OnlyInvalid (bodyJson body) := by
  unfold bodyJson
  split
  · exact .ok _
  · exact .invalid _

theorem onlyInvalid_fromBody (ms : Members) : OnlyInvalid (fromBody F st r ms) := by
  unfold fromBody
  dsimp only
  split
  · refine (onlyInvalid_bodyJson _).bind fun v => ?_
    split
    · exact .ok _
    · exact .invalid _
  · exact .foldlM (onlyInvalid_fromPairs _) _ _
  · exact (onlyInvalid_multipartPairs _ _).bind fun _ => .foldlM (onlyInvalid_fromPairs _) _ _
  · exact .invalid _

theorem onlyInvalid_found : OnlyInvalid (found F st r) := by
  refine (OnlyInvalid.foldlM (onlyInvalid_fromPath r) _ _).bind fun ms => ?_
  split
  · split
    · exact .ok _
    · exact .foldlM (onlyInvalid_fromPairs _) _ _
  · split
    · exact onlyInvalid_fromBody F st r ms
    · exact .ok _

theorem onlyInvalid_members : OnlyInvalid (members F st r) :=
  (onlyInvalid_found F st r).map _

end Gather

/-! ## How binding ends -/

/-- The ways in which binding a request to a struct ends. -/
inductive Ending {α : Type} (F : Family) (st : Struct) (decode : Json → Except DecodeError α)
    (r : Request) : Except Failure α → Prop
  | ungathered {message : String} (gathers : Gather.members F st r = .error (.invalid message)) :
    Ending F st decode r (.error (.invalid message))
  | broken {ms : Gather.Members} {first : Validation.RuleFailure}
      {rest : List Validation.RuleFailure} (gathers : Gather.members F st r = .ok ms)
      (fails : Validation.failures F st (.obj ms) = first :: rest) :
    Ending F st decode r (.error (Validation.rejection r.locale first))
  | undecoded {ms : Gather.Members} {e : DecodeError} (gathers : Gather.members F st r = .ok ms)
      (sound : Validation.failures F st (.obj ms) = []) (decodes : decode (.obj ms) = .error e) :
    Ending F st decode r (.error e.failure)
  | bound {ms : Gather.Members} {a : α} (gathers : Gather.members F st r = .ok ms)
      (sound : Validation.failures F st (.obj ms) = []) (decodes : decode (.obj ms) = .ok a) :
    Ending F st decode r (.ok a)

theorem bind_ending {α : Type} {F : Family} {s : Shape} {id : StructId} (hs : s.struct? = some id)
    (decode : Json → Except DecodeError α) (r : Request) :
    Ending F (F.get id) decode r (bind F s decode r) := by
  cases hms : Gather.members F (F.get id) r with
  | error e =>
    obtain ⟨message, rfl⟩ := Gather.onlyInvalid_members F (F.get id) r e hms
    have hvalue : Gather.value F s r = .error (.invalid message) := by
      unfold Gather.value
      rw [hs]
      dsimp only
      rw [hms]
      rfl
    rw [bind_eq_error hvalue]
    exact .ungathered hms
  | ok ms =>
    have hvalue := value_eq_check hs hms
    rw [Validation.check] at hvalue
    cases hfail : Validation.failures F (F.get id) (.obj ms) with
    | cons first rest =>
      rw [hfail] at hvalue
      rw [bind_eq_error hvalue]
      exact .broken hms hfail
    | nil =>
      have hchecked : Gather.value F s r = .ok (.obj ms) := by
        rw [hvalue, hfail]
        rfl
      cases hdecode : decode (.obj ms) with
      | error e =>
        have hbind : bind F s decode r = .error e.failure := by
          simp only [bind, hchecked, Bind.bind, Except.bind, hdecode]
        exact hbind ▸ .undecoded hms hfail hdecode
      | ok a =>
        have hbind : bind F s decode r = .ok a := by
          simp only [bind, hchecked, Bind.bind, Except.bind, hdecode]
          rfl
        exact hbind ▸ .bound hms hfail hdecode

/-! ## The two sides -/

/-- The handler is called with a value. -/
def Handler.call (h : Handler) (bound : Json) : Step :=
  (Action.steps h.actions).andThen (.update (Endpoint.answer bound h.reply))

/-- The handler is not called, and an error is recorded. -/
def refuse (e : Failure) : Step :=
  .update fun x => x.put (x.exchange.pushError e)

section
variable (h : Handler) (id : StructId) (r : Request)

/-- The request is gathered, breaks no rule, and decodes to a value. -/
def Admits (bound : Json) : Prop :=
  ∃ ms, Gather.members h.family (h.family.get id) r = .ok ms ∧
    Validation.failures h.family (h.family.get id) (.obj ms) = [] ∧
    h.decode (.obj ms) = .ok bound

/-- The request is refused: as a bad request, and for the first broken rule if it is gathered and there
is one. -/
structure Refuses (e : Failure) : Prop where
  status : e.report.status = some 400
  code : e.code = .invalidParameter ∨ e.code = .validationFailed
  barred : ∀ bound, ¬ Admits h id r bound
  rules : e.code = .validationFailed ↔
    ∃ ms path, Gather.members h.family (h.family.get id) r = .ok ms ∧
      Validation.Broken h.family (h.family.get id) (.obj ms) path
  first : e.code = .validationFailed →
    ∃ ms first, Gather.members h.family (h.family.get id) r = .ok ms ∧
      Validation.FirstBroken h.family (h.family.get id) (.obj ms) first ∧
      e.report.message = first.sentence r.locale ∧ e.display = first.sentence r.locale ∧
      e.report.detail = some (.str (first.sentence r.locale))

/-- What a bound endpoint does with a request. -/
inductive Gate : Step → Prop
  | admitted {bound : Json} (admits : Admits h id r bound) : Gate (h.call bound)
  | refused {e : Failure} (refuses : Refuses h id r e) : Gate (refuse e)

end

section
variable {h : Handler} {id : StructId} {r : Request}

/-- A request that is not gathered, or has no failures, is refused for another reason than a rule. -/
theorem Refuses.of_sound {e : Failure} (status : e.report.status = some 400)
    (code : e.code = .invalidParameter) (barred : ∀ bound, ¬ Admits h id r bound)
    (sound : ∀ ms, Gather.members h.family (h.family.get id) r = .ok ms →
      Validation.failures h.family (h.family.get id) (.obj ms) = []) : Refuses h id r e where
  status := status
  code := .inl code
  barred := barred
  rules := by
    refine iff_of_false (by rw [code]; nofun) ?_
    rintro ⟨ms, path, hms, hbroken⟩
    exact Validation.exists_broken_iff.1 ⟨path, hbroken⟩ (sound ms hms)
  first := by
    rw [code]
    nofun

theorem gate_of_ending {x : Except Failure Json} (hx : Ending h.family (h.family.get id) h.decode r x) :
    (∃ bound, x = .ok bound ∧ Admits h id r bound) ∨ ∃ e, x = .error e ∧ Refuses h id r e := by
  cases hx with
  | @ungathered message gathers =>
    refine .inr ⟨_, rfl, .of_sound rfl rfl ?_ fun ms hms => ?_⟩
    · rintro bound ⟨ms, hms, _⟩
      cases gathers.symm.trans hms
    · cases gathers.symm.trans hms
  | @broken ms first rest gathers fails =>
    have hcode := rejection_code r.locale first
    refine .inr ⟨_, rfl, rfl, .inr hcode, ?_, iff_of_true hcode ?_, fun _ => ?_⟩
    · rintro bound ⟨ms', hms', hsound, _⟩
      cases gathers.symm.trans hms'
      cases fails.symm.trans hsound
    · obtain ⟨path, hbroken⟩ := Validation.exists_broken_iff.2 (by rw [fails]; nofun)
      exact ⟨ms, path, gathers, hbroken⟩
    · exact ⟨ms, first, gathers, Validation.firstBroken_of_failures fails, rfl, rfl, rfl⟩
  | @undecoded ms e gathers sound decodes =>
    refine .inr ⟨_, rfl, .of_sound rfl rfl ?_ fun ms' hms' => ?_⟩
    · rintro bound ⟨ms', hms', _, hdecodes⟩
      cases gathers.symm.trans hms'
      cases decodes.symm.trans hdecodes
    · cases gathers.symm.trans hms'
      exact sound
  | bound gathers sound decodes => exact .inl ⟨_, rfl, _, gathers, sound, decodes⟩

/-- A bound endpoint is a gate. -/
theorem exists_gate (hs : h.request.struct? = some id) (r : Request) :
    ∃ gate, Gate h id r gate ∧ ∀ ds (x : State), x.exchange.request = r →
      (Endpoint.handler h).step ds x = gate ds x := by
  rcases gate_of_ending (bind_ending hs h.decode r) with ⟨bound, hbind, hadmits⟩ | ⟨e, hbind, hrefuses⟩
  · refine ⟨_, .admitted hadmits, fun ds x hx => ?_⟩
    show Endpoint.invoke h ds x = _
    rw [Endpoint.invoke, hx, hbind]
    rfl
  · refine ⟨_, .refused hrefuses, fun ds x hx => ?_⟩
    exact step_handler_of_error (hx ▸ hbind) ds

theorem refuse_spec {e : Failure} (status : e.report.status = some 400) (ds : List Nat) (x : State) :
    ∃ x', refuse e ds x = (.returned, x') ∧ x'.exchange.errors = x.exchange.errors ++ [e] ∧
      x'.exchange.payload = x.exchange.payload ∧ x'.site.notes = x.site.notes ∧
      (x.exchange.writer.isWritten = false →
        x'.exchange.writer.status = x.exchange.writer.status.or (some 400)) := by
  have hdraft := x.exchange.pushError_draft e
  refine ⟨_, rfl, congrArg Draft.errors hdraft, congrArg Draft.payload hdraft, rfl, fun hw => ?_⟩
  have hstatus := congrArg Draft.status hdraft
  rw [Draft.perform, status] at hstatus
  have hbody : x.exchange.draft.body.isSome = false := hw
  rwa [hbody] at hstatus

end

/-! ## Served requests -/

theorem Service.entry_of_lookup {v : Service} {r : Request} {e : Entry} {ps : PathParameters}
    (h : v.table.lookup r.method r.uri.path = .found e ps) : v.entry false r = (e, ps) := by
  unfold Service.entry
  rw [if_neg Bool.false_ne_true, h]

/-- A request as its handler sees it. -/
def Service.routed (v : Service) (r : Request) : Request :=
  { r with
    route := (v.entry false r).1.pattern
    params := (v.entry false r).2
    policy := v.policy
    locale := v.locale }

theorem Server.service_locale {F : Family} {s : Server} {v : Service} {events : List Event}
    (h : s.service F = (.ok v, events)) : v.locale = s.settings.locale := by
  unfold service at h
  split at h
  · cases h
  · obtain ⟨t, _, rfl⟩ := map_eq_ok.1 (Prod.mk.inj h).1
    rfl

/-- **The handler gate.** A bound endpoint whose requests are structs passes a request on to its handler
once, with a value decoded from a gathered object that has no failures, or refuses it:

* it does the one or the other with whatever exchange has the request;
* of the whole run that serves a request, the handler's part is this gate at the place where its chain is
  reached, and nothing else;
* the request that the gate sees has the locale of the server;
* a refusal returns, records just its error with status 400 unless one was set before, and leaves the
  payload and what user code noted. -/
theorem handler_gate {h : Handler} {id : StructId} (hs : h.request.struct? = some id) :
    (∀ r, ∃ gate, Gate h id r gate ∧ ∀ ds (x : State), x.exchange.request = r →
      (Endpoint.handler h).step ds x = gate ds x) ∧
    (∀ (v : Service) (r : Request) (site : Site), (v.entry false r).1.endpoint = .handler h →
      let chain := (v.entry false r).1.chain
      let start : State := ⟨.start (v.routed r) site.fresh.uuid, site⟩
      ∃ gate, Gate h id (v.routed r) gate ∧ ∀ p : Step,
        (∀ ds x, Middleware.reach? chain [] start = some (ds, x) → p ds x = gate ds x) →
        v.serve none r site = (Middleware.chain chain p [] start).2) ∧
    (∀ F (s : Server) v events, s.service F = (.ok v, events) →
      ∀ r, (v.routed r).locale = s.settings.locale) ∧
    ∀ r e, Refuses h id r e → ∀ ds (x : State),
      ∃ x', refuse e ds x = (.returned, x') ∧ x'.exchange.errors = x.exchange.errors ++ [e] ∧
        x'.exchange.payload = x.exchange.payload ∧ x'.site.notes = x.site.notes ∧
        (x.exchange.writer.isWritten = false →
          x'.exchange.writer.status = x.exchange.writer.status.or (some 400)) := by
  refine ⟨exists_gate hs, fun v r site hend => ?_, fun F s v events hv r => Server.service_locale hv,
    fun r e hrefuses => refuse_spec hrefuses.status⟩
  obtain ⟨gate, hgate, hstep⟩ := exists_gate hs (v.routed r)
  refine ⟨gate, hgate, fun p hp => congrArg Prod.snd ?_⟩
  -- The chain does not change the request on the way to its end, so that the gate there is this one.
  show Middleware.chain _ (v.entry false r).1.endpoint.step [] _ = _
  rw [hend]
  refine Middleware.chain_congr fun ds x hreach => ?_
  rw [hp ds x hreach]
  exact hstep ds x (Middleware.request_reach hreach)

/-- A request that breaks a rule, to a service with one route. -/
theorem gate_of_broken_rule :
    let f : Field := ⟨"a", "a", "binding:\"numeric\"", "", false, .string⟩
    let h : Handler := ⟨⟨[⟨"P", [f]⟩]⟩, .struct 0, .ok, [], .echo⟩
    let end' : Entry := ⟨some "/n", [.respond .envelope], .handler h⟩
    let v : Service :=
      ⟨⟨[("GET", [([.literal '/', .literal 'n'], 0)])], [end']⟩, [], .envelope, .zh⟩
    let r : Request := { (default : Request) with method := "GET", uri := .parse "/n?a=x" }
    h.request.struct? = some 0 ∧ (v.entry false r).1.endpoint = .handler h ∧
      ∃ e, Refuses h 0 (v.routed r) e ∧ e.code = .validationFailed ∧
        (v.serve none r default).exchange.errors = [e] := by
  intro f h end' v r
  have hs : h.request.struct? = some 0 := rfl
  have hfind : v.table.find? r.method r.uri.path = some (0, []) := by decide +kernel
  have hentry : v.entry false r = (end', []) := by
    refine Service.entry_of_lookup ?_
    rw [RouteTable.lookup, hfind]
    rfl
  have hend : (v.entry false r).1.endpoint = .handler h := by rw [hentry]
  have hrouted : v.routed r =
      { r with route := some "/n", params := [], policy := .envelope, locale := .zh } := by
    rw [Service.routed, hentry]
  refine ⟨hs, hend, ?_⟩
  obtain ⟨_, hserves, _, hrefusal⟩ := handler_gate hs
  obtain ⟨gate, hgate, hserve⟩ := hserves v r default hend
  obtain ⟨ms, hms, ha⟩ : ∃ ms, Gather.members h.family (h.family.get 0) (v.routed r) = .ok ms ∧
      Assoc.find? "a" ms = some (.str "x") := by
    rw [hrouted]
    exact gathered_text (by decide +kernel)
  have hreach : Reaches h.family (h.family.get 0) (.obj ms) f (.str "x") := .of_find? (.head _) ha
  have hnamed : Named f := .inl (by decide +kernel)
  have hbreaks : Breaks f (.str "x") :=
    ⟨.inl rfl, "numeric", by decide +kernel, by decide +kernel, nofun⟩
  cases hgate with
  | admitted admits =>
    obtain ⟨ms', hms', hsound, _⟩ := admits
    cases hms.symm.trans hms'
    exact absurd hbreaks (hreach.not_breaks hsound hnamed)
  | @refused e refuses =>
    obtain ⟨path, hlocated⟩ := hreach.located
    refine ⟨e, refuses, refuses.rules.2 ⟨ms, path, hms, f, _, hlocated, hnamed, hbreaks⟩, ?_⟩
    have hchain : Middleware.chain end'.chain (refuse e) =
        (refuse e).andThen (.update fun x => x.put (x.exchange.materialise .envelope)) := rfl
    obtain ⟨x', hx', herrors, _⟩ := hrefusal _ e refuses []
      ⟨.start (v.routed r) (default : Site).fresh.uuid, default⟩
    rw [hserve (refuse e) fun _ _ _ => rfl, hentry, hchain, Step.andThen, hx']
    exact (x'.exchange.materialise_errors _).trans herrors

end HttpService
