import HttpService.Pipeline.Endpoint
import HttpService.Proofs.Binding.Precedence
import HttpService.Proofs.Validation.Coverage

/-!
# Requests that break a rule

`named_fields_answer_to_rules`: once a request is gathered, a broken rule of a named field keeps the
handler from running, and nothing else does. A field that is hidden in JSON and names no path parameter
is not among them, though a query or a form fills it under its form name (`hidden_field_unchecked`).
-/

set_option autoImplicit false

namespace HttpService

open Validation (Reaches Named Breaks)

theorem rejection_code (l : Locale) (e : Validation.RuleFailure) :
    (Validation.rejection l e).code = .validationFailed :=
  rfl

section
variable {F : Family} {s : Shape} {id : StructId} {r : Request} {ms : Gather.Members}

theorem value_eq_check (hs : s.struct? = some id)
    (hms : Gather.members F (F.get id) r = .ok ms) :
    Gather.value F s r =
      (Validation.check F r.locale (F.get id) (.obj ms)).map fun _ => .obj ms := by
  unfold Gather.value
  rw [hs]
  dsimp only
  rw [hms]
  show ((Validation.check F r.locale (F.get id) (.obj ms)).bind fun _ => .ok (Json.obj ms)) = _
  cases Validation.check F r.locale (F.get id) (.obj ms) <;> rfl

/-- The value of a struct is what was gathered for it. -/
theorem members_of_value {v : Json} (hs : s.struct? = some id) (h : Gather.value F s r = .ok v) :
    ∃ ms, Gather.members F (F.get id) r = .ok ms ∧ v = .obj ms := by
  cases hms : Gather.members F (F.get id) r with
  | error e =>
    unfold Gather.value at h
    rw [hs] at h
    dsimp only at h
    rw [hms] at h
    cases h
  | ok ms =>
    rw [value_eq_check hs hms] at h
    obtain ⟨_, _, hv⟩ := map_eq_ok.1 h
    exact ⟨ms, rfl, hv.symm⟩

/-- A broken rule of a named field refuses the request. -/
theorem exists_rejection (hs : s.struct? = some id) (hms : Gather.members F (F.get id) r = .ok ms)
    {f : Field} {v : Json} (hreach : Reaches F (F.get id) (.obj ms) f v) (hnamed : Named f)
    (hbreaks : Breaks f v) :
    ∃ e : Failure, e.code = .validationFailed ∧ Gather.value F s r = .error e := by
  rw [value_eq_check hs hms, Validation.check]
  cases hfail : Validation.failures F (F.get id) (.obj ms) with
  | nil => exact absurd hbreaks (hreach.not_breaks hfail hnamed)
  | cons first _ => exact ⟨Validation.rejection r.locale first, rejection_code _ _, rfl⟩

/-- A value that cannot be had is an error of the binding. -/
theorem bind_eq_error {α : Type} {e : Failure} (h : Gather.value F s r = .error e)
    (decode : Json → Except DecodeError α) : bind F s decode r = .error e := by
  unfold bind
  rw [h]
  rfl

/-- A request that does not bind is an error, and its handler does nothing. -/
theorem step_handler_of_error {h : Handler} {e : Failure} {x : State}
    (hb : bind h.family h.request h.decode x.exchange.request = .error e) (ds : List Nat) :
    (Endpoint.handler h).step ds x = (.returned, x.put (x.exchange.pushError e)) := by
  show Endpoint.invoke h ds x = _
  unfold Endpoint.invoke
  rw [hb]

end

/-- **Rules of bound fields.** Where a request is gathered, a named field whose value breaks its rules
makes the binding fail, and the handler does not run; where no named field breaks its rules, the
gathered object is bound, whatever stands in the other fields. -/
theorem named_fields_answer_to_rules {F : Family} {s : Shape} {id : StructId} {r : Request}
    {ms : Gather.Members} (hs : s.struct? = some id)
    (hms : Gather.members F (F.get id) r = .ok ms) :
    ((∃ f v, Reaches F (F.get id) (.obj ms) f v ∧ Named f ∧ Breaks f v) →
      ∃ e : Failure, e.code = .validationFailed ∧ Gather.value F s r = .error e ∧
        ∀ decode actions reply ds (x : State), x.exchange.request = r →
          (Endpoint.handler ⟨F, s, decode, actions, reply⟩).step ds x =
            (.returned, x.put (x.exchange.pushError e))) ∧
    ((∀ f v, Reaches F (F.get id) (.obj ms) f v → Named f → ¬ Breaks f v) →
      Gather.value F s r = .ok (.obj ms)) := by
  refine ⟨fun ⟨f, v, hreach, hnamed, hbreaks⟩ => ?_, fun hall => ?_⟩
  · obtain ⟨e, hcode, hvalue⟩ := exists_rejection hs hms hreach hnamed hbreaks
    refine ⟨e, hcode, hvalue, ?_⟩
    intro decode actions reply ds x hx
    refine step_handler_of_error ?_ ds
    rw [hx]
    exact bind_eq_error hvalue decode
  · rw [value_eq_check hs hms, Validation.check, Validation.failures_eq_nil hall]
    rfl

/-- A gathering that gives a key a text. -/
theorem gathered_text {x : Except Failure Gather.Members} {key text : String}
    (h : (x.toOption.bind (Assoc.find? key)).bind Json.text? = some text) :
    ∃ ms, x = .ok ms ∧ Assoc.find? key ms = some (.str text) := by
  obtain ⟨v, hv, htext⟩ := Option.bind_eq_some_iff.1 h
  obtain ⟨ms, hms, hfind⟩ := Option.bind_eq_some_iff.1 hv
  cases x with
  | error e => cases hms
  | ok ms' =>
    obtain rfl := Option.some.inj hms
    cases v with
    | str t =>
      obtain rfl := Option.some.inj htext
      exact ⟨ms', rfl, hfind⟩
    | _ => cases htext

/-- The rule of a field that the query fills under its key. -/
theorem numeric_field_rejected :
    let f : Field := ⟨"a", "a", "binding:\"numeric\"", "", false, .string⟩
    let F : Family := ⟨[⟨"P", [f]⟩]⟩
    let r : Request := { (default : Request) with method := "GET", uri := .parse "/?a=x" }
    ∃ ms, ((Shape.struct 0).struct? = some 0 ∧ Gather.members F (F.get 0) r = .ok ms) ∧
      Reaches F (F.get 0) (.obj ms) f (.str "x") ∧ Named f ∧ Breaks f (.str "x") ∧
      ∃ e : Failure, e.code = .validationFailed ∧ Gather.value F (.struct 0) r = .error e := by
  intro f F r
  have hs : (Shape.struct 0).struct? = some 0 := rfl
  obtain ⟨ms, hms, hfind⟩ :
      ∃ ms, Gather.members F (F.get 0) r = .ok ms ∧ Assoc.find? "a" ms = some (.str "x") :=
    gathered_text (by decide +kernel)
  have hnamed : Named f := .inl (by decide +kernel)
  have hbreaks : Breaks f (.str "x") :=
    ⟨.inl rfl, "numeric", by decide +kernel, by decide +kernel, nofun⟩
  have hreach : Reaches F (F.get 0) (.obj ms) f (.str "x") := .of_find? (.head _) hfind
  obtain ⟨e, hcode, he, _⟩ :=
    (named_fields_answer_to_rules hs hms).1 ⟨f, _, hreach, hnamed, hbreaks⟩
  exact ⟨ms, ⟨hs, hms⟩, hreach, hnamed, hbreaks, e, hcode, he⟩

/-- A field that is hidden in JSON is taken from the query, and its broken rule is not noticed. -/
theorem hidden_field_unchecked :
    let f : Field := ⟨"a", "a", "json:\"-\" form:\"a\" binding:\"numeric\"", "", false, .string⟩
    let F : Family := ⟨[⟨"P", [f]⟩]⟩
    let r : Request := { (default : Request) with method := "GET", uri := .parse "/?a=x" }
    f ∈ (F.get 0).dataFields ∧ Gather.origin r f = .query "a" (Text.encode "x") [] ∧
      ∃ ms, Gather.members F (F.get 0) r = .ok ms ∧ Assoc.find? "a" ms = some (.str "x") ∧
        Breaks f (.str "x") ∧ Gather.value F (.struct 0) r = .ok (.obj ms) := by
  intro f F r
  obtain ⟨ms, hms, hfind⟩ :
      ∃ ms, Gather.members F (F.get 0) r = .ok ms ∧ Assoc.find? "a" ms = some (.str "x") :=
    gathered_text (by decide +kernel)
  have hbreaks : Breaks f (.str "x") :=
    ⟨.inl rfl, "numeric", by decide +kernel, by decide +kernel, nofun⟩
  have hunnamed : Validation.messageName? f = none := by decide +kernel
  have hfail : Validation.failures F (F.get 0) (.obj ms) = [] := by
    rw [Validation.failures_eq]
    show Validation.fieldFailures F (.obj ms) f ++ [] = []
    rw [Validation.fieldFailures, hunnamed]
    rfl
  have hparam : Gather.parameter? r f = none := by decide +kernel
  have hunder : Gather.under? (Gather.queryPairs r) f = some ("a", Text.encode "x", []) := by
    decide +kernel
  have horigin : Gather.origin r f = .query "a" (Text.encode "x") [] := by
    rw [Gather.origin, hparam]
    show Gather.laterOrigin r f = _
    rw [Gather.laterOrigin, if_pos (by decide), hunder]
  have hs : (Shape.struct 0).struct? = some 0 := rfl
  refine ⟨.head _, horigin, ms, hms, hfind, hbreaks, ?_⟩
  rw [value_eq_check hs hms, Validation.check, hfail]
  rfl

end HttpService
