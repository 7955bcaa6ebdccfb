import HttpService.Proofs.Binding.Rules
import HttpService.Proofs.OpenApi.Listing

/-!
# Required fields that a request leaves out

A field that a request says nothing about is filled with the zero value of its shape before its rules
are checked, and `required` then judges that value. It notices the omission of texts, numbers, booleans,
arrays, bytes and optional values (`omitted_required_field`); the zero value of a map, of a struct and of
an enum passes for a value that was given (`omitted_map_accepted`).
-/

set_option autoImplicit false

namespace HttpService

/-- Whether the zero value of a shape passes for a value that was given. -/
def Shape.zeroPasses : Shape → Bool
  | .map _ => true
  | .struct _ => true
  | .enum (first :: _) => first != ""
  | _ => false

namespace Binding

open Validation (hasValue)

theorem hasValue_zero (F : Family) (room : Nat) (s : Shape) :
    hasValue (zero F (room + 1) s) = s.zeroPasses := by
  cases s with
  | number width =>
    show ((0.0 : Float) != 0.0) = false
    decide
  | integer width signed =>
    show (Float.ofInt 0 != 0.0) = false
    decide
  | enum variants => cases variants <;> rfl
  | _ => rfl

/-- Filling does not change whether a value says something. -/
theorem hasValue_settle {inner : StructId → Option Extension} (f : Field) (v : Json) :
    hasValue (settle inner f (some v)) = hasValue v := by
  cases v with
  | obj nested =>
    unfold settle
    cases f.shape.struct?.bind inner <;> rfl
  | _ => rfl

/-- What stands under a key without a value, once it is filled, says something just where the zero values
of the fields with that key do. -/
theorem hasValue_foldl_fillField {F : Family} {room : Nat} {key : String} {b : Bool}
    {fs : List Field} {ms : Assoc Json} (hfs : ∀ f ∈ fs, f.key = key → f.shape.zeroPasses = b)
    (hms : ∀ v, Assoc.find? key ms = some v → hasValue v = b) {v : Json}
    (h : Assoc.find? key (fs.foldl (fillField (extension F (room + 1))) ms) = some v) :
    hasValue v = b := by
  induction fs generalizing ms with
  | nil => exact hms v h
  | cons f fs ih =>
    refine ih (fun g hg => hfs g (.tail _ hg)) (fun w hw => ?_) h
    rw [find?_fillField] at hw
    split at hw
    · rename_i hkey
      cases hw
      cases hfind : Assoc.find? f.key ms with
      | none => exact (hasValue_zero F room f.shape).trans (hfs f (.head _) hkey.symm)
      | some u => exact (hasValue_settle f u).trans (hms u (hkey ▸ hfind))
    · exact hms w hw

end Binding

namespace Gather

section
variable {F : Family} {st : Struct} {r : Request} {ms ms' : Members} {fs : List Field}
  {key : String} {v : Json}

/-- A pass over the fields of which each step changes at most the key of its field, and that only for a
reason, changes a key only for such a reason. -/
theorem of_find?_foldlM {step : Members → Field → Except Failure Members} {P : Field → Prop}
    (hstep : ∀ ms f ms' v, step ms f = .ok ms' → Assoc.find? key ms' = some v →
      (∃ w, Assoc.find? key ms = some w) ∨ f.key = key ∧ P f)
    (h : fs.foldlM step ms = .ok ms') (hv : Assoc.find? key ms' = some v) :
    (∃ w, Assoc.find? key ms = some w) ∨ ∃ f ∈ fs, f.key = key ∧ P f := by
  induction fs generalizing ms with
  | nil =>
    obtain rfl := Except.ok.inj h
    exact .inl ⟨v, hv⟩
  | cons f fs ih =>
    rw [List.foldlM_cons] at h
    obtain ⟨ms₁, hf, hrest⟩ := bind_eq_ok.1 h
    rcases ih hrest with ⟨w, hw⟩ | ⟨g, hg, hreason⟩
    · rcases hstep ms f ms₁ w hf hw with hkept | hreason
      · exact .inl hkept
      · exact .inr ⟨f, .head _, hreason⟩
    · exact .inr ⟨g, .tail _ hg, hreason⟩

theorem of_find?_fromPath {f : Field} (h : fromPath r ms f = .ok ms')
    (hv : Assoc.find? key ms' = some v) :
    (∃ w, Assoc.find? key ms = some w) ∨ f.key = key ∧ parameter? r f ≠ none := by
  unfold fromPath at h
  split at h
  · obtain rfl := Except.ok.inj h
    exact .inl ⟨v, hv⟩
  · rename_i name hname
    split at h
    · obtain rfl := Except.ok.inj h
      exact .inl ⟨v, hv⟩
    · rename_i raw hraw
      obtain ⟨w, _, hinsert⟩ := bind_eq_ok.1 h
      obtain rfl := Except.ok.inj hinsert
      rw [Assoc.find?_insert] at hv
      split at hv
      · rename_i hkey
        refine .inr ⟨hkey.symm, ?_⟩
        simp [parameter?, hname, hraw]
      · exact .inl ⟨v, hv⟩

theorem of_find?_draw {source : Source} {f : Field} (h : draw source ms f = .ok ms')
    (hv : Assoc.find? key ms' = some v) :
    (∃ w, Assoc.find? key ms = some w) ∨ f.key = key ∧ source f ≠ .ok none := by
  unfold draw at h
  split at h
  · obtain rfl := Except.ok.inj h
    exact .inl ⟨v, hv⟩
  · obtain ⟨found, hfound, rfl⟩ := map_eq_ok.1 h
    cases found with
    | none => exact .inl ⟨v, hv⟩
    | some w =>
      rw [Assoc.find?_insert] at hv
      split at hv
      · rename_i hkey
        exact .inr ⟨hkey.symm, by simp [hfound]⟩
      · exact .inl ⟨v, hv⟩

/-- What is taken from an object stands under a name of the body, of which `rest` is left. -/
theorem of_find?_fromObject {rest body : Members}
    (hrest : ∀ name w, Assoc.find? name rest = some w → ∃ u, Assoc.find? name body = some u)
    (hv : Assoc.find? key (fromObject F fs rest ms) = some v) :
    (∃ w, Assoc.find? key ms = some w) ∨
      ∃ f ∈ fs, f.key = key ∧ f.jsonName?.bind (Assoc.find? · body) ≠ none := by
  induction fs generalizing rest ms with
  | nil => exact .inl ⟨v, hv⟩
  | cons f fs ih =>
    have hlater {rest' ms' : Members}
        (hrest' : ∀ name w, Assoc.find? name rest' = some w → ∃ u, Assoc.find? name body = some u)
        (hv' : Assoc.find? key (fromObject F fs rest' ms') = some v) :
        (∃ w, Assoc.find? key ms' = some w) ∨
          ∃ g ∈ f :: fs, g.key = key ∧ g.jsonName?.bind (Assoc.find? · body) ≠ none :=
      (ih hrest' hv').imp_right fun ⟨g, hg, hreason⟩ => ⟨g, .tail _ hg, hreason⟩
    unfold fromObject at hv
    split at hv
    · exact hlater hrest hv
    · rename_i name hname
      split at hv
      · exact hlater hrest hv
      · split at hv
        · exact hlater hrest hv
        · rename_i w hw
          have herase (other : String) (u : Json)
              (hu : Assoc.find? other (Assoc.erase name rest) = some u) :
              ∃ u, Assoc.find? other body = some u := by
            obtain ⟨u', hu'⟩ := Assoc.exists_of_find?_erase hu
            exact hrest other u' hu'
          rcases hlater herase hv with ⟨u, hu⟩ | hreason
          · rw [Assoc.find?_insert] at hu
            split at hu
            · rename_i hkey
              obtain ⟨u', hu'⟩ := hrest name w hw
              refine .inr ⟨f, .head _, hkey.symm, ?_⟩
              simp [hname, hu']
            · exact .inl ⟨u, hu⟩
          · exact .inr hreason

/-- A key that the request gives a value is the key of a field that it gives a value. -/
theorem exists_origin (h : found F st r = .ok ms) (hv : Assoc.find? key ms = some v) :
    ∃ f ∈ st.dataFields, f.key = key ∧ origin r f ≠ .absent := by
  obtain ⟨ms₁, hpath, hlater⟩ := exists_later h
  have hfound : (∃ w, Assoc.find? key ms₁ = some w) ∨
      ∃ f ∈ st.dataFields, f.key = key ∧ laterOrigin r f ≠ .absent := by
    cases hlater with
    | @pairs ps o text pass horigin =>
      refine of_find?_foldlM (P := fun f => laterOrigin r f ≠ .absent) ?_ pass hv
      intro ms f ms' w hdraw hw
      refine (of_find?_draw hdraw hw).imp_right fun ⟨hkey, hsource⟩ => ⟨hkey, ?_⟩
      rw [horigin]
      unfold pairSource at hsource
      cases hu : under? ps f with
      | none => simp [hu] at hsource
      | some found => rcases text with rfl | rfl <;> exact Origin.noConfusion
    | @object body pass horigin =>
      rw [← pass] at hv
      refine (of_find?_fromObject (fun _ w hw => ⟨w, hw⟩) hv).imp_right ?_
      rintro ⟨f, hf, hkey, hmember⟩
      refine ⟨f, hf, hkey, ?_⟩
      rw [horigin]
      cases hm : f.jsonName?.bind (Assoc.find? · body) with
      | none => exact absurd hm hmember
      | some w => exact Origin.noConfusion
    | nothing same _ => exact .inl ⟨v, same ▸ hv⟩
  have hparameter (f : Field) (hp : parameter? r f ≠ none) : origin r f ≠ .absent := by
    obtain ⟨found, hfound⟩ := Option.ne_none_iff_exists'.1 hp
    rw [origin, hfound]
    exact Origin.noConfusion
  -- A value from the path stays, so the later origin counts only where the path says nothing.
  rcases hfound with ⟨w, hw⟩ | ⟨f, hf, hkey, horigin⟩
  · rcases of_find?_foldlM (fun _ _ _ _ => of_find?_fromPath) hpath hw with
      ⟨u, hu⟩ | ⟨f, hf, hkey, hp⟩
    · cases hu
    · exact ⟨f, hf, hkey, hparameter f hp⟩
  · refine ⟨f, hf, hkey, ?_⟩
    by_cases hp : parameter? r f = none
    · rwa [origin_of_later hp]
    · exact hparameter f hp

end

/-- The request gives no value to a field, nor to another field that is kept under its key. -/
def Omits (st : Struct) (r : Request) (f : Field) : Prop :=
  ∀ g ∈ st.dataFields, g.key = f.key → origin r g = .absent

theorem omits_of_query {st : Struct} {r : Request} {f : Field} (hq : readsQuery r.method = true)
    (h : ∀ g ∈ st.dataFields, g.key = f.key →
      parameter? r g = none ∧ under? (queryPairs r) g = none) : Omits st r f := by
  intro g hg hkey
  obtain ⟨hparameter, hunder⟩ := h g hg hkey
  rw [origin_of_later hparameter, laterOrigin_of_query hq, hunder]
  rfl

/-- A field without a value is filled, and the value says something just where the zero values of the
fields with its key do. -/
theorem exists_filled {F : Family} {st : Struct} {r : Request} {ms : Members} {f : Field} {b : Bool}
    (h : Gather.members F st r = .ok ms) (hf : f ∈ st.dataFields) (homits : Omits st r f)
    (hzero : ∀ g ∈ st.fields, g.skip = false → g.key = f.key → g.shape.zeroPasses = b) :
    ∃ v, Assoc.find? f.key ms = some v ∧ Validation.hasValue v = b := by
  obtain ⟨ms₀, hfound, rfl⟩ := map_eq_ok.1 h
  obtain ⟨v, hv⟩ : ∃ v, Assoc.find? f.key (Binding.fill F Binding.maxDepth st ms₀) = some v :=
    Binding.exists_find?_foldl_fillField _ (.inr ⟨f, mem_kept_of_mem_dataFields hf, rfl⟩)
  refine ⟨v, hv, Binding.hasValue_foldl_fillField (fun g hg hkey => ?_) (fun w hw => ?_) hv⟩
  · obtain ⟨hmem, hskip⟩ := List.mem_filter.1 hg
    exact hzero g hmem (by simpa using hskip) hkey
  · obtain ⟨g, hg, hkey, horigin⟩ := exists_origin hfound hw
    exact absurd (homits g hg hkey) horigin

end Gather

/-! ## The rule -/

section
open Validation (Breaks Rule hasValue)

theorem check?_required (v : Json) : (Rule.parse "required").check? v = some (hasValue v) := by
  have hrule : Rule.parse "required" = ⟨"required", ""⟩ := by decide +kernel
  rw [hrule]
  rfl

/-- A value that says nothing breaks `required`, unless `omitempty` excuses it. -/
theorem breaks_required {f : Field} {v : Json} (hrequired : "required" ∈ f.rules)
    (homitempty : "omitempty" ∉ f.rules) (hv : hasValue v = false) : Breaks f v where
  given := .inr homitempty
  fails := ⟨"required", hrequired, hv ▸ check?_required v, fun _ => by decide +kernel⟩

end

/-- **Omitted required fields.** A request that gives no value to a required field is refused, unless the
zero value of the field is a map, a struct or a variant with a name: that passes for a value. The document
states the field as required in either case. -/
theorem omitted_required_field {F : Family} {s : Shape} {id : StructId} {r : Request}
    {ms : Gather.Members} {f : Field} (hs : s.struct? = some id) (hf : f ∈ (F.get id).dataFields)
    (hname : f.jsonName? ≠ none) (hrequired : "required" ∈ f.rules)
    (homitempty : "omitempty" ∉ f.rules) (homits : Gather.Omits (F.get id) r f)
    (hms : Gather.members F (F.get id) r = .ok ms) :
    ((∀ g ∈ (F.get id).fields, g.skip = false → g.key = f.key → g.shape.zeroPasses = false) →
      ∃ e : Failure, e.code = .validationFailed ∧ Gather.value F s r = .error e ∧
        ∀ {α : Type} (decode : Json → Except DecodeError α), bind F s decode r = .error e) ∧
    ((∀ g ∈ (F.get id).fields, g.skip = false → g.key = f.key → g.shape.zeroPasses = true) →
      ∃ v, Assoc.find? f.key ms = some v ∧
        (Validation.Rule.parse "required").check? v = some true) ∧
    ∀ rd : RouteDoc, rd.request.shape = s → f.isPathOnly = false → OpenApi.StatesRequired F rd f := by
  refine ⟨fun hzero => ?_, fun hzero => ?_, ?_⟩
  · obtain ⟨v, hv, hnothing⟩ := Gather.exists_filled hms hf homits hzero
    have hnamed : Validation.Named f := by
      refine Classical.byContradiction fun hunnamed => ?_
      have hnone := Validation.messageName?_eq_none.2 hunnamed
      rw [Validation.messageName?, Option.or_eq_none_iff] at hnone
      exact hname hnone.1
    obtain ⟨e, hcode, hvalue⟩ := exists_rejection hs hms (.of_find? hf hv) hnamed
      (breaks_required hrequired homitempty hnothing)
    exact ⟨e, hcode, hvalue, bind_eq_error hvalue⟩
  · obtain ⟨v, hv, hpasses⟩ := Gather.exists_filled hms hf homits hzero
    exact ⟨v, hv, hpasses ▸ check?_required v⟩
  · rintro rd rfl honly
    exact OpenApi.statesRequired hs hf honly (by simpa [Field.isRequired] using hrequired)

/-- An array that the query leaves out is missed. -/
theorem omitted_array_refused :
    let f : Field := ⟨"tags", "tags", "binding:\"required\"", "", false, .array .string⟩
    let F : Family := ⟨[⟨"P", [f]⟩]⟩
    let r : Request := { (default : Request) with method := "GET", uri := .parse "/" }
    ∃ ms, ((Shape.struct 0).struct? = some 0 ∧ f ∈ (F.get 0).dataFields ∧ f.jsonName? ≠ none ∧
        "required" ∈ f.rules ∧ "omitempty" ∉ f.rules ∧ Gather.Omits (F.get 0) r f ∧
        Gather.members F (F.get 0) r = .ok ms) ∧
      f.shape.zeroPasses = false ∧
      ∃ e : Failure, e.code = .validationFailed ∧ Gather.value F (.struct 0) r = .error e := by
  intro f F r
  have hs : (Shape.struct 0).struct? = some 0 := rfl
  have hf : f ∈ (F.get 0).dataFields := .head _
  have hname : f.jsonName? ≠ none := by decide +kernel
  have hrequired : "required" ∈ f.rules := by decide +kernel
  have homitempty : "omitempty" ∉ f.rules := by decide +kernel
  have homits : Gather.Omits (F.get 0) r f := by
    refine Gather.omits_of_query rfl fun g hg _ => ?_
    obtain rfl := List.mem_singleton.1 hg
    exact ⟨by decide +kernel, by decide +kernel⟩
  have hok : (Gather.members F (F.get 0) r).isOk = true := by decide +kernel
  cases hms : Gather.members F (F.get 0) r with
  | error e =>
    rw [hms] at hok
    cases hok
  | ok ms =>
    obtain ⟨hrefused, _, _⟩ :=
      omitted_required_field hs hf hname hrequired homitempty homits hms
    obtain ⟨e, hcode, he, _⟩ := hrefused fun g hg _ _ => by
      obtain rfl := List.mem_singleton.1 hg
      rfl
    exact ⟨ms, ⟨hs, hf, hname, hrequired, homitempty, homits, rfl⟩, rfl, e, hcode, he⟩

/-- A map that the query leaves out is not missed, though the document states it as required. -/
theorem omitted_map_accepted :
    let f : Field := ⟨"labels", "labels", "binding:\"required\"", "", false, .map .string⟩
    let F : Family := ⟨[⟨"P", [f]⟩]⟩
    let r : Request := { (default : Request) with method := "GET", uri := .parse "/" }
    f ∈ (F.get 0).dataFields ∧ f.jsonName? ≠ none ∧ "required" ∈ f.rules ∧ "omitempty" ∉ f.rules ∧
      Gather.Omits (F.get 0) r f ∧
      (∃ ms, Gather.members F (F.get 0) r = .ok ms ∧ Gather.value F (.struct 0) r = .ok (.obj ms)) ∧
      ∀ rd : RouteDoc, rd.request.shape = .struct 0 → OpenApi.StatesRequired F rd f := by
  intro f F r
  have hs : (Shape.struct 0).struct? = some 0 := rfl
  have hf : f ∈ (F.get 0).dataFields := .head _
  have hrequired : "required" ∈ f.rules := by decide +kernel
  have homits : Gather.Omits (F.get 0) r f := by
    refine Gather.omits_of_query rfl fun g hg _ => ?_
    obtain rfl := List.mem_singleton.1 hg
    exact ⟨by decide +kernel, by decide +kernel⟩
  have hbinds : (Gather.value F (.struct 0) r).isOk = true := by decide +kernel
  refine ⟨hf, by decide +kernel, hrequired, by decide +kernel, homits, ?_, fun rd hrd => ?_⟩
  · cases hvalue : Gather.value F (.struct 0) r with
    | error e =>
      rw [hvalue] at hbinds
      cases hbinds
    | ok v =>
      obtain ⟨ms, hms, rfl⟩ := members_of_value hs hvalue
      exact ⟨ms, hms, rfl⟩
  · have honly : f.isPathOnly = false := by decide +kernel
    exact OpenApi.statesRequired (by rw [hrd, hs]) hf honly (by decide +kernel)

end HttpService
