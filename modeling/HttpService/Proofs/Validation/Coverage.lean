import HttpService.Proofs.Validation.RuleLists
import HttpService.Validation.Struct

/-!
# Which fields answer to their rules

`Reaches F st value f v`: a walk from a struct and its value, through fields that messages can name,
comes to the field `f` with the value `v`. `failures_eq_nil_iff`: a value is accepted just where no such
walk comes to a named field whose value breaks its rules.
-/

set_option autoImplicit false

namespace HttpService.Validation

/-! ## Broken rules -/

/-- A value fails a known rule of its field, and neither `omitempty` nor null excuses it. -/
structure Breaks (f : Field) (v : Json) : Prop where
  given : hasValue v = true ∨ "omitempty" ∉ f.rules
  fails : ∃ text ∈ f.rules, (Rule.parse text).check? v = some false ∧
    (v.isNull = true → (Rule.parse text).name = "required")

theorem firstFailure_isSome_iff (name : String) {f : Field} {v : Json} :
    (firstFailure name f.rules v).isSome = true ↔ Breaks f v := by
  have hgiven : ¬ Excused f.rules v ↔ hasValue v = true ∨ "omitempty" ∉ f.rules := by
    rw [Excused, Classical.not_and_iff_not_or_not, Bool.not_eq_false]
  rw [firstFailure_isSome_iff_fails, hgiven]
  exact ⟨fun h => ⟨h.1, h.2⟩, fun h => ⟨h.given, h.fails⟩⟩

/-! ## The walk -/

/-- The field has a name in JSON or names a path parameter. -/
def Named (f : Field) : Prop :=
  f.taggedName? "json" ≠ some "-" ∨ f.uriName? ≠ none

theorem messageName?_eq_none {f : Field} : messageName? f = none ↔ ¬ Named f := by
  unfold messageName? Named Field.jsonName? Field.visibleName?
  cases f.taggedName? "json" with
  | none => simp
  | some name => by_cases hn : name = "-" <;> simp [hn]

theorem messageName?_of_jsonName? {f : Field} {name : String} (h : f.jsonName? = some name) :
    messageName? f = some name := by
  rw [messageName?, h, Option.some_or]

theorem named_of_messageName? {f : Field} {name : String} (h : messageName? f = some name) :
    Named f := by
  refine Classical.byContradiction fun hunnamed => ?_
  cases h.symm.trans (messageName?_eq_none.2 hunnamed)

/-- The fields that a walk comes to, with their values; a field without a value has null. -/
inductive Reaches (F : Family) : Struct → Json → Field → Json → Prop
  | field {st : Struct} {value : Json} {f : Field} (mem : f ∈ st.dataFields) :
      Reaches F st value f ((value.get? f.key).getD .null)
  /-- Through the object of a nested struct. -/
  | inside {st : Struct} {value : Json} {g f : Field} {v : Json} {id : StructId}
      {ms : Assoc Json} (mem : g ∈ st.dataFields) (named : Named g)
      (has : value.get? g.key = some (.obj ms)) (struct : g.shape.struct? = some id)
      (rest : Reaches F (F.get id) (.obj ms) f v) : Reaches F st value f v
  /-- Through an item of an array of structs. -/
  | item {st : Struct} {value : Json} {g f : Field} {v item : Json} {id : StructId}
      {items : List Json} (mem : g ∈ st.dataFields) (named : Named g)
      (has : value.get? g.key = some (.arr items)) (struct : elementStruct? g.shape = some id)
      (among : item ∈ items) (rest : Reaches F (F.get id) item f v) : Reaches F st value f v

theorem Reaches.of_find? {F : Family} {st : Struct} {ms : Assoc Json} {f : Field} {v : Json}
    (mem : f ∈ st.dataFields) (h : Assoc.find? f.key ms = some v) : Reaches F st (.obj ms) f v := by
  have hv : ((Json.obj ms).get? f.key).getD .null = v := by rw [Json.get?, h]; rfl
  exact hv ▸ .field mem

/-- The failures inside the value of a field. -/
def innerFailures (F : Family) (s : Shape) : Option Json → List RuleFailure
  | some (.obj ms) =>
    match s.struct? with
    | some id => failures F (F.get id) (.obj ms)
    | none => []
  | some (.arr items) =>
    match elementStruct? s with
    | some id => items.flatMap (failures F (F.get id))
    | none => []
  | _ => []

/-- The failures at a field. -/
def fieldFailures (F : Family) (value : Json) (f : Field) : List RuleFailure :=
  match messageName? f with
  | none => []
  | some name =>
    (firstFailure name f.rules ((value.get? f.key).getD .null)).toList ++
      innerFailures F f.shape (value.get? f.key)

theorem failures_eq (F : Family) (st : Struct) (value : Json) :
    failures F st value = st.dataFields.flatMap (fieldFailures F value) := by
  rw [failures]
  congr 1
  funext f
  unfold fieldFailures
  cases messageName? f with
  | none => rfl
  | some name =>
    dsimp only
    congr 1
    split
    · rename_i h
      rw [h]
      rfl
    · rename_i items h
      rw [h]
      unfold innerFailures
      cases elementStruct? f.shape with
      | none => rfl
      | some id => simp [List.flatMap_subtype]
    · rename_i hobj harr
      unfold innerFailures
      split
      · rename_i h
        exact absurd h (hobj _)
      · rename_i h
        exact absurd h (harr _)
      · rfl

/-- The validator applies the rules of one field after another, each behind the failures so far. -/
theorem failures_eq_foldl (F : Family) (st : Struct) (value : Json) :
    failures F st value = st.dataFields.foldl (fun errors f =>
      match messageName? f with
      | none => errors
      | some name =>
        applyRules name f.rules ((value.get? f.key).getD .null) errors ++
          innerFailures F f.shape (value.get? f.key)) [] := by
  have hstep (errors : List RuleFailure) (f : Field) :
      (match messageName? f with
        | none => errors
        | some name =>
          applyRules name f.rules ((value.get? f.key).getD .null) errors ++
            innerFailures F f.shape (value.get? f.key)) = errors ++ fieldFailures F value f := by
    unfold fieldFailures
    cases messageName? f with
    | none => exact (List.append_nil _).symm
    | some name =>
      dsimp only
      rw [applyRules_eq, List.append_assoc]
  simp only [hstep]
  rw [failures_eq, List.flatMap_eq_foldl]

theorem fieldFailures_eq_nil_iff {F : Family} {value : Json} {f : Field} (hn : Named f) :
    fieldFailures F value f = [] ↔
      ¬ Breaks f ((value.get? f.key).getD .null) ∧ innerFailures F f.shape (value.get? f.key) = [] := by
  unfold fieldFailures
  cases hname : messageName? f with
  | none => exact absurd hn (messageName?_eq_none.1 hname)
  | some name =>
    dsimp only
    rw [List.append_eq_nil_iff, ← firstFailure_isSome_iff name, Option.toList_eq_nil_iff,
      Bool.not_eq_true, Option.isSome_eq_false_iff, Option.isNone_iff_eq_none]

/-! ## Acceptance -/

section
variable {F : Family}

theorem Reaches.not_breaks {st : Struct} {value v : Json} {f : Field}
    (h : Reaches F st value f v) (hok : failures F st value = []) (hn : Named f) :
    ¬ Breaks f v := by
  induction h with
  | field mem =>
    rw [failures_eq, List.flatMap_eq_nil_iff] at hok
    exact ((fieldFailures_eq_nil_iff hn).1 (hok _ mem)).1
  | inside mem named has struct _ ih =>
    rw [failures_eq, List.flatMap_eq_nil_iff] at hok
    have hinner := ((fieldFailures_eq_nil_iff named).1 (hok _ mem)).2
    rw [has, innerFailures, struct] at hinner
    exact ih hinner hn
  | item mem named has struct among _ ih =>
    rw [failures_eq, List.flatMap_eq_nil_iff] at hok
    have hinner := ((fieldFailures_eq_nil_iff named).1 (hok _ mem)).2
    rw [has, innerFailures, struct] at hinner
    exact ih (List.flatMap_eq_nil_iff.1 hinner _ among) hn

theorem failures_eq_nil {st : Struct} {value : Json}
    (h : ∀ f v, Reaches F st value f v → Named f → ¬ Breaks f v) : failures F st value = [] := by
  rw [failures_eq, List.flatMap_eq_nil_iff]
  intro g hg
  by_cases hn : Named g
  · refine (fieldFailures_eq_nil_iff hn).2 ⟨h g _ (.field hg) hn, ?_⟩
    unfold innerFailures
    split
    · rename_i ms has
      split
      · rename_i id struct
        exact failures_eq_nil fun f v hr => h f v (.inside hg hn has struct hr)
      · rfl
    · rename_i items has
      split
      · rename_i id struct
        refine List.flatMap_eq_nil_iff.2 fun item among => ?_
        exact failures_eq_nil fun f v hr => h f v (.item hg hn has struct among hr)
      · rfl
    · rfl
  · rw [fieldFailures, messageName?_eq_none.2 hn]
termination_by sizeOf value
decreasing_by
  · rename_i has _ _ _
    exact sizeOf_get?_lt has
  · rename_i has _ _ _
    have hitem := List.sizeOf_lt_of_mem among
    have hitems := sizeOf_get?_lt has
    rw [Json.arr.sizeOf_spec] at hitems
    omega

/-- A value is accepted just where no named field that the walk comes to breaks its rules. -/
theorem failures_eq_nil_iff {st : Struct} {value : Json} :
    failures F st value = [] ↔ ∀ f v, Reaches F st value f v → Named f → ¬ Breaks f v :=
  ⟨fun hok _ _ h hn => h.not_breaks hok hn, failures_eq_nil⟩

end

end HttpService.Validation
