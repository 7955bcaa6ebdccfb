import HttpService.Proofs.Validation.Coverage

/-!
# The failure that comes first

A value may break several rules, and its request is refused for one of them. `Located` is the walk of
`Reaches` with a position for what it comes to: the number of each field on the way, in declaration
order, and of each item of an array. Positions are compared from the left, so that a field comes before
what is inside its value. `firstBroken_of_failures`: the failure at the head of the list stands at the
first position where a rule is broken.
-/

set_option autoImplicit false

namespace HttpService.Validation

/-- The fields that a walk comes to, with their positions and values. -/
inductive Located (F : Family) : List Nat → Struct → Json → Field → Json → Prop
  | field {i : Nat} {st : Struct} {value : Json} {f : Field} (nth : st.dataFields[i]? = some f) :
      Located F [i] st value f ((value.get? f.key).getD .null)
  | inside {i : Nat} {path : List Nat} {st : Struct} {value : Json} {g f : Field} {v : Json}
      {id : StructId} {ms : Assoc Json} (nth : st.dataFields[i]? = some g) (named : Named g)
      (has : value.get? g.key = some (.obj ms)) (struct : g.shape.struct? = some id)
      (rest : Located F path (F.get id) (.obj ms) f v) : Located F (i :: path) st value f v
  | item {i j : Nat} {path : List Nat} {st : Struct} {value : Json} {g f : Field} {v item : Json}
      {id : StructId} {items : List Json} (nth : st.dataFields[i]? = some g) (named : Named g)
      (has : value.get? g.key = some (.arr items)) (struct : elementStruct? g.shape = some id)
      (among : items[j]? = some item) (rest : Located F path (F.get id) item f v) :
      Located F (i :: j :: path) st value f v

/-- At the position stands a named field whose value breaks its rules. -/
def Broken (F : Family) (st : Struct) (value : Json) (path : List Nat) : Prop :=
  ∃ f v, Located F path st value f v ∧ Named f ∧ Breaks f v

/-- The failure at the first of the broken positions. -/
def FirstBroken (F : Family) (st : Struct) (value : Json) (e : RuleFailure) : Prop :=
  ∃ path f v name, Located F path st value f v ∧ messageName? f = some name ∧
    firstFailure name f.rules v = some e ∧
    ∀ path', Broken F st value path' → path = path' ∨ path < path'

section
variable {F : Family} {path : List Nat} {st : Struct} {value v : Json} {f g : Field} {i : Nat}

theorem Located.reaches (h : Located F path st value f v) : Reaches F st value f v := by
  induction h with
  | field nth => exact .field (List.mem_of_getElem? nth)
  | inside nth named has struct _ ih => exact .inside (List.mem_of_getElem? nth) named has struct ih
  | item nth named has struct among _ ih =>
    exact .item (List.mem_of_getElem? nth) named has struct (List.mem_of_getElem? among) ih

theorem Reaches.located (h : Reaches F st value f v) : ∃ path, Located F path st value f v := by
  induction h with
  | field mem =>
    obtain ⟨i, hi⟩ := List.mem_iff_getElem?.1 mem
    exact ⟨[i], .field hi⟩
  | inside mem named has struct _ ih =>
    obtain ⟨i, hi⟩ := List.mem_iff_getElem?.1 mem
    obtain ⟨path, hpath⟩ := ih
    exact ⟨i :: path, .inside hi named has struct hpath⟩
  | item mem named has struct among _ ih =>
    obtain ⟨i, hi⟩ := List.mem_iff_getElem?.1 mem
    obtain ⟨j, hj⟩ := List.mem_iff_getElem?.1 among
    obtain ⟨path, hpath⟩ := ih
    exact ⟨i :: j :: path, .item hi named has struct hj hpath⟩

theorem Located.exists_cons (h : Located F path st value f v) : ∃ j rest, path = j :: rest := by
  cases h with
  | field => exact ⟨_, _, rfl⟩
  | inside => exact ⟨_, _, rfl⟩
  | item => exact ⟨_, _, rfl⟩

/-- Where a field has no failures, neither its rules nor those inside its value are broken. -/
theorem Located.not_breaks (h : Located F (i :: path) st value f v) (hg : st.dataFields[i]? = some g)
    (hok : fieldFailures F value g = []) (hn : Named f) : ¬ Breaks f v := by
  cases h with
  | field nth =>
    obtain rfl := Option.some.inj (hg.symm.trans nth)
    exact ((fieldFailures_eq_nil_iff hn).1 hok).1
  | inside nth named has struct rest =>
    obtain rfl := Option.some.inj (hg.symm.trans nth)
    have hinner := ((fieldFailures_eq_nil_iff named).1 hok).2
    rw [has, innerFailures, struct] at hinner
    exact rest.reaches.not_breaks hinner hn
  | item nth named has struct among rest =>
    obtain rfl := Option.some.inj (hg.symm.trans nth)
    have hinner := ((fieldFailures_eq_nil_iff named).1 hok).2
    rw [has, innerFailures, struct] at hinner
    exact rest.reaches.not_breaks
      (List.flatMap_eq_nil_iff.1 hinner _ (List.mem_of_getElem? among)) hn

end

/-- The first element of a flattened list comes from the first part that is not empty. -/
theorem exists_of_flatMap_eq_cons {α β : Type} {l : List α} {g : α → List β} {b : β} {rest : List β}
    (h : l.flatMap g = b :: rest) :
    ∃ (i : Nat) (a : α) (more : List β), l[i]? = some a ∧ g a = b :: more ∧
      ∀ j a', j < i → l[j]? = some a' → g a' = [] := by
  induction l with
  | nil => cases h
  | cons x l ih =>
    rw [List.flatMap_cons] at h
    cases hx : g x with
    | nil =>
      rw [hx, List.nil_append] at h
      obtain ⟨i, a, more, ha, hmore, hbefore⟩ := ih h
      refine ⟨i + 1, a, more, ha, hmore, fun j a' hj ha' => ?_⟩
      cases j with
      | zero => exact Option.some.inj ha' ▸ hx
      | succ j => exact hbefore j a' (by omega) ha'
    | cons c more =>
      rw [hx] at h
      cases h
      exact ⟨0, x, more, rfl, hx, fun j _ hj => absurd hj (Nat.not_lt_zero j)⟩

/-- A position that is first among those behind one number is first among all whose number is not less. -/
theorem first_cons {P Q : List Nat → Prop} {i : Nat} {path : List Nat}
    (hQ : ∀ q, Q q → path = q ∨ path < q)
    (hP : ∀ p, P p → ∃ j q, p = j :: q ∧ (i = j ∧ Q q ∨ i < j)) :
    ∀ p, P p → i :: path = p ∨ i :: path < p := by
  intro p hp
  obtain ⟨j, q, rfl, ⟨rfl, hq⟩ | hlt⟩ := hP p hp
  · rcases hQ q hq with rfl | hlt
    · exact .inl rfl
    · exact .inr (List.cons_lt_cons_iff.2 (.inr ⟨rfl, hlt⟩))
  · exact .inr (List.cons_lt_cons_iff.2 (.inl hlt))

/-- The positions inside an array of structs. -/
def BrokenItem (F : Family) (id : StructId) (items : List Json) (path : List Nat) : Prop :=
  ∃ j q item, path = j :: q ∧ items[j]? = some item ∧ Broken F (F.get id) item q

section
variable {F : Family} {st : Struct} {value : Json} {g : Field} {i : Nat}

/-- The fields before the first one with failures hold no broken rule. -/
theorem Broken.of_clean {p : List Nat} (hg : st.dataFields[i]? = some g)
    (hclean : ∀ j a, j < i → st.dataFields[j]? = some a → fieldFailures F value a = [])
    (h : Broken F st value p) :
    ∃ j q, p = j :: q ∧ (i = j ∧ Broken F st value (i :: q) ∨ i < j) := by
  obtain ⟨f, v, hloc, hn, hb⟩ := h
  obtain ⟨j, q, rfl⟩ := hloc.exists_cons
  refine ⟨j, q, rfl, ?_⟩
  rcases Nat.lt_trichotomy i j with hlt | rfl | hgt
  · exact .inr hlt
  · exact .inl ⟨rfl, f, v, hloc, hn, hb⟩
  · have hj : j < st.dataFields.length := by
      have := (List.getElem?_eq_some_iff.1 hg).1
      omega
    have hget := List.getElem?_eq_getElem hj
    exact absurd hb (hloc.not_breaks hget (hclean j _ hgt hget) hn)

variable (hg : st.dataFields[i]? = some g) (hsound : ¬ Breaks g ((value.get? g.key).getD .null))
  {id : StructId} {q : List Nat} (h : Broken F st value (i :: q))
include hg hsound h

theorem Broken.of_object {ms : Assoc Json} (has : value.get? g.key = some (.obj ms))
    (struct : g.shape.struct? = some id) : Broken F (F.get id) (.obj ms) q := by
  obtain ⟨f, v, hloc, hn, hb⟩ := h
  cases hloc with
  | field nth =>
    obtain rfl := Option.some.inj (hg.symm.trans nth)
    exact absurd hb hsound
  | inside nth _ has' struct' rest =>
    obtain rfl := Option.some.inj (hg.symm.trans nth)
    cases has.symm.trans has'
    cases struct.symm.trans struct'
    exact ⟨f, v, rest, hn, hb⟩
  | item nth _ has' =>
    obtain rfl := Option.some.inj (hg.symm.trans nth)
    cases has.symm.trans has'

theorem Broken.of_items {items : List Json} (has : value.get? g.key = some (.arr items))
    (struct : elementStruct? g.shape = some id) : BrokenItem F id items q := by
  obtain ⟨f, v, hloc, hn, hb⟩ := h
  cases hloc with
  | field nth =>
    obtain rfl := Option.some.inj (hg.symm.trans nth)
    exact absurd hb hsound
  | inside nth _ has' =>
    obtain rfl := Option.some.inj (hg.symm.trans nth)
    cases has.symm.trans has'
  | item nth _ has' struct' among rest =>
    obtain rfl := Option.some.inj (hg.symm.trans nth)
    cases has.symm.trans has'
    cases struct.symm.trans struct'
    exact ⟨_, _, _, rfl, among, f, v, rest, hn, hb⟩

end

/-- The items before the first one with failures hold no broken rule. -/
theorem BrokenItem.of_clean {F : Family} {id : StructId} {items : List Json} {item : Json} {k : Nat}
    {p : List Nat} (hitem : items[k]? = some item)
    (hclean : ∀ j a, j < k → items[j]? = some a → failures F (F.get id) a = [])
    (h : BrokenItem F id items p) :
    ∃ j q, p = j :: q ∧ (k = j ∧ Broken F (F.get id) item q ∨ k < j) := by
  obtain ⟨j, q, other, rfl, hother, hbroken⟩ := h
  refine ⟨j, q, rfl, ?_⟩
  rcases Nat.lt_trichotomy k j with hlt | rfl | hgt
  · exact .inr hlt
  · obtain rfl := Option.some.inj (hitem.symm.trans hother)
    exact .inl ⟨rfl, hbroken⟩
  · obtain ⟨f, v, hloc, hn, hb⟩ := hbroken
    exact absurd hb (hloc.reaches.not_breaks (hclean j other hgt hother) hn)

/-- A value has failures just where a rule is broken somewhere in it. -/
theorem exists_broken_iff {F : Family} {st : Struct} {value : Json} :
    (∃ path, Broken F st value path) ↔ failures F st value ≠ [] := by
  constructor
  · rintro ⟨path, f, v, hloc, hn, hb⟩ hok
    exact hloc.reaches.not_breaks hok hn hb
  · intro hfail
    refine Classical.byContradiction fun hnone => hfail (failures_eq_nil fun f v hreach hn hb => ?_)
    obtain ⟨path, hloc⟩ := hreach.located
    exact hnone ⟨path, f, v, hloc, hn, hb⟩

/-- Failures inside a value are those of a struct, or of the structs in an array. -/
theorem innerFailures_cases {F : Family} {s : Shape} {v : Option Json} {e : RuleFailure}
    {rest : List RuleFailure} (h : innerFailures F s v = e :: rest) :
    (∃ id ms, v = some (.obj ms) ∧ s.struct? = some id ∧
      failures F (F.get id) (.obj ms) = e :: rest) ∨
    ∃ id items, v = some (.arr items) ∧ elementStruct? s = some id ∧
      items.flatMap (failures F (F.get id)) = e :: rest := by
  unfold innerFailures at h
  split at h
  · rename_i ms
    split at h
    · rename_i id struct
      exact .inl ⟨id, ms, rfl, struct, h⟩
    · cases h
  · rename_i items
    split at h
    · rename_i id struct
      exact .inr ⟨id, items, rfl, struct, h⟩
    · cases h
  · cases h

/-- Failures of a field start with that of its own value, else they are those inside it. -/
theorem fieldFailures_cases {F : Family} {value : Json} {g : Field} {e : RuleFailure}
    {rest : List RuleFailure} (h : fieldFailures F value g = e :: rest) :
    Named g ∧ ∃ name, messageName? g = some name ∧
      (firstFailure name g.rules ((value.get? g.key).getD .null) = some e ∨
        ¬ Breaks g ((value.get? g.key).getD .null) ∧
          innerFailures F g.shape (value.get? g.key) = e :: rest) := by
  cases hname : messageName? g with
  | none =>
    rw [fieldFailures, hname] at h
    cases h
  | some name =>
    rw [fieldFailures, hname] at h
    dsimp only at h
    refine ⟨named_of_messageName? hname, name, rfl, ?_⟩
    cases hown : firstFailure name g.rules ((value.get? g.key).getD .null) with
    | some e' =>
      rw [hown] at h
      exact .inl (congrArg some (List.cons.inj h).1)
    | none =>
      rw [hown] at h
      refine .inr ⟨?_, h⟩
      rw [← firstFailure_isSome_iff name, hown]
      exact Bool.false_ne_true

/-- The failure at the head of the list is that of the first broken position. -/
theorem firstBroken_of_failures {F : Family} {st : Struct} {value : Json} {e : RuleFailure}
    {rest : List RuleFailure} (h : failures F st value = e :: rest) : FirstBroken F st value e := by
  rw [failures_eq] at h
  obtain ⟨i, g, more, hg, hmore, hclean⟩ := exists_of_flatMap_eq_cons h
  obtain ⟨hnamed, name, hname, hown | ⟨hsound, hinner⟩⟩ := fieldFailures_cases hmore
  · -- Nothing stands before a field but the fields before it.
    refine ⟨[i], g, _, name, .field hg, hname, hown, first_cons (Q := fun _ => True) ?_ ?_⟩
    · rintro (_ | ⟨j, q⟩) _
      · exact .inl rfl
      · exact .inr (List.nil_lt_cons _ _)
    · intro p hp
      obtain ⟨j, q, hpq, hij⟩ := hp.of_clean hg hclean
      exact ⟨j, q, hpq, hij.imp_left fun h => ⟨h.1, trivial⟩⟩
  -- The field itself is sound, so that what is broken behind its number is inside its value.
  rcases innerFailures_cases hinner with
    ⟨id, ms, has, struct, hobject⟩ | ⟨id, items, has, struct, hitems⟩
  · obtain ⟨path, f, v, name', hloc, hname', hfail, hleast⟩ := firstBroken_of_failures hobject
    refine ⟨i :: path, f, v, name', .inside hg hnamed has struct hloc, hname', hfail,
      first_cons hleast fun p hp => ?_⟩
    obtain ⟨j, q, hpq, hij⟩ := hp.of_clean hg hclean
    exact ⟨j, q, hpq, hij.imp_left fun h => ⟨h.1, h.2.of_object hg hsound has struct⟩⟩
  · obtain ⟨k, item, _, hitem, hfirst, hclean'⟩ := exists_of_flatMap_eq_cons hitems
    obtain ⟨path, f, v, name', hloc, hname', hfail, hleast⟩ := firstBroken_of_failures hfirst
    refine ⟨i :: k :: path, f, v, name', .item hg hnamed has struct hitem hloc, hname', hfail,
      first_cons (first_cons hleast fun q hq => BrokenItem.of_clean hitem hclean' hq) fun p hp => ?_⟩
    obtain ⟨j, q, hpq, hij⟩ := hp.of_clean hg hclean
    exact ⟨j, q, hpq, hij.imp_left fun h => ⟨h.1, h.2.of_items hg hsound has struct⟩⟩
termination_by sizeOf value
decreasing_by
  · exact sizeOf_get?_lt has
  · have hmem := List.sizeOf_lt_of_mem (List.mem_of_getElem? hitem)
    have hlt := sizeOf_get?_lt has
    rw [Json.arr.sizeOf_spec] at hlt
    omega

end HttpService.Validation
