import HttpService.Assoc

/-!
# Maps and failing computations

What the proofs about binding need of sorted association lists and of `Except`: the look-up of a key
after an insertion or a removal and in a list of pairs, the order of the keys, and the parts of a
computation that did not fail.
-/

set_option autoImplicit false

namespace HttpService

namespace Assoc

variable {α : Type}

theorem find?_insert (key other : String) (value : α) (m : Assoc α) :
    find? other (insert key value m) = if other = key then some value else find? other m := by
  split
  · rename_i h
    rw [h, find?_insert_self]
  · rename_i h
    exact find?_insert_of_ne h value m

theorem find?_erase_of_ne {key other : String} (h : other ≠ key) (m : Assoc α) :
    find? other (erase key m) = find? other m := by
  induction m with
  | nil => rfl
  | cons p rest ih =>
    obtain ⟨k, v⟩ := p
    by_cases hk : k = key
    · subst hk
      rw [erase, if_pos rfl, find?, if_neg (Ne.symm h)]
    · rw [erase, if_neg hk, find?, find?, ih]

/-- A removal adds nothing under any key. -/
theorem exists_of_find?_erase {key other : String} {m : Assoc α} {v : α}
    (h : find? other (erase key m) = some v) : ∃ w, find? other m = some w := by
  by_cases hkey : other = key
  · subst hkey
    induction m with
    | nil => cases h
    | cons p rest ih =>
      obtain ⟨k, w⟩ := p
      rw [find?]
      by_cases hk : k = other
      · exact ⟨w, if_pos hk⟩
      · rw [erase, if_neg hk, find?, if_neg hk] at h
        rw [if_neg hk]
        exact ih h
  · exact ⟨v, (find?_erase_of_ne hkey m).symm.trans h⟩

theorem mem_of_find? {key : String} {m : Assoc α} {v : α} (h : find? key m = some v) :
    (key, v) ∈ m := by
  induction m with
  | nil => cases h
  | cons p rest ih =>
    obtain ⟨k, w⟩ := p
    rw [find?] at h
    split at h
    · rename_i hk
      cases h
      exact hk ▸ .head _
    · exact .tail _ (ih h)

theorem find?_eq_none_iff {key : String} {m : Assoc α} :
    find? key m = none ↔ key ∉ m.map (·.1) := by
  induction m with
  | nil => simp [find?]
  | cons p rest ih =>
    obtain ⟨k, w⟩ := p
    rw [find?, List.map_cons, List.mem_cons, not_or]
    by_cases hk : k = key
    · simp [hk]
    · rw [if_neg hk, ih]
      exact ⟨fun h => ⟨Ne.symm hk, h⟩, fun h => h.2⟩

theorem mem_keys_iff {key : String} {m : Assoc α} : key ∈ keys m ↔ ∃ v, find? key m = some v := by
  rw [← Option.ne_none_iff_exists', ne_eq, find?_eq_none_iff, Decidable.not_not]
  rfl

theorem find?_of_mem {key : String} {m : Assoc α} {v : α} (hnd : (m.map (·.1)).Nodup)
    (h : (key, v) ∈ m) : find? key m = some v := by
  induction m with
  | nil => cases h
  | cons p rest ih =>
    obtain ⟨k, w⟩ := p
    rw [List.map_cons, List.nodup_cons] at hnd
    rw [find?]
    rcases List.mem_cons.1 h with he | h
    · cases he
      exact if_pos rfl
    · have hne : k ≠ key := fun he => hnd.1 (he ▸ List.mem_map.2 ⟨_, h, rfl⟩)
      rw [if_neg hne, ih hnd.2 h]

theorem find?_foldl_insert {pairs : List (String × α)} (hnd : (pairs.map (·.1)).Nodup)
    (key : String) (m : Assoc α) :
    find? key (pairs.foldl (fun m (k, v) => insert k v m) m) = (find? key pairs).or (find? key m) := by
  induction pairs generalizing m with
  | nil => rfl
  | cons p rest ih =>
    obtain ⟨k, v⟩ := p
    rw [List.map_cons, List.nodup_cons] at hnd
    rw [List.foldl_cons, ih hnd.2, find?_insert, find?]
    by_cases hk : k = key
    · subst hk
      rw [find?_eq_none_iff.2 hnd.1, if_pos rfl, if_pos rfl]
      rfl
    · rw [if_neg hk, if_neg (Ne.symm hk)]

/-- Pairs with distinct keys, inserted one after another. -/
theorem find?_ofList {pairs : List (String × α)} (hnd : (pairs.map (·.1)).Nodup) (key : String) :
    find? key (ofList pairs) = find? key pairs := by
  rw [ofList, find?_foldl_insert hnd, find?]
  cases find? key pairs <;> rfl

theorem find?_foldl_insert_of_not_mem {pairs : List (String × α)} {key : String}
    (h : key ∉ pairs.map (·.1)) (m : Assoc α) :
    find? key (pairs.foldl (fun m (k, v) => insert k v m) m) = find? key m := by
  induction pairs generalizing m with
  | nil => rfl
  | cons p rest ih =>
    obtain ⟨k, v⟩ := p
    rw [List.map_cons, List.mem_cons, not_or] at h
    rw [List.foldl_cons, ih h.2, find?_insert_of_ne h.1]

/-- The last value of a key stays. -/
theorem find?_ofList_append {key : String} {later : List (String × α)} (h : key ∉ later.map (·.1))
    (earlier : List (String × α)) (v : α) :
    find? key (ofList (earlier ++ (key, v) :: later)) = some v := by
  rw [ofList, List.foldl_append, List.foldl_cons, find?_foldl_insert_of_not_mem h,
    find?_insert_self]

theorem exists_find?_foldl_insert {pairs : List (String × α)} {key : String} {m : Assoc α} :
    (∃ v, find? key (pairs.foldl (fun m (k, v) => insert k v m) m) = some v) ↔
      key ∈ pairs.map (·.1) ∨ ∃ v, find? key m = some v := by
  induction pairs generalizing m with
  | nil => simp
  | cons p rest ih =>
    obtain ⟨k, v⟩ := p
    rw [List.foldl_cons, ih, List.map_cons, List.mem_cons, find?_insert]
    by_cases hk : key = k <;> simp [hk]

theorem exists_find?_ofList {pairs : List (String × α)} {key : String} :
    (∃ v, find? key (ofList pairs) = some v) ↔ key ∈ pairs.map (·.1) := by
  rw [ofList, exists_find?_foldl_insert]
  simp [find?]

/-- Keeping the pairs whose values pass a test keeps of each key what passes. -/
theorem find?_filter {m : Assoc α} (hnd : (m.map (·.1)).Nodup) (p : α → Bool) (key : String) :
    find? key (m.filter fun q => p q.2) = (find? key m).filter p := by
  induction m with
  | nil => rfl
  | cons q rest ih =>
    obtain ⟨k, v⟩ := q
    obtain ⟨hfirst, hrest⟩ := List.nodup_cons.1 hnd
    by_cases hk : k = key
    · have hnone : find? key rest = none := find?_eq_none_iff.2 (hk ▸ hfirst)
      cases hp : p v <;> simp [find?, hk, hp, ih hrest, hnone, Option.filter_some]
    · cases hp : p v <;> simp [find?, hk, hp, ih hrest]

theorem find?_eq_lookup (key : String) (m : Assoc α) : find? key m = m.lookup key := by
  induction m with
  | nil => rfl
  | cons p rest ih =>
    obtain ⟨k, v⟩ := p
    rw [find?, List.lookup_cons, ih]
    by_cases h : k = key
    · rw [if_pos h, h, beq_self_eq_true]
    · rw [if_neg h, beq_false_of_ne (Ne.symm h)]

theorem find?_insertNew (key other : String) (value : α) (m : Assoc α) :
    find? other (insertNew key value m) = (find? other m).or (find? other [(key, value)]) := by
  rw [insertNew, contains]
  cases hkey : find? key m with
  | some v =>
    by_cases h : key = other
    · simp [← h, hkey]
    · simp [find?, h]
  | none =>
    by_cases h : key = other
    · simp [← h, hkey, find?, find?_insert_self]
    · simp [find?, h, find?_insert_of_ne (Ne.symm h)]

/-- Of pairs put under new keys only, the first of a key counts. -/
theorem find?_foldl_insertNew (key : String) (pairs : List (String × α)) (m : Assoc α) :
    find? key (pairs.foldl (fun m (k, v) => insertNew k v m) m) =
      (find? key m).or (find? key pairs) := by
  induction pairs generalizing m with
  | nil => simp [find?]
  | cons p rest ih =>
    obtain ⟨k, v⟩ := p
    rw [List.foldl_cons, ih, find?_insertNew, Option.or_assoc, find?, find?, find?]
    split <;> rfl

theorem contains_eq_true {key : String} {m : Assoc α} :
    contains key m = true ↔ ∃ v, find? key m = some v :=
  Option.isSome_iff_exists

theorem contains_eq_false {key : String} {m : Assoc α} :
    contains key m = false ↔ find? key m = none := by
  simp [contains]

/-! ## Key order -/

/-- Each key is less than the keys after it. -/
def Sorted (m : Assoc α) : Prop :=
  m.Pairwise fun p q => p.1 < q.1

theorem mem_insert {key : String} {value : α} {m : Assoc α} {p : String × α}
    (h : p ∈ insert key value m) : p = (key, value) ∨ p ∈ m := by
  induction m with
  | nil => exact .inl (List.mem_singleton.1 h)
  | cons q rest ih =>
    obtain ⟨k, v⟩ := q
    rw [insert] at h
    split at h
    · exact (List.mem_cons.1 h).imp_right (.tail _)
    · split at h
      · exact List.mem_cons.1 h
      · rcases List.mem_cons.1 h with rfl | h
        · exact .inr (.head _)
        · exact (ih h).imp_right (.tail _)

theorem sorted_insert {key : String} {value : α} {m : Assoc α} (h : Sorted m) :
    Sorted (insert key value m) := by
  induction m with
  | nil => exact List.pairwise_singleton _ _
  | cons q rest ih =>
    obtain ⟨k, v⟩ := q
    obtain ⟨hhead, htail⟩ := List.pairwise_cons.1 h
    rw [insert]
    split
    · rename_i hk
      subst hk
      exact List.pairwise_cons.2 ⟨hhead, htail⟩
    · rename_i hne
      split
      · rename_i hlt
        refine List.pairwise_cons.2 ⟨fun p hp => ?_, h⟩
        rcases List.mem_cons.1 hp with rfl | hp
        · exact hlt
        · exact String.lt_trans hlt (hhead p hp)
      · rename_i hnlt
        have hlt : k < key := by
          rcases String.le_total k key with hle | hle
          · exact String.not_le.1 fun hge => hne (String.le_antisymm hle hge)
          · exact absurd (String.not_le.1 fun hge => hne (String.le_antisymm hge hle)) hnlt
        refine List.pairwise_cons.2 ⟨fun p hp => ?_, ih htail⟩
        rcases mem_insert hp with rfl | hp
        · exact hlt
        · exact hhead p hp

theorem sorted_foldl_insert {pairs : List (String × α)} {m : Assoc α} (h : Sorted m) :
    Sorted (pairs.foldl (fun m (k, v) => insert k v m) m) := by
  induction pairs generalizing m with
  | nil => exact h
  | cons p rest ih => exact ih (sorted_insert h)

theorem sorted_ofList (pairs : List (String × α)) : Sorted (ofList pairs) :=
  sorted_foldl_insert .nil

theorem Sorted.nodup_keys {m : Assoc α} (h : Sorted m) : (m.map (·.1)).Nodup :=
  List.pairwise_map.2 (h.imp String.ne_of_lt)

theorem Sorted.nodup {m : Assoc α} (h : Sorted m) : m.Nodup :=
  h.imp fun hlt he => String.ne_of_lt hlt (congrArg _ he)

/-- Sorted lists that hold the same under every key are equal. -/
theorem Sorted.ext {m m' : Assoc α} (h : Sorted m) (h' : Sorted m')
    (hfind : ∀ key, find? key m = find? key m') : m = m' := by
  have hmem (p : String × α) : p ∈ m ↔ p ∈ m' := by
    obtain ⟨k, v⟩ := p
    constructor
    · exact fun hp => mem_of_find? ((hfind k).symm.trans (find?_of_mem h.nodup_keys hp))
    · exact fun hp => mem_of_find? ((hfind k).trans (find?_of_mem h'.nodup_keys hp))
  have hperm : m.Perm m' :=
    (List.perm_ext_iff_of_nodup h.nodup h'.nodup).2 hmem
  refine hperm.eq_of_pairwise (fun p q _ _ hpq hqp => absurd hqp (String.lt_asymm hpq)) h h'

end Assoc

/-- Items with one name are equal, where the names of a list are distinct. -/
theorem eq_of_nodup_filterMap {α β : Type} {g : α → Option β} {l : List α} {a b : α} {c : β}
    (hnd : (l.filterMap g).Nodup) (ha : a ∈ l) (hb : b ∈ l) (hga : g a = some c)
    (hgb : g b = some c) : a = b := by
  induction l with
  | nil => cases ha
  | cons x l ih =>
    rw [List.filterMap_cons] at hnd
    cases hx : g x with
    | none =>
      rw [hx] at hnd
      have hne (y : α) (hy : g y = some c) : y ≠ x := fun he => by rw [he, hx] at hy; cases hy
      exact ih hnd ((List.mem_cons.1 ha).resolve_left (hne a hga))
        ((List.mem_cons.1 hb).resolve_left (hne b hgb))
    | some d =>
      rw [hx] at hnd
      have hrest := (List.nodup_cons.1 hnd).1
      have hfirst (y : α) (hy : y ∈ l) (hgy : g y = some c) : d ≠ c := fun he =>
        hrest (List.mem_filterMap.2 ⟨y, hy, he ▸ hgy⟩)
      rcases List.mem_cons.1 ha with rfl | hal <;> rcases List.mem_cons.1 hb with rfl | hbl
      · rfl
      · exact absurd (Option.some.inj (hx.symm.trans hga)) (hfirst b hbl hgb)
      · exact absurd (Option.some.inj (hx.symm.trans hgb)) (hfirst a hal hga)
      · exact ih (List.nodup_cons.1 hnd).2 hal hbl

/-- Where the keys of a list of pairs are distinct, a look-up finds just the pairs of the list. -/
theorem lookup_eq_some_iff_mem {α : Type} {l : List (String × α)} (hnd : (l.map (·.1)).Nodup)
    {key : String} {v : α} : l.lookup key = some v ↔ (key, v) ∈ l := by
  induction l with
  | nil => simp
  | cons p rest ih =>
    obtain ⟨k, w⟩ := p
    obtain ⟨hfirst, hrest⟩ := List.nodup_cons.1 hnd
    rw [List.lookup_cons, List.mem_cons]
    by_cases hk : key = k
    · subst hk
      have hnot : (key, v) ∉ rest := fun h => hfirst (List.mem_map.2 ⟨_, h, rfl⟩)
      simp [hnot, eq_comm]
    · rw [beq_false_of_ne hk]
      simp [hk, ih hrest]

theorem bind_eq_ok {ε α β : Type} {x : Except ε α} {f : α → Except ε β} {b : β} :
    x.bind f = .ok b ↔ ∃ a, x = .ok a ∧ f a = .ok b := by
  cases x <;> simp [Except.bind]

theorem map_eq_ok {ε α β : Type} {x : Except ε α} {f : α → β} {b : β} :
    x.map f = .ok b ↔ ∃ a, x = .ok a ∧ f a = b := by
  cases x <;> simp [Except.map]

theorem map_eq_error {ε α β : Type} {x : Except ε α} {f : α → β} {e : ε} :
    x.map f = .error e ↔ x = .error e := by
  cases x <;> simp [Except.map]

theorem eq_ok_of_toOption {ε α : Type} {x : Except ε α} {a : α} (h : x.toOption = some a) :
    x = .ok a := by
  cases x with
  | error e => cases h
  | ok b => cases h; rfl

theorem exists_mapM {ε α β : Type} {f : α → Except ε β} {l : List α}
    (h : ∀ a ∈ l, ∃ b, f a = .ok b) : ∃ bs, l.mapM f = .ok bs := by
  induction l with
  | nil => exact ⟨[], rfl⟩
  | cons a l ih =>
    obtain ⟨b, hb⟩ := h a (.head _)
    obtain ⟨bs, hbs⟩ := ih fun a ha => h a (.tail _ ha)
    exact ⟨b :: bs, by rw [List.mapM_cons, hb, hbs]; rfl⟩

theorem exists_of_mapM_eq_error {ε α β : Type} {f : α → Except ε β} {l : List α} {e : ε}
    (h : l.mapM f = .error e) : ∃ a ∈ l, f a = .error e := by
  induction l with
  | nil => cases h
  | cons a l ih =>
    rw [List.mapM_cons] at h
    cases ha : f a with
    | error e' =>
      rw [ha] at h
      cases h
      exact ⟨a, .head _, ha⟩
    | ok b =>
      rw [ha] at h
      cases hl : l.mapM f with
      | error e' =>
        have he : e' = e := by
          rw [hl] at h
          exact Except.error.inj h
        obtain ⟨a', hmem, ha'⟩ := ih (he ▸ hl)
        exact ⟨a', .tail _ hmem, ha'⟩
      | ok bs =>
        rw [hl] at h
        cases h

theorem exists_filterMapM {ε α β : Type} {f : α → Except ε (Option β)} {l : List α}
    (h : ∀ a ∈ l, ∃ o, f a = .ok o) :
    ∃ bs, l.filterMapM f = .ok bs ∧ ∀ a ∈ l, ∀ b, f a = .ok (some b) → b ∈ bs := by
  induction l with
  | nil => exact ⟨[], rfl, nofun⟩
  | cons a l ih =>
    obtain ⟨o, ho⟩ := h a (.head _)
    obtain ⟨bs, hbs, hmem⟩ := ih fun a ha => h a (.tail _ ha)
    refine ⟨o.toList ++ bs, ?_, fun x hx b hb => ?_⟩
    · rw [List.filterMapM_cons, ho, hbs]
      cases o <;> rfl
    · rcases List.mem_cons.1 hx with rfl | hx
      · cases ho.symm.trans hb
        exact .head _
      · exact List.mem_append_right _ (hmem x hx b hb)

end HttpService
