import HttpService.Binding.Zero
import HttpService.Proofs.Basic

/-!
# Filling only adds

`Completed F id ms ms'`: the members `ms'` of a struct arise from `ms` by giving zero values to fields
without one, in nested structs as well. Nothing else happens when members are filled
(`completes_extension`), and every field has a member afterwards (`exists_find?_foldl_fillField`). Where no
two fields share a key, `find?_foldl_fillField` says for each key what stands under it afterwards.
-/

set_option autoImplicit false

namespace HttpService

theorem Shape.struct?_eq_some {s : Shape} {id : StructId} :
    s.struct? = some id ↔ s.unwrap = .struct id := by
  unfold Shape.struct?
  cases s.unwrap <;> simp

namespace Binding

/-- Members of the struct `id` after some of its fields, or of the fields of its nested structs, took
their zero values. -/
inductive Completed (F : Family) : StructId → Assoc Json → Assoc Json → Prop
  | refl (id : StructId) (ms : Assoc Json) : Completed F id ms ms
  /-- A field without a value takes the zero value of its shape. -/
  | add {id : StructId} {ms ms' : Assoc Json} {f : Field} (room : Nat) (mem : f ∈ (F.get id).fields)
      (kept : f.skip = false) (lacks : Assoc.find? f.key ms = none)
      (rest : Completed F id (Assoc.insert f.key (zero F room f.shape) ms) ms') :
      Completed F id ms ms'
  /-- The object of a struct field is completed. -/
  | inside {id inner : StructId} {ms ms' nested nested' : Assoc Json} {f : Field}
      (mem : f ∈ (F.get id).fields) (kept : f.skip = false)
      (has : Assoc.find? f.key ms = some (.obj nested)) (struct : f.shape.struct? = some inner)
      (within : Completed F inner nested nested')
      (rest : Completed F id (Assoc.insert f.key (.obj nested') ms) ms') : Completed F id ms ms'

/-- A value that stays as it is, but that the object of a struct is completed. -/
inductive Settled (F : Family) (s : Shape) : Json → Json → Prop
  | same (v : Json) : Settled F s v v
  | object {id : StructId} {ms ms' : Assoc Json} (struct : s.struct? = some id)
      (within : Completed F id ms ms') : Settled F s (.obj ms) (.obj ms')

theorem Completed.trans {F : Family} {id : StructId} {ms ms' ms'' : Assoc Json}
    (h : Completed F id ms ms') (h' : Completed F id ms' ms'') : Completed F id ms ms'' := by
  induction h with
  | refl => exact h'
  | add room mem kept lacks _ ih => exact .add room mem kept lacks (ih h')
  | inside mem kept has struct within _ _ ih => exact .inside mem kept has struct within (ih h')

/-- A value stays that no field takes for the object of a struct. -/
theorem Completed.find?_eq {F : Family} {id : StructId} {ms ms' : Assoc Json} {key : String} {v : Json}
    (h : Completed F id ms ms')
    (hplain : ∀ f ∈ (F.get id).fields, f.key = key → f.shape.struct? = none)
    (hv : Assoc.find? key ms = some v) : Assoc.find? key ms' = some v := by
  induction h with
  | refl => exact hv
  | @add id ms ms' f room mem kept lacks _ ih =>
    have hne : key ≠ f.key := fun he => by rw [he, lacks] at hv; cases hv
    exact ih hplain (by rw [Assoc.find?_insert_of_ne hne, hv])
  | @inside id inner ms ms' nested nested' f mem kept has struct _ _ _ ih =>
    have hne : key ≠ f.key := fun he => by rw [hplain f mem he.symm] at struct; cases struct
    exact ih hplain (by rw [Assoc.find?_insert_of_ne hne, hv])

/-- What stands under the key of a field once it is filled. -/
def settle (inner : StructId → Option Extension) (f : Field) : Option Json → Json
  | none => zeroWith inner f.shape
  | some (.obj nested) =>
    match f.shape.struct?.bind inner with
    | some extend => .obj (extend nested)
    | none => .obj nested
  | some v => v

theorem find?_fillField (inner : StructId → Option Extension) (ms : Assoc Json) (f : Field)
    (key : String) :
    Assoc.find? key (fillField inner ms f) =
      if key = f.key then some (settle inner f (Assoc.find? f.key ms))
      else Assoc.find? key ms := by
  have hkept : ∀ v, Assoc.find? f.key ms = some v →
      Assoc.find? key ms = if key = f.key then some v else Assoc.find? key ms := by
    intro v hv
    split
    · rename_i hk
      rw [hk, hv]
    · rfl
  unfold fillField
  cases hv : Assoc.find? f.key ms with
  | none => rw [Assoc.find?_insert]; rfl
  | some v =>
    cases v with
    | obj nested =>
      cases he : f.shape.struct?.bind inner with
      | none => simpa [settle, he] using hkept _ hv
      | some extend => simp [settle, he, Assoc.find?_insert]
    | _ => exact hkept _ hv

/-! ## Filling as completion -/

section
variable {F : Family}

/-- Every extension of a struct completes its members. -/
def Completes (F : Family) (inner : StructId → Option Extension) : Prop :=
  ∀ id extend, inner id = some extend → ∀ ms, Completed F id ms (extend ms)

theorem settled_settle {room : Nat} (h : Completes F (extension F room)) (f : Field) (v : Json) :
    Settled F f.shape v (settle (extension F room) f (some v)) := by
  cases v with
  | obj nested =>
    cases he : f.shape.struct?.bind (extension F room) with
    | none =>
      simp only [settle, he]
      exact .same _
    | some extend =>
      obtain ⟨id, hid, hext⟩ := Option.bind_eq_some_iff.1 he
      simp only [settle, he]
      exact .object hid (h id extend hext nested)
  | _ => exact .same _

theorem completed_fillField {room : Nat} (h : Completes F (extension F room)) {id : StructId}
    {f : Field} (hf : f ∈ (F.get id).fields) (hs : f.skip = false) (ms : Assoc Json) :
    Completed F id ms (fillField (extension F room) ms f) := by
  unfold fillField
  split
  · rename_i hfind
    exact .add room hf hs hfind (.refl id _)
  · rename_i nested hfind
    split
    · rename_i extend he
      obtain ⟨inner, hid, hext⟩ := Option.bind_eq_some_iff.1 he
      exact .inside hf hs hfind hid (h inner extend hext nested) (.refl id _)
    · exact .refl id ms
  · exact .refl id ms

theorem completed_foldl {room : Nat} (h : Completes F (extension F room)) {id : StructId} :
    ∀ {fs : List Field} (ms : Assoc Json), (∀ f ∈ fs, f ∈ (F.get id).fields ∧ f.skip = false) →
      Completed F id ms (fs.foldl (fillField (extension F room)) ms)
  | [], ms, _ => .refl id ms
  | f :: _, ms, hfs =>
    have ⟨hf, hs⟩ := hfs f (.head _)
    (completed_fillField h hf hs ms).trans
      (completed_foldl h _ fun g hg => hfs g (.tail _ hg))

/-- Filling completes, however many levels are left. -/
theorem completes_extension (F : Family) (room : Nat) : Completes F (extension F room) := by
  induction room with
  | zero => intro id extend he; cases he
  | succ room ih =>
    rintro id extend he ms
    cases he
    refine completed_foldl ih ms fun f hf => ?_
    rw [List.mem_filter] at hf
    exact ⟨hf.1, by simpa using hf.2⟩

end

/-! ## Filling key by key -/

/-- No two fields that are kept share a key, in any struct. -/
def DistinctKeys (F : Family) : Prop :=
  ∀ id, (((F.get id).fields.filter (!·.skip)).map Field.key).Nodup

/-- No key is lost, and the key of every field is there afterwards. -/
theorem exists_find?_foldl_fillField (inner : StructId → Option Extension) {fs : List Field}
    {ms : Assoc Json} {key : String}
    (h : (∃ v, Assoc.find? key ms = some v) ∨ ∃ f ∈ fs, f.key = key) :
    ∃ v, Assoc.find? key (fs.foldl (fillField inner) ms) = some v := by
  induction fs generalizing ms with
  | nil => simpa using h
  | cons g fs ih =>
    refine ih ?_
    rw [find?_fillField]
    by_cases hkey : key = g.key
    · exact .inl ⟨_, if_pos hkey⟩
    · rw [if_neg hkey]
      refine h.imp_right ?_
      rintro ⟨f, hf, rfl⟩
      exact ⟨f, (List.mem_cons.1 hf).resolve_left fun he => hkey (he ▸ rfl), rfl⟩

theorem find?_foldl_fillField (inner : StructId → Option Extension) :
    ∀ {fs : List Field} (ms : Assoc Json), (fs.map Field.key).Nodup →
      (∀ key, key ∉ fs.map Field.key →
        Assoc.find? key (fs.foldl (fillField inner) ms) = Assoc.find? key ms) ∧
      ∀ f ∈ fs, Assoc.find? f.key (fs.foldl (fillField inner) ms) =
        some (settle inner f (Assoc.find? f.key ms))
  | [], ms, _ => ⟨fun _ _ => rfl, by simp⟩
  | g :: fs, ms, hnd => by
    rw [List.map_cons, List.nodup_cons] at hnd
    obtain ⟨hother, hown⟩ := find?_foldl_fillField inner (fillField inner ms g) hnd.2
    rw [List.foldl_cons]
    refine ⟨fun key hk => ?_, fun f hf => ?_⟩
    · rw [List.map_cons, List.mem_cons, not_or] at hk
      rw [hother key hk.2, find?_fillField, if_neg hk.1]
    · rcases List.mem_cons.1 hf with rfl | hf
      · rw [hother f.key hnd.1, find?_fillField, if_pos rfl]
      · have hne : f.key ≠ g.key := fun he => hnd.1 (he ▸ List.mem_map_of_mem hf)
        rw [hown f hf, find?_fillField, if_neg hne]

theorem sorted_foldl_fillField {inner : StructId → Option Extension} {fs : List Field}
    {ms : Assoc Json} (hs : Assoc.Sorted ms) : Assoc.Sorted (fs.foldl (fillField inner) ms) := by
  induction fs generalizing ms with
  | nil => exact hs
  | cons f fs ih =>
    refine ih ?_
    unfold fillField
    split
    · exact Assoc.sorted_insert hs
    · split
      · exact Assoc.sorted_insert hs
      · exact hs
    · exact hs

end Binding

end HttpService
