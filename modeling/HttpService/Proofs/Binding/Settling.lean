import HttpService.Binding.Depth
import HttpService.Proofs.Binding.Filling

/-!
# Filled objects stay as they are

Structs may contain themselves, so that what ends a fill is its depth: `fillAt` and `zeroAt` have at most two
calls open for each level that is left (`fillAt_eq`, `zeroAt_eq`), and give what `fill` and `zero` give with
that many levels of room.

* `Extends`: a value is kept, or it is an object that keeps its members, which are extended in turn. Filling
  extends an object (`extends_fillFields`);
* `settle_settle`: a member that was settled once is not changed by settling it again. So filling an object
  again changes nothing (`fillFields_fillFields`), also where structs have become null for want of room.

`filling_only_adds` is all of it, for a fill at any depth.
-/

set_option autoImplicit false

namespace HttpService.Binding

section
variable {F : Family}

/-! ## Open calls -/

/-- A level less of room is one level deeper. -/
theorem extension_depth (depth : Nat) (id : StructId) :
    extension F (maxDepth - depth) id =
      if depth < maxDepth then some (fill F (maxDepth - (depth + 1)) (F.get id)) else none := by
  split
  · rename_i h
    have hroom : maxDepth - depth = maxDepth - (depth + 1) + 1 := by omega
    rw [hroom]
    rfl
  · rename_i h
    have hroom : maxDepth - depth = 0 := by omega
    rw [hroom]
    rfl

/-- Where the zero values of a depth and the fills one level deeper are those of a level of room less, so is
what is done for a field. -/
theorem fillFieldAt_eq {depth : Nat} {zeroed : Shape → Option Json}
    {deeper : Struct → Assoc Json → Option (Assoc Json)}
    (hzeroed : ∀ s, zeroed s = some (zero F (maxDepth - depth) s))
    (hdeeper : depth < maxDepth →
      ∀ st ms, deeper st ms = some (fill F (maxDepth - (depth + 1)) st ms))
    (ms : Assoc Json) (f : Field) :
    fillFieldAt F depth zeroed deeper ms f =
      some (fillField (extension F (maxDepth - depth)) ms f) := by
  unfold fillFieldAt fillField
  cases Assoc.find? f.key ms with
  | none => simp only [hzeroed, Option.map_some, zero]
  | some v =>
    cases v with
    | obj nested =>
      cases f.shape.struct? with
      | none => rfl
      | some id =>
        simp only [Option.bind_some, extension_depth]
        split
        · rename_i hdepth
          simp only [hdeeper hdepth, Option.map_some]
        · rfl
    | _ => rfl

/-- With two calls for each level that is left, and two for the level itself, a fill ends. -/
theorem fillAt_eq_and_zeroAt_eq (calls : Nat) :
    (∀ depth, 2 * (maxDepth - depth) + 2 ≤ calls →
      ∀ st ms, fillAt F calls depth st ms = some (fill F (maxDepth - depth) st ms)) ∧
    ∀ depth, 2 * (maxDepth - depth) + 1 ≤ calls →
      ∀ s, zeroAt F calls depth s = some (zero F (maxDepth - depth) s) := by
  induction calls with
  | zero => exact ⟨fun _ h => by omega, fun _ h => by omega⟩
  | succ calls ih =>
    obtain ⟨ihfill, ihzero⟩ := ih
    refine ⟨fun depth hcalls st ms => ?_, fun depth hcalls s => ?_⟩
    · have hstep := fillFieldAt_eq (F := F) (ihzero depth (by omega))
        fun hdepth => ihfill (depth + 1) (by omega)
      rw [fillAt, funext fun ms => funext (hstep ms)]
      exact List.foldlM_pure
    · cases s with
      | struct id =>
        rw [zeroAt, zero, zeroWith, extension_depth]
        split
        · rename_i hdepth
          rw [ihfill (depth + 1) (by omega), Option.map_some]
        · rfl
      | _ => rw [zeroAt]; rfl

theorem fillAt_eq {calls depth : Nat} (h : 2 * (maxDepth - depth) + 2 ≤ calls) (st : Struct)
    (ms : Assoc Json) : fillAt F calls depth st ms = some (fill F (maxDepth - depth) st ms) :=
  (fillAt_eq_and_zeroAt_eq calls).1 depth h st ms

theorem zeroAt_eq {calls depth : Nat} (h : 2 * (maxDepth - depth) + 1 ≤ calls) (s : Shape) :
    zeroAt F calls depth s = some (zero F (maxDepth - depth) s) :=
  (fillAt_eq_and_zeroAt_eq calls).2 depth h s

/-! ## Kept members -/

/-- A value is kept, or it is an object of which each member is kept or extended. -/
inductive Extends : Json → Json → Prop
  | same (v : Json) : Extends v v
  | object {ms ms' : Assoc Json}
      (present : ∀ key v, Assoc.find? key ms = some v → ∃ v', Assoc.find? key ms' = some v')
      (kept : ∀ key v v', Assoc.find? key ms = some v → Assoc.find? key ms' = some v' →
        Extends v v') : Extends (.obj ms) (.obj ms')

/-- An object with its members in key order, in those of its members that are objects as well. -/
inductive Ordered : Json → Prop
  | plain {v : Json} (leaf : v.isObject = false) : Ordered v
  | object {ms : Assoc Json} (sorted : Assoc.Sorted ms)
      (members : ∀ key v, Assoc.find? key ms = some v → Ordered v) : Ordered (.obj ms)

theorem Ordered.sorted {ms : Assoc Json} (h : Ordered (.obj ms)) : Assoc.Sorted ms := by
  cases h with
  | plain leaf => cases leaf
  | object sorted _ => exact sorted

theorem Ordered.member {ms : Assoc Json} {key : String} {v : Json} (h : Ordered (.obj ms))
    (hv : Assoc.find? key ms = some v) : Ordered v := by
  cases h with
  | plain leaf => cases leaf
  | object _ members => exact members key v hv

theorem ordered_nil : Ordered (.obj []) :=
  .object .nil nofun

variable {inner : StructId → Option Extension} {fields : List Field}

/-- What stands under a key of an object that was filled. -/
theorem find?_fillFields (hnd : ((fields.filter (!·.skip)).map Field.key).Nodup) (ms : Assoc Json)
    (key : String) :
    Assoc.find? key (fillFields inner fields ms) =
      match (fields.filter (!·.skip)).find? (·.key = key) with
      | some f => some (settle inner f (Assoc.find? key ms))
      | none => Assoc.find? key ms := by
  obtain ⟨hother, hown⟩ := find?_foldl_fillField inner ms hnd
  cases hfind : (fields.filter (!·.skip)).find? (·.key = key) with
  | none =>
    refine hother key fun hmem => ?_
    obtain ⟨f, hf, hkey⟩ := List.mem_map.1 hmem
    simpa [hkey] using List.find?_eq_none.1 hfind f hf
  | some f =>
    obtain rfl : f.key = key := by simpa using List.find?_some hfind
    exact hown f (List.mem_of_find?_eq_some hfind)

/-- Extensions of structs extend objects. -/
def Extending (inner : StructId → Option Extension) : Prop :=
  ∀ id extend, inner id = some extend → ∀ ms, Extends (.obj ms) (.obj (extend ms))

theorem Extending.settle (h : Extending inner) (f : Field) (v : Json) :
    Extends v (settle inner f (some v)) := by
  cases v with
  | obj nested =>
    cases he : f.shape.struct?.bind inner with
    | none =>
      simp only [Binding.settle, he]
      exact .same _
    | some extend =>
      obtain ⟨id, -, hext⟩ := Option.bind_eq_some_iff.1 he
      simp only [Binding.settle, he]
      exact h id extend hext nested
  | _ => exact .same _

theorem Extending.fillFields (h : Extending inner)
    (hnd : ((fields.filter (!·.skip)).map Field.key).Nodup) (ms : Assoc Json) :
    Extends (.obj ms) (.obj (fillFields inner fields ms)) := by
  refine .object (fun key v hv => ?_) fun key v v' hv hv' => ?_
  · rw [find?_fillFields hnd, hv]
    split
    · exact ⟨_, rfl⟩
    · exact ⟨v, rfl⟩
  · rw [find?_fillFields hnd, hv] at hv'
    split at hv'
    · rename_i f _
      exact Option.some.inj hv' ▸ h.settle f v
    · exact Option.some.inj hv' ▸ .same v

/-- **A fill only extends,** however many levels are left. -/
theorem extending_extension (hkeys : DistinctKeys F) (room : Nat) : Extending (extension F room) := by
  induction room with
  | zero => intro id extend he; cases he
  | succ room ih =>
    intro id extend he ms
    cases he
    exact ih.fillFields (hkeys id) ms

/-! ## Settled members -/

/-- Extensions of structs change nothing of what they made. -/
def Idempotent (inner : StructId → Option Extension) : Prop :=
  ∀ id extend, inner id = some extend → ∀ ms, Ordered (.obj ms) → extend (extend ms) = extend ms

/-- A field without a value that is an object has a value that is settled: only the zero value of a struct is
entered again, and that was filled from nothing. -/
theorem Idempotent.settle_settle (h : Idempotent inner) (f : Field) {o : Option Json}
    (ho : ∀ v, o = some v → Ordered v) :
    settle inner f (some (settle inner f o)) = settle inner f o := by
  cases o with
  | none =>
    cases hshape : f.shape with
    | struct id =>
      cases he : inner id with
      | none => simp only [settle, zeroWith, hshape, he]
      | some extend =>
        have hbind : f.shape.struct?.bind inner = some extend := by rw [hshape]; exact he
        have hsettle := h id extend he [] ordered_nil
        simp only [settle, hshape, zeroWith, he]
        simp only [← hshape, hbind, hsettle]
    | map value =>
      have hbind : f.shape.struct?.bind inner = none := by rw [hshape]; rfl
      simp only [settle, hshape, zeroWith]
      simp only [← hshape, hbind]
    | enum variants =>
      simp only [settle, hshape, zeroWith]
      cases variants.head? <;> rfl
    | _ => simp only [settle, hshape, zeroWith] <;> rfl
  | some v =>
    cases v with
    | obj nested =>
      cases he : f.shape.struct?.bind inner with
      | none => simp only [settle, he]
      | some extend =>
        obtain ⟨id, -, hext⟩ := Option.bind_eq_some_iff.1 he
        simp only [settle, he, h id extend hext nested (ho _ rfl)]
    | _ => rfl

theorem Idempotent.fillFields (h : Idempotent inner)
    (hnd : ((fields.filter (!·.skip)).map Field.key).Nodup) {ms : Assoc Json}
    (hms : Ordered (.obj ms)) :
    fillFields inner fields (fillFields inner fields ms) = fillFields inner fields ms := by
  have hsorted : Assoc.Sorted (Binding.fillFields inner fields ms) :=
    sorted_foldl_fillField hms.sorted
  refine Assoc.Sorted.ext (sorted_foldl_fillField hsorted) hsorted fun key => ?_
  rw [find?_fillFields hnd, find?_fillFields hnd]
  split
  · rename_i f _
    exact congrArg some (h.settle_settle f fun v hv => hms.member hv)
  · rfl

/-- **A filled object stays as it is** when it is filled with as many levels again. -/
theorem idempotent_extension (hkeys : DistinctKeys F) (room : Nat) :
    Idempotent (extension F room) := by
  induction room with
  | zero => intro id extend he; cases he
  | succ room ih =>
    intro id extend he ms hms
    cases he
    exact ih.fillFields (hkeys id) hms

end

/-- **Filling ends, only adds, and settles.** In a family whose structs may contain themselves, from any depth
on, above the limit or below it:

* a fill and a zero value are found with two open calls for each level that is left;
* the members of the object are kept, and those that are objects are extended;
* every field that is kept has a member, and what is new is the zero value of such a field;
* to fill the object again changes nothing. -/
theorem filling_only_adds {F : Family} (hkeys : DistinctKeys F) (depth : Nat) (id : StructId)
    (ms : Assoc Json) :
    let filled := fill F (maxDepth - depth) (F.get id) ms
    (∀ calls, 2 * (maxDepth - depth) + 2 ≤ calls →
      fillAt F calls depth (F.get id) ms = some filled) ∧
    (∀ s calls, 2 * (maxDepth - depth) + 1 ≤ calls →
      zeroAt F calls depth s = some (zero F (maxDepth - depth) s)) ∧
    Extends (.obj ms) (.obj filled) ∧
    (∀ f ∈ (F.get id).fields, f.skip = false → ∃ v, Assoc.find? f.key filled = some v) ∧
    (∀ key v, Assoc.find? key ms = none → Assoc.find? key filled = some v →
      ∃ f ∈ (F.get id).fields, f.skip = false ∧ f.key = key ∧
        v = zero F (maxDepth - depth) f.shape) ∧
    (Ordered (.obj ms) → fill F (maxDepth - depth) (F.get id) filled = filled) := by
  intro filled
  have hnd := hkeys id
  refine ⟨fun calls h => fillAt_eq h _ ms, fun s calls h => zeroAt_eq h s,
    (extending_extension hkeys _).fillFields hnd ms, fun f hf hskip => ?_, fun key v hnone hv => ?_,
    (idempotent_extension hkeys _).fillFields hnd⟩
  · exact exists_find?_foldl_fillField _ (.inr ⟨f, by simp [hf, hskip], rfl⟩)
  · have hfind : Assoc.find? key filled = _ := find?_fillFields hnd ms key
    rw [hnone, hv] at hfind
    split at hfind
    · rename_i f hf
      have hmem := List.mem_filter.1 (List.mem_of_find?_eq_some hf)
      exact ⟨f, hmem.1, by simpa using hmem.2, by simpa using List.find?_some hf,
        Option.some.inj hfind⟩
    · cases hfind

/-- A node with a node inside it, filled from the last level but one on: the inner one lacks its child, which
is null there. -/
theorem filled_chain_of_nodes :
    let name : Field := ⟨"name", "name", "", "", false, .string⟩
    let child : Field := ⟨"child", "child", "", "", false, .struct 0⟩
    let F : Family := ⟨[⟨"Node", [name, child]⟩]⟩
    let ms : Assoc Json := [("child", .obj [("name", .str "leaf")]), ("extra", .bool true)]
    let filled : Assoc Json := [("child", .obj [("child", .null), ("name", .str "leaf")]),
      ("extra", .bool true), ("name", .str "")]
    DistinctKeys F ∧ Ordered (.obj ms) ∧ fillAt F 4 31 (F.get 0) ms = some filled ∧
      fill F 1 (F.get 0) filled = filled ∧ Extends (.obj ms) (.obj filled) := by
  intro name child F ms filled
  have hkeys : DistinctKeys F := by
    rintro (_ | id)
    · decide
    · exact List.nodup_nil
  have hms : Ordered (.obj ms) := by
    refine .object (List.pairwise_pair.2 (by decide)) fun key v hv => ?_
    rcases List.mem_cons.1 (Assoc.mem_of_find? hv) with h | h
    · cases h
      refine .object (List.pairwise_singleton _ _) fun key v hv => ?_
      cases List.mem_singleton.1 (Assoc.mem_of_find? hv)
      exact .plain rfl
    · cases List.mem_singleton.1 h
      exact .plain rfl
  have hfill : fill F (maxDepth - 31) (F.get 0) ms = filled := by
    subst F ms filled name child
    with_unfolding_all rfl
  obtain ⟨hends, -, hextends, -, -, hagain⟩ := filling_only_adds hkeys 31 0 ms
  rw [hfill] at hends hextends hagain
  exact ⟨hkeys, hms, hends 4 (by decide), hagain hms, hextends⟩

end HttpService.Binding
