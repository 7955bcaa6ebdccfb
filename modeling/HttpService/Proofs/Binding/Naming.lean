import HttpService.Proofs.Binding.Hidden
import HttpService.Proofs.Binding.Supplied

/-!
# JSON names and keys

`written F s v` is a value as clients write it: at every struct it has JSON names in place of keys, in
maps as well. A body that holds it is gathered into the value again, but for added zero values
(`gathered_of_written`), as long as no struct stands in a map: renaming goes down through fields, optionals
and arrays only, so that a struct in a map keeps the names that the client wrote (`struct_in_map_not_renamed`).
-/

set_option autoImplicit false

namespace HttpService

/-- The field that is stored under a key. -/
def Struct.field? (st : Struct) (key : String) : Option Field :=
  st.dataFields.find? (·.key = key)

namespace Binding

/-- No two fields that are bound share a JSON name, in any struct. -/
def DistinctNames (F : Family) : Prop :=
  ∀ id, ((F.get id).dataFields.filterMap Field.jsonName?).Nodup

/-- A value with JSON names in place of keys. -/
def written (F : Family) (s : Shape) (v : Json) : Json :=
  match v, s.unwrap with
  | .obj ms, .struct id =>
    .ofPairs (ms.attach.map fun p =>
      match (F.get id).field? p.1.1 with
      | some f => (f.jsonName?.getD p.1.1, written F f.shape p.1.2)
      | none => p.1)
  | .obj ms, .map value => .obj (ms.attach.map fun p => (p.1.1, written F value p.1.2))
  | .arr items, .array elem => .arr (items.attach.map fun w => written F elem w.1)
  | v, _ => v
termination_by v
decreasing_by
  · exact Datatype.sizeOf_member_lt p.2
  · exact Datatype.sizeOf_member_lt p.2
  · exact Datatype.sizeOf_item_lt w.2

section
variable {F : Family}

/-- A member of a struct under the JSON name of its field. -/
def writtenMember (F : Family) (st : Struct) (p : String × Json) : String × Json :=
  match st.field? p.1 with
  | some f => (f.jsonName?.getD p.1, written F f.shape p.2)
  | none => p

theorem written_struct {s : Shape} {id : StructId} (hs : s.struct? = some id) (ms : Assoc Json) :
    written F s (.obj ms) = .ofPairs (ms.map (writtenMember F (F.get id))) := by
  rw [written.eq_def, Shape.struct?_eq_some.1 hs]
  exact congrArg Json.ofPairs (List.attach_map_val (f := writtenMember F (F.get id)))

theorem written_map {s value : Shape} (hs : s.unwrap = .map value) (ms : Assoc Json) :
    written F s (.obj ms) = .obj (ms.map fun p => (p.1, written F value p.2)) := by
  rw [written.eq_def, hs]
  exact congrArg Json.obj (List.attach_map_val (f := fun p : String × Json => (p.1, written F value p.2)))

theorem written_array {s elem : Shape} (hs : s.unwrap = .array elem) (items : List Json) :
    written F s (.arr items) = .arr (items.map (written F elem)) := by
  rw [written.eq_def, hs]
  exact congrArg Json.arr List.attach_map_val

/-- A value of a shape, with at most `depth` containers on the way to any of its parts. The members of a
struct stand in key order, under the keys of fields with JSON names. -/
inductive Conforms (F : Family) : Nat → Shape → Json → Prop
  | scalar {depth : Nat} {s : Shape} {v : Json} (plain : v.items? = none) (bare : v.isObject = false) :
      Conforms F depth s v
  | any {depth : Nat} {s : Shape} {v : Json} (struct : s.struct? = none)
      (array : ∀ elem, s.unwrap ≠ .array elem) (map : ∀ value, s.unwrap ≠ .map value) :
      Conforms F depth s v
  | object {depth : Nat} {s : Shape} {id : StructId} {ms : Assoc Json} (struct : s.struct? = some id)
      (sorted : Assoc.Sorted ms)
      (named : ∀ key v, (key, v) ∈ ms →
        ∃ f ∈ (F.get id).dataFields, f.key = key ∧ f.jsonName? ≠ none)
      (members : ∀ f ∈ (F.get id).dataFields, ∀ v, (f.key, v) ∈ ms → Conforms F depth f.shape v) :
      Conforms F (depth + 1) s (.obj ms)
  | map {depth : Nat} {s value : Shape} {ms : Assoc Json} (map : s.unwrap = .map value)
      (entries : ∀ key v, (key, v) ∈ ms → Conforms F depth value v) :
      Conforms F (depth + 1) s (.obj ms)
  | array {depth : Nat} {s elem : Shape} {items : List Json} (array : s.unwrap = .array elem)
      (parts : ∀ v ∈ items, Conforms F depth elem v) : Conforms F (depth + 1) s (.arr items)

/-! ## Renaming an object -/

section
variable {place : Shape → Json → Json} {fs : List Field}

theorem sorted_renameMembers {rest out : Assoc Json} (h : Assoc.Sorted out) :
    Assoc.Sorted (Gather.renameMembers place fs rest out) := by
  induction fs generalizing rest out with
  | nil => exact h
  | cons f fs ih =>
    unfold Gather.renameMembers
    split
    · exact ih h
    · split
      · exact ih h
      · exact ih (Assoc.sorted_insert h)

/-- Where names and keys are distinct, each field gets the member under its name. -/
theorem find?_renameMembers (rest out : Assoc Json) (hkeys : (fs.map Field.key).Nodup)
    (hnames : (fs.filterMap Field.jsonName?).Nodup) :
    (∀ key, key ∉ fs.map Field.key →
      Assoc.find? key (Gather.renameMembers place fs rest out) = Assoc.find? key out) ∧
    ∀ f ∈ fs, Assoc.find? f.key (Gather.renameMembers place fs rest out) =
      ((f.jsonName?.bind (Assoc.find? · rest)).map (place f.shape)).or (Assoc.find? f.key out) := by
  induction fs generalizing rest out with
  | nil => exact ⟨fun _ _ => rfl, nofun⟩
  | cons f fs ih =>
    rw [List.map_cons, List.nodup_cons] at hkeys
    have hne (g : Field) (hg : g ∈ fs) : g.key ≠ f.key := fun he =>
      hkeys.1 (he ▸ List.mem_map_of_mem hg)
    have hsplit (key : String) (hk : key ∉ (f :: fs).map Field.key) :
        key ≠ f.key ∧ key ∉ fs.map Field.key := by simpa using hk
    rw [Gather.renameMembers]
    cases hname : f.jsonName? with
    | none =>
      rw [List.filterMap_cons, hname] at hnames
      obtain ⟨hother, hown⟩ := ih rest out hkeys.2 hnames
      refine ⟨fun key hk => hother key (hsplit key hk).2, fun g hg => ?_⟩
      rcases List.mem_cons.1 hg with rfl | hg
      · rw [hname]
        exact hother g.key hkeys.1
      · exact hown g hg
    | some name =>
      rw [List.filterMap_cons, hname, List.nodup_cons] at hnames
      cases hv : Assoc.find? name rest with
      | none =>
        obtain ⟨hother, hown⟩ := ih rest out hkeys.2 hnames.2
        simp only [hv]
        refine ⟨fun key hk => hother key (hsplit key hk).2, fun g hg => ?_⟩
        rcases List.mem_cons.1 hg with rfl | hg
        · rw [hname, Option.bind_some, hv]
          exact hother g.key hkeys.1
        · exact hown g hg
      | some v =>
        obtain ⟨hother, hown⟩ := ih (Assoc.erase name rest)
          (Assoc.insert f.key (place f.shape v) out) hkeys.2 hnames.2
        simp only [hv]
        refine ⟨fun key hk => ?_, fun g hg => ?_⟩
        · rw [hother key (hsplit key hk).2, Assoc.find?_insert_of_ne (hsplit key hk).1]
        · rcases List.mem_cons.1 hg with rfl | hg
          · rw [hother g.key hkeys.1, Assoc.find?_insert_self, hname, Option.bind_some, hv]
            rfl
          · rw [hown g hg, Assoc.find?_insert_of_ne (hne g hg)]
            cases hg' : g.jsonName? with
            | none => rfl
            | some other =>
              have : other ≠ name := fun he => hnames.1 (List.mem_filterMap.2 ⟨g, hg, he ▸ hg'⟩)
              rw [Option.bind_some, Option.bind_some, Assoc.find?_erase_of_ne this]

/-- The members of a body are renamed as those of any struct, where no key is taken already. -/
theorem fromObject_eq_renameMembers {rest ms : Assoc Json} (hkeys : (fs.map Field.key).Nodup)
    (h : ∀ f ∈ fs, Assoc.find? f.key ms = none) :
    Gather.fromObject F fs rest ms =
      Gather.renameMembers (Gather.rename F maxDepth) fs rest ms := by
  induction fs generalizing rest ms with
  | nil => rfl
  | cons f fs ih =>
    rw [List.map_cons, List.nodup_cons] at hkeys
    have htail : ∀ g ∈ fs, Assoc.find? g.key ms = none := fun g hg => h g (.tail _ hg)
    rw [Gather.fromObject, Gather.renameMembers, Assoc.contains_eq_false.2 (h f (.head _))]
    cases f.jsonName? with
    | none => exact ih hkeys.2 htail
    | some name =>
      cases hv : Assoc.find? name rest with
      | none =>
        simp only [Bool.false_eq_true, if_false, hv]
        exact ih hkeys.2 htail
      | some v =>
        simp only [Bool.false_eq_true, if_false, hv]
        refine ih hkeys.2 fun g hg => ?_
        have hne : g.key ≠ f.key := fun he => hkeys.1 (he ▸ List.mem_map_of_mem hg)
        rw [Assoc.find?_insert_of_ne hne, htail g hg]

end

/-! ## Reading what was written -/

section
variable {s : Shape} {v : Json}

theorem written_of_scalar (s : Shape) (hplain : v.items? = none) (hbare : v.isObject = false) :
    written F s v = v := by
  rw [written.eq_def]
  cases v with
  | obj ms => cases hbare
  | arr items => cases hplain
  | _ => rfl

theorem rename_of_scalar (room : Nat) (s : Shape) (hplain : v.items? = none)
    (hbare : v.isObject = false) : Gather.rename F room s v = v := by
  cases room with
  | zero => rfl
  | succ room =>
    cases v with
    | obj ms => cases hbare
    | arr items => cases hplain
    | _ => rfl

theorem rename_of_shape (room : Nat) (hstruct : s.struct? = none)
    (harray : ∀ elem, s.unwrap ≠ .array elem) : Gather.rename F room s v = v := by
  cases room with
  | zero => rfl
  | succ room =>
    unfold Gather.rename
    split
    · rename_i hs
      rw [Shape.struct?_eq_some.2 hs] at hstruct
      cases hstruct
    · rename_i hs
      exact absurd hs (harray _)
    · rfl

theorem written_of_shape (hstruct : s.struct? = none) (harray : ∀ elem, s.unwrap ≠ .array elem)
    (hmap : ∀ value, s.unwrap ≠ .map value) : written F s v = v := by
  rw [written.eq_def]
  split
  · rename_i hs
    rw [Shape.struct?_eq_some.2 hs] at hstruct
    cases hstruct
  · rename_i hs
    exact absurd hs (hmap _)
  · rename_i hs
    exact absurd hs (harray _)
  · rfl

theorem written_map_eq_self {value : Shape} (hs : s.unwrap = .map value) {ms : Assoc Json}
    (hentries : ∀ p ∈ ms, written F value p.2 = p.2) : written F s (.obj ms) = .obj ms := by
  rw [written_map hs]
  refine congrArg Json.obj ((List.map_congr_left fun p hp => ?_).trans (List.map_id ms))
  rw [hentries p hp]
  rfl

/-- A value without objects of structs is written as it is. -/
theorem written_eq_self {depth : Nat} (h : Conforms F depth s v)
    (hnone : ∀ path t ms, Leads F path s v t (.obj ms) → t.struct? = none) : written F s v = v := by
  induction h with
  | scalar plain bare => exact written_of_scalar _ plain bare
  | any struct array map => exact written_of_shape struct array map
  | object struct => rw [hnone [] _ _ (.here _ _)] at struct; cases struct
  | map map _ ih =>
    exact written_map_eq_self map fun p hp =>
      ih p.1 p.2 hp fun path t inner hpath => hnone _ t inner (.entry map hp hpath)
  | @array depth s elem items array _ ih =>
    rw [written_array array]
    refine congrArg Json.arr ((List.map_congr_left fun v hv => ?_).trans (List.map_id items))
    obtain ⟨index, hindex⟩ := List.mem_iff_getElem?.1 hv
    exact ih v hv fun path t inner hpath => hnone _ t inner (.item array hindex hpath)

end

section
variable {id : StructId} {ms : Assoc Json} (hkeys : ((F.get id).dataFields.map Field.key).Nodup)
  (hnames : ((F.get id).dataFields.filterMap Field.jsonName?).Nodup) (hsorted : Assoc.Sorted ms)
  (hnamed : ∀ key v, (key, v) ∈ ms →
    ∃ f ∈ (F.get id).dataFields, f.key = key ∧ f.jsonName? ≠ none)

include hkeys in
theorem writtenMember_eq {f : Field} (hf : f ∈ (F.get id).dataFields) {name : String}
    (hname : f.jsonName? = some name) (v : Json) :
    writtenMember F (F.get id) (f.key, v) = (name, written F f.shape v) := by
  have hfield : (F.get id).field? f.key = some f := by
    unfold Struct.field?
    cases hfind : (F.get id).dataFields.find? (·.key = f.key) with
    | none => simpa using List.find?_eq_none.1 hfind f hf
    | some g =>
      have hkey : g.key = f.key := by simpa using List.find?_some hfind
      rw [List.inj_on_of_nodup_map hkeys (List.mem_of_find?_eq_some hfind) hf hkey]
  simp [writtenMember, hfield, hname]

include hkeys hnames hsorted hnamed

/-- The names of what was written are distinct, as the keys were. -/
theorem nodup_written : ((ms.map (writtenMember F (F.get id))).map (·.1)).Nodup := by
  rw [List.map_map]
  refine List.Nodup.map_on (fun p hp q hq hpq => ?_) hsorted.nodup
  obtain ⟨f, hf, hfkey, hfname⟩ := hnamed p.1 p.2 hp
  obtain ⟨g, hg, hgkey, hgname⟩ := hnamed q.1 q.2 hq
  obtain ⟨n, hn⟩ := Option.ne_none_iff_exists'.1 hfname
  obtain ⟨m, hm⟩ := Option.ne_none_iff_exists'.1 hgname
  have hpn := writtenMember_eq hkeys hf hn p.2
  have hqm := writtenMember_eq hkeys hg hm q.2
  rw [hfkey] at hpn
  rw [hgkey] at hqm
  have hnm : n = m := by simpa [hpn, hqm] using hpq
  have hfg := eq_of_nodup_filterMap hnames hf hg hn (hnm ▸ hm)
  exact List.inj_on_of_nodup_map hsorted.nodup_keys hp hq (hfkey.symm.trans (hfg ▸ hgkey))

theorem find?_written {f : Field} (hf : f ∈ (F.get id).dataFields) {name : String}
    (hname : f.jsonName? = some name) :
    Assoc.find? name (Assoc.ofList (ms.map (writtenMember F (F.get id)))) =
      (Assoc.find? f.key ms).map (written F f.shape) := by
  have hnodup := nodup_written hkeys hnames hsorted hnamed
  rw [Assoc.find?_ofList hnodup]
  cases hv : Assoc.find? f.key ms with
  | some v =>
    refine Assoc.find?_of_mem hnodup (List.mem_map.2 ⟨_, Assoc.mem_of_find? hv, ?_⟩)
    exact writtenMember_eq hkeys hf hname v
  | none =>
    refine Assoc.find?_eq_none_iff.2 fun hmem => Assoc.find?_eq_none_iff.1 hv ?_
    obtain ⟨_, hp, hpname⟩ := List.mem_map.1 hmem
    obtain ⟨⟨key, v⟩, hin, rfl⟩ := List.mem_map.1 hp
    obtain ⟨g, hg, rfl, hgname⟩ := hnamed key v hin
    obtain ⟨m, hm⟩ := Option.ne_none_iff_exists'.1 hgname
    rw [writtenMember_eq hkeys hg hm] at hpname
    obtain rfl : m = name := hpname
    obtain rfl := eq_of_nodup_filterMap hnames hg hf hm hname
    exact List.mem_map.2 ⟨_, hin, rfl⟩

/-- Renaming undoes the naming of the members of a struct, where it does so for each part. -/
theorem renameMembers_written {place : Shape → Json → Json}
    (hparts : ∀ f ∈ (F.get id).dataFields, ∀ v, (f.key, v) ∈ ms →
      place f.shape (written F f.shape v) = v) :
    Gather.renameMembers place (F.get id).dataFields
      (Assoc.ofList (ms.map (writtenMember F (F.get id)))) [] = ms := by
  obtain ⟨hother, hown⟩ := @find?_renameMembers place _
    (Assoc.ofList (ms.map (writtenMember F (F.get id)))) [] hkeys hnames
  -- Both sides are in key order, so it is enough that each key has the same value.
  refine (sorted_renameMembers List.Pairwise.nil).ext hsorted fun key => ?_
  by_cases hkey : key ∈ (F.get id).dataFields.map Field.key
  · obtain ⟨f, hf, rfl⟩ := List.mem_map.1 hkey
    rw [hown f hf]
    cases hname : f.jsonName? with
    | some name =>
      rw [Option.bind_some, find?_written hkeys hnames hsorted hnamed hf hname]
      cases hv : Assoc.find? f.key ms with
      | none => rfl
      | some v => simp [hparts f hf v (Assoc.mem_of_find? hv)]
    | none =>
      refine (Option.eq_none_iff_forall_ne_some.2 fun v hv => ?_).symm
      obtain ⟨g, hg, hgkey, hgname⟩ := hnamed _ v (Assoc.mem_of_find? hv)
      rw [List.inj_on_of_nodup_map hkeys hg hf hgkey] at hgname
      exact hgname hname
  · rw [hother key hkey]
    refine (Option.eq_none_iff_forall_ne_some.2 fun v hv => hkey ?_).symm
    obtain ⟨g, hg, rfl, _⟩ := hnamed key v (Assoc.mem_of_find? hv)
    exact List.mem_map_of_mem hg

end

/-- **Renaming undoes writing**, as deep as it goes, where no object of a struct stands in a map. -/
theorem rename_written (hkeys : DistinctKeys F) (hnames : DistinctNames F) {depth : Nat} {s : Shape}
    {v : Json} (h : Conforms F depth s v)
    (hmaps : ∀ path t ms, Leads F path s v t (.obj ms) → t.struct? ≠ none →
      ∀ key, Step.entry key ∉ path) :
    Gather.rename F depth s (written F s v) = v := by
  induction h with
  | scalar plain bare =>
    rw [written_of_scalar _ plain bare, rename_of_scalar _ _ plain bare]
  | any struct array map =>
    rw [written_of_shape struct array map, rename_of_shape _ struct array]
  | @object depth s id ms struct sorted named members ih =>
    have hparts : ∀ f ∈ (F.get id).dataFields, ∀ v, (f.key, v) ∈ ms →
        Gather.rename F depth f.shape (written F f.shape v) = v := by
      intro f hf v hv
      refine ih f hf v hv fun path t inner hpath ht key hkey => ?_
      obtain ⟨hmem, hskip⟩ := List.mem_filter.1 (Gather.mem_kept_of_mem_dataFields hf)
      have hfind := Assoc.find?_of_mem sorted.nodup_keys hv
      exact hmaps _ t inner (.member struct hmem (by simpa using hskip) hfind hpath) ht key
        (.tail _ hkey)
    rw [written_struct struct, Json.ofPairs, Gather.rename.eq_def]
    simp only [Shape.struct?_eq_some.1 struct]
    rw [renameMembers_written (Gather.nodup_keys_dataFields (hkeys id)) (hnames id) sorted named hparts]
  | @map depth s value ms map entries ih =>
    -- Renaming stops at a map, so the induction does not help: below it nothing may have been written.
    have hentries : ∀ p ∈ ms, written F value p.2 = p.2 := fun p hp => by
      refine written_eq_self (entries p.1 p.2 hp) fun path t inner hpath => ?_
      refine Classical.byContradiction fun ht => ?_
      exact hmaps _ t inner (.entry map hp hpath) ht p.1 (.head _)
    rw [written_map_eq_self map hentries]
    exact rename_of_shape _ (by simp [Shape.struct?, map]) (by simp [map])
  | @array depth s elem items array _ ih =>
    rw [written_array array, Gather.rename.eq_def]
    simp only [array, List.map_map]
    refine congrArg Json.arr ((List.map_congr_left fun v hv => ?_).trans (List.map_id items))
    obtain ⟨index, hindex⟩ := List.mem_iff_getElem?.1 hv
    exact ih v hv fun path t inner hpath ht key hkey =>
      hmaps _ t inner (.item array hindex hpath) ht key (.tail _ hkey)

end

end Binding

/-! ## Gathering what was written -/

namespace Gather

variable {F : Family} {st : Struct} {r : Request}

theorem foldlM_fromPath_of_none {fs : List Field} (h : ∀ f ∈ fs, parameter? r f = none)
    (ms : Members) : fs.foldlM (fromPath r) ms = .ok ms := by
  induction fs with
  | nil => rfl
  | cons f fs ih =>
    have hstep : fromPath r ms f = .ok ms := by
      have hf := h f (.head _)
      unfold parameter? at hf
      unfold fromPath
      cases hname : f.uriName? with
      | none => rfl
      | some name =>
        rw [hname, Option.bind_some, Option.map_eq_none_iff] at hf
        simp only [hf]
    rw [List.foldlM_cons, hstep]
    exact ih fun g hg => h g (.tail _ hg)

theorem content?_eq_object {body : Members} (h : content? r = some (.object body)) :
    bodyKind (MediaType.essence ((r.headers.text? "content-type").getD "")) r.body = .json ∧
      bodyJson r.body = .ok (.obj body) := by
  unfold content? at h
  dsimp only at h
  split at h
  · rename_i hk
    split at h
    · rename_i hv
      cases h
      exact ⟨hk, hv⟩
    · cases h
  · cases h
  · cases hps : (multipartPairs ((r.headers.text? "content-type").getD "") r.body).toOption with
    | none =>
      rw [hps] at h
      cases h
    | some ps =>
      rw [hps] at h
      cases h
  · cases h

theorem isEmpty_of_object {body : Members} (h : content? r = some (.object body)) :
    r.body.isEmpty = false := by
  cases hr : r.body with
  | nil =>
    have hjson := (content?_eq_object h).2
    rw [hr] at hjson
    have hempty : (bodyJson []).isOk = false := by decide +kernel
    rw [hjson] at hempty
    cases hempty
  | cons b rest => rfl

/-- A JSON body is all that a request says after its path. -/
theorem found_of_object {body ms : Members} (hmethod : readsBody r.method = true)
    (hpath : st.dataFields.foldlM (fromPath r) [] = .ok ms)
    (hbody : content? r = some (.object body)) :
    found F st r = .ok (fromObject F st.dataFields body ms) := by
  obtain ⟨hkind, hjson⟩ := content?_eq_object hbody
  refine bind_eq_ok.2 ⟨ms, hpath, ?_⟩
  rw [if_neg (by simp [readsQuery_of_readsBody hmethod]),
    if_pos (by simp [hmethod, isEmpty_of_object hbody])]
  unfold fromBody
  simp only [hkind, hjson]
  rfl

end Gather

/-- **Names in and out.** Where no two fields of a struct share a key or a JSON name: a JSON body that
writes a value with JSON names is gathered into the value, but that absent members took zero values, in
nested structs as well. No object of a struct may stand in a map of the value, and the value may be as
deep as bodies are renamed. -/
theorem gathered_of_written {F : Family} {id : StructId} {r : Request} {ms body : Gather.Members}
    (hkeys : Binding.DistinctKeys F) (hnames : Binding.DistinctNames F)
    (hfits : Binding.Conforms F (Binding.maxDepth + 1) (.struct id) (.obj ms))
    (hmaps : ∀ path t nested, Binding.Leads F path (.struct id) (.obj ms) t (.obj nested) →
      t.struct? ≠ none → ∀ key, Binding.Step.entry key ∉ path)
    (hwritten : Binding.written F (.struct id) (.obj ms) = .obj body)
    (hmethod : Gather.readsBody r.method = true)
    (hpath : ∀ f ∈ (F.get id).dataFields, Gather.parameter? r f = none)
    (hbody : Gather.content? r = some (.object body)) :
    ∃ ms', Gather.members F (F.get id) r = .ok ms' ∧ Binding.Completed F id ms ms' := by
  have hrename := Binding.rename_written hkeys hnames hfits hmaps
  rw [hwritten] at hrename
  have hmembers : Gather.fromObject F (F.get id).dataFields body [] = ms := by
    rw [Binding.fromObject_eq_renameMembers (Gather.nodup_keys_dataFields (hkeys id)) fun _ _ => rfl]
    exact Json.obj.inj hrename
  refine ⟨_, map_eq_ok.2 ⟨ms, ?_, rfl⟩, ?_⟩
  · rw [Gather.found_of_object hmethod (Gather.foldlM_fromPath_of_none hpath []) hbody, hmembers]
  · exact Binding.completes_extension F (Binding.maxDepth + 1) id _ rfl ms

/-- Whether the values of a shape can have maps in them, outside the structs that it names. -/
def Shape.holdsMap : Shape → Bool
  | .map _ => true
  | .array elem => elem.holdsMap
  | .optional inner => inner.holdsMap
  | _ => false

namespace Binding

variable {F : Family}

theorem holdsMap_unwrap (s : Shape) : s.unwrap.holdsMap = s.holdsMap := by
  induction s with
  | optional inner ih => exact ih
  | _ => rfl

/-- Where shapes hold no maps, no path enters one. -/
theorem Leads.entry_not_mem {path : List Step} {s t : Shape} {v w : Json}
    (hF : ∀ id, ∀ f ∈ (F.get id).fields, f.shape.holdsMap = false) (h : Leads F path s v t w)
    (hs : s.holdsMap = false) (key : String) : Step.entry key ∉ path := by
  induction h with
  | here => nofun
  | member _ mem _ _ _ ih => simpa using ih (hF _ _ mem)
  | item array _ _ ih =>
    rw [← holdsMap_unwrap, array] at hs
    simpa using ih hs
  | entry map =>
    rw [← holdsMap_unwrap, map] at hs
    cases hs

theorem Conforms.single {depth : Nat} {s : Shape} {id : StructId} {f : Field} {v : Json}
    (hs : s.struct? = some id) (hdata : (F.get id).dataFields = [f]) (hname : f.jsonName? ≠ none)
    (h : Conforms F depth f.shape v) : Conforms F (depth + 1) s (.obj [(f.key, v)]) := by
  refine .object hs (List.pairwise_singleton _ _) (fun key w hw => ?_) (fun g hg w hw => ?_)
  · cases List.mem_singleton.1 hw
    exact ⟨f, hdata ▸ .head _, rfl, hname⟩
  · rw [hdata] at hg
    cases List.mem_singleton.1 hg
    cases List.mem_singleton.1 hw
    exact h

theorem written_single {s : Shape} {id : StructId} {f : Field} {name : String}
    (hs : s.struct? = some id) (hdata : (F.get id).dataFields = [f]) (hname : f.jsonName? = some name)
    (v : Json) : written F s (.obj [(f.key, v)]) = .obj [(name, written F f.shape v)] := by
  have hkeys : ((F.get id).dataFields.map Field.key).Nodup := by simp [hdata]
  rw [written_struct hs, List.map_singleton, writtenMember_eq hkeys (hdata ▸ .head _) hname]
  rfl

end Binding

/-- The object of a nested struct is gathered under its keys. -/
theorem nested_name_renamed :
    let login : Field := ⟨"login", "login", "json:\"user\"", "", false, .string⟩
    let owner : Field := ⟨"owner", "owner", "", "", false, .struct 1⟩
    let F : Family := ⟨[⟨"Rename", [owner]⟩, ⟨"Owner", [login]⟩]⟩
    let r : Request :=
      { (default : Request) with
        method := "POST"
        headers := [("content-type", "application/json")]
        body := Text.encode "\x7b\"owner\":\x7b\"user\":\"ada\"\x7d\x7d" }
    let ms : Gather.Members := [("owner", .obj [("login", .str "ada")])]
    let body : Gather.Members := [("owner", .obj [("user", .str "ada")])]
    (Binding.DistinctKeys F ∧ Binding.DistinctNames F ∧
      Binding.Conforms F (Binding.maxDepth + 1) (.struct 0) (.obj ms) ∧
      (∀ path t nested, Binding.Leads F path (.struct 0) (.obj ms) t (.obj nested) →
        t.struct? ≠ none → ∀ key, Binding.Step.entry key ∉ path) ∧
      Binding.written F (.struct 0) (.obj ms) = .obj body ∧ Gather.readsBody r.method = true ∧
      (∀ f ∈ (F.get 0).dataFields, Gather.parameter? r f = none) ∧
      Gather.content? r = some (.object body)) ∧
    ∃ ms', Gather.members F (F.get 0) r = .ok ms' ∧ Binding.Completed F 0 ms ms' := by
  intro login owner F r ms body
  have hkeys : Binding.DistinctKeys F := by
    rintro (_ | _ | id)
    · decide
    · decide
    · exact List.nodup_nil
  have hnames : Binding.DistinctNames F := by
    rintro (_ | _ | id)
    · decide +kernel
    · decide +kernel
    · exact List.nodup_nil
  have hmapless : ∀ id, ∀ f ∈ (F.get id).fields, f.shape.holdsMap = false := by
    rintro (_ | _ | id)
    · decide
    · decide
    · nofun
  have hfits : Binding.Conforms F (Binding.maxDepth + 1) (.struct 0) (.obj ms) :=
    .single (f := owner) rfl rfl (by decide +kernel) (.single (f := login) rfl rfl (by decide +kernel)
      (.scalar rfl rfl))
  have hmaps : ∀ path t nested, Binding.Leads F path (.struct 0) (.obj ms) t (.obj nested) →
      t.struct? ≠ none → ∀ key, Binding.Step.entry key ∉ path :=
    fun _ _ _ hleads _ => hleads.entry_not_mem hmapless rfl
  have hwritten : Binding.written F (.struct 0) (.obj ms) = .obj body := by
    have howner : owner.jsonName? = some "owner" := by decide +kernel
    have hlogin : login.jsonName? = some "user" := by decide +kernel
    refine (Binding.written_single (f := owner) rfl rfl howner _).trans ?_
    rw [Binding.written_single (s := owner.shape) (f := login) rfl rfl hlogin,
      Binding.written_of_scalar _ rfl rfl]
  have hpath : ∀ f ∈ (F.get 0).dataFields, Gather.parameter? r f = none := by decide +kernel
  have hbody : Gather.content? r = some (.object body) := by
    subst r body
    with_unfolding_all rfl
  refine ⟨⟨hkeys, hnames, hfits, hmaps, hwritten, rfl, hpath, hbody⟩, ?_⟩
  exact gathered_of_written hkeys hnames hfits hmaps hwritten rfl hpath hbody

/-- The object of a struct in a map is not. -/
theorem struct_in_map_not_renamed :
    let a : Field := ⟨"a", "a", "json:\"x\"", "", false, .string⟩
    let m : Field := ⟨"m", "m", "", "", false, .map (.struct 1)⟩
    let F : Family := ⟨[⟨"P", [m]⟩, ⟨"Q", [a]⟩]⟩
    let r : Request :=
      { (default : Request) with
        method := "POST"
        headers := [("content-type", "application/json")]
        body := Text.encode "\x7b\"m\":\x7b\"k\":\x7b\"x\":\"v\"\x7d\x7d\x7d" }
    let ms : Gather.Members := [("m", .obj [("k", .obj [("a", .str "v")])])]
    let body : Gather.Members := [("m", .obj [("k", .obj [("x", .str "v")])])]
    Binding.DistinctKeys F ∧ Binding.DistinctNames F ∧
      Binding.Conforms F (Binding.maxDepth + 1) (.struct 0) (.obj ms) ∧
      Binding.written F (.struct 0) (.obj ms) = .obj body ∧
      (∀ f ∈ (F.get 0).dataFields, Gather.parameter? r f = none) ∧
      Gather.content? r = some (.object body) ∧
      ∃ ms', Gather.members F (F.get 0) r = .ok ms' ∧ ¬Binding.Completed F 0 ms ms' := by
  intro a m F r ms body
  have hkeys : Binding.DistinctKeys F := by
    rintro (_ | _ | id)
    · decide
    · decide
    · exact List.nodup_nil
  have hnames : Binding.DistinctNames F := by
    rintro (_ | _ | id)
    · decide +kernel
    · decide +kernel
    · exact List.nodup_nil
  have hfits : Binding.Conforms F (Binding.maxDepth + 1) (.struct 0) (.obj ms) := by
    refine .single (f := m) rfl rfl (by decide +kernel) (.map rfl fun key v hv => ?_)
    cases List.mem_singleton.1 hv
    exact .single (f := a) rfl rfl (by decide +kernel) (.scalar rfl rfl)
  have hwritten : Binding.written F (.struct 0) (.obj ms) = .obj body := by
    have hm : m.jsonName? = some "m" := by decide +kernel
    have ha : a.jsonName? = some "x" := by decide +kernel
    refine (Binding.written_single (f := m) rfl rfl hm _).trans ?_
    rw [Binding.written_map (s := m.shape) rfl, List.map_singleton,
      Binding.written_single (f := a) rfl rfl ha, Binding.written_of_scalar _ rfl rfl]
  have hbody : Gather.content? r = some (.object body) := by
    subst r body
    with_unfolding_all rfl
  have hms : Gather.members F (F.get 0) r = .ok body := by
    subst r F m a body
    with_unfolding_all rfl
  refine ⟨hkeys, hnames, hfits, hwritten, by decide +kernel, hbody, body, hms, fun hcompleted => ?_⟩
  have hsame : Assoc.find? "m" body = some (.obj [("k", .obj [("a", .str "v")])]) := by
    refine hcompleted.find?_eq (fun f hf _ => ?_) rfl
    cases List.mem_singleton.1 hf
    rfl
  simp [body, Assoc.find?] at hsame

end HttpService
