import HttpService.Binding.Bind
import HttpService.Proofs.Binding.Filling

/-!
# Members that decoding finds

Filling goes down from a struct through the objects of its struct fields. At the positions so reached
every field that is kept has a member, so that decoding misses none there (`members_supplied`). It does
not enter arrays and maps: an object in an array has the members that it came with
(`array_item_not_filled`).

`Supplied F depth id ms` says it of all these positions at once. A fill brings it about, one level more
for each level of room (`supplied_fillFields`); what is filled later does not take it away
(`Provides.fillField`).
-/

set_option autoImplicit false

namespace HttpService

namespace Binding

/-- A step from a value to one of its parts. -/
inductive Step
  /-- From the object of a struct to the member under a key. -/
  | member (key : String)
  | item (index : Nat)
  /-- From the object of a map to the value under a key. -/
  | entry (key : String)

def Step.isMember : Step → Bool
  | .member _ => true
  | _ => false

/-- A path leads from a value and its shape to a part and the shape of that part. Optional layers of a
shape are no steps. -/
inductive Leads (F : Family) : List Step → Shape → Json → Shape → Json → Prop
  | here (s : Shape) (v : Json) : Leads F [] s v s v
  | member {path : List Step} {s t : Shape} {v w : Json} {id : StructId} {ms : Assoc Json} {f : Field}
      (struct : s.struct? = some id) (mem : f ∈ (F.get id).fields) (kept : f.skip = false)
      (has : Assoc.find? f.key ms = some v) (rest : Leads F path f.shape v t w) :
      Leads F (.member f.key :: path) s (.obj ms) t w
  | item {path : List Step} {s t elem : Shape} {v w : Json} {items : List Json} {index : Nat}
      (array : s.unwrap = .array elem) (has : items[index]? = some v)
      (rest : Leads F path elem v t w) : Leads F (.item index :: path) s (.arr items) t w
  | entry {path : List Step} {s t value : Shape} {v w : Json} {ms : Assoc Json} {key : String}
      (map : s.unwrap = .map value) (has : (key, v) ∈ ms) (rest : Leads F path value v t w) :
      Leads F (.entry key :: path) s (.obj ms) t w

/-- A field has a member, and if that is the object of a struct, the object is as `inside` says. -/
structure Provides (inside : StructId → Assoc Json → Prop) (f : Field) (ms : Assoc Json) : Prop where
  present : ∃ v, Assoc.find? f.key ms = some v
  object : ∀ id nested, f.shape.struct? = some id → Assoc.find? f.key ms = some (.obj nested) →
    inside id nested

/-- Every field that is kept has a member, in the objects of struct fields as well, `depth` levels deep. -/
def Supplied (F : Family) : Nat → StructId → Assoc Json → Prop
  | 0, _, _ => True
  | depth + 1, id, ms =>
    ∀ f ∈ (F.get id).fields, f.skip = false → Provides (Supplied F depth) f ms

section
variable {F : Family}

/-! ## Filling supplies -/

/-- Extensions keep what is said of the members of a struct. -/
def Keeps (inner : StructId → Option Extension) (inside : StructId → Assoc Json → Prop) : Prop :=
  ∀ id ms, inside id ms → ∀ other extend, inner other = some extend → inside id (extend ms)

theorem Provides.fillField {inner : StructId → Option Extension}
    {inside : StructId → Assoc Json → Prop} (hkeeps : Keeps inner inside) {f : Field}
    {ms : Assoc Json} (h : Provides inside f ms) (g : Field) :
    Provides inside f (fillField inner ms g) := by
  obtain ⟨v, hv⟩ := h.present
  by_cases hkey : f.key = g.key
  · have hfind : Assoc.find? f.key (Binding.fillField inner ms g) = some (settle inner g (some v)) := by
      rw [find?_fillField, if_pos hkey, ← hkey, hv]
    refine ⟨⟨_, hfind⟩, fun id nested hid hnested => ?_⟩
    rw [hfind] at hnested
    cases v with
    | obj before =>
      have hbefore := h.object id before hid hv
      cases he : g.shape.struct?.bind inner with
      | none =>
        simp only [settle, he, Option.some.injEq, Json.obj.injEq] at hnested
        exact hnested ▸ hbefore
      | some extend =>
        obtain ⟨other, _, hext⟩ := Option.bind_eq_some_iff.1 he
        simp only [settle, he, Option.some.injEq, Json.obj.injEq] at hnested
        exact hnested ▸ hkeeps id before hbefore other extend hext
    | _ => cases hnested
  · have hfind : Assoc.find? f.key (Binding.fillField inner ms g) = Assoc.find? f.key ms := by
      rw [find?_fillField, if_neg hkey]
    refine ⟨⟨v, hfind.trans hv⟩, fun id nested hid hnested => ?_⟩
    exact h.object id nested hid (hfind ▸ hnested)

theorem Provides.foldl {inner : StructId → Option Extension}
    {inside : StructId → Assoc Json → Prop} (hkeeps : Keeps inner inside) {f : Field}
    {ms : Assoc Json} (h : Provides inside f ms) (gs : List Field) :
    Provides inside f (gs.foldl (Binding.fillField inner) ms) := by
  induction gs generalizing ms with
  | nil => exact h
  | cons g gs ih => exact ih (h.fillField hkeeps g)

/-- Two fields may share a key, so that one object is filled as two structs. -/
theorem keeps_supplied (depth room : Nat) : Keeps (extension F room) (Supplied F depth) := by
  induction depth generalizing room with
  | zero => exact fun _ _ _ _ _ _ => trivial
  | succ depth ih =>
    rintro id ms h other extend he f hf hskip
    cases room with
    | zero => cases he
    | succ room =>
      cases he
      exact (h f hf hskip).foldl (ih room) _

/-- A field is provided for once it is filled. -/
theorem provides_fillField {inner : StructId → Option Extension}
    {inside : StructId → Assoc Json → Prop}
    (hfills : ∀ id extend, inner id = some extend → ∀ ms, inside id (extend ms))
    (hnone : ∀ id, inner id = none → ∀ ms, inside id ms) (f : Field) (ms : Assoc Json) :
    Provides inside f (fillField inner ms f) := by
  have hfind : Assoc.find? f.key (fillField inner ms f) =
      some (settle inner f (Assoc.find? f.key ms)) := by
    rw [find?_fillField, if_pos rfl]
  refine ⟨⟨_, hfind⟩, fun id nested hid hnested => ?_⟩
  cases he : inner id with
  | none => exact hnone id he nested
  | some extend =>
    rw [hfind] at hnested
    cases hv : Assoc.find? f.key ms with
    | none =>
      -- An optional field is null where it is absent, so the shape is the struct itself.
      rw [hv, settle] at hnested
      cases hshape : f.shape with
      | struct other =>
        rw [hshape] at hid hnested
        cases hid
        simp only [zeroWith, he, Option.some.injEq, Json.obj.injEq] at hnested
        exact hnested ▸ hfills id extend he []
      | optional wrapped =>
        rw [hshape] at hnested
        cases hnested
      | _ =>
        rw [hshape] at hid
        cases hid
    | some v =>
      rw [hv] at hnested
      cases v with
      | obj before =>
        simp only [settle, hid, Option.bind_some, he, Option.some.injEq, Json.obj.injEq] at hnested
        exact hnested ▸ hfills id extend he before
      | _ => cases hnested

theorem provides_foldl {inner : StructId → Option Extension}
    {inside : StructId → Assoc Json → Prop} (hkeeps : Keeps inner inside) {f : Field}
    (hfill : ∀ ms, Provides inside f (fillField inner ms f)) {gs : List Field} (hf : f ∈ gs)
    (ms : Assoc Json) : Provides inside f (gs.foldl (fillField inner) ms) := by
  induction gs generalizing ms with
  | nil => cases hf
  | cons g gs ih =>
    rcases List.mem_cons.1 hf with rfl | hf
    · exact (hfill ms).foldl hkeeps gs
    · exact ih hf _

/-- A fill supplies the struct itself, and one more level for each level of room. -/
theorem supplied_fillFields (room : Nat) (id : StructId) (ms : Assoc Json) :
    Supplied F (room + 1) id (fillFields (extension F room) (F.get id).fields ms) := by
  induction room generalizing id ms with
  | zero =>
    intro f hf hskip
    refine provides_foldl (keeps_supplied 0 0) (fun ms => ?_) (by simp [hf, hskip]) ms
    exact provides_fillField (fun _ _ _ _ => trivial) (fun _ _ _ => trivial) f ms
  | succ room ih =>
    intro f hf hskip
    refine provides_foldl (keeps_supplied _ _) (fun ms => ?_) (by simp [hf, hskip]) ms
    refine provides_fillField (fun inner extend he nested => ?_) (fun inner he => ?_) f ms
    · cases he
      exact ih inner nested
    · cases he

/-! ## The positions that are supplied -/

/-- Where a path through members ends at an object that stands for a struct, what is left of the depth
is supplied. -/
theorem Leads.supplied {depth : Nat} {path : List Step} {s t : Shape} {v : Json} {ms : Assoc Json}
    {id : StructId} (h : Leads F path s v t (.obj ms)) (ht : t.struct? = some id)
    (hpath : ∀ step ∈ path, step.isMember = true)
    (hv : ∀ id' ms', s.struct? = some id' → v = .obj ms' → Supplied F depth id' ms') :
    Supplied F (depth - path.length) id ms := by
  generalize hw : Json.obj ms = w at h
  induction h generalizing depth with
  | here s v => exact hv id ms ht hw.symm
  | @member path s t v w id' ms' f hid' hf hskip hfind _ ih =>
    rw [List.length_cons, Nat.add_comm, ← Nat.sub_sub]
    refine ih ht (fun step hstep => hpath step (.tail _ hstep)) (fun inner nested hinner hobj => ?_) hw
    cases depth with
    | zero => trivial
    | succ depth =>
      subst hobj
      exact (hv id' ms' hid' rfl f hf hskip).object inner nested hinner hfind
  | item => exact absurd (hpath _ (.head _)) (by simp [Step.isMember])
  | entry => exact absurd (hpath _ (.head _)) (by simp [Step.isMember])

end

end Binding

/-! ## Decoding -/

theorem Catalogue.get_family (C : Catalogue) (id : RecordId) : C.family.get id = (C.get id).struct := by
  simp only [Family.get, Catalogue.family, Catalogue.get, List.getD_eq_getElem?_getD,
    List.getElem?_map]
  cases C.records[id]? <;> rfl

namespace Datatype

variable {C : Catalogue} {id : RecordId} {ms : Assoc Json}

/-- The fields that a record reads and writes. -/
def kept (C : Catalogue) (id : RecordId) : List RecordField :=
  (C.get id).fields.filter (!·.skip)

theorem mem_kept {f : RecordField} : f ∈ kept C id ↔ f ∈ (C.get id).fields ∧ f.skip = false := by
  simp [kept]

/-- A member of an object, decoded as the field of a record under its key, if there is one. -/
def decodeMember (C : Catalogue) (id : RecordId) (p : String × Json) :
    Except DecodeError (Option (String × Json)) :=
  match (kept C id).find? (·.key = p.1) with
  | none => .ok none
  | some f => (f.type.decode C p.2).map fun v => some (p.1, v)

theorem decode_record_obj :
    (Datatype.record id).decode C (.obj ms) =
      (ms.filterMapM (decodeMember C id)).bind (assemble (kept C id)) := by
  have hmembers : ms.filterMapM (decodeMember C id) =
      ms.attach.filterMapM fun x => decodeMember C id x.1 := by
    rw [List.filterMapM_subtype (fun _ _ => rfl), List.unattach_attach]
  rw [hmembers]
  unfold decode
  rfl

theorem exists_assemble {fields : List RecordField} {decoded : Assoc Json}
    (h : ∀ f ∈ fields, ∃ v, Assoc.find? f.key decoded = some v) :
    ∃ v, assemble fields decoded = .ok v := by
  unfold assemble
  refine (exists_mapM fun f hf => ?_).elim fun members hmembers =>
    ⟨.ofPairs members, bind_eq_ok.2 ⟨members, hmembers, rfl⟩⟩
  obtain ⟨v, hv⟩ := h f hf
  exact ⟨(f.key, v), by simp only [hv]⟩

/-- An object with a member for every field decodes as the record where its members decode as the
fields. -/
theorem exists_decode_record (hall : ∀ f ∈ kept C id, ∃ v, Assoc.find? f.key ms = some v)
    (hparts : ∀ f ∈ kept C id, ∀ v, (f.key, v) ∈ ms → ∃ w, f.type.decode C v = .ok w) :
    ∃ w, (Datatype.record id).decode C (.obj ms) = .ok w := by
  -- A member under the key of a field decodes to a member under that key.
  have hmember (k : String) (v : Json) (hv : (k, v) ∈ ms) :
      ∃ o, decodeMember C id (k, v) = .ok o ∧
        ((∃ f ∈ kept C id, f.key = k) → ∃ w, o = some (k, w)) := by
    unfold decodeMember
    cases hfind : (kept C id).find? (·.key = k) with
    | none =>
      refine ⟨none, rfl, fun ⟨f, hf, hkey⟩ => ?_⟩
      simpa [hkey] using List.find?_eq_none.1 hfind f hf
    | some f =>
      obtain rfl : f.key = k := by simpa using List.find?_some hfind
      obtain ⟨w, hw⟩ := hparts f (List.mem_of_find?_eq_some hfind) v hv
      exact ⟨some (f.key, w), by simp only [hw]; rfl, fun _ => ⟨w, rfl⟩⟩
  obtain ⟨decoded, hdecoded, hmem⟩ := exists_filterMapM (f := decodeMember C id) (l := ms)
    fun (k, v) hv => (hmember k v hv).imp fun _ h => h.1
  have hdecodes : ∀ f ∈ kept C id, ∃ w, Assoc.find? f.key decoded = some w := by
    intro f hf
    obtain ⟨v, hv⟩ := hall f hf
    obtain ⟨o, ho, hsome⟩ := hmember f.key v (Assoc.mem_of_find? hv)
    obtain ⟨w, rfl⟩ := hsome ⟨f, hf, rfl⟩
    refine Option.ne_none_iff_exists'.1 fun hnone => Assoc.find?_eq_none_iff.1 hnone ?_
    exact List.mem_map_of_mem (hmem _ (Assoc.mem_of_find? hv) _ ho)
  obtain ⟨w, hw⟩ := exists_assemble hdecodes
  exact ⟨w, decode_record_obj.trans (bind_eq_ok.2 ⟨decoded, hdecoded, hw⟩)⟩

end Datatype

/-! ## Gathered requests -/

/-- **Supplied members.** Where a path through members, no longer than structs are filled deep, leads to
an object of a struct in what was gathered, each field that is kept has a member there. So no field of a
record is missing when the object is decoded: it decodes where its members do. -/
theorem members_supplied {F : Family} {id inner : StructId} {r : Request}
    {ms nested : Gather.Members} {path : List Binding.Step} {s : Shape}
    (h : Gather.members F (F.get id) r = .ok ms)
    (hleads : Binding.Leads F path (.struct id) (.obj ms) s (.obj nested))
    (hs : s.struct? = some inner) (hpath : ∀ step ∈ path, step.isMember = true)
    (hdepth : path.length ≤ Binding.maxDepth) :
    (∀ f ∈ (F.get inner).fields, f.skip = false → Assoc.contains f.key nested = true) ∧
    ∀ C : Catalogue, C.family = F →
      (∀ f ∈ Datatype.kept C inner, ∀ v, (f.key, v) ∈ nested → ∃ w, f.type.decode C v = .ok w) →
      ∃ w, (Datatype.record inner).decode C (.obj nested) = .ok w := by
  obtain ⟨ms₀, _, rfl⟩ := map_eq_ok.1 h
  have hsupplied : Binding.Supplied F (Binding.maxDepth + 1 - path.length) inner nested := by
    refine hleads.supplied hs hpath fun id' ms' hid' hms' => ?_
    cases hid'
    cases hms'
    exact Binding.supplied_fillFields Binding.maxDepth id ms₀
  have hpresent : ∀ f ∈ (F.get inner).fields, f.skip = false →
      ∃ v, Assoc.find? f.key nested = some v := by
    rw [Nat.succ_sub hdepth] at hsupplied
    exact fun f hf hskip => (hsupplied f hf hskip).present
  refine ⟨fun f hf hskip => Assoc.contains_eq_true.2 (hpresent f hf hskip), ?_⟩
  rintro C rfl hparts
  refine Datatype.exists_decode_record (fun f hf => ?_) hparts
  obtain ⟨hmem, hskip⟩ := Datatype.mem_kept.1 hf
  refine hpresent f.field ?_ hskip
  rw [Catalogue.get_family]
  exact List.mem_map_of_mem hmem

/-- A value that does not decode is an error of the binding. -/
theorem bind_of_decode_error {α : Type} {F : Family} {s : Shape} {r : Request} {v : Json}
    {decode : Json → Except DecodeError α} {e : DecodeError} (hv : Gather.value F s r = .ok v)
    (hdecode : decode v = .error e) : HttpService.bind F s decode r = .error e.failure := by
  simp only [HttpService.bind, hv, Bind.bind, Except.bind, hdecode]

/-- The object of a nested struct gets the member that the body lacks. -/
theorem nested_member_supplied :
    let login : Field := ⟨"login", "login", "", "", false, .string⟩
    let owner : Field := ⟨"owner", "owner", "", "", false, .struct 1⟩
    let F : Family := ⟨[⟨"Rename", [owner]⟩, ⟨"Owner", [login]⟩]⟩
    let r : Request :=
      { (default : Request) with
        method := "POST"
        headers := [("content-type", "application/json")]
        body := Text.encode "\x7b\"owner\":\x7b\x7d\x7d" }
    let path : List Binding.Step := [.member "owner"]
    ∃ ms nested, (Gather.members F (F.get 0) r = .ok ms ∧
        Binding.Leads F path (.struct 0) (.obj ms) (.struct 1) (.obj nested) ∧
        (Shape.struct 1).struct? = some 1 ∧ (∀ step ∈ path, step.isMember = true) ∧
        path.length ≤ Binding.maxDepth) ∧
      Assoc.contains "login" nested = true := by
  intro login owner F r path
  let nested : Gather.Members := [("login", .str "")]
  let ms : Gather.Members := [("owner", .obj nested)]
  have hms : Gather.members F (F.get 0) r = .ok ms := by
    subst r F owner login ms nested
    with_unfolding_all rfl
  have hleads : Binding.Leads F path (.struct 0) (.obj ms) (.struct 1) (.obj nested) :=
    .member (f := owner) rfl (.head _) rfl rfl (.here _ _)
  have hpath : ∀ step ∈ path, step.isMember = true := by simp [path, Binding.Step.isMember]
  have hdepth : path.length ≤ Binding.maxDepth := by decide
  obtain ⟨hall, _⟩ := members_supplied hms hleads rfl hpath hdepth
  exact ⟨ms, nested, ⟨hms, hleads, rfl, hpath, hdepth⟩, hall login (.head _) rfl⟩

/-- The object of a struct in an array does not get it, and is not decoded. -/
theorem array_item_not_filled :
    let C : Catalogue :=
      ⟨[⟨"P", [⟨"items", "items", "", "", false, .list (.record 1)⟩]⟩,
        ⟨"Q", [⟨"a", "a", "", "", false, .text⟩]⟩]⟩
    let F : Family := C.family
    let r : Request :=
      { (default : Request) with
        method := "POST"
        headers := [("content-type", "application/json")]
        body := Text.encode "\x7b\"items\":[\x7b\x7d]\x7d" }
    ∃ ms, Gather.value F (.struct 0) r = .ok (.obj ms) ∧
      Binding.Leads F [.member "items", .item 0] (.struct 0) (.obj ms) (.struct 1) (.obj []) ∧
      (∃ f ∈ (F.get 1).fields, f.skip = false ∧ f.key = "a") ∧
      (Datatype.record 0).bind C r = .error (DecodeError.missingField "a").failure := by
  intro C F r
  have hv : Gather.value F (.struct 0) r = .ok (.obj [("items", .arr [.obj []])]) := by
    subst r F C
    with_unfolding_all rfl
  refine ⟨_, hv, ?_, ⟨_, .head _, rfl, rfl⟩, ?_⟩
  · exact .member (f := ⟨"items", "items", "", "", false, .array (.struct 1)⟩) rfl (.head _) rfl rfl
      (.item rfl rfl (.here _ _))
  · have hitem : (Datatype.record 1).decode C (.obj []) = .error (.missingField "a") :=
      Datatype.decode_record_obj
    have hlist : (Datatype.list (.record 1)).decode C (.arr [.obj []]) = .error (.missingField "a") := by
      rw [Datatype.decode, List.attach_cons, List.attach_nil, List.map_nil, List.mapM_cons]
      dsimp only
      rw [hitem]
      rfl
    have hdecode : (Datatype.record 0).decode C (.obj [("items", .arr [.obj []])]) =
        .error (.missingField "a") := by
      rw [Datatype.decode_record_obj, List.filterMapM_cons]
      have : Datatype.decodeMember C 0 ("items", .arr [.obj []]) = .error (.missingField "a") := by
        show ((Datatype.list (.record 1)).decode C (.arr [.obj []])).map _ = _
        rw [hlist]
        rfl
      rw [this]
      rfl
    exact bind_of_decode_error hv hdecode

end HttpService
