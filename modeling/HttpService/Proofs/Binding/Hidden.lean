import HttpService.Proofs.Binding.Rules
import Mathlib.Data.List.Nodup

/-!
# Hidden fields

A field that is hidden in JSON and has no other name is bound from nothing: a gathered struct gives it
its zero value (`hidden_fields_stay_hidden`). In the value of another field the same holds for the structs
that are reached through fields, optionals and arrays, as deep as JSON bodies are renamed, unless that
value is a text that holds JSON, which is taken as it is (`hidden_field_in_query`).

`Throughout F allowed depth s v` says of the structs so reached what `allowed` says of each field and its
member. Renaming drops the members of hidden fields (`drops_rename`), and filling then gives them their
zero values, or leaves them out where it does not reach (`throughout_filled`).
-/

set_option autoImplicit false

namespace HttpService

/-- Hidden in JSON, and without another name. -/
structure Hidden (f : Field) : Prop where
  json : f.taggedName? "json" = some "-"
  form : f.taggedName? "form" = none
  uri : f.taggedName? "uri" = none

namespace Hidden

variable {f : Field} (h : Hidden f)
include h

theorem jsonName?_eq : f.jsonName? = none := by
  simp [Field.jsonName?, Field.visibleName?, h.json]

theorem formName?_eq : f.formName? = none := by
  rw [Field.formName?, Field.visibleName?, h.form]
  exact h.jsonName?_eq

theorem uriName?_eq : f.uriName? = none := by
  rw [Field.uriName?, Field.visibleName?, h.uri]

theorem origin_eq (r : Request) : Gather.origin r f = .absent := by
  have hparameter : Gather.parameter? r f = none := by
    rw [Gather.parameter?, h.uriName?_eq]
    rfl
  have hunder (ps : List (String × Bytes)) : Gather.under? ps f = none := by
    rw [Gather.under?, h.formName?_eq]
  unfold Gather.origin
  rw [hparameter]
  unfold Gather.laterOrigin
  simp only [hunder, h.jsonName?_eq, Option.bind_none]
  split
  · rfl
  · split
    · split <;> rfl
    · rfl

end Hidden

/-- Whether a value of the shape is a struct, or an array of such values; optional layers do not count. -/
def Shape.holdsStruct : Shape → Bool
  | .struct _ => true
  | .array elem => elem.holdsStruct
  | .optional inner => inner.holdsStruct
  | _ => false

namespace Binding

/-! ## Structs inside a value -/

/-- Each field of each struct inside a value, with the member under its key, is as `allowed` says. The
structs are reached through fields, optionals and arrays, in fewer than `depth` steps. -/
def Throughout (F : Family) (allowed : Field → Option Json → Prop) : Nat → Shape → Json → Prop
  | 0, _, _ => True
  | depth + 1, s, v =>
    match v, s.unwrap with
    | .obj ms, .struct id =>
      ∀ f ∈ (F.get id).fields, f.skip = false →
        allowed f (Assoc.find? f.key ms) ∧
          ∀ w, Assoc.find? f.key ms = some w → Throughout F allowed depth f.shape w
    | .arr items, .array elem => ∀ w ∈ items, Throughout F allowed depth elem w
    | _, _ => True

/-- Nothing stands under the key of a hidden field. -/
def Dropped (f : Field) (v : Option Json) : Prop :=
  Hidden f → v = none

/-- A hidden field has its zero value, filled to some depth, or is absent. -/
def Concealed (F : Family) (f : Field) (v : Option Json) : Prop :=
  Hidden f → v = none ∨ ∃ room, v = some (zero F room f.shape)

section
variable {F : Family}

theorem Throughout.imp {allowed allowed' : Field → Option Json → Prop}
    (h : ∀ f v, allowed f v → allowed' f v) {depth : Nat} {s : Shape} {v : Json}
    (hv : Throughout F allowed depth s v) : Throughout F allowed' depth s v := by
  induction depth generalizing s v with
  | zero => trivial
  | succ depth ih =>
    unfold Throughout at hv ⊢
    split at hv
    · intro f hf hs
      obtain ⟨hallowed, hinside⟩ := hv f hf hs
      exact ⟨h f _ hallowed, fun w hw => ih (hinside w hw)⟩
    · exact fun w hw => ih (hv w hw)
    · trivial

/-- Where there are no structs, there is nothing to hide. -/
theorem throughout_of_holdsStruct {allowed : Field → Option Json → Prop} {s : Shape}
    (h : s.holdsStruct = false) (depth : Nat) (v : Json) : Throughout F allowed depth s v := by
  induction s generalizing depth v with
  | optional inner ih =>
    cases depth with
    | zero => trivial
    | succ depth => exact ih h (depth + 1) v
  | array elem ih =>
    cases depth with
    | zero => trivial
    | succ depth =>
      cases v with
      | arr items => exact fun w _ => ih h depth w
      | _ => trivial
  | struct id => cases h
  | _ =>
    cases depth with
    | zero => trivial
    | succ depth => cases v <;> trivial

/-! ## Renaming -/

/-- A value that a field with a JSON name has under its key. -/
def PlacedBy (place : Shape → Json → Json) (fs : List Field) (key : String) (w : Json) : Prop :=
  ∃ f ∈ fs, f.key = key ∧ f.jsonName? ≠ none ∧ ∃ v, w = place f.shape v

section
variable {place : Shape → Json → Json} {f : Field} {fs : List Field} {key : String} {w : Json}

theorem PlacedBy.tail (h : PlacedBy place fs key w) : PlacedBy place (f :: fs) key w := by
  obtain ⟨g, hg, hrest⟩ := h
  exact ⟨g, .tail _ hg, hrest⟩

theorem PlacedBy.of_insert {name : String} {out : Assoc Json} {v : Json}
    (hname : f.jsonName? = some name)
    (h : Assoc.find? key (Assoc.insert f.key (place f.shape v) out) = some w) :
    Assoc.find? key out = some w ∨ PlacedBy place (f :: fs) key w := by
  rw [Assoc.find?_insert] at h
  split at h
  · rename_i hkey
    cases h
    exact .inr ⟨f, .head _, hkey.symm, by simp [hname], v, rfl⟩
  · exact .inl h

theorem of_find?_renameMembers {rest out : Assoc Json}
    (h : Assoc.find? key (Gather.renameMembers place fs rest out) = some w) :
    Assoc.find? key out = some w ∨ PlacedBy place fs key w := by
  induction fs generalizing rest out with
  | nil => exact .inl h
  | cons f fs ih =>
    unfold Gather.renameMembers at h
    split at h
    · exact (ih h).imp_right .tail
    · rename_i name hname
      split at h
      · exact (ih h).imp_right .tail
      · rcases ih h with h | h
        · exact PlacedBy.of_insert hname h
        · exact .inr h.tail

theorem of_find?_fromObject {rest ms : Assoc Json}
    (h : Assoc.find? key (Gather.fromObject F fs rest ms) = some w) :
    Assoc.find? key ms = some w ∨ PlacedBy (Gather.rename F maxDepth) fs key w := by
  induction fs generalizing rest ms with
  | nil => exact .inl h
  | cons f fs ih =>
    unfold Gather.fromObject at h
    split at h
    · exact (ih h).imp_right .tail
    · rename_i name hname
      split at h
      · exact (ih h).imp_right .tail
      · split at h
        · exact (ih h).imp_right .tail
        · rcases ih h with h | h
          · exact PlacedBy.of_insert hname h
          · exact .inr h.tail

end

theorem eq_of_key (hkeys : DistinctKeys F) {id : StructId} {f g : Field}
    (hf : f ∈ (F.get id).fields) (hfs : f.skip = false) (hg : g ∈ (F.get id).dataFields)
    (h : g.key = f.key) : g = f := by
  have hf' : f ∈ (F.get id).fields.filter (!·.skip) := by simp [hf, hfs]
  exact List.inj_on_of_nodup_map (hkeys id) (Gather.mem_kept_of_mem_dataFields hg) hf' h

theorem drops_rename (hkeys : DistinctKeys F) (room : Nat) (s : Shape) (v : Json) :
    Throughout F Dropped room s (Gather.rename F room s v) := by
  induction room generalizing s v with
  | zero => trivial
  | succ room ih =>
    cases v with
    | obj members =>
      cases hs : s.unwrap with
      | struct id =>
        simp only [Gather.rename, Throughout, hs]
        intro f hf hfs
        have hmember (w : Json) (hw : Assoc.find? f.key (Gather.renameMembers (Gather.rename F room)
            (F.get id).dataFields members []) = some w) :
            f.jsonName? ≠ none ∧ ∃ v, w = Gather.rename F room f.shape v := by
          rcases of_find?_renameMembers hw with h | ⟨g, hg, hkey, hname, hv⟩
          · cases h
          · rw [← eq_of_key hkeys hf hfs hg hkey]
            exact ⟨hname, hv⟩
        refine ⟨fun hhidden => ?_, fun w hw => ?_⟩
        · exact Option.eq_none_iff_forall_ne_some.2 fun w hw =>
            (hmember w hw).1 hhidden.jsonName?_eq
        · obtain ⟨_, v, rfl⟩ := hmember w hw
          exact ih f.shape v
      | _ => simp only [Gather.rename, Throughout, hs]
    | arr items =>
      cases hs : s.unwrap with
      | array elem =>
        simp only [Gather.rename, Throughout, hs]
        intro w hw
        obtain ⟨item, _, rfl⟩ := List.mem_map.1 hw
        exact ih elem item
      | _ => simp only [Gather.rename, Throughout, hs]
    | _ => simp only [Gather.rename, Throughout]

/-! ## Filling -/

/-- Filling keeps hidden fields hidden: at each depth for zero values, and for values without members of
hidden fields. -/
theorem throughout_filled (hkeys : DistinctKeys F) (depth : Nat) :
    (∀ room s, Throughout F (Concealed F) depth s (zero F room s)) ∧
    ∀ room f v, Throughout F Dropped depth f.shape v →
      Throughout F (Concealed F) depth f.shape (settle (extension F room) f (some v)) := by
  induction depth with
  | zero => exact ⟨fun _ _ => trivial, fun _ _ _ _ => trivial⟩
  | succ depth ih =>
    obtain ⟨ihzero, ihsettle⟩ := ih
    have hfields (room : Nat) (id : StructId) (nested : Assoc Json)
        (hnested : ∀ f ∈ (F.get id).fields, f.skip = false →
          Dropped f (Assoc.find? f.key nested) ∧
            ∀ w, Assoc.find? f.key nested = some w → Throughout F Dropped depth f.shape w) :
        ∀ f ∈ (F.get id).fields, f.skip = false →
          Concealed F f (Assoc.find? f.key
            (fillFields (extension F room) (F.get id).fields nested)) ∧
          ∀ w, Assoc.find? f.key (fillFields (extension F room) (F.get id).fields nested) = some w →
            Throughout F (Concealed F) depth f.shape w := by
      intro f hf hfs
      obtain ⟨hdropped, hinside⟩ := hnested f hf hfs
      have hfind : Assoc.find? f.key (fillFields (extension F room) (F.get id).fields nested) =
          some (settle (extension F room) f (Assoc.find? f.key nested)) :=
        (find?_foldl_fillField (extension F room) nested (hkeys id)).2 f (by simp [hf, hfs])
      rw [hfind]
      cases hv : Assoc.find? f.key nested with
      | none =>
        refine ⟨fun _ => .inr ⟨room, rfl⟩, fun w hw => ?_⟩
        cases hw
        exact ihzero room f.shape
      | some v =>
        refine ⟨fun hhidden => ?_, fun w hw => ?_⟩
        · cases hv.symm.trans (hdropped hhidden)
        · cases hw
          exact ihsettle room f v (hinside v hv)
    refine ⟨fun room s => ?_, fun room f v hv => ?_⟩
    · cases s with
      | struct id =>
        cases room with
        | zero => trivial
        | succ room => exact hfields room id [] fun f _ _ => ⟨fun _ => rfl, fun w hw => nomatch hw⟩
      | array elem => exact fun w hw => nomatch hw
      | enum variants => cases variants <;> trivial
      | _ => trivial
    · cases v with
      | obj nested =>
        cases he : f.shape.struct?.bind (extension F room) with
        | none =>
          simp only [settle, he]
          exact hv.imp fun f v hd hh => .inl (hd hh)
        | some extend =>
          obtain ⟨id, hid, hext⟩ := Option.bind_eq_some_iff.1 he
          have hunwrap := Shape.struct?_eq_some.1 hid
          cases room with
          | zero => cases hext
          | succ room =>
            cases hext
            simp only [settle, he]
            simp only [Throughout, hunwrap] at hv ⊢
            exact hfields room id nested hv
      | _ => exact hv.imp fun f v hd hh => .inl (hd hh)

end

end Binding

/-! ## Gathered requests -/

namespace Gather

/-- Whether a value is read from a text. -/
def Origin.isText : Origin → Bool
  | .path .. => true
  | .query .. => true
  | .form .. => true
  | _ => false

section
variable {F : Family} {st : Struct} {r : Request} {ms : Members} {f : Field}

theorem isText_of_later (h : (laterOrigin r f).isText = true) : (origin r f).isText = true := by
  unfold origin
  split
  · rfl
  · exact h

/-- What the request says about a field is read from a text, or renamed. -/
theorem text_or_renamed {v : Json} (hnd : (st.dataFields.map Field.key).Nodup)
    (h : found F st r = .ok ms) (hf : f ∈ st.dataFields) (hv : Assoc.find? f.key ms = some v) :
    (origin r f).isText = true ∨
      f.jsonName? ≠ none ∧ ∃ w, v = rename F Binding.maxDepth f.shape w := by
  obtain ⟨ms₁, hpath, hlater⟩ := later_found hnd h
  have hask := ((find?_foldlM_draw hnd hpath).2 f hf).2 rfl
  unfold pathSource at hask
  cases hp : parameter? r f with
  | some found =>
    rw [origin, hp]
    exact .inl rfl
  | none =>
    rw [hp] at hask
    have hnone : Assoc.find? f.key ms₁ = none := (Except.ok.inj hask).symm
    cases hlater with
    | @pairs ps o text pass horigin =>
      have hsource := ((find?_foldlM_draw hnd pass).2 f hf).2 hnone
      rw [hv, pairSource] at hsource
      cases hu : under? ps f with
      | none =>
        rw [hu] at hsource
        cases hsource
      | some found =>
        refine .inl (isText_of_later ?_)
        rw [horigin, hu]
        rcases text with rfl | rfl <;> rfl
    | object pass _ =>
      rw [← pass] at hv
      rcases Binding.of_find?_fromObject hv with hv | ⟨g, hg, hkey, hname, hw⟩
      · cases hnone.symm.trans hv
      · have hgf : g = f := List.inj_on_of_nodup_map hnd hg hf hkey
        exact .inr (hgf ▸ ⟨hname, hw⟩)
    | nothing same _ =>
      rw [← same] at hv
      cases hnone.symm.trans hv

end

end Gather

/-- **Hidden fields.** Where no two fields of a struct share a key: a hidden field of a gathered struct has
its zero value, whatever the request. So have the hidden fields of the structs in the value of any other
field, or they are absent, unless the value is a text that holds structs. -/
theorem hidden_fields_stay_hidden {F : Family} {id : StructId} {r : Request} {ms : Gather.Members}
    (hkeys : Binding.DistinctKeys F) (h : Gather.members F (F.get id) r = .ok ms) :
    (∀ f ∈ (F.get id).dataFields, Hidden f →
      Assoc.find? f.key ms = some (Binding.zero F Binding.maxDepth f.shape)) ∧
    ∀ f ∈ (F.get id).dataFields,
      ((Gather.origin r f).isText = true → f.shape.holdsStruct = false) →
        ∃ v, Assoc.find? f.key ms = some v ∧
          Binding.Throughout F (Binding.Concealed F) Binding.maxDepth f.shape v := by
  obtain ⟨ms₀, hfound, rfl⟩ := map_eq_ok.1 h
  have hnd := Gather.nodup_keys_dataFields (hkeys id)
  have hfilled (f : Field) (hf : f ∈ (F.get id).dataFields) :
      Assoc.find? f.key (Binding.fill F Binding.maxDepth (F.get id) ms₀) =
        some (Binding.settle (Binding.extension F Binding.maxDepth) f (Assoc.find? f.key ms₀)) :=
    (Binding.find?_foldl_fillField _ ms₀ (hkeys id)).2 f (Gather.mem_kept_of_mem_dataFields hf)
  obtain ⟨hzero, hsettle⟩ := Binding.throughout_filled hkeys Binding.maxDepth
  refine ⟨fun f hf hhidden => ?_, fun f hf htext => ⟨_, hfilled f hf, ?_⟩⟩
  · rw [hfilled f hf]
    cases hv : Assoc.find? f.key ms₀ with
    | none => rfl
    | some v =>
      rcases Gather.text_or_renamed hnd hfound hf hv with ho | ⟨hname, _⟩
      · rw [hhidden.origin_eq] at ho
        cases ho
      · exact absurd hhidden.jsonName?_eq hname
  · cases hv : Assoc.find? f.key ms₀ with
    | none => exact hzero _ f.shape
    | some v =>
      rcases Gather.text_or_renamed hnd hfound hf hv with ho | ⟨_, w, rfl⟩
      · exact Binding.throughout_of_holdsStruct (htext ho) _ _
      · exact hsettle _ f _ (Binding.drops_rename hkeys _ f.shape w)

/-- A gathering that gives a key an object with a text. -/
theorem gathered_member {x : Except Failure Gather.Members} {key inner text : String}
    (h : ((x.toOption.bind (Assoc.find? key)).bind (Json.get? inner)).bind Json.text? = some text) :
    ∃ ms nested, x = .ok ms ∧ Assoc.find? key ms = some (.obj nested) ∧
      Assoc.find? inner nested = some (.str text) := by
  obtain ⟨v, hv, htext⟩ := Option.bind_eq_some_iff.1 h
  obtain ⟨o, ho, hinner⟩ := Option.bind_eq_some_iff.1 hv
  obtain ⟨ms, hms, hfind⟩ := Option.bind_eq_some_iff.1 ho
  cases x with
  | error e => cases hms
  | ok ms' =>
    obtain rfl := Option.some.inj hms
    cases o with
    | obj nested =>
      cases v with
      | str t =>
        obtain rfl := Option.some.inj htext
        exact ⟨ms', nested, rfl, hfind, hinner⟩
      | _ => cases htext
    | _ => cases hinner

/-- A JSON body does not reach the hidden field of a nested struct. -/
theorem hidden_field_in_body :
    let secret : Field := ⟨"secret", "secret", "json:\"-\"", "", false, .string⟩
    let login : Field := ⟨"login", "login", "", "", false, .string⟩
    let owner : Field := ⟨"owner", "owner", "", "", false, .struct 1⟩
    let F : Family := ⟨[⟨"Rename", [owner]⟩, ⟨"Owner", [login, secret]⟩]⟩
    let r : Request :=
      { (default : Request) with
        method := "POST"
        headers := [("content-type", "application/json")]
        body := Text.encode "\x7b\"owner\":\x7b\"login\":\"ada\",\"secret\":\"x\"\x7d\x7d" }
    ∃ ms nested, (Binding.DistinctKeys F ∧ Gather.members F (F.get 0) r = .ok ms) ∧
      (Gather.origin r owner).isText = false ∧
      Assoc.find? "owner" ms = some (.obj nested) ∧ Hidden secret ∧
      Assoc.find? "login" nested = some (.str "ada") ∧
      (Assoc.find? "secret" nested = none ∨ Assoc.find? "secret" nested = some (.str "")) := by
  intro secret login owner F r
  obtain ⟨ms, nested, hms, howner, hlogin⟩ : ∃ ms nested,
      Gather.members F (F.get 0) r = .ok ms ∧ Assoc.find? "owner" ms = some (.obj nested) ∧
        Assoc.find? "login" nested = some (.str "ada") :=
    gathered_member (by decide +kernel)
  have hkeys : Binding.DistinctKeys F := by
    rintro (_ | _ | id)
    · decide
    · decide
    · exact List.nodup_nil
  have htext : (Gather.origin r owner).isText = false := by decide +kernel
  have hsecret : Hidden secret := ⟨by decide +kernel, by decide +kernel, by decide +kernel⟩
  obtain ⟨v, hv, hthroughout⟩ := (hidden_fields_stay_hidden hkeys hms).2 owner (.head _)
    (by simp [htext])
  cases howner.symm.trans hv
  obtain ⟨hconcealed, _⟩ := hthroughout secret (.tail _ (.head _)) rfl
  refine ⟨ms, nested, ⟨hkeys, hms⟩, htext, howner, hsecret, hlogin, ?_⟩
  rcases hconcealed hsecret with h | ⟨room, h⟩
  · exact .inl h
  · exact .inr h

/-- A query that holds the nested struct as JSON text reaches it, and the request is bound. -/
theorem hidden_field_in_query :
    let secret : Field := ⟨"secret", "secret", "json:\"-\"", "", false, .string⟩
    let owner : Field := ⟨"o", "o", "", "", false, .struct 1⟩
    let F : Family := ⟨[⟨"P", [owner]⟩, ⟨"Q", [secret]⟩]⟩
    let r : Request :=
      { (default : Request) with
        method := "GET", uri := .parse "/?o=%7B%22secret%22%3A%22x%22%7D" }
    ∃ ms nested, Gather.value F (.struct 0) r = .ok (.obj ms) ∧
      Assoc.find? "o" ms = some (.obj nested) ∧ secret ∈ (F.get 1).dataFields ∧ Hidden secret ∧
      Assoc.find? "secret" nested = some (.str "x") := by
  intro secret owner F r
  obtain ⟨ms, nested, hms, howner, hfind⟩ : ∃ ms nested,
      Gather.members F (F.get 0) r = .ok ms ∧ Assoc.find? "o" ms = some (.obj nested) ∧
        Assoc.find? "secret" nested = some (.str "x") :=
    gathered_member (by decide +kernel)
  have hsecret : Hidden secret := ⟨by decide +kernel, by decide +kernel, by decide +kernel⟩
  have hbinds : (Gather.value F (.struct 0) r).isOk = true := by decide +kernel
  refine ⟨ms, nested, ?_, howner, .head _, hsecret, hfind⟩
  have hs : (Shape.struct 0).struct? = some 0 := rfl
  rw [value_eq_check hs hms] at hbinds ⊢
  cases hcheck : Validation.check F r.locale (F.get 0) (.obj ms) with
  | ok _ => rfl
  | error e =>
    rw [hcheck] at hbinds
    cases hbinds

end HttpService
