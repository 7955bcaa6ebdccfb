import HttpService.Proofs.Binding.Precedence
import HttpService.Proofs.Binding.Texts
import HttpService.Proofs.Http.Form
import Mathlib.Data.List.Nodup

/-!
# Objects written as pairs

`written st ms` is an object of scalars and arrays of scalars as pairs of names and texts: one pair for a
scalar, one for each item of an array. A request `Carries` pairs in its query or in an urlencoded body.
`pairs_round_trip`: the object is gathered back, wherever the pairs are and in whatever order they come, as
long as those of one name keep theirs; and that the order matters in no other way holds of all pairs,
whether they can be read or not.
-/

set_option autoImplicit false

namespace HttpService

namespace Binding

/-! ## Values as texts -/

/-- The values that pairs can carry: scalars, and arrays of scalars. -/
inductive IsWritable : Shape → Json → Prop
  | scalar {s : Shape} {v : Json} (h : IsScalar s v) : IsWritable s v
  | array {s : Shape} {items : List Json} (h : ∀ v ∈ items, IsScalar s v) :
    IsWritable (.array s) (.arr items)

/-- The texts of a value: one for a scalar, one for each item of an array. -/
def texts : Json → List String
  | .arr items => items.map scalarText
  | v => [scalarText v]

theorem unwrap_of_isScalar {s : Shape} {v : Json} (h : IsScalar s v) : s.unwrap = s := by
  cases h <;> rfl

theorem texts_of_isScalar {s : Shape} {v : Json} (h : IsScalar s v) : texts v = [scalarText v] := by
  cases h <;> rfl

theorem not_array_of_isScalar {s elem : Shape} {v : Json} (h : IsScalar s v) : s ≠ .array elem := by
  cases h <;> nofun

theorem mapM_coerce {s : Shape} {items : List Json} (h : ∀ v ∈ items, IsScalar s v) (name : String) :
    (items.map fun v => Text.encode (scalarText v)).mapM (coerce name s) = .ok items := by
  induction items with
  | nil => rfl
  | cons v items ih =>
    rw [List.map_cons, List.mapM_cons, coerce_scalarText (h v (.head _)), ih fun w hw => h w (.tail _ hw)]
    rfl

/-- No text writes the empty array, which is the zero value of its shape. -/
theorem settle_of_texts_nil {inner : StructId → Option Extension} {f : Field} {v : Json}
    (h : IsWritable f.shape v) (hnil : texts v = []) : settle inner f none = v := by
  show zeroWith inner f.shape = v
  generalize f.shape = s at h
  cases h with
  | scalar h =>
    rw [texts_of_isScalar h] at hnil
    cases hnil
  | array h =>
    rw [List.map_eq_nil_iff.1 hnil]
    rfl

/-- Filling leaves a value that can be written. -/
theorem settle_of_isWritable {inner : StructId → Option Extension} {f : Field} {v : Json}
    (h : IsWritable f.shape v) : settle inner f (some v) = v := by
  have hplain : v.isObject = false := by
    generalize f.shape = s at h
    cases h with
    | scalar h => cases h <;> rfl
    | array => rfl
  cases v with
  | obj => cases hplain
  | _ => rfl

end Binding

namespace Gather

open Binding (IsScalar IsWritable texts scalarText)

/-- Raw values under a name give back the value whose texts they are. -/
theorem ofValues_texts {s : Shape} {v : Json} {first : String} {others : List String}
    (h : IsWritable s v) (ht : texts v = first :: others) (name : String) :
    ofValues name s (Text.encode first) ((first :: others).map Text.encode) = .ok v := by
  rw [← ht]
  cases h with
  | scalar h =>
    obtain ⟨rfl, -⟩ := List.cons.inj ((Binding.texts_of_isScalar h).symm.trans ht)
    unfold ofValues
    split
    · rename_i elem hs
      exact absurd ((Binding.unwrap_of_isScalar h).symm.trans hs) (Binding.not_array_of_isScalar h)
    · exact Binding.coerce_scalarText h name
  | @array s items h =>
    have hread := Binding.mapM_coerce h name
    show ((((items.map scalarText).map Text.encode).mapM (Binding.coerce name s)).bind fun vs =>
      Except.ok (Json.arr vs)) = _
    rw [List.map_map]
    exact bind_eq_ok.2 ⟨items, hread, rfl⟩

/-! ## Pairs and their order -/

/-- The pairs that write a field of an object. -/
def writtenField (ms : Members) (f : Field) : List (String × String) :=
  match f.formName? with
  | none => []
  | some name => (texts ((Assoc.find? f.key ms).getD .null)).map fun t => (name, t)

/-- The pairs that write an object, in the order of the fields. -/
def written (st : Struct) (ms : Members) : List (String × String) :=
  st.dataFields.flatMap (writtenField ms)

/-- The same pairs, those of each name in the same order. -/
def Reordered (ps qs : List (String × String)) : Prop :=
  ∀ name, ps.filter (·.1 = name) = qs.filter (·.1 = name)

/-- Two pairs change places that have different names, also from those between them. -/
theorem Reordered.swap {p q : String × String} {ys : List (String × String)} (hne : p.1 ≠ q.1)
    (hbetween : ∀ y ∈ ys, y.1 ≠ p.1 ∧ y.1 ≠ q.1) (xs zs : List (String × String)) :
    Reordered (xs ++ p :: (ys ++ q :: zs)) (xs ++ q :: (ys ++ p :: zs)) := by
  have hskip {o : String × String} (ho : ∀ y ∈ ys, y.1 ≠ o.1) : ys.filter (·.1 = o.1) = [] :=
    List.filter_eq_nil_iff.2 fun y hy => by simpa using ho y hy
  intro name
  simp only [List.filter_append, List.filter_cons]
  by_cases hp : p.1 = name
  · subst hp
    simp [Ne.symm hne, hskip fun y hy => (hbetween y hy).1]
  · by_cases hq : q.1 = name
    · subst hq
      simp [hne, hskip fun y hy => (hbetween y hy).2]
    · simp [hp, hq]

/-- Pairs with the bytes of their values. -/
def coded (ps : List (String × String)) : List (String × Bytes) :=
  ps.map fun (name, value) => (name, Text.encode value)

theorem values_coded (ps : List (String × String)) (name : String) :
    ((coded ps).filter (·.1 = name)).map (·.2) =
      (ps.filter (·.1 = name)).map fun p => Text.encode p.2 := by
  rw [coded, List.filter_map, List.map_map]
  rfl

theorem under?_congr {ps qs : List (String × String)} (h : Reordered ps qs) :
    under? (coded ps) = under? (coded qs) := by
  funext f
  unfold under?
  cases f.formName? with
  | none => rfl
  | some name =>
    dsimp only
    rw [values_coded, values_coded, h name]

theorem fromPairs_congr {ps qs : List (String × String)} (h : Reordered ps qs) :
    fromPairs (coded ps) = fromPairs (coded qs) := by
  rw [fromPairs_eq_draw, fromPairs_eq_draw]
  unfold pairSource
  rw [under?_congr h]

/-! ## Requests that carry pairs -/

/-- The pairs that a request gives its fields, in its query or in an urlencoded body. -/
inductive Carries (r : Request) : List (String × String) → Prop
  | query {q : String} (verb : readsQuery r.method = true) (uri : r.uri.query = some q) :
    Carries r (Form.decode (Text.encode q))
  | noQuery (verb : readsQuery r.method = true) (uri : r.uri.query = none) : Carries r []
  | body (verb : readsBody r.method = true)
      (type : bodyKind (MediaType.essence ((r.headers.text? "content-type").getD "")) r.body = .form) :
    Carries r (Form.decode r.body)

section
variable {F : Family} {st : Struct} {r r' : Request} {ps ps' : List (String × String)}

/-- What is found in a request that carries pairs: path parameters, then the pairs. -/
theorem found_of_carries (h : Carries r ps) :
    found F st r = (st.dataFields.foldlM (fromPath r) []).bind fun ms =>
      st.dataFields.foldlM (fromPairs (coded ps)) ms := by
  unfold found
  refine congrArg (Except.bind _) (funext fun ms => ?_)
  cases h with
  | query verb uri =>
    rw [if_pos verb, uri]
    rfl
  | noQuery verb uri =>
    rw [if_pos verb, uri]
    exact (foldlM_fromPairs_nil _ ms).symm
  | body verb type =>
    rw [if_neg (by simp [readsQuery_of_readsBody verb])]
    by_cases hempty : r.body = []
    · rw [if_neg (by simp [hempty]), hempty]
      exact (foldlM_fromPairs_nil _ ms).symm
    · rw [if_pos (by simp [verb, hempty]), fromBody, type]
      rfl

/-- Requests with the same path parameters that carry the same pairs are gathered alike, errors
included. -/
theorem members_congr (h : Carries r ps) (h' : Carries r' ps') (hparams : r.params = r'.params)
    (horder : Reordered ps ps') : members F st r = members F st r' := by
  have hpath : fromPath r = fromPath r' := by
    funext ms f
    unfold fromPath Request.param?
    rw [hparams]
  rw [members, members, found_of_carries h, found_of_carries h', hpath, fromPairs_congr horder]

end

/-! ## Reading an object back -/

/-- The values that an object may give a field: what pairs can carry if the field has a form name, else its
zero value. -/
def Fits (F : Family) (f : Field) (v : Json) : Prop :=
  if f.isData && f.formName?.isSome then IsWritable f.shape v
  else v = Binding.zero F Binding.maxDepth f.shape

/-- The object gives a fitting value to every field that is not skipped, and has no other members. -/
structure Assigns (F : Family) (st : Struct) (ms : Members) : Prop where
  sorted : Assoc.Sorted ms
  only : ∀ key v, Assoc.find? key ms = some v → ∃ f ∈ st.fields, f.skip = false ∧ f.key = key
  fields : ∀ f ∈ st.fields, f.skip = false → ∃ v, Assoc.find? f.key ms = some v ∧ Fits F f v

section
variable {ms : Members} {fs : List Field} {f : Field} {name : String}

theorem fst_of_mem_writtenField {p : String × String} (h : p ∈ writtenField ms f) :
    f.formName? = some p.1 := by
  unfold writtenField at h
  split at h
  · cases h
  · rename_i name hname
    obtain ⟨t, _, rfl⟩ := List.mem_map.1 h
    exact hname

/-- Where form names are distinct, the pairs with the name of a field are those that write it. -/
theorem filter_flatMap_writtenField (hnames : (fs.filterMap Field.formName?).Nodup) (hf : f ∈ fs)
    (hname : f.formName? = some name) :
    (fs.flatMap (writtenField ms)).filter (·.1 = name) = writtenField ms f := by
  have hown : (writtenField ms f).filter (·.1 = name) = writtenField ms f :=
    List.filter_eq_self.2 fun p hp =>
      decide_eq_true (Option.some.inj ((fst_of_mem_writtenField hp).symm.trans hname))
  have hother {g : Field} (hg : g.formName? ≠ some name) : (writtenField ms g).filter (·.1 = name) = [] :=
    List.filter_eq_nil_iff.2 fun p hp hp' =>
      hg (of_decide_eq_true hp' ▸ fst_of_mem_writtenField hp)
  induction fs with
  | nil => cases hf
  | cons g fs ih =>
    have htail : (fs.filterMap Field.formName?).Nodup :=
      hnames.sublist ((List.sublist_cons_self g fs).filterMap _)
    rw [List.flatMap_cons, List.filter_append]
    by_cases hg : g.formName? = some name
    · have hunique (x : Field) (hx : x ∈ fs) : x.formName? ≠ some name := by
        intro hxname
        rw [List.filterMap_cons, hg] at hnames
        exact (List.nodup_cons.1 hnames).1 (List.mem_filterMap.2 ⟨x, hx, hxname⟩)
      obtain rfl : f = g := (List.mem_cons.1 hf).resolve_right fun hf => hunique f hf hname
      rw [hown, List.filter_flatMap, List.flatMap_eq_nil_iff.2 fun x hx => hother (hunique x hx),
        List.append_nil]
    · have hne : f ≠ g := fun he => hg (he ▸ hname)
      rw [hother hg, List.nil_append]
      exact ih htail ((List.mem_cons.1 hf).resolve_left hne)

theorem sorted_draw {source : Source} {ms' : Members} (hs : Assoc.Sorted ms)
    (h : draw source ms f = .ok ms') : Assoc.Sorted ms' := by
  unfold draw at h
  split at h
  · cases h
    exact hs
  · obtain ⟨found, _, rfl⟩ := map_eq_ok.1 h
    cases found with
    | none => exact hs
    | some v => exact Assoc.sorted_insert hs

theorem sorted_foldlM_draw {source : Source} {ms' : Members} (hs : Assoc.Sorted ms)
    (h : fs.foldlM (draw source) ms = .ok ms') : Assoc.Sorted ms' := by
  induction fs generalizing ms with
  | nil =>
    cases h
    exact hs
  | cons f fs ih =>
    rw [List.foldlM_cons] at h
    obtain ⟨ms₁, hdraw, hrest⟩ := bind_eq_ok.1 h
    exact ih (sorted_draw hs hdraw) hrest

theorem foldlM_fromPath_nothing {r : Request} (h : ∀ f ∈ fs, parameter? r f = none) (ms : Members) :
    fs.foldlM (fromPath r) ms = .ok ms := by
  induction fs with
  | nil => rfl
  | cons f fs ih =>
    have hnone : fromPath r ms f = .ok ms := by
      have hparameter := h f (.head _)
      unfold parameter? at hparameter
      unfold fromPath
      cases hname : f.uriName? with
      | none => rfl
      | some name =>
        rw [hname, Option.bind_some, Option.map_eq_none_iff] at hparameter
        dsimp only
        rw [hparameter]
    rw [List.foldlM_cons, hnone]
    exact ih fun g hg => h g (.tail _ hg)

end

section
variable {F : Family} {st : Struct} {r : Request} {ms : Members} {ps : List (String × String)}

/-- What pairs say about a field is its value, once it is filled. -/
theorem pairSource_written (hnames : (st.dataFields.filterMap Field.formName?).Nodup)
    (horder : Reordered ps (written st ms)) {f : Field} {v : Json} (hf : f ∈ st.dataFields)
    (hv : Assoc.find? f.key ms = some v) (hfits : Fits F f v) :
    ∃ found, pairSource (coded ps) f = .ok found ∧
      Binding.settle (Binding.extension F Binding.maxDepth) f found = v := by
  have hdata : f.isData = true := (List.mem_filter.1 hf).2
  unfold Fits at hfits
  cases hname : f.formName? with
  | none =>
    rw [hdata, hname] at hfits
    refine ⟨none, ?_, hfits.symm⟩
    unfold pairSource under?
    rw [hname]
  | some name =>
    rw [hdata, hname] at hfits
    have hfits : IsWritable f.shape v := hfits
    have hvalues : ((coded ps).filter (·.1 = name)).map (·.2) = (texts v).map Text.encode := by
      rw [values_coded, horder name, written, filter_flatMap_writtenField hnames hf hname, writtenField,
        hname, hv, List.map_map]
      rfl
    unfold pairSource under?
    rw [hname]
    dsimp only
    rw [hvalues]
    cases ht : texts v with
    | nil => exact ⟨none, rfl, Binding.settle_of_texts_nil hfits ht⟩
    | cons first others =>
      have hread := ofValues_texts hfits ht name
      rw [List.map_cons] at hread ⊢
      exact ⟨some v, map_eq_ok.2 ⟨v, hread, rfl⟩, Binding.settle_of_isWritable hfits⟩

theorem Assigns.find?_eq_none (h : Assigns F st ms) {key : String}
    (hkey : key ∉ (st.fields.filter (!·.skip)).map Field.key) : Assoc.find? key ms = none := by
  refine Option.eq_none_iff_forall_ne_some.2 fun v hv => ?_
  obtain ⟨f, hf, hkept, rfl⟩ := h.only key v hv
  exact hkey (List.mem_map_of_mem (List.mem_filter.2 ⟨hf, by simp [hkept]⟩))

/-- Where keys are distinct, a marker has the key of no data field. -/
theorem key_not_mem_dataFields (hkeys : ((st.fields.filter (!·.skip)).map Field.key).Nodup) {f : Field}
    (hf : f ∈ st.fields.filter (!·.skip)) (hmarker : f ∉ st.dataFields) :
    f.key ∉ st.dataFields.map Field.key := by
  intro hmem
  obtain ⟨g, hg, hgkey⟩ := List.mem_map.1 hmem
  obtain rfl := List.inj_on_of_nodup_map hkeys (mem_kept_of_mem_dataFields hg) hf hgkey
  exact hmarker hg

/-- An object is gathered back from the pairs that write it. -/
theorem members_of_written (hkeys : ((st.fields.filter (!·.skip)).map Field.key).Nodup)
    (hnames : (st.dataFields.filterMap Field.formName?).Nodup) (hms : Assigns F st ms)
    (h : Carries r ps) (horder : Reordered ps (written st ms))
    (hpath : ∀ f ∈ st.dataFields, parameter? r f = none) : members F st r = .ok ms := by
  have hmem {f : Field} (hf : f ∈ st.fields.filter (!·.skip)) : f ∈ st.fields ∧ f.skip = false := by
    simpa using hf
  have hsource (f : Field) (hf : f ∈ st.dataFields) :
      ∃ v found, Assoc.find? f.key ms = some v ∧ pairSource (coded ps) f = .ok found ∧
        Binding.settle (Binding.extension F Binding.maxDepth) f found = v := by
    obtain ⟨hfield, hkept⟩ := hmem (mem_kept_of_mem_dataFields hf)
    obtain ⟨v, hv, hfits⟩ := hms.fields f hfield hkept
    obtain ⟨found, hfound, hsettle⟩ := pairSource_written hnames horder hf hv hfits
    exact ⟨v, found, hv, hfound, hsettle⟩
  obtain ⟨ms₀, hfold⟩ : ∃ ms₀, st.dataFields.foldlM (draw (pairSource (coded ps))) [] = .ok ms₀ :=
    exists_foldlM_draw fun f hf => by
      obtain ⟨_, found, _, hfound, _⟩ := hsource f hf
      exact .inr ⟨found, hfound⟩
  have hfound : found F st r = .ok ms₀ := by
    rw [found_of_carries h, foldlM_fromPath_nothing hpath, fromPairs_eq_draw]
    exact hfold
  obtain ⟨hother₀, hfields₀⟩ := find?_foldlM_draw (nodup_keys_dataFields hkeys) hfold
  obtain ⟨hother, hfields⟩ :=
    Binding.find?_foldl_fillField (Binding.extension F Binding.maxDepth) ms₀ hkeys
  have hsorted : Assoc.Sorted ms₀ := sorted_foldlM_draw List.Pairwise.nil hfold
  rw [members, hfound]
  -- The members are equal if they agree at each key: of a data field, of a marker, or of no field.
  refine congrArg Except.ok (Assoc.Sorted.ext (Binding.sorted_foldl_fillField hsorted) hms.sorted fun key => ?_)
  change Assoc.find? key ((st.fields.filter (!·.skip)).foldl _ ms₀) = _
  by_cases hkey : key ∈ (st.fields.filter (!·.skip)).map Field.key
  · obtain ⟨f, hf, rfl⟩ := List.mem_map.1 hkey
    rw [hfields f hf]
    by_cases hdata : f ∈ st.dataFields
    · obtain ⟨v, found, hv, hread, hsettle⟩ := hsource f hdata
      have hask := (hfields₀ f hdata).2 rfl
      rw [hv, ← Except.ok.inj (hread.symm.trans hask), hsettle]
    · obtain ⟨hfield, hkept⟩ := hmem hf
      obtain ⟨v, hv, hfits⟩ := hms.fields f hfield hkept
      have hmarker : f.isData = false := by simpa [Struct.dataFields, hfield] using hdata
      rw [hother₀ _ (key_not_mem_dataFields hkeys hf hdata), hv]
      rw [Fits, hmarker] at hfits
      exact congrArg some hfits.symm
  · have hfree : key ∉ st.dataFields.map Field.key :=
      fun hm => hkey (List.map_subset _ (fun _ => mem_kept_of_mem_dataFields) hm)
    rw [hother key hkey, hother₀ key hfree, hms.find?_eq_none hkey]
    rfl

end

/-! ## Written forms -/

theorem carries_query_encode {r : Request} {ps : List (String × String)}
    (verb : readsQuery r.method = true) (uri : r.uri.query = some (Form.encode ps)) : Carries r ps := by
  have hquery := Carries.query verb uri
  rwa [Form.decode_encode] at hquery

theorem carries_body_encode {r : Request} {ps : List (String × String)}
    (verb : readsBody r.method = true)
    (type : MediaType.essence ((r.headers.text? "content-type").getD "") =
      "application/x-www-form-urlencoded") (body : r.body = Text.encode (Form.encode ps)) :
    Carries r ps := by
  have hbody := Carries.body verb (type ▸ rfl)
  rwa [body, Form.decode_encode] at hbody

/-- **Objects written as pairs.** Where the fields of a struct have distinct keys and distinct form names,
an object that gives each of them a value of its shape is gathered back from the pairs that write it:

* in any order that keeps the pairs of one name in order, in the query or in an urlencoded body, of a
  request without path parameters of the fields;
* requests with the same path parameters are gathered alike from the same pairs, the one from its query
  and the other from its body, also where no object wrote them;
* so are requests with two pairs of different names in each other's place. -/
theorem pairs_round_trip (F : Family) (st : Struct) :
    (∀ ms r ps, ((st.fields.filter (!·.skip)).map Field.key).Nodup →
      (st.dataFields.filterMap Field.formName?).Nodup → Assigns F st ms → Carries r ps →
      Reordered ps (written st ms) → (∀ f ∈ st.dataFields, parameter? r f = none) →
      Gather.members F st r = .ok ms) ∧
    (∀ r r' ps ps', Carries r ps → Carries r' ps' → r.params = r'.params → Reordered ps ps' →
      Gather.members F st r = Gather.members F st r') ∧
    ∀ r r' xs ys zs (p q : String × String), p.1 ≠ q.1 → (∀ y ∈ ys, y.1 ≠ p.1 ∧ y.1 ≠ q.1) →
      Carries r (xs ++ p :: (ys ++ q :: zs)) → Carries r' (xs ++ q :: (ys ++ p :: zs)) →
      r.params = r'.params → Gather.members F st r = Gather.members F st r' :=
  ⟨fun _ _ _ hkeys hnames hms h horder hpath => members_of_written hkeys hnames hms h horder hpath,
    fun _ _ _ _ h h' hparams horder => members_congr h h' hparams horder,
    fun _ _ xs _ zs _ _ hne hbetween h h' hparams =>
      members_congr h h' hparams (Reordered.swap hne hbetween xs zs)⟩

/-- A string, an array and a boolean, in another order than that of the fields. -/
theorem search_round_trip :
    let name : Field := ⟨"name", "name", "form:\"q\"", "", false, .string⟩
    let ids : Field := ⟨"ids", "ids", "", "", false, .array (.integer .w64 true)⟩
    let on : Field := ⟨"on", "on", "", "", false, .boolean⟩
    let st : Struct := ⟨"Search", [name, ids, on]⟩
    let F : Family := ⟨[st]⟩
    let ms : Members :=
      [("ids", .arr [.int (-3), .int 7]), ("name", .str "a b"), ("on", .bool true)]
    let ps := [("ids", "-3"), ("on", "true"), ("ids", "7"), ("q", "a b")]
    let r : Request := { (default : Request) with
      method := "GET", uri := ⟨none, none, "/search", some (Form.encode ps)⟩ }
    let r' : Request := { (default : Request) with
      method := "POST", headers := [("content-type", "application/x-www-form-urlencoded")]
      body := Text.encode (Form.encode ps) }
    (((st.fields.filter (!·.skip)).map Field.key).Nodup ∧
      (st.dataFields.filterMap Field.formName?).Nodup ∧ Assigns F st ms ∧ Carries r ps ∧
      Carries r' ps ∧ Reordered ps (written st ms) ∧ ∀ f ∈ st.dataFields, parameter? r f = none) ∧
    Gather.members F st r = .ok ms ∧ Gather.members F st r' = .ok ms := by
  intro name ids on st F ms ps r r'
  have hkeys : ((st.fields.filter (!·.skip)).map Field.key).Nodup := by decide
  have hnames : (st.dataFields.filterMap Field.formName?).Nodup := by decide +kernel
  have hquery : Carries r ps := carries_query_encode (by decide) rfl
  have hbody : Carries r' ps := carries_body_encode (by decide) (by decide +kernel) rfl
  have hids : IsWritable ids.shape (.arr [.int (-3), .int 7]) :=
    .array fun v hv => by
      rcases List.mem_cons.1 hv with rfl | hv
      · exact .signed _ (by decide) (by decide)
      · exact List.mem_singleton.1 hv ▸ .signed _ (by decide) (by decide)
  have hfits (f : Field) (hf : f ∈ st.fields) : ∃ v, Assoc.find? f.key ms = some v ∧ Fits F f v := by
    have hform : (f.isData && f.formName?.isSome) = true := by
      revert f
      decide +kernel
    have hof {v : Json} (h : IsWritable f.shape v) : Fits F f v := by
      rw [Fits, if_pos hform]
      exact h
    simp only [st, List.mem_cons, List.not_mem_nil, or_false] at hf
    rcases hf with rfl | rfl | rfl
    · exact ⟨_, by simp [name, ms, Assoc.find?], hof (.scalar (.string "a b"))⟩
    · exact ⟨_, by simp [ids, ms, Assoc.find?], hof hids⟩
    · exact ⟨_, by simp [on, ms, Assoc.find?], hof (.scalar (.boolean true))⟩
  have hms : Assigns F st ms := by
    refine ⟨List.pairwise_map.1 (show (ms.map (·.1)).Pairwise (· < ·) by decide +kernel),
      fun key v hv => ?_, fun f hf _ => hfits f hf⟩
    have hkey : key ∈ Assoc.keys ms := List.mem_map.2 ⟨_, Assoc.mem_of_find? hv, rfl⟩
    clear hv
    revert key
    decide +kernel
  have horder : Reordered ps (written st ms) := by
    have hwritten : written st ms = [("q", "a b"), ("ids", "-3"), ("ids", "7"), ("on", "true")] := by
      decide +kernel
    have hlast := @Reordered.swap ("on", "true") ("q", "a b") [("ids", "7")] (by decide) (by decide)
      [("ids", "-3")] []
    have hfirst := @Reordered.swap ("ids", "-3") ("q", "a b") [] (by decide) (by decide) []
      [("ids", "7"), ("on", "true")]
    rw [hwritten]
    exact fun n => (hlast n).trans (hfirst n)
  have hpath : ∀ f ∈ st.dataFields, parameter? r f = none := by decide +kernel
  obtain ⟨hread, hsame, _⟩ := pairs_round_trip F st
  have hmembers := hread ms r ps hkeys hnames hms hquery horder hpath
  exact ⟨⟨hkeys, hnames, hms, hquery, hbody, horder, hpath⟩, hmembers,
    (hsame r' r ps ps hbody hquery rfl fun _ => rfl).trans hmembers⟩

end Gather

end HttpService
