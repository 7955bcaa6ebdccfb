import HttpService.Binding.Gather
import HttpService.Proofs.Binding.Filling

/-!
# Which source a field is bound from

`origin r f` is the one place that the value of a field comes from: the path parameter it names, else by
the method of the request the query or the body, else nothing. `members_of_origin`: gathering gives every
field the value of its origin, and then only completes the objects of nested structs.

Each pass over the fields is a fold of `draw source`, which asks a source for the fields that have no
value yet. `find?_foldlM_draw` is what such a pass does to the members found so far.
-/

set_option autoImplicit false

namespace HttpService.Gather

/-! ## Origins -/

/-- The place that a field takes its value from, with the raw value there. -/
inductive Origin
  | path (name raw : String)
  | query (name : String) (first : Bytes) (others : List Bytes)
  /-- A member of a JSON body. -/
  | member (v : Json)
  /-- Pairs of an urlencoded or multipart body. -/
  | form (name : String) (first : Bytes) (others : List Bytes)
  | absent

/-- What a body holds. -/
inductive Content
  | object (members : Members)
  | pairs (ps : List (String × Bytes))

def queryPairs (r : Request) : List (String × Bytes) :=
  match r.uri.query with
  | some q => formPairs (Text.encode q)
  | none => []

def content? (r : Request) : Option Content :=
  let contentType := (r.headers.text? "content-type").getD ""
  match bodyKind (MediaType.essence contentType) r.body with
  | .json =>
    match bodyJson r.body with
    | .ok (.obj members) => some (.object members)
    | _ => none
  | .form => some (.pairs (formPairs r.body))
  | .multipart => (multipartPairs contentType r.body).toOption.map .pairs
  | .unsupported _ => none

/-- The form name of a field with the values that pairs have under it. -/
def under? (ps : List (String × Bytes)) (f : Field) : Option (String × Bytes × List Bytes) :=
  match f.formName? with
  | none => none
  | some name =>
    match (ps.filter (·.1 = name)).map (·.2) with
    | [] => none
    | first :: others => some (name, first, others)

/-- The path parameter that a field names, if the request has it. -/
def parameter? (r : Request) (f : Field) : Option (String × String) :=
  f.uriName?.bind fun name => (r.param? name).map fun raw => (name, raw)

/-- The origin of a field that the path says nothing about. -/
def laterOrigin (r : Request) (f : Field) : Origin :=
  if ["GET", "DELETE", "HEAD"].contains r.method then
    match under? (queryPairs r) f with
    | some (name, first, others) => .query name first others
    | none => .absent
  else if ["POST", "PUT", "PATCH"].contains r.method && !r.body.isEmpty then
    match content? r with
    | some (.object members) =>
      match f.jsonName?.bind (Assoc.find? · members) with
      | some v => .member v
      | none => .absent
    | some (.pairs ps) =>
      match under? ps f with
      | some (name, first, others) => .form name first others
      | none => .absent
    | none => .absent
  else .absent

def origin (r : Request) (f : Field) : Origin :=
  match parameter? r f with
  | some (name, raw) => .path name raw
  | none => laterOrigin r f

/-- The value that a field takes from its origin. -/
def Origin.value (F : Family) (f : Field) : Origin → Except Failure (Option Json)
  | .path name raw => (Binding.coerce name f.shape (Text.encode raw)).map some
  | .query name first others => (ofValues name f.shape first (first :: others)).map some
  | .member v => .ok (some (rename F Binding.maxDepth f.shape v))
  | .form name first others => (ofValues name f.shape first (first :: others)).map some
  | .absent => .ok none

/-! ## Passes over the fields -/

/-- What a source says about each field: a value, nothing, or that its text is none. -/
abbrev Source := Field → Except Failure (Option Json)

/-- Takes a field from a source unless it has a value. -/
def draw (source : Source) (ms : Members) (f : Field) : Except Failure Members :=
  if Assoc.contains f.key ms then .ok ms
  else (source f).map fun
    | none => ms
    | some v => Assoc.insert f.key v ms

theorem find?_draw {source : Source} {ms ms' : Members} {f : Field}
    (h : draw source ms f = .ok ms') :
    (∀ key, key ≠ f.key → Assoc.find? key ms' = Assoc.find? key ms) ∧
      (∀ v, Assoc.find? f.key ms = some v → Assoc.find? f.key ms' = some v) ∧
      (Assoc.find? f.key ms = none → source f = .ok (Assoc.find? f.key ms')) := by
  unfold draw at h
  split at h
  · rename_i hc
    obtain ⟨v, hv⟩ := Assoc.contains_eq_true.1 hc
    obtain rfl := Except.ok.inj h
    exact ⟨fun _ _ => rfl, fun _ hw => hw, fun hn => by rw [hn] at hv; cases hv⟩
  · rename_i hc
    have hnone : Assoc.find? f.key ms = none :=
      Assoc.contains_eq_false.1 (by simpa using hc)
    obtain ⟨found, hfound, rfl⟩ := map_eq_ok.1 h
    cases found with
    | none => exact ⟨fun _ _ => rfl, fun _ hw => hw, fun hn => by rw [hfound, hn]⟩
    | some v =>
      refine ⟨fun key hk => Assoc.find?_insert_of_ne hk v ms, fun w hw => ?_, fun _ => ?_⟩
      · rw [hnone] at hw; cases hw
      · rw [hfound, Assoc.find?_insert_self]

/-- A pass leaves the values found before and the keys of no field, and asks the source for the rest. -/
theorem find?_foldlM_draw {source : Source} {fs : List Field} {ms ms' : Members}
    (hnd : (fs.map Field.key).Nodup) (h : fs.foldlM (draw source) ms = .ok ms') :
    (∀ key, key ∉ fs.map Field.key → Assoc.find? key ms' = Assoc.find? key ms) ∧
      ∀ f ∈ fs, (∀ v, Assoc.find? f.key ms = some v → Assoc.find? f.key ms' = some v) ∧
        (Assoc.find? f.key ms = none → source f = .ok (Assoc.find? f.key ms')) := by
  induction fs generalizing ms with
  | nil =>
    obtain rfl := Except.ok.inj h
    exact ⟨fun _ _ => rfl, by simp⟩
  | cons g fs ih =>
    rw [List.map_cons, List.nodup_cons] at hnd
    rw [List.foldlM_cons] at h
    obtain ⟨ms₁, hg, hrest⟩ := bind_eq_ok.1 h
    obtain ⟨hother, hkeep, hask⟩ := find?_draw hg
    obtain ⟨hother', hfs⟩ := ih hnd.2 hrest
    refine ⟨fun key hk => ?_, fun f hf => ?_⟩
    · rw [List.map_cons, List.mem_cons, not_or] at hk
      rw [hother' key hk.2, hother key hk.1]
    · rcases List.mem_cons.1 hf with rfl | hf
      · rw [hother' f.key hnd.1]
        exact ⟨hkeep, hask⟩
      · have hne : f.key ≠ g.key := fun he => hnd.1 (he ▸ List.mem_map_of_mem hf)
        rw [← hother f.key hne]
        exact hfs f hf

theorem contains_draw {source : Source} {ms ms' : Members} {f : Field} {key : String}
    (h : draw source ms f = .ok ms') (hkey : Assoc.contains key ms = true) :
    Assoc.contains key ms' = true := by
  obtain ⟨v, hv⟩ := Assoc.contains_eq_true.1 hkey
  obtain ⟨hother, hkeep, _⟩ := find?_draw h
  refine Assoc.contains_eq_true.2 ⟨v, ?_⟩
  by_cases hf : key = f.key
  · subst hf
    exact hkeep v hv
  · rw [hother key hf, hv]

/-- A pass succeeds if its source can be read for the fields that have no value before it. -/
theorem exists_foldlM_draw {source : Source} {fs : List Field} {ms : Members}
    (h : ∀ f ∈ fs, Assoc.contains f.key ms = true ∨ ∃ found, source f = .ok found) :
    ∃ ms', fs.foldlM (draw source) ms = .ok ms' := by
  induction fs generalizing ms with
  | nil => exact ⟨ms, rfl⟩
  | cons g fs ih =>
    obtain ⟨ms₁, hg⟩ : ∃ ms₁, draw source ms g = .ok ms₁ := by
      unfold draw
      split
      · exact ⟨ms, rfl⟩
      · rename_i hc
        obtain ⟨found, hfound⟩ := (h g (.head _)).resolve_left hc
        exact ⟨_, map_eq_ok.2 ⟨found, hfound, rfl⟩⟩
    obtain ⟨ms', hrest⟩ := ih fun f hf => (h f (.tail _ hf)).imp_left (contains_draw hg)
    refine ⟨ms', ?_⟩
    rw [List.foldlM_cons, hg]
    exact hrest

/-- A source that says nothing. -/
theorem foldlM_draw_nothing (fs : List Field) (ms : Members) :
    fs.foldlM (draw fun _ => .ok none) ms = .ok ms := by
  induction fs with
  | nil => rfl
  | cons f fs ih =>
    have : draw (fun _ => .ok none) ms f = .ok ms := by
      unfold draw
      split <;> rfl
    rw [List.foldlM_cons, this]
    exact ih

/-! ## The sources -/

def pathSource (r : Request) : Source := fun f =>
  match parameter? r f with
  | some (name, raw) => (Binding.coerce name f.shape (Text.encode raw)).map some
  | none => .ok none

def pairSource (ps : List (String × Bytes)) : Source := fun f =>
  match under? ps f with
  | some (name, first, others) => (ofValues name f.shape first (first :: others)).map some
  | none => .ok none

def memberSource (F : Family) (body : Members) : Source := fun f =>
  .ok ((f.jsonName?.bind (Assoc.find? · body)).map (rename F Binding.maxDepth f.shape))

theorem fromPath_eq_draw {r : Request} {ms : Members} {f : Field}
    (h : Assoc.contains f.key ms = false) : fromPath r ms f = draw (pathSource r) ms f := by
  unfold fromPath draw pathSource parameter?
  rw [if_neg (by simp [h])]
  cases hname : f.uriName? with
  | none => rfl
  | some name =>
    simp only [Option.bind_some]
    cases hraw : r.param? name with
    | none => rfl
    | some raw =>
      simp only [Option.map_some]
      cases Binding.coerce name f.shape (Text.encode raw) <;> rfl

theorem foldlM_fromPath {r : Request} {fs : List Field} {ms : Members}
    (hnd : (fs.map Field.key).Nodup) (h : ∀ f ∈ fs, Assoc.contains f.key ms = false) :
    fs.foldlM (fromPath r) ms = fs.foldlM (draw (pathSource r)) ms := by
  induction fs generalizing ms with
  | nil => rfl
  | cons g fs ih =>
    rw [List.map_cons, List.nodup_cons] at hnd
    rw [List.foldlM_cons, List.foldlM_cons, fromPath_eq_draw (h g (.head _))]
    cases hg : draw (pathSource r) ms g with
    | error e => rfl
    | ok ms₁ =>
      refine ih hnd.2 fun f hf => ?_
      have hne : f.key ≠ g.key := fun he => hnd.1 (he ▸ List.mem_map_of_mem hf)
      have := h f (.tail _ hf)
      rw [Assoc.contains_eq_false] at this ⊢
      rw [(find?_draw hg).1 f.key hne, this]

theorem fromPairs_eq_draw (ps : List (String × Bytes)) : fromPairs ps = draw (pairSource ps) := by
  funext ms f
  unfold fromPairs draw pairSource under?
  cases f.formName? with
  | none =>
    dsimp only
    split <;> rfl
  | some name =>
    dsimp only
    cases (ps.filter (·.1 = name)).map (·.2) with
    | nil => rfl
    | cons first others =>
      dsimp only
      cases ofValues name f.shape first (first :: others) <;> rfl

theorem under?_nil (f : Field) : under? [] f = none := by
  unfold under?
  cases f.formName? <;> rfl

theorem foldlM_fromPairs_nil (fs : List Field) (ms : Members) : fs.foldlM (fromPairs []) ms = .ok ms := by
  have hsource : pairSource [] = fun _ => .ok none := by
    funext f
    rw [pairSource, under?_nil]
  rw [fromPairs_eq_draw, hsource]
  exact foldlM_draw_nothing fs ms

/-- The pass over a JSON body removes what it takes, which matters to no other field where names are
distinct. -/
theorem foldlM_memberSource {F : Family} {fs : List Field} {rest body ms : Members}
    (hnames : (fs.filterMap Field.jsonName?).Nodup)
    (h : ∀ f ∈ fs, ∀ name, f.jsonName? = some name → Assoc.find? name rest = Assoc.find? name body) :
    fs.foldlM (draw (memberSource F body)) ms = .ok (fromObject F fs rest ms) := by
  induction fs generalizing rest ms with
  | nil => rfl
  | cons f fs ih =>
    have htail : ∀ g ∈ fs, ∀ name, g.jsonName? = some name →
        Assoc.find? name rest = Assoc.find? name body := fun g hg => h g (.tail _ hg)
    rw [List.foldlM_cons, fromObject]
    cases hname : f.jsonName? with
    | none =>
      have hdraw : draw (memberSource F body) ms f = .ok ms := by
        unfold draw memberSource
        rw [hname]
        split <;> rfl
      rw [List.filterMap_cons, hname] at hnames
      rw [hdraw]
      exact ih hnames htail
    | some name =>
      rw [List.filterMap_cons, hname, List.nodup_cons] at hnames
      cases hc : Assoc.contains f.key ms with
      | true =>
        have hdraw : draw (memberSource F body) ms f = .ok ms := by rw [draw, if_pos hc]
        rw [hdraw]
        simp only [if_true]
        exact ih hnames.2 htail
      | false =>
        have hsource : memberSource F body f =
            .ok ((Assoc.find? name rest).map (rename F Binding.maxDepth f.shape)) := by
          unfold memberSource
          rw [hname, Option.bind_some, h f (.head _) name hname]
        cases hv : Assoc.find? name rest with
        | none =>
          have hdraw : draw (memberSource F body) ms f = .ok ms := by
            rw [draw, if_neg (by simp [hc]), hsource, hv]
            rfl
          rw [hdraw]
          simp only [Bool.false_eq_true, if_false, hv]
          exact ih hnames.2 htail
        | some v =>
          have hdraw : draw (memberSource F body) ms f =
              .ok (Assoc.insert f.key (rename F Binding.maxDepth f.shape v) ms) := by
            rw [draw, if_neg (by simp [hc]), hsource, hv]
            rfl
          rw [hdraw]
          simp only [Bool.false_eq_true, if_false, hv]
          refine ih hnames.2 fun g hg other ho => ?_
          have hne : other ≠ name := fun he =>
            hnames.1 (List.mem_filterMap.2 ⟨g, hg, he ▸ ho⟩)
          rw [Assoc.find?_erase_of_ne hne, htail g hg other ho]

/-! ## Origins by verb -/

theorem readsQuery_of_readsBody {method : String} (h : readsBody method = true) :
    readsQuery method = false := by
  simp only [readsBody, List.contains_iff_mem, List.mem_cons, List.not_mem_nil, or_false] at h
  rcases h with rfl | rfl | rfl <;> decide

/-- The origin of a field with what pairs have under its name. -/
def Origin.ofPairs (o : String → Bytes → List Bytes → Origin) :
    Option (String × Bytes × List Bytes) → Origin
  | some (name, first, others) => o name first others
  | none => .absent

/-- The origin of a field with what a JSON body has under its name. -/
def Origin.ofMember : Option Json → Origin
  | some v => .member v
  | none => .absent

section
variable {r : Request}

theorem origin_of_later {f : Field} (h : parameter? r f = none) : origin r f = laterOrigin r f := by
  rw [origin, h]

theorem laterOrigin_of_query (h : readsQuery r.method = true) (f : Field) :
    laterOrigin r f = .ofPairs .query (under? (queryPairs r) f) := by
  unfold readsQuery at h
  rw [laterOrigin, if_pos h]
  cases under? (queryPairs r) f <;> rfl

theorem laterOrigin_of_object {body : Members} (hq : readsQuery r.method = false)
    (hb : (readsBody r.method && !r.body.isEmpty) = true) (hc : content? r = some (.object body))
    (f : Field) : laterOrigin r f = .ofMember (f.jsonName?.bind (Assoc.find? · body)) := by
  unfold readsQuery at hq
  unfold readsBody at hb
  rw [laterOrigin, if_neg (Bool.eq_false_iff.1 hq), if_pos hb, hc]
  dsimp only
  cases f.jsonName?.bind (Assoc.find? · body) <;> rfl

theorem laterOrigin_of_pairs {ps : List (String × Bytes)} (hq : readsQuery r.method = false)
    (hb : (readsBody r.method && !r.body.isEmpty) = true) (hc : content? r = some (.pairs ps))
    (f : Field) : laterOrigin r f = .ofPairs .form (under? ps f) := by
  unfold readsQuery at hq
  unfold readsBody at hb
  rw [laterOrigin, if_neg (Bool.eq_false_iff.1 hq), if_pos hb, hc]
  dsimp only
  cases under? ps f <;> rfl

theorem laterOrigin_of_nothing (hq : readsQuery r.method = false)
    (hb : (readsBody r.method && !r.body.isEmpty) = false) (f : Field) :
    laterOrigin r f = .absent := by
  unfold readsQuery at hq
  unfold readsBody at hb
  rw [laterOrigin, if_neg (Bool.eq_false_iff.1 hq), if_neg (Bool.eq_false_iff.1 hb)]

variable {f : Field} {n : String}

theorem formName?_of_under? {ps : List (String × Bytes)} {first : Bytes} {others : List Bytes}
    (h : under? ps f = some (n, first, others)) : f.formName? = some n := by
  unfold under? at h
  split at h
  · cases h
  · rename_i name hname
    split at h
    · cases h
    · cases h
      exact hname

/-- What comes after the path is the query, a JSON body or the pairs of a body. -/
theorem laterOrigin_cases (r : Request) (f : Field) :
    (readsQuery r.method = true ∧
      laterOrigin r f = .ofPairs .query (under? (queryPairs r) f)) ∨
    (readsBody r.method = true ∧
      ∃ body, laterOrigin r f = .ofMember (f.jsonName?.bind (Assoc.find? · body))) ∨
    ∃ ps, laterOrigin r f = .ofPairs .form (under? ps f) := by
  cases hq : readsQuery r.method with
  | true => exact .inl ⟨rfl, laterOrigin_of_query hq f⟩
  | false =>
    refine .inr ?_
    cases hb : readsBody r.method && !r.body.isEmpty with
    | false => exact .inr ⟨[], by rw [laterOrigin_of_nothing hq hb f, under?_nil, Origin.ofPairs]⟩
    | true =>
      cases hc : content? r with
      | none =>
        refine .inr ⟨[], ?_⟩
        unfold readsQuery at hq
        unfold readsBody at hb
        rw [laterOrigin, if_neg (Bool.eq_false_iff.1 hq), if_pos hb, hc, under?_nil, Origin.ofPairs]
      | some content =>
        cases content with
        | object body =>
          exact .inl ⟨(Bool.and_eq_true_iff.1 hb).1, body, laterOrigin_of_object hq hb hc f⟩
        | pairs ps => exact .inr ⟨ps, laterOrigin_of_pairs hq hb hc f⟩

theorem origin_cases (r : Request) (f : Field) :
    (∃ name raw, origin r f = .path name raw) ∨
      parameter? r f = none ∧ origin r f = laterOrigin r f := by
  cases hparameter : parameter? r f with
  | none => exact .inr ⟨rfl, origin_of_later hparameter⟩
  | some found => exact .inl ⟨found.1, found.2, by rw [origin, hparameter]⟩

theorem of_origin_query {first : Bytes} {others : List Bytes}
    (h : origin r f = .query n first others) :
    readsQuery r.method = true ∧ parameter? r f = none ∧ f.formName? = some n := by
  rcases origin_cases r f with ⟨name, raw, hpath⟩ | ⟨hparameter, hlater⟩
  · cases h.symm.trans hpath
  · rw [hlater] at h
    rcases laterOrigin_cases r f with ⟨hverb, horigin⟩ | ⟨_, body, horigin⟩ | ⟨ps, horigin⟩
    · rw [horigin] at h
      cases hunder : under? (queryPairs r) f with
      | none =>
        rw [hunder] at h
        cases h
      | some found =>
        rw [hunder] at h
        cases h
        exact ⟨hverb, hparameter, formName?_of_under? hunder⟩
    · rw [horigin] at h
      cases hmember : f.jsonName?.bind (Assoc.find? · body) <;> rw [hmember] at h <;> cases h
    · rw [horigin] at h
      cases hunder : under? ps f <;> rw [hunder] at h <;> cases h

theorem of_origin_member {v : Json} (h : origin r f = .member v) :
    readsBody r.method = true ∧ parameter? r f = none := by
  rcases origin_cases r f with ⟨name, raw, hpath⟩ | ⟨hparameter, hlater⟩
  · cases h.symm.trans hpath
  · rw [hlater] at h
    rcases laterOrigin_cases r f with ⟨_, horigin⟩ | ⟨hverb, _⟩ | ⟨ps, horigin⟩
    · rw [horigin] at h
      cases hunder : under? (queryPairs r) f <;> rw [hunder] at h <;> cases h
    · exact ⟨hverb, hparameter⟩
    · rw [horigin] at h
      cases hunder : under? ps f <;> rw [hunder] at h <;> cases h

end

/-! ## The whole gathering -/

/-- What comes after the path: a pass over pairs, over a JSON object, or none. -/
inductive Later (F : Family) (st : Struct) (r : Request) (ms ms' : Members) : Prop
  | pairs {ps : List (String × Bytes)} {o : String → Bytes → List Bytes → Origin}
      (text : o = .query ∨ o = .form)
      (pass : st.dataFields.foldlM (draw (pairSource ps)) ms = .ok ms')
      (origin : ∀ f, laterOrigin r f = .ofPairs o (under? ps f))
  | object {body : Members} (pass : fromObject F st.dataFields body ms = ms')
      (origin : ∀ f, laterOrigin r f = .ofMember (f.jsonName?.bind (Assoc.find? · body)))
      (verb : readsBody r.method = true)
  | nothing (same : ms = ms') (origin : ∀ f, laterOrigin r f = .absent)

section
variable {F : Family} {st : Struct} {r : Request} {ms ms' : Members}

/-- What is found is what the passes over the path and over the query leave. -/
theorem found_of_query (hq : readsQuery r.method = true)
    (hpath : st.dataFields.foldlM (fromPath r) [] = .ok ms)
    (hquery : st.dataFields.foldlM (draw (pairSource (queryPairs r))) ms = .ok ms') :
    found F st r = .ok ms' := by
  refine bind_eq_ok.2 ⟨ms, hpath, ?_⟩
  rw [if_pos hq]
  rw [← fromPairs_eq_draw] at hquery
  unfold queryPairs at hquery
  cases huri : r.uri.query with
  | some q =>
    rw [huri] at hquery
    exact hquery
  | none =>
    rw [huri, foldlM_fromPairs_nil] at hquery
    exact hquery

theorem later_fromBody (hq : readsQuery r.method = false)
    (hb : (readsBody r.method && !r.body.isEmpty) = true)
    (h : fromBody F st r ms = .ok ms') : Later F st r ms ms' := by
  have hpairs {ps : List (String × Bytes)} (hc : content? r = some (.pairs ps))
      (hpass : st.dataFields.foldlM (fromPairs ps) ms = .ok ms') : Later F st r ms ms' :=
    .pairs (.inr rfl) (by rwa [← fromPairs_eq_draw]) (laterOrigin_of_pairs hq hb hc)
  unfold fromBody at h
  dsimp only at h
  cases hk : bodyKind (MediaType.essence ((r.headers.text? "content-type").getD "")) r.body with
  | json =>
    rw [hk] at h
    obtain ⟨v, hv, h⟩ := bind_eq_ok.1 h
    cases v with
    | obj body =>
      have hc : content? r = some (.object body) := by simp [content?, hk, hv]
      exact .object (Except.ok.inj h) (laterOrigin_of_object hq hb hc) (Bool.and_eq_true_iff.1 hb).1
    | _ => cases h
  | form =>
    rw [hk] at h
    exact hpairs (by simp [content?, hk]) h
  | multipart =>
    rw [hk] at h
    obtain ⟨ps, hps, h⟩ := bind_eq_ok.1 h
    exact hpairs (by simp [content?, hk, hps, Except.toOption]) h
  | unsupported type =>
    rw [hk] at h
    cases h

/-- After the path parameters comes one source, or none. -/
theorem exists_later (h : found F st r = .ok ms') :
    ∃ ms, st.dataFields.foldlM (fromPath r) [] = .ok ms ∧ Later F st r ms ms' := by
  obtain ⟨ms, hpath, h⟩ := bind_eq_ok.1 h
  refine ⟨ms, hpath, ?_⟩
  cases hq : readsQuery r.method with
  | true =>
    rw [if_pos hq] at h
    cases huri : r.uri.query with
    | none =>
      rw [huri] at h
      refine .nothing (Except.ok.inj h) fun f => ?_
      rw [laterOrigin_of_query hq, queryPairs, huri, under?]
      cases f.formName? <;> rfl
    | some q =>
      rw [huri] at h
      refine .pairs (.inl rfl) ?_ (laterOrigin_of_query hq)
      rw [← fromPairs_eq_draw, queryPairs, huri]
      exact h
  | false =>
    rw [if_neg (Bool.eq_false_iff.1 hq)] at h
    cases hb : readsBody r.method && !r.body.isEmpty with
    | true =>
      rw [if_pos hb] at h
      exact later_fromBody hq hb h
    | false =>
      rw [if_neg (Bool.eq_false_iff.1 hb)] at h
      exact .nothing (Except.ok.inj h) (laterOrigin_of_nothing hq hb)

theorem later_found (hnd : (st.dataFields.map Field.key).Nodup) (h : found F st r = .ok ms') :
    ∃ ms, st.dataFields.foldlM (draw (pathSource r)) [] = .ok ms ∧ Later F st r ms ms' := by
  obtain ⟨ms, hpath, hlater⟩ := exists_later h
  rw [foldlM_fromPath hnd fun _ _ => rfl] at hpath
  exact ⟨ms, hpath, hlater⟩

/-- Where names are distinct, what comes after the path is one pass over the fields that asks for what
their later origins hold. -/
theorem Later.source
    (hnames : readsBody r.method = true → (st.dataFields.filterMap Field.jsonName?).Nodup)
    (h : Later F st r ms ms') :
    ∃ source : Source, st.dataFields.foldlM (draw source) ms = .ok ms' ∧
      ∀ f, source f = (laterOrigin r f).value F f := by
  cases h with
  | @pairs ps o text pass origin =>
    refine ⟨pairSource ps, pass, fun f => ?_⟩
    rw [origin, pairSource]
    rcases under? ps f with _ | ⟨name, first, others⟩
    · rfl
    · rcases text with rfl | rfl <;> rfl
  | @object body pass origin verb =>
    refine ⟨memberSource F body, ?_, fun f => ?_⟩
    · rw [foldlM_memberSource (hnames verb) fun _ _ _ _ => rfl, pass]
    · rw [origin, memberSource]
      cases f.jsonName?.bind (Assoc.find? · body) <;> rfl
  | nothing same origin =>
    refine ⟨fun _ => .ok none, same ▸ foldlM_draw_nothing _ _, fun f => ?_⟩
    rw [origin]
    rfl

/-- What the request itself says about the fields: their origins, and no other keys. -/
theorem find?_found (hnd : (st.dataFields.map Field.key).Nodup)
    (hnames : readsBody r.method = true → (st.dataFields.filterMap Field.jsonName?).Nodup)
    (h : found F st r = .ok ms) :
    (∀ key, key ∉ st.dataFields.map Field.key → Assoc.find? key ms = none) ∧
      ∀ f ∈ st.dataFields, (origin r f).value F f = .ok (Assoc.find? f.key ms) := by
  obtain ⟨ms₁, hpath, hpass⟩ := later_found hnd h
  obtain ⟨source, hlater, hsource⟩ := hpass.source hnames
  obtain ⟨hother₁, hfields₁⟩ := find?_foldlM_draw hnd hpath
  obtain ⟨hother, hfields⟩ := find?_foldlM_draw hnd hlater
  refine ⟨fun key hk => by rw [hother key hk, hother₁ key hk]; rfl, fun f hf => ?_⟩
  have hask := (hfields₁ f hf).2 rfl
  unfold origin
  unfold pathSource at hask
  cases hp : parameter? r f with
  | none =>
    rw [hp] at hask
    rw [← hsource f]
    exact (hfields f hf).2 (Except.ok.inj hask).symm
  | some found =>
    obtain ⟨name, raw⟩ := found
    rw [hp] at hask
    obtain ⟨v, hv, hfind⟩ := map_eq_ok.1 hask
    rw [(hfields f hf).1 v hfind.symm]
    simp only [Origin.value, hv]
    rfl

/-- An origin that is not absent holds a value, if it can be read. -/
theorem Origin.value_eq_none {o : Origin} {f : Field} :
    o.value F f = .ok none ↔ o = .absent := by
  cases o <;> simp [value, map_eq_ok]

/-! ## Filling what was found -/

theorem dataFields_eq (st : Struct) :
    st.dataFields = (st.fields.filter (!·.skip)).filter (·.shape != .marker) := by
  rw [Struct.dataFields, List.filter_filter]
  exact List.filter_congr fun f _ => Bool.and_comm _ _

theorem mem_kept_of_mem_dataFields {f : Field} (hf : f ∈ st.dataFields) :
    f ∈ st.fields.filter (!·.skip) := by
  rw [dataFields_eq] at hf
  exact (List.mem_filter.1 hf).1

theorem nodup_keys_dataFields (hkeys : ((st.fields.filter (!·.skip)).map Field.key).Nodup) :
    (st.dataFields.map Field.key).Nodup := by
  rw [dataFields_eq]
  exact hkeys.sublist (List.filter_sublist.map _)

variable (hkeys : ((st.fields.filter (!·.skip)).map Field.key).Nodup)
  (hnames : readsBody r.method = true → (st.dataFields.filterMap Field.jsonName?).Nodup)
  (h : Gather.members F st r = .ok ms)
include hkeys hnames h

/-- Every field that is not skipped is filled, and nothing else. -/
theorem contains_members (key : String) :
    Assoc.contains key ms = true ↔ ∃ f ∈ st.fields, f.skip = false ∧ f.key = key := by
  obtain ⟨ms₀, hfound, rfl⟩ := map_eq_ok.1 h
  obtain ⟨hother₀, _⟩ := find?_found (nodup_keys_dataFields hkeys) hnames hfound
  obtain ⟨hother, hfields⟩ :=
    Binding.find?_foldl_fillField (Binding.extension F Binding.maxDepth) ms₀ hkeys
  have hmem : key ∈ (st.fields.filter (!·.skip)).map Field.key ↔
      ∃ f ∈ st.fields, f.skip = false ∧ f.key = key := by
    simp [and_assoc]
  rw [← hmem]
  constructor
  · intro hc
    refine Classical.byContradiction fun hkey => ?_
    have hkey₀ : key ∉ st.dataFields.map Field.key := by
      intro hm
      obtain ⟨f, hf, rfl⟩ := List.mem_map.1 hm
      exact hkey (List.mem_map_of_mem (mem_kept_of_mem_dataFields hf))
    obtain ⟨v, hv⟩ := Assoc.contains_eq_true.1 hc
    have hnone := (hother key hkey).trans (hother₀ key hkey₀)
    exact absurd (hv.symm.trans hnone) (by simp)
  · intro hkey
    obtain ⟨f, hf, rfl⟩ := List.mem_map.1 hkey
    exact Assoc.contains_eq_true.2 ⟨_, hfields f hf⟩

/-- A data field has what its origin holds, once that is filled. -/
theorem find?_members {f : Field} (hf : f ∈ st.dataFields) :
    ∃ found, (origin r f).value F f = .ok found ∧
      Assoc.find? f.key ms =
        some (Binding.settle (Binding.extension F Binding.maxDepth) f found) := by
  obtain ⟨ms₀, hfound, rfl⟩ := map_eq_ok.1 h
  obtain ⟨_, hfields₀⟩ := find?_found (nodup_keys_dataFields hkeys) hnames hfound
  obtain ⟨_, hfields⟩ :=
    Binding.find?_foldl_fillField (Binding.extension F Binding.maxDepth) ms₀ hkeys
  exact ⟨_, hfields₀ f hf, hfields f (mem_kept_of_mem_dataFields hf)⟩

end

/-- **Source precedence.** Where no two fields that are bound share a key or a JSON name, the gathered
keys are those of the fields that are not skipped. A data field has the value of its origin, but that the
object of a nested struct may have gained zero values; where it has no origin, it has its zero value. -/
theorem members_of_origin {F : Family} {st : Struct} {r : Request} {ms : Members}
    (hkeys : ((st.fields.filter (!·.skip)).map Field.key).Nodup)
    (hnames : (st.dataFields.filterMap Field.jsonName?).Nodup)
    (h : Gather.members F st r = .ok ms) :
    (∀ key, Assoc.contains key ms = true ↔ ∃ f ∈ st.fields, f.skip = false ∧ f.key = key) ∧
    ∀ f ∈ st.dataFields,
      (origin r f = .absent →
        Assoc.find? f.key ms = some (Binding.zero F Binding.maxDepth f.shape)) ∧
      (origin r f ≠ .absent →
        ∃ v w, (origin r f).value F f = .ok (some v) ∧ Assoc.find? f.key ms = some w ∧
          Binding.Settled F f.shape v w) := by
  refine ⟨contains_members hkeys (fun _ => hnames) h, fun f hf => ?_⟩
  obtain ⟨found, hvalue, hfind⟩ := find?_members hkeys (fun _ => hnames) h hf
  refine ⟨fun ha => ?_, fun ha => ?_⟩
  · rw [Origin.value_eq_none.2 ha] at hvalue
    obtain rfl := Except.ok.inj hvalue
    exact hfind
  · cases found with
    | none => exact absurd (Origin.value_eq_none.1 hvalue) ha
    | some v =>
      exact ⟨v, _, hvalue, hfind,
        Binding.settled_settle (Binding.completes_extension F Binding.maxDepth) f v⟩

/-- The path goes before the body. -/
theorem path_before_body :
    let id : Field := ⟨"id", "id", "uri:\"id\"", "", false, .string⟩
    let owner : Field := ⟨"owner", "owner", "", "", false, .struct 1⟩
    let st : Struct := ⟨"Rename", [id, owner]⟩
    let F : Family := ⟨[st, ⟨"Owner", [⟨"login", "login", "", "", false, .string⟩]⟩]⟩
    let r : Request :=
      { (default : Request) with
        method := "POST"
        params := [("id", "7")]
        headers := [("content-type", "application/json")]
        body := Text.encode "\x7b\"id\":\"9\",\"owner\":\x7b\x7d\x7d" }
    ∃ ms, (((st.fields.filter (!·.skip)).map Field.key).Nodup ∧
      (st.dataFields.filterMap Field.jsonName?).Nodup ∧ Gather.members F st r = .ok ms) ∧
    origin r id = .path "id" "7" ∧
    ∃ v w, (Origin.path "id" "7").value F id = .ok (some v) ∧ Assoc.find? "id" ms = some w ∧
      Binding.Settled F .string v w := by
  intro id owner st F r
  have hkeys : ((st.fields.filter (!·.skip)).map Field.key).Nodup := by decide
  have hnames : (st.dataFields.filterMap Field.jsonName?).Nodup := by decide +kernel
  have hok : (Gather.members F st r).isOk = true := by decide +kernel
  have hparam : parameter? r id = some ("id", "7") := by decide +kernel
  have ho : origin r id = .path "id" "7" := by rw [origin, hparam]
  have hid : id ∈ st.dataFields := .head _
  cases h : Gather.members F st r with
  | error e =>
    rw [h] at hok
    cases hok
  | ok ms =>
    refine ⟨ms, ⟨hkeys, hnames, rfl⟩, ho, ?_⟩
    have := ((members_of_origin hkeys hnames h).2 id hid).2 (by rw [ho]; exact Origin.noConfusion)
    rw [ho] at this
    exact this

end HttpService.Gather
