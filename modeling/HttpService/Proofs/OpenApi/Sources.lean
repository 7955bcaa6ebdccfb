import HttpService.Proofs.Binding.Naming
import HttpService.Proofs.Http.Form
import HttpService.Proofs.Http.Uri
import HttpService.Proofs.Json.Reading
import HttpService.Proofs.OpenApi.Listing
import HttpService.Proofs.Route.Matching
import HttpService.Proofs.Route.Path

/-!
# Documented and read

An operation and the binder classify verbs and fields apart from each other, and agree: for a field that
is bound from the path alone just where its route has the parameter that it names, the operation lists
what some request of the route makes the binder read (`documented_sources`). Other fields are listed and
not read, as the path goes first, or the other way (`sources_disagree`).

`takesQuery_iff` and `takesMember_iff` say where requests of a route can make a field come from. What
they need of a request is one in which every text is a digit, which stands for a value of every shape.
-/

set_option autoImplicit false

namespace HttpService

/-! ## A digit for every text -/

theorem Binding.value?_digit (s : Shape) : (Binding.value? (Text.encode "0") s).isSome = true := by
  have htext : Binding.value?.text (Text.encode "0") = "0" := by decide +kernel
  induction s with
  | optional inner ih => exact ih
  | array elem ih =>
    rw [Binding.value?, Option.isSome_map]
    exact ih
  | integer width signed =>
    rw [Binding.value?, htext]
    cases signed <;> decide +kernel
  | number width =>
    rw [Binding.value?, htext]
    decide +kernel
  | boolean =>
    rw [Binding.value?, htext]
    decide +kernel
  | struct id =>
    rw [Binding.value?, htext]
    decide +kernel
  | map value =>
    rw [Binding.value?, htext]
    decide +kernel
  | _ => rfl

theorem Binding.exists_coerce_digit (name : String) (s : Shape) :
    ∃ v, Binding.coerce name s (Text.encode "0") = .ok v := by
  obtain ⟨v, hv⟩ := Option.isSome_iff_exists.1 (value?_digit s)
  exact ⟨v, by rw [coerce, hv]⟩

namespace Gather

theorem exists_ofValues_digit (name : String) (s : Shape) :
    ∃ v, ofValues name s (Text.encode "0") [Text.encode "0"] = .ok v := by
  unfold ofValues
  split
  · rename_i elem _
    obtain ⟨v, hv⟩ := Binding.exists_coerce_digit name elem
    exact ⟨.arr [v], by rw [List.mapM_cons, hv]; rfl⟩
  · exact Binding.exists_coerce_digit name s

theorem exists_pathSource_digit {r : Request} (h : ∀ name raw, r.param? name = some raw → raw = "0")
    (f : Field) : ∃ o, pathSource r f = .ok o := by
  unfold pathSource
  split
  · rename_i name raw hparameter
    obtain ⟨m, _, hm⟩ := Option.bind_eq_some_iff.1 hparameter
    obtain ⟨_, hraw, hpair⟩ := Option.map_eq_some_iff.1 hm
    cases hpair
    obtain rfl := h name raw hraw
    obtain ⟨v, hv⟩ := Binding.exists_coerce_digit name f.shape
    exact ⟨some v, by rw [hv]; rfl⟩
  · exact ⟨none, rfl⟩

theorem under?_singleton (n : String) (raw : Bytes) (f : Field) :
    under? [(n, raw)] f = if f.formName? = some n then some (n, raw, []) else none := by
  unfold under?
  cases f.formName? with
  | none => rfl
  | some name =>
    by_cases hname : name = n
    · simp [hname]
    · simp [hname, Ne.symm hname]

theorem exists_pairSource_digit (n : String) (f : Field) :
    ∃ o, pairSource [(n, Text.encode "0")] f = .ok o := by
  unfold pairSource
  rw [under?_singleton]
  split
  · rename_i name first others hunder
    split at hunder
    · cases hunder
      obtain ⟨v, hv⟩ := exists_ofValues_digit n f.shape
      exact ⟨some v, by rw [hv]; rfl⟩
    · cases hunder
  · exact ⟨none, rfl⟩

end Gather

namespace OpenApi

open Gather (Origin Members origin readsQuery readsBody)

/-- A route that is registered and that some target can lead to. -/
structure Requestable (rd : RouteDoc) (p : Pattern) : Prop where
  normal : Path.normalise rd.path = rd.path
  parsed : Pattern.parse (Path.pattern rd.path) = .ok p
  rest : p.restInside = false
  chars : ∀ c, .literal c ∈ p → Uri.isPathChar c = true

/-- A request of the verb of a route, with the parameters that its path gives. -/
structure Matches (rd : RouteDoc) (p : Pattern) (r : Request) : Prop where
  method : r.method = rd.method
  target : ∃ text, r.uri = Uri.parse text
  params : Matcher.find? [(p, ())] r.uri.path = some ((), r.params)

/-- A request is gathered, and a field has the value that stands at a place of it. -/
structure Takes (F : Family) (st : Struct) (r : Request) (f : Field) (o : Origin) : Prop where
  origin : Gather.origin r f = o
  gathered : ∃ ms v w, Gather.members F st r = .ok ms ∧ o.value F f = .ok (some v) ∧
    Assoc.find? f.key ms = some w ∧ Binding.Settled F f.shape v w

/-- A field takes its value from the query pairs with the name `n`. -/
def TakesQuery (F : Family) (st : Struct) (r : Request) (f : Field) (n : String) : Prop :=
  ∃ first others, Takes F st r f (.query n first others)

/-- A field takes its value from the member `n` of a JSON body. -/
def TakesMember (F : Family) (st : Struct) (r : Request) (f : Field) (n : String) : Prop :=
  ∃ body v, Gather.content? r = some (.object body) ∧ f.jsonName? = some n ∧
    Assoc.find? n body = some v ∧ Takes F st r f (.member v)

/-- A field names a parameter of a pattern. -/
def NamesParameter (p : Pattern) (f : Field) : Prop :=
  ∃ m, f.uriName? = some m ∧ m ∈ Matcher.names p

/-! ## The path of a route -/

section
variable {rd : RouteDoc} {p : Pattern} (hroute : Requestable rd p)
include hroute

theorem Requestable.root : p.head? = some (.literal '/') := by
  obtain ⟨cs, hcs⟩ := Path.pattern_of_normal hroute.normal
  have hparsed := hroute.parsed
  rw [Pattern.parse, hcs, Pattern.unescape] at hparsed
  · exact Pattern.readSteps_slash hparsed
  · simp
  · simp

theorem Requestable.sample_root : p.sample.head? = some '/' := by
  have hroot := hroute.root
  cases p with
  | nil => cases hroot
  | cons step steps =>
    cases hroot
    rfl

theorem Requestable.sample_chars : ∀ c ∈ p.sample, Uri.isPathChar c = true := by
  intro c hc
  obtain ⟨step, hstep, rfl⟩ := List.mem_map.1 hc
  cases step with
  | literal c => exact hroute.chars c hstep
  | parameter name => exact (show Uri.isPathChar '0' = true by decide)
  | rest name => exact (show Uri.isPathChar '0' = true by decide)

/-- A request has no parameter for a field just where the field names none of the route. -/
theorem parameter?_eq_none_iff {r : Request} (hr : Matches rd p r) (f : Field) :
    Gather.parameter? r f = none ↔ ¬NamesParameter p f := by
  unfold Gather.parameter? NamesParameter
  cases f.uriName? with
  | none => simp
  | some m =>
    show (r.param? m).map (fun raw => (m, raw)) = none ↔ _
    rw [Option.map_eq_none_iff, ← Option.not_isSome_iff_eq_none, Request.param?,
      Matcher.lookup_isSome_iff hroute.rest hr.params m]
    simp

end

/-! ## The requests with digits -/

/-- A request of a route with a digit for each parameter of its path. -/
def digitRequest (rd : RouteDoc) (p : Pattern) (target : List Char) (body : Bytes) : Request :=
  { (default : Request) with
    method := rd.method
    uri := Uri.parse (String.ofList target)
    headers := [("content-type", "application/json")]
    body
    params := (Matcher.names p).zip (List.replicate (Matcher.names p).length "0") }

def queryTarget (p : Pattern) (n : String) : List Char :=
  p.sample ++ '?' :: (Form.encode [(n, "0")]).toList

def memberBody (n : String) : Bytes :=
  Text.encode (Json.print (.obj [(n, .null)]))

section
variable {F : Family} {rd : RouteDoc} {p : Pattern} {st : Struct} {f : Field} {n : String}

theorem content?_memberBody (rd : RouteDoc) (p : Pattern) (n : String) (target : List Char) :
    Gather.content? (digitRequest rd p target (memberBody n)) = some (.object [(n, .null)]) := by
  have hkind (body : Bytes) :
      Gather.bodyKind (MediaType.essence "application/json") body = .json := by
    have hessence : MediaType.essence "application/json" = "application/json" := by decide +kernel
    rw [hessence]
    rfl
  have htype : ((digitRequest rd p target (memberBody n)).headers.text? "content-type").getD "" =
      "application/json" := by
    show ((Headers.text? [("content-type", "application/json")] "content-type").getD "") = _
    decide +kernel
  have hjson : Gather.bodyJson (memberBody n) = .ok (.obj [(n, .null)]) := by
    rw [Gather.bodyJson, memberBody, Json.parse_print_member]
  have hbody : (digitRequest rd p target (memberBody n)).body = memberBody n := rfl
  unfold Gather.content?
  dsimp only
  rw [htype, hkind, hbody, hjson]

theorem exists_foldlM_fromPath (rd : RouteDoc) (p : Pattern)
    (hnd : (st.dataFields.map Field.key).Nodup) (target : List Char) (body : Bytes) :
    ∃ ms, st.dataFields.foldlM (Gather.fromPath (digitRequest rd p target body)) [] = .ok ms := by
  have hdigit (name raw : String) (h : (digitRequest rd p target body).param? name = some raw) :
      raw = "0" := Matcher.eq_of_lookup_sample h
  rw [Gather.foldlM_fromPath hnd fun _ _ => rfl]
  exact Gather.exists_foldlM_draw fun f _ => .inr (Gather.exists_pathSource_digit hdigit f)

theorem exists_members_of_body (hnd : (st.dataFields.map Field.key).Nodup)
    (hmethod : readsBody rd.method = true) (target : List Char) :
    ∃ ms, Gather.members F st (digitRequest rd p target (memberBody n)) = .ok ms := by
  obtain ⟨ms, hpath⟩ := exists_foldlM_fromPath rd p hnd target (memberBody n)
  exact ⟨_, map_eq_ok.2
    ⟨_, Gather.found_of_object hmethod hpath (content?_memberBody rd p n target), rfl⟩⟩

variable (hroute : Requestable rd p)
include hroute

theorem parse_sample :
    Uri.parse (String.ofList p.sample) = ⟨none, none, String.ofList p.sample, none⟩ :=
  Uri.parse_path hroute.sample_root hroute.sample_chars

theorem parse_queryTarget :
    Uri.parse (String.ofList (queryTarget p n)) =
      ⟨none, none, String.ofList p.sample, some (Form.encode [(n, "0")])⟩ := by
  rw [queryTarget, Uri.parse_path_query hroute.sample_root hroute.sample_chars
    (Form.hash_not_mem_encode _), String.ofList_toList]

theorem matches_digitRequest {target : List Char} {query : Option String}
    (h : Uri.parse (String.ofList target) = ⟨none, none, String.ofList p.sample, query⟩)
    (body : Bytes) : Matches rd p (digitRequest rd p target body) where
  method := rfl
  target := ⟨_, rfl⟩
  params := by
    have hne : p.sample ≠ [] := by
      intro he
      have hroot := hroute.sample_root
      rw [he] at hroot
      cases hroot
    show Matcher.find? [(p, ())] (Uri.parse (String.ofList target)).path = _
    rw [h, Uri.path_eq hne]
    exact Matcher.find?_sample (Pattern.separated_of_parse hroute.parsed) hroute.rest ()

theorem queryPairs_queryTarget (body : Bytes) :
    Gather.queryPairs (digitRequest rd p (queryTarget p n) body) = [(n, Text.encode "0")] := by
  have hquery : (digitRequest rd p (queryTarget p n) body).uri.query = some (Form.encode [(n, "0")]) := by
    show (Uri.parse (String.ofList (queryTarget p n))).query = _
    rw [parse_queryTarget hroute]
  rw [Gather.queryPairs, hquery]
  dsimp only
  rw [Gather.formPairs, Form.decode_encode]
  rfl

theorem exists_members_of_query (hnd : (st.dataFields.map Field.key).Nodup)
    (hmethod : readsQuery rd.method = true) (body : Bytes) :
    ∃ ms, Gather.members F st (digitRequest rd p (queryTarget p n) body) = .ok ms := by
  obtain ⟨ms, hpath⟩ := exists_foldlM_fromPath rd p hnd (queryTarget p n) body
  obtain ⟨ms', hpass⟩ : ∃ ms', st.dataFields.foldlM
      (Gather.draw (Gather.pairSource [(n, Text.encode "0")])) ms = .ok ms' :=
    Gather.exists_foldlM_draw fun f _ => .inr (Gather.exists_pairSource_digit n f)
  rw [← queryPairs_queryTarget hroute body] at hpass
  exact ⟨_, map_eq_ok.2 ⟨ms', Gather.found_of_query hmethod hpath hpass, rfl⟩⟩

end

/-! ## Where requests of a route make a field come from -/

section
variable {F : Family} {rd : RouteDoc} {p : Pattern} {st : Struct} {r : Request} {f : Field} {n : String}
  (hkeys : ((st.fields.filter (!·.skip)).map Field.key).Nodup)
  (hnames : readsBody rd.method = true → (st.dataFields.filterMap Field.jsonName?).Nodup)
  (hf : f ∈ st.dataFields)
include hkeys hnames hf

theorem takes_of_members {ms : Members} {o : Origin} (hmethod : r.method = rd.method)
    (h : Gather.members F st r = .ok ms) (horigin : origin r f = o) (ho : o ≠ .absent) :
    Takes F st r f o := by
  subst horigin
  obtain ⟨found, hvalue, hfind⟩ := Gather.find?_members hkeys (hmethod ▸ hnames) h hf
  cases found with
  | none => exact absurd (Gather.Origin.value_eq_none.1 hvalue) ho
  | some v =>
    exact ⟨rfl, ms, v, _, h, hvalue, hfind,
      Binding.settled_settle (Binding.completes_extension F Binding.maxDepth) f v⟩

variable (hroute : Requestable rd p)
include hroute

/-- The routes and fields of which some request carries the field in its query. -/
theorem takesQuery_iff :
    (∃ r, Matches rd p r ∧ TakesQuery F st r f n) ↔
      readsQuery rd.method = true ∧ ¬NamesParameter p f ∧ f.formName? = some n := by
  constructor
  · rintro ⟨r, hr, first, others, htakes⟩
    obtain ⟨hverb, hparameter, hname⟩ := Gather.of_origin_query htakes.origin
    exact ⟨hr.method ▸ hverb, (parameter?_eq_none_iff hroute hr f).1 hparameter, hname⟩
  · rintro ⟨hverb, hparameter, hname⟩
    -- A digit for the one name and for each parameter: no field can fail to be read.
    have hr := matches_digitRequest hroute (parse_queryTarget hroute (n := n)) []
    obtain ⟨ms, hms⟩ := exists_members_of_query (F := F) (n := n) hroute
      (Gather.nodup_keys_dataFields hkeys) hverb []
    have hnone := (parameter?_eq_none_iff hroute hr f).2 hparameter
    have horigin : origin (digitRequest rd p (queryTarget p n) []) f =
        .query n (Text.encode "0") [] := by
      rw [Gather.origin_of_later hnone, Gather.laterOrigin_of_query hverb,
        queryPairs_queryTarget hroute, Gather.under?_singleton, if_pos hname]
      rfl
    exact ⟨_, hr, _, _, takes_of_members hkeys hnames hf rfl hms horigin Origin.noConfusion⟩

/-- The routes and fields of which some request carries the field in its JSON body. -/
theorem takesMember_iff :
    (∃ r, Matches rd p r ∧ TakesMember F st r f n) ↔
      readsBody rd.method = true ∧ ¬NamesParameter p f ∧ f.jsonName? = some n := by
  constructor
  · rintro ⟨r, hr, body, v, _, hname, _, htakes⟩
    obtain ⟨hverb, hparameter⟩ := Gather.of_origin_member htakes.origin
    exact ⟨hr.method ▸ hverb, (parameter?_eq_none_iff hroute hr f).1 hparameter, hname⟩
  · rintro ⟨hverb, hparameter, hname⟩
    -- A member is taken as it is, whatever the shape of the field: null will do.
    have hr := matches_digitRequest hroute (parse_sample hroute) (memberBody n)
    obtain ⟨ms, hms⟩ := exists_members_of_body (F := F) (p := p) (n := n)
      (Gather.nodup_keys_dataFields hkeys) hverb p.sample
    have hnone := (parameter?_eq_none_iff hroute hr f).2 hparameter
    have hcontent := content?_memberBody rd p n p.sample
    have horigin : origin (digitRequest rd p p.sample (memberBody n)) f = .member .null := by
      have hbody : (readsBody (digitRequest rd p p.sample (memberBody n)).method &&
          !(digitRequest rd p p.sample (memberBody n)).body.isEmpty) = true := by
        rw [Gather.isEmpty_of_object hcontent]
        exact Bool.and_eq_true_iff.2 ⟨hverb, rfl⟩
      rw [Gather.origin_of_later hnone,
        Gather.laterOrigin_of_object (Gather.readsQuery_of_readsBody hverb) hbody hcontent, hname,
        Option.bind_some, Assoc.find?, if_pos rfl]
      rfl
    refine ⟨_, hr, _, .null, hcontent, hname, ?_, takes_of_members hkeys hnames hf rfl hms horigin
      Origin.noConfusion⟩
    rw [Assoc.find?, if_pos rfl]

end

/-- A field that names a parameter of the route has it from every request. -/
theorem origin_of_namesParameter {rd : RouteDoc} {p : Pattern} {r : Request} {f : Field}
    (hroute : Requestable rd p) (hr : Matches rd p r) (h : NamesParameter p f) :
    ∃ name raw, origin r f = .path name raw := by
  rcases Gather.origin_cases r f with hpath | ⟨hnone, _⟩
  · exact hpath
  · exact absurd h ((parameter?_eq_none_iff hroute hr f).1 hnone)

/-- **Documented sources.** A verb that reads its fields from the query or from the body, on a route that
some target can lead to: a field that is bound from the path alone is not listed, and one that names a
parameter of the route comes from the path. Where these are the same fields, a field is listed as the
query parameter `n`, or as the property `n` of the body, just where some request of the route makes the
binder take it from there. -/
theorem documented_sources {F : Family} {rd : RouteDoc} {p : Pattern} {id : StructId} {f : Field}
    (hroute : Requestable rd p) (hs : rd.request.shape.struct? = some id)
    (hverb : readsQuery rd.method = true ∨ readsBody rd.method = true)
    (hkeys : (((F.get id).fields.filter (!·.skip)).map Field.key).Nodup)
    (hnames : readsBody rd.method = true → ((F.get id).dataFields.filterMap Field.jsonName?).Nodup)
    (hf : f ∈ (F.get id).dataFields) :
    (f.isPathOnly = true → ∀ n, ¬ListsParameter F rd f n ∧ ¬ListsProperty F rd (F.get id) f n) ∧
    (NamesParameter p f → ∀ r, Matches rd p r → ∃ name raw, origin r f = .path name raw) ∧
    ((f.isPathOnly = true ↔ NamesParameter p f) → ∀ n,
      (ListsParameter F rd f n ↔ ∃ r, Matches rd p r ∧ TakesQuery F (F.get id) r f n) ∧
      (ListsProperty F rd (F.get id) f n ↔ ∃ r, Matches rd p r ∧ TakesMember F (F.get id) r f n)) := by
  have hdocuments : documentsBody rd.method = !readsQuery rd.method := rfl
  have hquery : documentsBody rd.method = false ↔ readsQuery rd.method = true := by
    rw [hdocuments, Bool.not_eq_false']
  have hbody : documentsBody rd.method = true ↔ readsBody rd.method = true := by
    refine ⟨fun h => hverb.resolve_left fun hq => ?_, fun h => ?_⟩
    · rw [hdocuments, hq] at h
      cases h
    · rw [hdocuments, Gather.readsQuery_of_readsBody h]
      rfl
  have hproperty (n : String) := listsProperty_iff (n := n) hs hf fun h => hnames (hbody.1 h)
  refine ⟨fun honly n => ⟨fun h => ?_, fun h => ?_⟩, fun h r hr => origin_of_namesParameter hroute hr h,
    fun hagree n => ⟨?_, ?_⟩⟩
  · rw [listsParameter_iff hs hf, honly] at h
    cases h.2.1
  · rw [hproperty, honly] at h
    cases h.2.1
  · rw [listsParameter_iff hs hf, takesQuery_iff hkeys hnames hf hroute, hquery, ← hagree,
      Bool.not_eq_true]
  · rw [hproperty, takesMember_iff hkeys hnames hf hroute, hbody, ← hagree, Bool.not_eq_true]

/-- The route of a user, below which a digit stands for the user. -/
theorem requestable_user {rd : RouteDoc} (hpath : rd.path = "/u/:id") :
    Requestable rd [.literal '/', .literal 'u', .literal '/', .parameter ['i', 'd']] where
  normal := by
    rw [hpath]
    decide +kernel
  parsed := by
    have hpattern : Path.pattern "/u/:id" = "/u/\x7bid\x7d" := by decide +kernel
    rw [hpath, hpattern]
    with_unfolding_all rfl
  rest := rfl
  chars := by
    intro c hc
    have hc : c = '/' ∨ c = 'u' ∨ c = '/' := by simpa using hc
    rcases hc with rfl | rfl | rfl <;> decide

/-- A field without tags is listed and taken by its key, from a `GET` in the query. -/
theorem plain_field_in_query :
    let q : Field := ⟨"q", "q", "", "", false, .integer .w32 true⟩
    let F : Family := ⟨[⟨"Find", [q]⟩]⟩
    let rd : RouteDoc :=
      { (default : RouteDoc) with method := "GET", path := "/u/:id", request := ⟨"Find", .struct 0⟩ }
    let p : Pattern := [.literal '/', .literal 'u', .literal '/', .parameter ['i', 'd']]
    (Requestable rd p ∧ readsQuery rd.method = true ∧ q ∈ (F.get 0).dataFields ∧
      (q.isPathOnly = true ↔ NamesParameter p q)) ∧
    ListsParameter F rd q "q" ∧ ∃ r, Matches rd p r ∧ TakesQuery F (F.get 0) r q "q" := by
  intro q F rd p
  have hroute : Requestable rd p := requestable_user rfl
  have hverb : readsQuery rd.method = true := by decide +kernel
  have hbody : ¬readsBody rd.method = true := by decide +kernel
  have hq : q ∈ (F.get 0).dataFields := .head _
  have honly : q.isPathOnly = false := by decide +kernel
  have huri : q.uriName? = none := by decide +kernel
  have hagree : q.isPathOnly = true ↔ NamesParameter p q := by
    simp [honly, NamesParameter, huri]
  have hlists : ListsParameter F rd q "q" :=
    (listsParameter_iff rfl hq).2 ⟨by decide +kernel, honly, by decide +kernel⟩
  have hsources := documented_sources hroute rfl (.inl hverb)
    (by decide) (fun h => absurd h hbody) hq
  exact ⟨⟨hroute, hverb, hq, hagree⟩, hlists, ((hsources.2.2 hagree "q").1).1 hlists⟩

/-- Listed and not taken, or the other way: a field that names a parameter of its route besides a form
name, one that names a parameter that its route does not have, and a field of a verb that reads neither
the query nor the body. -/
theorem sources_disagree :
    let f : Field := ⟨"id", "id", "uri:\"id\" form:\"id\"", "", false, .string⟩
    let g : Field := ⟨"page", "page", "uri:\"page\"", "", false, .string⟩
    let h : Field := ⟨"q", "q", "", "", false, .string⟩
    let F : Family := ⟨[⟨"Show", [f, g, h]⟩]⟩
    let rd : RouteDoc :=
      { (default : RouteDoc) with method := "GET", path := "/u/:id", request := ⟨"Show", .struct 0⟩ }
    let options : RouteDoc := { rd with method := "OPTIONS" }
    let p : Pattern := [.literal '/', .literal 'u', .literal '/', .parameter ['i', 'd']]
    (Requestable rd p ∧ Requestable options p) ∧
    (ListsParameter F rd f "id" ∧ ¬∃ r, Matches rd p r ∧ TakesQuery F (F.get 0) r f "id") ∧
    (¬ListsParameter F rd g "page" ∧ ∃ r, Matches rd p r ∧ TakesQuery F (F.get 0) r g "page") ∧
    (ListsProperty F options (F.get 0) h "q" ∧
      ¬∃ r, Matches options p r ∧ TakesMember F (F.get 0) r h "q") := by
  intro f g h F rd options p
  have hroute : Requestable rd p := requestable_user rfl
  have hoptions : Requestable options p := requestable_user rfl
  have hf : f ∈ (F.get 0).dataFields := .head _
  have hg : g ∈ (F.get 0).dataFields := .tail _ (.head _)
  have hh : h ∈ (F.get 0).dataFields := .tail _ (.tail _ (.head _))
  have hkeys : (((F.get 0).fields.filter (!·.skip)).map Field.key).Nodup := by decide
  have hnames : ((F.get 0).dataFields.filterMap Field.jsonName?).Nodup := by decide +kernel
  have hparameter : NamesParameter p f := ⟨"id", by decide +kernel, .head _⟩
  have hmissing : ¬NamesParameter p g := by
    rintro ⟨m, hm, hp⟩
    have hm' : g.uriName? = some "page" := by decide +kernel
    cases hm.symm.trans hm'
    revert hp
    decide +kernel
  refine ⟨⟨hroute, hoptions⟩, ⟨?_, fun htakes => ?_⟩, ⟨fun hlists => ?_, ?_⟩, ?_, fun htakes => ?_⟩
  · exact (listsParameter_iff rfl hf).2 ⟨by decide +kernel, by decide +kernel, by decide +kernel⟩
  · exact ((takesQuery_iff hkeys (fun _ => hnames) hf hroute).1 htakes).2.1 hparameter
  · have honly : g.isPathOnly = true := by decide +kernel
    cases honly.symm.trans ((listsParameter_iff rfl hg).1 hlists).2.1
  · exact (takesQuery_iff hkeys (fun _ => hnames) hg hroute).2
      ⟨by decide +kernel, hmissing, by decide +kernel⟩
  · exact (listsProperty_iff rfl hh fun _ => hnames).2
      ⟨by decide +kernel, by decide +kernel, by decide +kernel⟩
  · have hread : readsBody options.method = false := by decide +kernel
    cases hread.symm.trans ((takesMember_iff hkeys (fun _ => hnames) hh hoptions).1 htakes).1

end OpenApi

end HttpService
