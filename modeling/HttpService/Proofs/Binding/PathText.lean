import HttpService.Proofs.Binding.Gate
import HttpService.Proofs.Binding.Pairs
import HttpService.Proofs.Http.Percent
import HttpService.Proofs.Route.Filled

/-!
# Texts from the path and from the query

The query is read as a form, so that a percent-encoded text is decoded there. What a path has in the place
of a parameter is not decoded: `path_text_as_written`. So the two sources agree on a text just if it is
written without escapes; on a blank they do not (`escaped_path_text`).
-/

set_option autoImplicit false

namespace HttpService

/-! ## The table of a started server -/

namespace Server

open RouteTable (Insertion)

variable {s : Server} {t t' : RouteTable Entry}

theorem insertAll_of_insertRoutes {routes : List (Route Middleware Endpoint)}
    (h : s.insertRoutes t routes = .ok t') : ∃ inserts, t' = t.insertAll inserts := by
  induction routes generalizing t with
  | nil =>
    cases h
    exact ⟨[], rfl⟩
  | cons r rs ih =>
    rw [insertRoutes] at h
    split at h
    · rename_i t₁ hinsert
      obtain ⟨inserts, rfl⟩ := ih h
      refine ⟨⟨r.method, r.path, ⟨r.path, s.chainOf r, r.endpoint⟩⟩ :: inserts, ?_⟩
      rw [RouteTable.insertAll, RouteTable.insertAll, List.foldl_cons, hinsert]
    · cases h

theorem insertAll_of_insertBuiltins {pages : List (String × Endpoint)} {events : List Event}
    (h : s.insertBuiltins t pages = (.ok t', events)) : ∃ inserts, t' = t.insertAll inserts := by
  induction pages generalizing t events with
  | nil =>
    cases h
    exact ⟨[], rfl⟩
  | cons page rest ih =>
    obtain ⟨path, endpoint⟩ := page
    unfold insertBuiltins at h
    dsimp only at h
    split at h
    · cases hrest : s.insertBuiltins t rest with
      | mk result more =>
        rw [hrest] at h
        cases h
        exact ih hrest
    · split at h
      · rename_i t₁ hinsert
        obtain ⟨inserts, rfl⟩ := ih h
        let page : Entry := ⟨Path.normalise path, s.baseChain, endpoint⟩
        refine ⟨⟨"GET", Path.normalise path, page⟩ :: inserts, ?_⟩
        rw [RouteTable.insertAll, RouteTable.insertAll, List.foldl_cons, hinsert]
      · cases h

/-- The table of a started server is built by insertions. -/
theorem insertAll_of_service {F : Family} {v : Service} {events : List Event}
    (h : s.service F = (.ok v, events)) :
    ∃ inserts, v.table = ({} : RouteTable Entry).insertAll inserts := by
  unfold service at h
  split at h
  · cases h
  · rename_i t hroutes
    obtain ⟨result, hresult, rfl⟩ := map_eq_ok.1 (Prod.mk.inj h).1
    obtain ⟨routes, rfl⟩ := insertAll_of_insertRoutes hroutes
    obtain ⟨pages, rfl⟩ := insertAll_of_insertBuiltins (Prod.ext hresult rfl)
    exact ⟨routes ++ pages, List.foldl_append.symm⟩

end Server

/-! ## Gathering from the query -/

namespace Gather

/-- What the origin of a field holds can be read. -/
def Readable (F : Family) (r : Request) (f : Field) : Prop :=
  ∃ found, (origin r f).value F f = .ok found

section
variable {F : Family} {st : Struct} {r : Request} {f : Field} {name text : String}

theorem pathSource_of_parameter {found : String × String} (h : parameter? r f = some found) :
    pathSource r f = (origin r f).value F f := by
  unfold pathSource origin
  rw [h]
  rfl

/-- A request whose fields can all be read is gathered. -/
theorem exists_members (hkeys : (st.dataFields.map Field.key).Nodup)
    (hverb : readsQuery r.method = true) (h : ∀ f ∈ st.dataFields, Readable F r f) :
    ∃ ms, members F st r = .ok ms := by
  obtain ⟨ms, hpath⟩ : ∃ ms, st.dataFields.foldlM (draw (pathSource r)) [] = .ok ms := by
    refine exists_foldlM_draw fun f hf => .inr ?_
    cases hparameter : parameter? r f with
    | none => exact ⟨none, by rw [pathSource, hparameter]⟩
    | some found => exact pathSource_of_parameter hparameter ▸ h f hf
  -- The query is asked only for fields that the path did not give, and these have their origin there.
  obtain ⟨ms', hquery⟩ : ∃ ms', st.dataFields.foldlM (draw (pairSource (queryPairs r))) ms = .ok ms' := by
    refine exists_foldlM_draw fun f hf => ?_
    obtain ⟨found, hfound⟩ := h f hf
    cases hparameter : parameter? r f with
    | none =>
      refine .inr ⟨found, ?_⟩
      rw [origin_of_later hparameter, laterOrigin_of_query hverb] at hfound
      rw [← hfound, pairSource]
      rcases under? (queryPairs r) f with _ | ⟨name, first, others⟩ <;> rfl
    | some p =>
      have hask := ((find?_foldlM_draw hkeys hpath).2 f hf).2 rfl
      rw [pathSource_of_parameter (F := F) hparameter, origin, hparameter] at hask
      obtain ⟨v, _, hv⟩ := map_eq_ok.1 hask
      exact .inl (Assoc.contains_eq_true.2 ⟨v, hv.symm⟩)
  rw [← foldlM_fromPath hkeys fun _ _ => rfl] at hpath
  exact ⟨_, map_eq_ok.2 ⟨ms', found_of_query hverb hpath hquery, rfl⟩⟩

/-- The gathered object of a request has a text for a field. -/
def GivesText (F : Family) (st : Struct) (r : Request) (f : Field) (text : String) : Prop :=
  ∃ ms, members F st r = .ok ms ∧ Assoc.find? f.key ms = some (.str text)

theorem GivesText.unique {text' : String} (h : GivesText F st r f text)
    (h' : GivesText F st r f text') : text = text' := by
  obtain ⟨ms, hms, hfind⟩ := h
  obtain ⟨ms', hms', hfind'⟩ := h'
  cases hms.symm.trans hms'
  cases hfind.symm.trans hfind'
  rfl

/-- A data field for a text, in a struct with distinct keys whose other fields a request does not get
wrong. -/
structure IsTextField (F : Family) (st : Struct) (r : Request) (f : Field) : Prop where
  keys : ((st.fields.filter (!·.skip)).map Field.key).Nodup
  mem : f ∈ st.dataFields
  shape : f.shape = .string
  others : ∀ g ∈ st.dataFields, g ≠ f → Readable F r g

theorem IsTextField.givesText (h : IsTextField F st r f) (hverb : r.method = "GET")
    (hvalue : (origin r f).value F f = .ok (some (.str text))) : GivesText F st r f text := by
  have hreads : readsQuery r.method = true := hverb ▸ rfl
  have hbody : readsBody r.method = false := hverb ▸ rfl
  obtain ⟨ms, hms⟩ := exists_members (nodup_keys_dataFields h.keys) hreads fun g hg => by
    by_cases hg' : g = f
    · exact ⟨_, hg' ▸ hvalue⟩
    · exact h.others g hg hg'
  obtain ⟨found, hfound, hfind⟩ :=
    find?_members h.keys (fun h => by rw [hbody] at h; cases h) hms h.mem
  obtain rfl := Except.ok.inj (hvalue.symm.trans hfound)
  exact ⟨ms, hms, hfind⟩

theorem coerce_text (name text : String) :
    Binding.coerce name .string (Text.encode text) = .ok (.str text) :=
  Binding.coerce_scalarText (.string text) name

theorem value_of_parameter (hshape : f.shape = .string) (huri : f.uriName? = some name)
    (hparam : r.param? name = some text) : (origin r f).value F f = .ok (some (.str text)) := by
  have hparameter : parameter? r f = some (name, text) := by
    rw [parameter?, huri, Option.bind_some, hparam]
    rfl
  rw [origin, hparameter]
  show (Binding.coerce name f.shape (Text.encode text)).map some = _
  rw [hshape, coerce_text]
  rfl

theorem value_of_query {query : String} (hshape : f.shape = .string) (hform : f.formName? = some name)
    (hparameter : parameter? r f = none) (hverb : r.method = "GET") (huri : r.uri.query = some query)
    (hgives : Form.GivesFirst query name text) : (origin r f).value F f = .ok (some (.str text)) := by
  obtain ⟨others, hothers⟩ := hgives.filter_decode
  have hunder : under? (queryPairs r) f =
      some (name, Text.encode text, others.map fun p => Text.encode p.2) := by
    have hpairs : queryPairs r = coded (Form.decode (Text.encode query)) := by
      rw [queryPairs, huri]
      rfl
    unfold under?
    rw [hpairs, hform]
    dsimp only
    rw [values_coded, hothers]
    rfl
  rw [origin_of_later hparameter, laterOrigin_of_query (hverb ▸ rfl), hunder]
  show (ofValues name f.shape _ _).map some = _
  rw [hshape, ofValues]
  show (Binding.coerce name .string (Text.encode text)).map some = _
  rw [coerce_text]
  rfl

end

end Gather

/-! ## The two sources -/

theorem RouteTable.Puts.separated {α : Type} {t : RouteTable α} {inserts : List (Insertion α)}
    {method : String} {p : Pattern} {e : α} (h : Puts t inserts method p e) : p.Separated := by
  induction h with
  | here _ read => exact Pattern.separated_of_parse read
  | later _ ih => exact ih

/-- Where a path is filled into the pattern that it leads to, the route of the pattern has it, with the
texts of the path for the parameters. -/
theorem entry_of_filled {G : Family} {s : Server} {v : Service} {events : List Event}
    (hv : s.service G = (.ok v, events)) {r : Request} (hverb : r.method = "GET") {p : Pattern}
    {ps : PathParameters} (hroute : v.table.selects "GET" r.uri.path = some (p, ps))
    {values : List (List Char)} (hfilled : p.Filled values r.uri.path.toList) :
    ∃ e, v.table.HoldsAt "GET" p e ∧
      v.entry false r = (e, (Matcher.names p).zip (values.map String.ofList)) := by
  obtain ⟨inserts, htable⟩ := Server.insertAll_of_service hv
  have hsound : v.table.Sound := htable ▸ RouteTable.sound_insertAll RouteTable.sound_empty inserts
  obtain ⟨e, hholds, hlookup⟩ :=
    RouteTable.lookup_of_selects hsound hroute (RouteTable.find?_of_own hroute)
  have hputs : RouteTable.Puts {} inserts "GET" p e :=
    ((RouteTable.holdsAt_insertAll RouteTable.sound_empty inserts p e).1 (htable ▸ hholds)).resolve_left
      (RouteTable.not_holdsAt_empty _ _ _)
  refine ⟨e, hholds, ?_⟩
  rw [← Matcher.parameters_of_filled hroute hputs.separated hfilled]
  exact Service.entry_of_lookup (hverb ▸ hlookup)

/-- **Path texts stay as they are written.** Let a path be filled into the pattern of the route that a
started server selects for it, and let `w`, a percent-encoded form of `t`, stand in the place of a
parameter. Then the route is given `w` for a text field with the name of the parameter. A query that has a
form of `t` under this name gives `t`. The two agree just if there is no escape in the path. -/
theorem path_text_as_written {G : Family} {s : Server} {v : Service} {events : List Event}
    (hv : s.service G = (.ok v, events)) {r : Request} (hverb : r.method = "GET") {p : Pattern}
    {ps : PathParameters} (hroute : v.table.selects "GET" r.uri.path = some (p, ps))
    {values : List (List Char)} (hfilled : p.Filled values r.uri.path.toList) {name w t : String}
    (hw : ((Matcher.names p).zip (values.map String.ofList)).lookup name = some w)
    (hencodes : PercentEncodes w t) :
    v.table.HoldsAt "GET" p (v.entry false r).1 ∧
    (∀ F st f, Gather.IsTextField F st (v.routed r) f → f.uriName? = some name →
      Gather.GivesText F st (v.routed r) f w) ∧
    (∀ F st f q query, q.method = "GET" → q.uri.query = some query → Form.GivesFirst query name t →
      Gather.IsTextField F st q f → f.formName? = some name → Gather.parameter? q f = none →
      Gather.GivesText F st q f t) ∧
    (w = t ↔ 0x25 ∉ Text.encode w) := by
  obtain ⟨e, hholds, hentry⟩ := entry_of_filled hv hverb hroute hfilled
  refine ⟨hentry ▸ hholds, fun F st f hfield huri => ?_,
    fun F st f q query hget hquery hgives hfield hform hnone => ?_, hencodes.eq_iff⟩
  · have hparam : (v.routed r).param? name = some w := by
      rw [Request.param?, Service.routed, hentry]
      exact hw
    exact hfield.givesText hverb (Gather.value_of_parameter hfield.shape huri hparam)
  · exact hfield.givesText hget (Gather.value_of_query hfield.shape hform hnone hget hquery hgives)

theorem percentEncodes_blank : PercentEncodes "a%20b" "a b" := by
  have hwritten : Text.encode "a%20b" = [0x61, 0x25, 0x32, 0x30, 0x62] := by decide +kernel
  have hmeant : Text.encode "a b" = [0x61, 0x20, 0x62] := by decide +kernel
  rw [PercentEncodes, hwritten, hmeant]
  exact .plain (by decide) (.escape (m := 2) (n := 0) (by decide +kernel) (by decide +kernel)
    (.plain (by decide) .nil))

/-- A blank in the path of a request to a server with one route, and the same blank in a query. -/
theorem blank_in_path :
    let f : Field := ⟨"p", "p", "uri:\"p\" form:\"p\"", "", false, .string⟩
    let F : Family := ⟨[⟨"R", [f]⟩]⟩
    let route : Route Middleware Endpoint :=
      ⟨⟨"GET", "/u/:p", none, none, none, none, ⟨"R", .struct 0⟩, ⟨"R", .struct 0⟩, "Users.show"⟩, [],
        .handler ⟨F, .struct 0, .ok, [], .echo⟩⟩
    let s : Server := { settings := { Settings.default with openapiPath := "" }, registry := [route] }
    let r : Request := { (default : Request) with method := "GET", uri := .parse "/u/a%20b" }
    let q : Request := { (default : Request) with method := "GET", uri := .parse "/q?p=a%20b" }
    ∃ v events, s.service F = (.ok v, events) ∧ Gather.GivesText F (F.get 0) (v.routed r) f "a%20b" ∧
      Gather.GivesText F (F.get 0) q f "a b" := by
  intro f F route s r q
  let p : Pattern := [.literal '/', .literal 'u', .literal '/', .parameter ['p']]
  have hselects : ((s.service F).1.toOption.bind fun v => v.table.selects "GET" r.uri.path) =
      some (p, [("p", "a%20b")]) := by decide +kernel
  obtain ⟨v, hv, hroute⟩ := Option.bind_eq_some_iff.1 hselects
  have hservice : s.service F = (.ok v, (s.service F).2) := Prod.ext (eq_ok_of_toOption hv) rfl
  have hfilled : p.Filled [['a', '%', '2', '0', 'b']] r.uri.path.toList := by
    have hpath : r.uri.path.toList = '/' :: 'u' :: '/' :: (['a', '%', '2', '0', 'b'] ++ []) := by
      decide +kernel
    rw [hpath]
    exact .literal (.literal (.literal (.parameter ⟨by decide, by decide⟩ .done)))
  have hw : ((Matcher.names p).zip ([['a', '%', '2', '0', 'b']].map String.ofList)).lookup "p" =
      some "a%20b" := by decide +kernel
  have hfield (r : Request) : Gather.IsTextField F (F.get 0) r f :=
    ⟨by decide +kernel, .head _, rfl, fun g hg hne => absurd (List.mem_singleton.1 hg) hne⟩
  have hgives : Form.GivesFirst "p=a%20b" "p" "a b" := by
    refine ⟨[], [], "p", "a%20b", by decide +kernel, nofun, ?_, percentEncodes_blank⟩
    have hname : Text.encode "p" = [0x70] := by decide +kernel
    rw [PercentEncodes, hname]
    exact .plain (by decide) .nil
  have hnone : Gather.parameter? q f = none := by decide +kernel
  obtain ⟨_, hpath, hquery, _⟩ :=
    path_text_as_written hservice rfl hroute hfilled hw percentEncodes_blank
  exact ⟨v, _, hservice, hpath F (F.get 0) f (hfield _) (by decide +kernel),
    hquery F (F.get 0) f q "p=a%20b" rfl (by decide +kernel) hgives (hfield q) (by decide +kernel) hnone⟩

/-- A request whose path and query have the same escaped form of a text. Its route is given the parameter as
it is written, so that the field from the path gets the escaped form and the one from the query the text. -/
theorem escaped_path_text :
    let p : Field := ⟨"p", "p", "uri:\"p\"", "", false, .string⟩
    let q : Field := ⟨"q", "q", "form:\"p\"", "", false, .string⟩
    let F : Family := ⟨[⟨"R", [p, q]⟩]⟩
    let route : Route Middleware Endpoint :=
      ⟨⟨"GET", "/u/:p", none, none, none, none, ⟨"R", .struct 0⟩, ⟨"R", .struct 0⟩, "Users.show"⟩, [],
        .handler ⟨F, .struct 0, .ok, [], .echo⟩⟩
    let s : Server := { settings := { Settings.default with openapiPath := "" }, registry := [route] }
    let r : Request := { (default : Request) with method := "GET", uri := .parse "/u/a%20b?p=a%20b" }
    PercentEncodes "a%20b" "a b" ∧ ∃ v events, s.service F = (.ok v, events) ∧
      (v.routed r).params = [("p", "a%20b")] ∧ Gather.GivesText F (F.get 0) (v.routed r) q "a b" ∧
      Gather.GivesText F (F.get 0) (v.routed r) p "a%20b" ∧
      ¬ Gather.GivesText F (F.get 0) (v.routed r) p "a b" := by
  intro p q F route s r
  let text (f : Field) (r : Request) : Option String :=
    ((Gather.members F (F.get 0) r).toOption.bind (Assoc.find? f.key)).bind Json.text?
  have hrun : ((s.service F).1.toOption.map fun v =>
      ((v.routed r).params, text p (v.routed r), text q (v.routed r))) =
        some ([("p", "a%20b")], some "a%20b", some "a b") := by decide +kernel
  obtain ⟨v, hv, hbound⟩ := Option.map_eq_some_iff.1 hrun
  obtain ⟨hparams, htexts⟩ := Prod.mk.inj hbound
  obtain ⟨hp, hq⟩ := Prod.mk.inj htexts
  have hpath : Gather.GivesText F (F.get 0) (v.routed r) p "a%20b" := gathered_text hp
  exact ⟨percentEncodes_blank, v, _, Prod.ext (eq_ok_of_toOption hv) rfl, hparams, gathered_text hq, hpath,
    fun h => absurd (hpath.unique h) (by decide)⟩

end HttpService
