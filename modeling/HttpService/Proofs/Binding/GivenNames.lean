import HttpService.Proofs.Binding.Rules

/-!
# Names that clients use and names in messages

A request gives a field under the name that its source knows: the path parameter, the form name in the
query and in form bodies, or the JSON name. A text that cannot be coerced is reported under that name
(`coercion_names_given`). A broken rule is reported under the JSON name, or under the path parameter where
JSON hides the field, whatever the source was. `reported_under_given_name`: the two agree just where the
tags of the field make them one, so that a field with a form name of its own is reported under a name that
the client did not send (`form_name_not_reported`).
-/

set_option autoImplicit false

namespace HttpService

open Validation (Named Breaks RuleFailure messageName? firstFailure fieldFailures failures)

namespace Gather

/-! ## The name at the source -/

/-- The name under which an origin gives a field. -/
def Origin.givenName? (f : Field) : Origin → Option String
  | .path _ _ => f.uriName?
  | .query _ _ _ => f.formName?
  | .form _ _ _ => f.formName?
  | .member _ => f.jsonName?
  | .absent => none

/-- The name that the path, the query or a form was asked for. -/
def Origin.askedName? : Origin → Option String
  | .path name _ => some name
  | .query name _ _ => some name
  | .form name _ _ => some name
  | .member _ => none
  | .absent => none

/-- The tags of a field make its name in messages the one at the origin. -/
def Origin.Keeps (f : Field) : Origin → Prop
  | .path _ _ => f.jsonName? = none ∨ f.jsonName? = f.uriName?
  | .query _ _ _ => f.jsonName? = f.formName? ∨ f.jsonName? = none ∧ f.uriName? = f.formName?
  | .form _ _ _ => f.jsonName? = f.formName? ∨ f.jsonName? = none ∧ f.uriName? = f.formName?
  | .member _ => True
  | .absent => False

/-- The origin is absent or gives the field under a name, which is the one that it was asked for. -/
def Origin.Given (f : Field) (o : Origin) : Prop :=
  o = .absent ∨ ∃ given, o.givenName? f = some given ∧ ∀ asked, o.askedName? = some asked → asked = given

theorem uriName?_of_parameter? {r : Request} {f : Field} {name raw : String}
    (h : parameter? r f = some (name, raw)) : f.uriName? = some name := by
  obtain ⟨uri, huri, hraw⟩ := Option.bind_eq_some_iff.1 h
  obtain ⟨_, _, hpair⟩ := Option.map_eq_some_iff.1 hraw
  cases hpair
  exact huri

theorem Origin.given_ofPairs {f : Field} {o : String → Bytes → List Bytes → Origin}
    (ho : o = .query ∨ o = .form) (ps : List (String × Bytes)) :
    (Origin.ofPairs o (under? ps f)).Given f := by
  cases hunder : under? ps f with
  | none => exact .inl rfl
  | some found =>
    have hname := formName?_of_under? hunder
    rcases ho with rfl | rfl
    all_goals exact .inr ⟨found.1, hname, fun asked h => (Option.some.inj h).symm⟩

theorem Origin.given_ofMember (f : Field) (body : Members) :
    (Origin.ofMember (f.jsonName?.bind (Assoc.find? · body))).Given f := by
  cases hmember : f.jsonName?.bind (Assoc.find? · body) with
  | none => exact .inl rfl
  | some v =>
    obtain ⟨name, hname, _⟩ := Option.bind_eq_some_iff.1 hmember
    exact .inr ⟨name, hname, nofun⟩

theorem given_origin (r : Request) (f : Field) : (origin r f).Given f := by
  cases hparameter : parameter? r f with
  | some found =>
    rw [origin, hparameter]
    exact .inr ⟨found.1, uriName?_of_parameter? hparameter, fun asked h => (Option.some.inj h).symm⟩
  | none =>
    rw [origin_of_later hparameter]
    rcases laterOrigin_cases r f with ⟨_, horigin⟩ | ⟨_, body, horigin⟩ | ⟨ps, horigin⟩
    all_goals rw [horigin]
    · exact Origin.given_ofPairs (.inl rfl) _
    · exact Origin.given_ofMember f body
    · exact Origin.given_ofPairs (.inr rfl) ps

/-! ## Texts that cannot be coerced -/

/-- The failure for a text that is no value of a field. -/
def misread (name text : String) : Failure :=
  .invalid ("invalid value for " ++ name ++ ": " ++ text)

theorem eq_misread_of_coerce {name : String} {s : Shape} {raw : Bytes} {e : Failure}
    (h : Binding.coerce name s raw = .error e) : ∃ text, e = misread name text := by
  unfold Binding.coerce at h
  split at h
  · cases h
  · cases h
    exact ⟨_, rfl⟩

theorem eq_misread_of_ofValues {name : String} {s : Shape} {first : Bytes} {values : List Bytes}
    {e : Failure} (h : ofValues name s first values = .error e) : ∃ text, e = misread name text := by
  unfold ofValues at h
  split at h
  · rename_i elem _
    cases hvalues : values.mapM (Binding.coerce name elem) with
    | error e' =>
      rw [hvalues] at h
      cases h
      obtain ⟨raw, _, hraw⟩ := exists_of_mapM_eq_error hvalues
      exact eq_misread_of_coerce hraw
    | ok vs =>
      rw [hvalues] at h
      cases h
  · exact eq_misread_of_coerce h

/-- A text that cannot be coerced is reported under the name at its origin. -/
theorem coercion_names_given {F : Family} {r : Request} {f : Field} {e : Failure}
    (h : (origin r f).value F f = .error e) :
    ∃ given text, (origin r f).givenName? f = some given ∧ e = misread given text := by
  have hasked : ∃ asked text, (origin r f).askedName? = some asked ∧ e = misread asked text := by
    cases horigin : origin r f with
    | path name raw =>
      rw [horigin] at h
      obtain ⟨text, he⟩ := eq_misread_of_coerce (map_eq_error.1 h)
      exact ⟨name, text, rfl, he⟩
    | query name first others =>
      rw [horigin] at h
      obtain ⟨text, he⟩ := eq_misread_of_ofValues (map_eq_error.1 h)
      exact ⟨name, text, rfl, he⟩
    | form name first others =>
      rw [horigin] at h
      obtain ⟨text, he⟩ := eq_misread_of_ofValues (map_eq_error.1 h)
      exact ⟨name, text, rfl, he⟩
    | member v =>
      rw [horigin] at h
      cases h
    | absent =>
      rw [horigin] at h
      cases h
  obtain ⟨asked, text, hname, he⟩ := hasked
  rcases given_origin r f with habsent | ⟨given, hgiven, hsame⟩
  · rw [habsent] at hname
    cases hname
  · exact ⟨given, text, hgiven, hsame asked hname ▸ he⟩

end Gather

/-! ## The name in messages -/

section
variable {F : Family} {st : Struct} {value : Json} {f : Field} {name : String} {e : RuleFailure}

theorem field_of_firstFailure {rules : List String} {v : Json}
    (h : firstFailure name rules v = some e) : e.field = name := by
  obtain ⟨_, _, _, _, _, _, _, rfl⟩ := Validation.firstFailure_eq_some_iff.1 h
  rfl

/-- The name in messages is that at the origin just where the tags make it so. -/
theorem eq_given_iff_keeps {o : Gather.Origin} {given : String}
    (hname : messageName? f = some name) (hgiven : o.givenName? f = some given) :
    name = given ↔ o.Keeps f := by
  unfold messageName? at hname
  cases hjson : f.jsonName? <;> rw [hjson] at hname <;> cases o <;>
    simp_all [Gather.Origin.givenName?, Gather.Origin.Keeps]

variable (hname : messageName? f = some name)
  (he : firstFailure name f.rules ((value.get? f.key).getD .null) = some e)
include hname he

theorem mem_failures (hf : f ∈ st.dataFields) : e ∈ failures F st value := by
  rw [Validation.failures_eq]
  refine List.mem_flatMap.2 ⟨f, hf, ?_⟩
  rw [fieldFailures, hname]
  dsimp only
  rw [he]
  exact .head _

/-- A failure with nothing before it is the first. -/
theorem failures_eq_cons {before after : List Field} (hfields : st.dataFields = before ++ f :: after)
    (hclean : ∀ g ∈ before, fieldFailures F value g = []) :
    ∃ rest, failures F st value = e :: rest := by
  rw [Validation.failures_eq, hfields, List.flatMap_append, List.flatMap_eq_nil_iff.2 hclean,
    List.nil_append, List.flatMap_cons, fieldFailures, hname]
  dsimp only
  rw [he]
  exact ⟨_, rfl⟩

end

/-- **Names in messages.** A field of the request struct that the request gives, and whose value breaks its
rules, is reported among the failures, and to the client where no failure stands before it. The report has
the name under which the client gave the field just where the tags of the field make one name of the two:

* a field from the path, where its JSON name is hidden or is the path parameter;
* a field from the query or a form, where its JSON name is the form name, or is hidden and the path
  parameter is the form name;
* a field from a JSON body, always.

Where no two fields that are bound share a key or a JSON name, the value that is checked is the one from
there. -/
theorem reported_under_given_name {F : Family} {s : Shape} {id : StructId} {r : Request}
    {ms : Gather.Members} {f : Field} (hs : s.struct? = some id)
    (hms : Gather.members F (F.get id) r = .ok ms) (hf : f ∈ (F.get id).dataFields)
    (hgives : Gather.origin r f ≠ .absent) (hnamed : Named f)
    (hbreaks : Breaks f (((Json.obj ms).get? f.key).getD .null)) :
    ∃ e given, e ∈ failures F (F.get id) (.obj ms) ∧
      (Gather.origin r f).givenName? f = some given ∧
      (e.field = given ↔ (Gather.origin r f).Keeps f) ∧
      firstFailure e.field f.rules (((Json.obj ms).get? f.key).getD .null) = some e ∧
      (∀ before after, (F.get id).dataFields = before ++ f :: after →
        (∀ g ∈ before, fieldFailures F (.obj ms) g = []) →
          Gather.value F s r = .error (Validation.rejection r.locale e)) ∧
      ((((F.get id).fields.filter (!·.skip)).map Field.key).Nodup →
        ((F.get id).dataFields.filterMap Field.jsonName?).Nodup →
          ∃ v w, (Gather.origin r f).value F f = .ok (some v) ∧ Assoc.find? f.key ms = some w ∧
            Binding.Settled F f.shape v w) := by
  obtain ⟨given, hgiven, _⟩ := (Gather.given_origin r f).resolve_left hgives
  obtain ⟨name, hname⟩ := Option.ne_none_iff_exists'.1
    fun hnone => Validation.messageName?_eq_none.1 hnone hnamed
  obtain ⟨e, he⟩ := Option.isSome_iff_exists.1 ((Validation.firstFailure_isSome_iff name).2 hbreaks)
  have hfield : e.field = name := field_of_firstFailure he
  refine ⟨e, given, mem_failures hname he hf, hgiven, ?_, by rw [hfield, he],
    fun before after hfields hclean => ?_, fun hkeys hnames => ?_⟩
  · rw [hfield]
    exact eq_given_iff_keeps hname hgiven
  · obtain ⟨rest, hfail⟩ := failures_eq_cons (F := F) hname he hfields hclean
    rw [value_eq_check hs hms, Validation.check, hfail]
    rfl
  · exact ((Gather.members_of_origin hkeys hnames hms).2 f hf).2 hgives

/-- A field that JSON hides is reported under its path parameter. -/
theorem path_parameter_reported :
    let f : Field := ⟨"id", "id", "json:\"-\" uri:\"user_id\" binding:\"numeric\"", "", false, .string⟩
    let F : Family := ⟨[⟨"P", [f]⟩]⟩
    let r : Request := { (default : Request) with method := "GET", params := [("user_id", "x")] }
    ∃ ms e, ((Shape.struct 0).struct? = some 0 ∧ Gather.members F (F.get 0) r = .ok ms ∧
        f ∈ (F.get 0).dataFields ∧ Gather.origin r f ≠ .absent ∧ Named f ∧
        Breaks f (((Json.obj ms).get? f.key).getD .null)) ∧
      e ∈ failures F (F.get 0) (.obj ms) ∧ e.field = "user_id" ∧
      Gather.value F (.struct 0) r = .error (Validation.rejection r.locale e) := by
  intro f F r
  have hs : (Shape.struct 0).struct? = some 0 := rfl
  obtain ⟨ms, hms, hfind⟩ :
      ∃ ms, Gather.members F (F.get 0) r = .ok ms ∧ Assoc.find? "id" ms = some (.str "x") :=
    gathered_text (by decide +kernel)
  have hf : f ∈ (F.get 0).dataFields := .head _
  have hparameter : Gather.parameter? r f = some ("user_id", "x") := by decide +kernel
  have horigin : Gather.origin r f = .path "user_id" "x" := by rw [Gather.origin, hparameter]
  have hgives : Gather.origin r f ≠ .absent := by
    rw [horigin]
    exact Gather.Origin.noConfusion
  have hnamed : Named f := .inr (by decide +kernel)
  have hv : ((Json.obj ms).get? f.key).getD .null = .str "x" := by
    rw [Json.get?, hfind]
    rfl
  have hbreaks : Breaks f (((Json.obj ms).get? f.key).getD .null) := by
    rw [hv]
    exact ⟨.inl rfl, "numeric", by decide +kernel, by decide +kernel, fun h => by cases h⟩
  obtain ⟨e, given, hmem, hgiven, hkeeps, _, hfirst, _⟩ :=
    reported_under_given_name hs hms hf hgives hnamed hbreaks
  have huser : given = "user_id" := by
    rw [horigin] at hgiven
    exact Option.some.inj (hgiven.symm.trans (by decide +kernel))
  have hkept : (Gather.origin r f).Keeps f := by
    rw [horigin]
    exact .inl (by decide +kernel)
  exact ⟨ms, e, ⟨hs, hms, hf, hgives, hnamed, hbreaks⟩, hmem, huser ▸ hkeeps.2 hkept,
    hfirst [] [] rfl fun _ h => absurd h List.not_mem_nil⟩

/-- A field that the query gives under its form name is reported under its JSON name. -/
theorem form_name_not_reported :
    let f : Field := ⟨"query", "query", "form:\"q\" binding:\"numeric\"", "", false, .string⟩
    let F : Family := ⟨[⟨"P", [f]⟩]⟩
    let r : Request := { (default : Request) with method := "GET", uri := .parse "/?q=x" }
    let e : RuleFailure := ⟨"query", "numeric", "", .string⟩
    f ∈ (F.get 0).dataFields ∧ Gather.origin r f = .query "q" (Text.encode "x") [] ∧
      (Gather.origin r f).givenName? f = some "q" ∧
      (∃ ms, Gather.members F (F.get 0) r = .ok ms ∧ Assoc.find? "query" ms = some (.str "x") ∧
        failures F (F.get 0) (.obj ms) = [e]) ∧
      Gather.value F (.struct 0) r = .error (Validation.rejection r.locale e) ∧
      (Validation.rejection r.locale e).report.message = "query must be a valid numeric value" := by
  intro f F r e
  have hs : (Shape.struct 0).struct? = some 0 := rfl
  obtain ⟨ms, hms, hfind⟩ :
      ∃ ms, Gather.members F (F.get 0) r = .ok ms ∧ Assoc.find? "query" ms = some (.str "x") :=
    gathered_text (by decide +kernel)
  have hparameter : Gather.parameter? r f = none := by decide +kernel
  have hunder : Gather.under? (Gather.queryPairs r) f = some ("q", Text.encode "x", []) := by
    decide +kernel
  have horigin : Gather.origin r f = .query "q" (Text.encode "x") [] := by
    rw [Gather.origin_of_later hparameter, Gather.laterOrigin_of_query rfl, hunder]
    rfl
  have hget : (Json.obj ms).get? f.key = some (.str "x") := hfind
  have hname : messageName? f = some "query" := by decide +kernel
  have hfirst : firstFailure "query" f.rules (.str "x") = some e := by decide +kernel
  have hfail : failures F (F.get 0) (.obj ms) = [e] := by
    rw [Validation.failures_eq]
    show fieldFailures F (.obj ms) f ++ [] = [e]
    rw [fieldFailures, hname, hget]
    dsimp only [Option.getD_some]
    rw [hfirst]
    rfl
  refine ⟨.head _, horigin, ?_, ⟨ms, hms, hfind, hfail⟩, ?_, by decide +kernel⟩
  · rw [horigin]
    decide +kernel
  · rw [value_eq_check hs hms, Validation.check, hfail]
    rfl

end HttpService
