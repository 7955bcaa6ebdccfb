import HttpService.OpenApi.Operation
import HttpService.Proofs.Basic

/-!
# What an operation lists

`listsParameter_iff` and `listsProperty_iff`: an operation lists a field as a query parameter, or as a
property of its body, by its verb and by the names of the field alone; the path of the route does not
matter. A field with the rule `required` is stated as required where it is listed (`statesRequired`).
-/

set_option autoImplicit false

namespace HttpService

namespace Schema

theorem find?_object_properties (ps : List Property) :
    Assoc.find? "properties" (object ps) =
      some (.obj (Assoc.ofList (ps.map fun p => (p.name, Json.obj p.schema)))) := by
  rw [object, typed, Assoc.find?_insert_of_ne (by decide), Assoc.find?_insert_self]

theorem find?_object_required {ps : List Property} {p : Property} (hp : p ∈ ps)
    (h : p.required = true) :
    ∃ names, Assoc.find? "required" (object ps) = some (.strings names) ∧ p.name ∈ names := by
  have hmem : p.name ∈ (ps.filter (·.required)).map (·.name) :=
    List.mem_map_of_mem (List.mem_filter.2 ⟨hp, h⟩)
  refine ⟨_, ?_, hmem⟩
  rw [object, typed, Assoc.find?_insert_of_ne (by decide), Assoc.find?_insert_of_ne (by decide)]
  rw [if_neg (by simpa using ⟨p, hp, h⟩)]
  rfl

/-- A field as a property of an object inside the structs `visiting`, if it has a name. -/
def member? (F : Family) (n : Naming) (visiting : List String) (f : Field) : Option Property :=
  (n.name? f).map fun name => ⟨name, describe f (ofShape F n visiting f.shape), f.isRequired⟩

theorem keys_members (F : Family) (n : Naming) (visiting : List String) (fields : List Field) :
    ((fields.filterMap (member? F n visiting)).map fun p => (p.name, Json.obj p.schema)).map (·.1) =
      fields.filterMap n.name? := by
  rw [List.map_map, List.map_filterMap]
  refine congrArg (fields.filterMap ·) (funext fun f => ?_)
  unfold member?
  cases n.name? f <;> rfl

/-- What the schema of a body says about a field of its outermost struct. -/
def ofField (F : Family) (st : Struct) (f : Field) : Assoc Json :=
  describe f (ofShape F .bound [st.name] f.shape)

/-- A field of the outermost struct of a body as a property, if it has a JSON name. -/
def property? (F : Family) (st : Struct) (f : Field) : Option Property :=
  f.jsonName?.map fun name => ⟨name, ofField F st f, f.isRequired⟩

/-- The fields that the schema of a body lists. -/
def listed (st : Struct) : List Field :=
  st.dataFields.filter (!·.isPathOnly)

theorem body_eq (F : Family) (st : Struct) :
    body F st = .obj (object ((listed st).filterMap (property? F st))) :=
  rfl

theorem mem_properties {F : Family} {st : Struct} {f : Field} {n : String} (hf : f ∈ st.dataFields)
    (honly : f.isPathOnly = false) (hn : f.jsonName? = some n) :
    ⟨n, ofField F st f, f.isRequired⟩ ∈ (listed st).filterMap (property? F st) := by
  refine List.mem_filterMap.2 ⟨f, List.mem_filter.2 ⟨hf, by simp [honly]⟩, ?_⟩
  rw [property?, hn]
  rfl

theorem names_properties (F : Family) (st : Struct) (fs : List Field) :
    ((fs.filterMap (property? F st)).map fun p => (p.name, Json.obj p.schema)).map (·.1) =
      fs.filterMap Field.jsonName? :=
  keys_members F .bound [st.name] fs

end Schema

namespace OpenApi

/-- The operation of a route lists a field as the query parameter `n`. -/
def ListsParameter (F : Family) (rd : RouteDoc) (f : Field) (n : String) : Prop :=
  ∃ p ∈ (operation F rd).parameters, p.location = .query ∧ queryParameter? F f = some p ∧ p.name = n

/-- The body of the operation of a route, whose request is the struct `st`, has the property `n` for a
field. -/
def ListsProperty (F : Family) (rd : RouteDoc) (st : Struct) (f : Field) (n : String) : Prop :=
  f.jsonName? = some n ∧ ∃ schema, (operation F rd).body = some schema ∧
    (schema.get? "properties").bind (Json.get? n) = some (.obj (Schema.ofField F st f))

/-- The operation of a route lists a field that is not bound from the path alone, by its form name or by
its JSON name, and says that it is required. -/
structure StatesRequired (F : Family) (rd : RouteDoc) (f : Field) : Prop where
  parameter : documentsBody rd.method = false → ∀ n, f.formName? = some n →
    ∃ p ∈ (operation F rd).parameters, p.location = .query ∧ p.name = n ∧ p.required = true
  property : documentsBody rd.method = true → ∀ n, f.jsonName? = some n →
    ∃ schema names, (operation F rd).body = some schema ∧
      schema.get? "required" = some (.strings names) ∧ n ∈ names

section
variable {F : Family} {rd : RouteDoc} {id : StructId} {f : Field} {n : String}

theorem queryParameter?_eq_some {p : Parameter} :
    queryParameter? F f = some p ↔ f.isPathOnly = false ∧ ∃ n, f.formName? = some n ∧
      p = ⟨n, .query, f.description?, f.isRequired, Schema.request F f.shape.unwrap⟩ := by
  unfold queryParameter?
  cases f.isPathOnly with
  | true => simp
  | false =>
    simp only [Bool.false_eq_true, if_false, Option.map_eq_some_iff, true_and]
    exact ⟨fun ⟨n, hn, hp⟩ => ⟨n, hn, hp.symm⟩, fun ⟨n, hn, hp⟩ => ⟨n, hn, hp.symm⟩⟩

section
variable (hs : rd.request.shape.struct? = some id)
include hs

theorem structOf?_eq : structOf? F rd.request.shape = some (F.get id) := by
  rw [structOf?, hs]
  rfl

theorem parameters_eq :
    (operation F rd).parameters =
      (Path.parameters rd.path).map (pathParameter F (F.get id).dataFields) ++
        if documentsBody rd.method then []
        else (F.get id).dataFields.filterMap (queryParameter? F) := by
  unfold operation
  rw [structOf?_eq hs]
  rfl

theorem body_eq_some {schema : Json} :
    (operation F rd).body = some schema ↔
      documentsBody rd.method = true ∧ schema = Schema.body F (F.get id) := by
  unfold operation
  rw [structOf?_eq hs]
  show (if documentsBody rd.method then some (Schema.body F (F.get id)) else none) = some schema ↔ _
  cases documentsBody rd.method <;> simp [eq_comm]

variable (hf : f ∈ (F.get id).dataFields)
include hf

/-- **Query parameters.** A verb without a body lists the fields that are not bound from the path alone,
by their form names. -/
theorem listsParameter_iff :
    ListsParameter F rd f n ↔
      documentsBody rd.method = false ∧ f.isPathOnly = false ∧ f.formName? = some n := by
  unfold ListsParameter
  rw [parameters_eq hs]
  constructor
  · rintro ⟨p, hp, hquery, hparameter, rfl⟩
    obtain ⟨honly, m, hm, rfl⟩ := queryParameter?_eq_some.1 hparameter
    refine ⟨?_, honly, hm⟩
    rcases List.mem_append.1 hp with hp | hp
    · -- A parameter of the path does not stand in the query.
      obtain ⟨name, _, hname⟩ := List.mem_map.1 hp
      have hlocation := congrArg Parameter.location hname
      rw [hquery] at hlocation
      cases hlocation
    · refine Bool.eq_false_iff.2 fun hbody => ?_
      rw [if_pos hbody] at hp
      cases hp
  · rintro ⟨hbody, honly, hn⟩
    have hparameter := (queryParameter?_eq_some (F := F)).2 ⟨honly, n, hn, rfl⟩
    refine ⟨_, List.mem_append_right _ ?_, rfl, hparameter, rfl⟩
    rw [if_neg (by simp [hbody])]
    exact List.mem_filterMap.2 ⟨f, hf, hparameter⟩

/-- **Properties of the body.** A verb with a body lists the fields that are not bound from the path
alone, by their JSON names. -/
theorem listsProperty_iff
    (hnames : documentsBody rd.method = true → ((F.get id).dataFields.filterMap Field.jsonName?).Nodup) :
    ListsProperty F rd (F.get id) f n ↔
      documentsBody rd.method = true ∧ f.isPathOnly = false ∧ f.jsonName? = some n := by
  have hnodup (hbody : documentsBody rd.method = true) :
      (((Schema.listed (F.get id)).filterMap (Schema.property? F (F.get id))).map
        fun p => (p.name, Json.obj p.schema)).map (·.1) |>.Nodup := by
    rw [Schema.names_properties]
    exact (hnames hbody).sublist (List.filter_sublist.filterMap _)
  have hfind (hbody : documentsBody rd.method = true) :
      ((Schema.body F (F.get id)).get? "properties").bind (Json.get? n) =
        Assoc.find? n (((Schema.listed (F.get id)).filterMap (Schema.property? F (F.get id))).map
          fun p => (p.name, Json.obj p.schema)) := by
    rw [Schema.body_eq, Json.get?, Schema.find?_object_properties, Option.bind_some, Json.get?,
      Assoc.find?_ofList (hnodup hbody)]
  unfold ListsProperty
  constructor
  · rintro ⟨hn, schema, hschema, hproperty⟩
    obtain ⟨hbody, rfl⟩ := (body_eq_some hs).1 hschema
    rw [hfind hbody] at hproperty
    have hname : n ∈ (Schema.listed (F.get id)).filterMap Field.jsonName? := by
      rw [← Schema.names_properties F (F.get id)]
      exact List.mem_map_of_mem (Assoc.mem_of_find? hproperty)
    obtain ⟨g, hg, hgn⟩ := List.mem_filterMap.1 hname
    obtain ⟨hgd, honly⟩ := List.mem_filter.1 hg
    obtain rfl := eq_of_nodup_filterMap (hnames hbody) hgd hf hgn hn
    exact ⟨hbody, by simpa using honly, hn⟩
  · rintro ⟨hbody, honly, hn⟩
    refine ⟨hn, _, (body_eq_some hs).2 ⟨hbody, rfl⟩, ?_⟩
    rw [hfind hbody]
    refine Assoc.find?_of_mem (hnodup hbody) ?_
    exact List.mem_map.2 ⟨_, Schema.mem_properties hf honly hn, rfl⟩

theorem statesRequired (honly : f.isPathOnly = false) (h : f.isRequired = true) :
    StatesRequired F rd f where
  parameter hbody n hn := by
    obtain ⟨p, hp, hquery, hparameter, hname⟩ := (listsParameter_iff hs hf).2 ⟨hbody, honly, hn⟩
    obtain ⟨_, _, _, rfl⟩ := queryParameter?_eq_some.1 hparameter
    exact ⟨_, hp, hquery, hname, h⟩
  property hbody n hn := by
    obtain ⟨names, hnames, hmem⟩ :=
      Schema.find?_object_required (Schema.mem_properties (F := F) hf honly hn) h
    exact ⟨_, names, (body_eq_some hs).2 ⟨hbody, rfl⟩, hnames, hmem⟩

end

end

end OpenApi

end HttpService
