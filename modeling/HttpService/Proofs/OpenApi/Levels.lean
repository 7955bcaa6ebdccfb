import HttpService.Proofs.OpenApi.Expansion

/-!
# Object levels of schemas

A path through a schema passes nodes: the schemas of shapes inside shapes. `Along F n visiting s hops levels`
names what stands at the nodes along a path: a struct that is written out there, or nothing where the shape is
no struct or its struct is cut off. Every path of a schema is such a path (`exists_along`), and the node of a
struct that is written out has the properties and the required names of just the fields that the struct shows
there (`nodes_along`).

`object_levels` says it of the three kinds of schemas. Fields are left out at the outermost struct only.
-/

set_option autoImplicit false

namespace HttpService.Schema

/-! ## Levels -/

/-- The name of a field under a naming. -/
inductive Named : Naming → Field → String → Prop
  | serialised (f : Field) : Named .serialised f f.key
  | tagged {f : Field} {name : String} (tag : f.taggedName? "json" = some name)
      (visible : name ≠ "-") : Named .bound f name
  | untagged {f : Field} (tag : f.taggedName? "json" = none) : Named .bound f f.key

theorem named_iff {n : Naming} {f : Field} {name : String} :
    n.name? f = some name ↔ Named n f name := by
  constructor
  · intro h
    cases n with
    | serialised =>
      cases h
      exact .serialised f
    | bound =>
      simp only [Naming.name?, Field.jsonName?, Field.visibleName?] at h
      split at h
      · rename_i tagged htag
        split at h
        · cases h
        · cases h
          exact .tagged htag ‹_›
      · rename_i htag
        cases h
        exact .untagged htag
  · intro h
    cases h with
    | serialised => rfl
    | tagged tag visible =>
      simp only [Naming.name?, Field.jsonName?, Field.visibleName?, tag, if_neg visible]
    | untagged tag => simp only [Naming.name?, Field.jsonName?, Field.visibleName?, tag]

/-- A struct that is written out, and the fields of it that are left out. -/
structure Level where
  struct : Struct
  exclude : Field → Bool

/-- A struct of which no field is left out. -/
def Level.whole (st : Struct) : Level :=
  ⟨st, fun _ => false⟩

def Level.fields (l : Level) : List Field :=
  l.struct.dataFields.filter (!l.exclude ·)

@[simp]
theorem Level.fields_whole (st : Struct) : (Level.whole st).fields = st.dataFields := by
  simp [Level.fields, Level.whole]

/-- A field that is shown at a level by a name: it is neither skipped nor the marker nor left out, and the
naming gives it the name. -/
structure Level.Shows (l : Level) (n : Naming) (f : Field) (name : String) : Prop where
  mem : f ∈ l.struct.fields
  kept : f.skip = false
  data : f.shape ≠ .marker
  included : l.exclude f = false
  named : Named n f name

theorem Level.shows_iff {l : Level} {n : Naming} {f : Field} {name : String} :
    l.Shows n f name ↔ f ∈ l.fields ∧ n.name? f = some name := by
  have hfields : f ∈ l.fields ↔
      (f ∈ l.struct.fields ∧ f.skip = false ∧ f.shape ≠ .marker) ∧ l.exclude f = false := by
    rw [Level.fields, List.mem_filter, Struct.dataFields, List.mem_filter]
    simp [Field.isData]
  rw [hfields, named_iff]
  constructor
  · exact fun h => ⟨⟨⟨h.mem, h.kept, h.data⟩, h.included⟩, h.named⟩
  · rintro ⟨⟨⟨hmem, hkept, hdata⟩, hincluded⟩, hnamed⟩
    exact ⟨hmem, hkept, hdata, hincluded, hnamed⟩

/-- The node of a struct that is written out: an object that has a property for each name that is shown, and
no other, and that requires just the names that are shown of fields with the rule. -/
structure Level.WrittenAt (l : Level) (n : Naming) (node : Json) : Prop where
  object : node.get? "type" = some (.str "object")
  members : ∃ properties required, node.get? "properties" = some (.obj properties) ∧
    node.get? "required" = (if required = [] then none else some (.strings required)) ∧
    (Assoc.keys properties).Nodup ∧
    (∀ name, name ∈ Assoc.keys properties ↔ ∃ f, l.Shows n f name) ∧
    ∀ name, name ∈ required ↔ ∃ f, l.Shows n f name ∧ "required" ∈ f.rules

/-- What the level at a node says of it. -/
def Tells (n : Naming) : Option Level → Json → Prop
  | some l, node => l.WrittenAt n node
  | none, node => node.get? "properties" = none ∧ node.get? "required" = none

/-! ## Levels along a path -/

/-- What stands at the nodes along a path of the schema of a shape, outermost first: the structs that are
written out there. A struct is cut off inside one of the names `visiting`. -/
inductive Along (F : Family) (n : Naming) :
    List String → Shape → List Hop → List (Option Level) → Prop
  | optional {visiting : List String} {inner : Shape} {hops : List Hop} {levels : List (Option Level)}
      (rest : Along F n visiting inner hops levels) : Along F n visiting (.optional inner) hops levels
  | plain {visiting : List String} {s : Shape} (leaf : s.struct? = none) :
      Along F n visiting s [] [none]
  | items {visiting : List String} {elem : Shape} {hops : List Hop} {levels : List (Option Level)}
      (rest : Along F n visiting elem hops levels) :
      Along F n visiting (.array elem) (.items :: hops) (none :: levels)
  | values {visiting : List String} {value : Shape} {hops : List Hop} {levels : List (Option Level)}
      (rest : Along F n visiting value hops levels) :
      Along F n visiting (.map value) (.values :: hops) (none :: levels)
  | cut {visiting : List String} {id : StructId} (again : (F.get id).name ∈ visiting) :
      Along F n visiting (.struct id) [] [none]
  | here {visiting : List String} {id : StructId} (new : (F.get id).name ∉ visiting) :
      Along F n visiting (.struct id) [] [some (.whole (F.get id))]
  | property {visiting : List String} {id : StructId} {f : Field} {name : String} {hops : List Hop}
      {levels : List (Option Level)} (new : (F.get id).name ∉ visiting)
      (lists : Lists n (F.get id).dataFields f name)
      (rest : Along F n ((F.get id).name :: visiting) f.shape hops levels) :
      Along F n visiting (.struct id) (.property name :: hops) (some (.whole (F.get id)) :: levels)

/-- The names of the structs that are written out. -/
def openedNames (levels : List (Option Level)) : List String :=
  levels.filterMap fun level => level.map (·.struct.name)

section
variable {F : Family} {n : Naming}

theorem Along.opened {visiting : List String} {s : Shape} {hops : List Hop}
    {levels : List (Option Level)} (h : Along F n visiting s hops levels) :
    (openedNames levels).Nodup ∧ ∀ name ∈ openedNames levels, name ∉ visiting := by
  induction h with
  | optional _ ih => exact ih
  | plain _ => exact ⟨.nil, nofun⟩
  | items _ ih => exact ih
  | values _ ih => exact ih
  | cut _ => exact ⟨.nil, nofun⟩
  | here new => exact ⟨by simp [openedNames], by simpa [openedNames, Level.whole] using new⟩
  | @property visiting id f name hops levels new lists _ ih =>
    obtain ⟨hnodup, hnew⟩ := ih
    have hopened : openedNames (some (.whole (F.get id)) :: levels) =
        (F.get id).name :: openedNames levels := rfl
    rw [hopened]
    refine ⟨List.nodup_cons.2 ⟨fun hmem => hnew _ hmem (.head _), hnodup⟩, fun other hother => ?_⟩
    rcases List.mem_cons.1 hother with rfl | hother
    · exact new
    · exact fun hmem => hnew _ hother (.tail _ hmem)

theorem Along.whole {visiting : List String} {s : Shape} {hops : List Hop}
    {levels : List (Option Level)} (h : Along F n visiting s hops levels) {level : Level}
    (hlevel : some level ∈ levels) : level.exclude = fun _ => false := by
  induction h with
  | optional _ ih => exact ih hlevel
  | plain _ => simp at hlevel
  | items _ ih => exact ih (by simpa using hlevel)
  | values _ ih => exact ih (by simpa using hlevel)
  | cut _ => simp at hlevel
  | here _ =>
    obtain rfl := Option.some.inj (List.mem_singleton.1 hlevel)
    rfl
  | property _ _ _ ih =>
    rcases List.mem_cons.1 hlevel with hlevel | hlevel
    · obtain rfl := Option.some.inj hlevel
      rfl
    · exact ih hlevel

/-! ## Every path is along levels -/

theorem exists_lists {fields : List Field} {name : String} (h : name ∈ fields.filterMap n.name?) :
    ∃ f, Lists n fields f name := by
  induction fields with
  | nil => cases h
  | cons f fields ih =>
    by_cases hlater : name ∈ fields.filterMap n.name?
    · obtain ⟨g, hnamed, before, after, rfl, hlast⟩ := ih hlater
      exact ⟨g, hnamed, f :: before, after, rfl, hlast⟩
    · have hnamed : n.name? f = some name := by
        rw [List.filterMap_cons] at h
        split at h
        · exact absurd h hlater
        · rename_i other hother
          rcases List.mem_cons.1 h with rfl | h
          · exact hother
          · exact absurd h hlater
      refine ⟨f, hnamed, [], fields, rfl, fun g hg hgn => hlater ?_⟩
      exact List.mem_filterMap.2 ⟨g, hg, hgn⟩

/-- A step down from the schema of an object leads to a field that it lists. -/
theorem lists_of_hop {visiting : List String} {fields : List Field} {m : Assoc Json}
    (hm : Agrees m (object (fields.filterMap (member? F n visiting)))) {hop : Hop} {hops : List Hop}
    {node : Json} (h : follow? (hop :: hops) (.obj m) = some node) :
    ∃ f name, hop = .property name ∧ Lists n fields f name := by
  have hother (key : String) (hkey : key ≠ "type" ∧ key ≠ "properties" ∧ key ≠ "required")
      (hfree : key ≠ "nullable" ∧ key ≠ "description") : (Json.obj m).get? key = none := by
    rw [Json.get?, hm key hfree.1 hfree.2, object, typed, Assoc.find?_insert_of_ne hkey.1,
      Assoc.find?_insert_of_ne hkey.2.1]
    split
    · rfl
    · exact if_neg (Ne.symm hkey.2.2)
  obtain ⟨child, hchild, _⟩ := Option.bind_eq_some_iff.1 h
  cases hop with
  | items | values => cases (hother _ (by decide) (by decide)).symm.trans hchild
  | property name =>
    have hproperties := (hm "properties" (by decide) (by decide)).trans (find?_object_properties _)
    obtain ⟨properties, hget, hfind⟩ := Option.bind_eq_some_iff.1 hchild
    obtain rfl := Option.some.inj (hproperties.symm.trans hget)
    have hname : name ∈ fields.filterMap n.name? :=
      keys_members F n visiting fields ▸ Assoc.exists_find?_ofList.1 ⟨child, hfind⟩
    obtain ⟨f, hlists⟩ := exists_lists hname
    exact ⟨f, name, rfl, hlists⟩

/-- The keys below which a schema says what is inside. -/
def innerKeys : List String :=
  ["items", "additionalProperties", "properties", "required"]

theorem not_free {key : String} (hkey : key ∈ innerKeys) :
    key ≠ "nullable" ∧ key ≠ "description" ∧ key ≠ "type" := by
  revert key
  decide

/-- The inner shapes of a shape by the key of their schema, no struct counted. -/
def inner? : Shape → String → Option Shape
  | .array elem, "items" => some elem
  | .map value, "additionalProperties" => some value
  | .optional inner, key => inner? inner key
  | _, _ => none

theorem find?_inner (visiting : List String) {s : Shape} (hs : s.struct? = none) {key : String}
    (hkey : key ∈ innerKeys) :
    Assoc.find? key (ofShape F n visiting s) =
      (inner? s key).map fun inner => .obj (ofShape F n visiting inner) := by
  induction s with
  | struct id => cases hs
  | optional inner ih =>
    rw [ofShape, Assoc.find?_insert_of_ne (not_free hkey).1, ih hs, inner?]
  | integer w signed =>
    simp only [innerKeys, List.mem_cons, List.not_mem_nil, or_false] at hkey
    rcases hkey with rfl | rfl | rfl | rfl <;> cases signed <;>
      simp [ofShape, typed, Assoc.find?_insert, Assoc.find?, inner?]
  | array elem | map value | string | number w | boolean | bytes | enum variants | any | marker =>
    simp only [innerKeys, List.mem_cons, List.not_mem_nil, or_false] at hkey
    rcases hkey with rfl | rfl | rfl | rfl <;>
      simp [ofShape, typed, Assoc.find?_insert, Assoc.find?, inner?]

theorem get?_inner {visiting : List String} {s : Shape} (hs : s.struct? = none) {m : Assoc Json}
    (hm : Agrees m (ofShape F n visiting s)) {key : String} (hkey : key ∈ innerKeys) :
    (Json.obj m).get? key = (inner? s key).map fun inner => .obj (ofShape F n visiting inner) :=
  (hm key (not_free hkey).1 (not_free hkey).2.1).trans (find?_inner visiting hs hkey)

theorem inner?_eq_none {s : Shape} {key : String} (h : key ≠ "items" ∧ key ≠ "additionalProperties") :
    inner? s key = none := by
  induction s with
  | optional inner ih => rw [inner?, ih]
  | _ => simp [inner?, h]

/-- The key that a step looks at. -/
def Hop.key : Hop → String
  | .items => "items"
  | .values => "additionalProperties"
  | .property _ => "properties"

theorem Hop.key_mem (hop : Hop) : hop.key ∈ innerKeys := by
  cases hop <;> simp [Hop.key, innerKeys]

/-- A step to the inner shape goes past no struct. -/
theorem Along.inside {visiting : List String} {s inner : Shape} {hop : Hop} {hops : List Hop}
    {levels : List (Option Level)} (hs : inner? s hop.key = some inner)
    (h : Along F n visiting inner hops levels) : Along F n visiting s (hop :: hops) (none :: levels) := by
  induction s with
  | array elem =>
    cases hop with
    | items =>
      obtain rfl := Option.some.inj hs
      exact .items h
    | values | property => simp [inner?, Hop.key] at hs
  | map value =>
    cases hop with
    | values =>
      obtain rfl := Option.some.inj hs
      exact .values h
    | items | property => simp [inner?, Hop.key] at hs
  | optional inner ih => exact .optional (ih hs)
  | _ => simp [inner?] at hs

theorem Along.of_struct {visiting : List String} {s : Shape} {id : StructId} {hops : List Hop}
    {levels : List (Option Level)} (hs : s.struct? = some id)
    (h : Along F n visiting (.struct id) hops levels) : Along F n visiting s hops levels := by
  induction s with
  | struct i =>
    obtain rfl := Option.some.inj hs
    exact h
  | optional inner ih => exact .optional (ih hs)
  | _ => cases hs

theorem agrees_struct (visiting : List String) {s : Shape} {id : StructId} (hs : s.struct? = some id) :
    Agrees (ofShape F n visiting s) (ofShape F n visiting (.struct id)) := by
  induction s with
  | struct i =>
    obtain rfl := Option.some.inj hs
    exact fun _ _ _ => rfl
  | optional inner ih =>
    intro key hnull hdescription
    rw [ofShape, Assoc.find?_insert_of_ne hnull]
    exact ih hs key hnull hdescription
  | _ => cases hs

theorem follow?_eq_none {node : Json} {hop : Hop} (h : node.get? hop.key = none) (hops : List Hop) :
    follow? (hop :: hops) node = none := by
  cases hop <;>
    · rw [Hop.key] at h
      rw [follow?, Hop.follow?, h]
      rfl

/-- A step below a shape that is no struct leads to the schema of the inner shape. -/
theorem follow?_inner {visiting : List String} {s inner : Shape} {hop : Hop} (hs : s.struct? = none)
    (hinner : inner? s hop.key = some inner) {m : Assoc Json} (hm : Agrees m (ofShape F n visiting s))
    (path : List Hop) :
    follow? (hop :: path) (.obj m) = follow? path (.obj (ofShape F n visiting inner)) := by
  have hchild : (Json.obj m).get? hop.key = some (.obj (ofShape F n visiting inner)) := by
    rw [get?_inner hs hm hop.key_mem, hinner]
    rfl
  cases hop with
  | items | values =>
    rw [Hop.key] at hchild
    rw [follow?, Hop.follow?, hchild]
    rfl
  | property name =>
    rw [Hop.key, inner?_eq_none (by decide)] at hinner
    cases hinner

/-- Below a shape that is no struct every step leads to an inner shape. -/
theorem exists_inner {visiting : List String} {s : Shape} {hop : Hop} {hops : List Hop}
    (hs : s.struct? = none) {m : Assoc Json} (hm : Agrees m (ofShape F n visiting s)) {node : Json}
    (h : follow? (hop :: hops) (.obj m) = some node) :
    ∃ inner, inner? s hop.key = some inner ∧
      follow? hops (.obj (ofShape F n visiting inner)) = some node := by
  cases hinner : inner? s hop.key with
  | some inner => exact ⟨inner, rfl, follow?_inner hs hinner hm hops ▸ h⟩
  | none =>
    have hchild : (Json.obj m).get? hop.key = none := by
      rw [get?_inner hs hm hop.key_mem, hinner]
      rfl
    cases (follow?_eq_none hchild hops).symm.trans h

theorem get?_cut {m : Assoc Json} (hm : Agrees m (typed "object" [])) {key : String}
    (hkey : key ∈ innerKeys) : (Json.obj m).get? key = none := by
  obtain ⟨hnull, hdescription, htype⟩ := not_free hkey
  rw [Json.get?, hm key hnull hdescription, typed, Assoc.find?_insert_of_ne htype]
  rfl

theorem exists_along {hops : List Hop} {visiting : List String} {s : Shape} {m : Assoc Json}
    {node : Json} (hm : Agrees m (ofShape F n visiting s)) (h : follow? hops (.obj m) = some node) :
    ∃ levels, Along F n visiting s hops levels := by
  induction hops generalizing visiting s m with
  | nil =>
    cases hs : s.struct? with
    | none => exact ⟨_, .plain hs⟩
    | some id =>
      by_cases hid : (F.get id).name ∈ visiting
      · exact ⟨_, .of_struct hs (.cut hid)⟩
      · exact ⟨_, .of_struct hs (.here hid)⟩
  | cons hop hops ih =>
    cases hs : s.struct? with
    | none =>
      obtain ⟨inner, hinner, hrest⟩ := exists_inner hs hm h
      obtain ⟨levels, hlevels⟩ := ih (fun _ _ _ => rfl) hrest
      exact ⟨_, hlevels.inside hinner⟩
    | some id =>
      have hid : Agrees m (ofShape F n visiting (.struct id)) := fun key hnull hdescription =>
        (hm key hnull hdescription).trans (agrees_struct visiting hs key hnull hdescription)
      rw [ofShape_struct] at hid
      split at hid
      · rw [follow?_eq_none (get?_cut hid hop.key_mem)] at h
        cases h
      · rename_i hnew
        obtain ⟨f, name, rfl, hlists⟩ := lists_of_hop hid h
        rw [follow?_property _ hlists hid] at h
        obtain ⟨levels, hlevels⟩ := ih (agrees_describe f _) h
        exact ⟨_, .of_struct hs (.property hnew hlists hlevels)⟩

/-! ## The nodes along a path -/

theorem find?_required_object (ps : List Property) :
    Assoc.find? "required" (object ps) =
      if (ps.filter (·.required)).map (·.name) = [] then none
      else some (.strings ((ps.filter (·.required)).map (·.name))) := by
  rw [object, typed, Assoc.find?_insert_of_ne (by decide), Assoc.find?_insert_of_ne (by decide)]
  simp only [List.isEmpty_iff]
  split <;> rfl

theorem mem_required {visiting : List String} {fields : List Field} {name : String} :
    name ∈ ((fields.filterMap (member? F n visiting)).filter (·.required)).map (·.name) ↔
      ∃ f ∈ fields, n.name? f = some name ∧ "required" ∈ f.rules := by
  have hmember (f : Field) (p : Property) : member? F n visiting f = some p ↔
      ∃ other, n.name? f = some other ∧
        ⟨other, describe f (ofShape F n visiting f.shape), f.isRequired⟩ = p :=
    Option.map_eq_some_iff
  simp only [List.mem_map, List.mem_filter, List.mem_filterMap]
  constructor
  · rintro ⟨p, ⟨⟨f, hf, hp⟩, hrequired⟩, rfl⟩
    obtain ⟨other, hother, rfl⟩ := (hmember f p).1 hp
    exact ⟨f, hf, hother, List.contains_iff_mem.1 hrequired⟩
  · rintro ⟨f, hf, hname, hrule⟩
    exact ⟨_, ⟨⟨f, hf, (hmember f _).2 ⟨name, hname, rfl⟩⟩, List.contains_iff_mem.2 hrule⟩, rfl⟩

theorem Level.writtenAt {l : Level} {visiting : List String} {m : Assoc Json}
    (hm : Agrees m (object (l.fields.filterMap (member? F n visiting)))) : l.WrittenAt n (.obj m) where
  object := (hm "type" (by decide) (by decide)).trans (find?_type_object _)
  members := by
    refine ⟨_, _, (hm "properties" (by decide) (by decide)).trans (find?_object_properties _),
      (hm "required" (by decide) (by decide)).trans (find?_required_object _),
      (Assoc.sorted_ofList _).nodup_keys, fun name => ?_, fun name => ?_⟩
    · rw [Assoc.mem_keys_iff, Assoc.exists_find?_ofList, keys_members, List.mem_filterMap]
      simp only [Level.shows_iff]
    · rw [mem_required]
      simp only [Level.shows_iff, and_assoc]

/-- The nodes along a path exist, and are what stands there. -/
structure Nodes (n : Naming) (doc : Json) (hops : List Hop) (levels : List (Option Level)) : Prop where
  length : levels.length = hops.length + 1
  node : ∀ (i : Nat) (level : Option Level), levels[i]? = some level →
    ∃ node, follow? (hops.take i) doc = some node ∧ Tells n level node

theorem Nodes.nil {doc : Json} {level : Option Level} (h : Tells n level doc) :
    Nodes n doc [] [level] where
  length := rfl
  node i l hl := by
    obtain rfl := List.mem_singleton.1 (List.mem_of_getElem? hl)
    exact ⟨doc, by rw [List.take_nil, follow?], h⟩

theorem Nodes.cons {doc child : Json} {hop : Hop} {hops : List Hop} {level : Option Level}
    {levels : List (Option Level)} (hfirst : Tells n level doc)
    (hchild : ∀ path, follow? (hop :: path) doc = follow? path child)
    (hrest : Nodes n child hops levels) : Nodes n doc (hop :: hops) (level :: levels) where
  length := congrArg (· + 1) hrest.length
  node i l hl := by
    cases i with
    | zero =>
      obtain rfl := Option.some.inj hl
      exact ⟨doc, rfl, hfirst⟩
    | succ i =>
      rw [List.take_succ_cons, hchild]
      exact hrest.node i l hl

theorem tells_none {visiting : List String} {s : Shape} (hs : s.struct? = none) {m : Assoc Json}
    (hm : Agrees m (ofShape F n visiting s)) : Tells n none (.obj m) := by
  have hinner (key : String) (hkey : key ∈ innerKeys)
      (hneither : key ≠ "items" ∧ key ≠ "additionalProperties") : (Json.obj m).get? key = none := by
    rw [get?_inner hs hm hkey, inner?_eq_none hneither]
    rfl
  exact ⟨hinner "properties" (by decide) (by decide), hinner "required" (by decide) (by decide)⟩

theorem agrees_optional {visiting : List String} {inner : Shape} {m : Assoc Json}
    (hm : Agrees m (ofShape F n visiting (.optional inner))) :
    Agrees m (ofShape F n visiting inner) := by
  intro key hnull hdescription
  rw [hm key hnull hdescription, ofShape, Assoc.find?_insert_of_ne hnull]

theorem Along.nodes {visiting : List String} {s : Shape} {hops : List Hop}
    {levels : List (Option Level)} (h : Along F n visiting s hops levels) {m : Assoc Json}
    (hm : Agrees m (ofShape F n visiting s)) : Nodes n (.obj m) hops levels := by
  induction h generalizing m with
  | optional _ ih => exact ih (agrees_optional hm)
  | plain leaf => exact .nil (tells_none leaf hm)
  | items _ ih | values _ ih =>
    exact .cons (tells_none rfl hm) (follow?_inner rfl rfl hm) (ih fun _ _ _ => rfl)
  | cut again =>
    rw [ofShape_struct, if_pos again] at hm
    exact .nil ⟨get?_cut hm (by decide), get?_cut hm (by decide)⟩
  | here new =>
    rw [ofShape_struct, if_neg new, ← Level.fields_whole] at hm
    exact .nil (Level.writtenAt hm)
  | @property visiting id f name hops levels new lists _ ih =>
    rw [ofShape_struct, if_neg new] at hm
    refine .cons (Level.writtenAt (by rwa [Level.fields_whole])) (follow?_property _ lists hm)
      (ih (agrees_describe f _))

end

/-! ## Whole schemas -/

/-- What a schema is made for: a request, a response, or a struct of which some fields are left out. -/
inductive Start
  | request (s : Shape)
  | response (s : Shape)
  | struct (n : Naming) (st : Struct) (exclude : Field → Bool)

namespace Start

def naming : Start → Naming
  | request _ => .bound
  | response _ => .serialised
  | struct n _ _ => n

def schema (F : Family) : Start → Json
  | request s => Schema.request F s
  | response s => Schema.response F s
  | struct n st exclude => .obj (object ((Level.fields ⟨st, exclude⟩).filterMap (member? F n [st.name])))

/-- The fields that are left out of the struct at a node, by the number of steps down to it. -/
def excluded : Start → Nat → Field → Bool
  | struct _ _ exclude, 0 => exclude
  | _, _ => fun _ => false

/-- What stands at the nodes along a path of the schema. -/
inductive Along (F : Family) : Start → List Hop → List (Option Level) → Prop
  | request {s : Shape} {hops : List Hop} {levels : List (Option Level)}
      (rest : Schema.Along F .bound [] s hops levels) : Along F (.request s) hops levels
  | response {s : Shape} {hops : List Hop} {levels : List (Option Level)}
      (rest : Schema.Along F .serialised [] s hops levels) : Along F (.response s) hops levels
  | root {n : Naming} {st : Struct} {exclude : Field → Bool} :
      Along F (.struct n st exclude) [] [some ⟨st, exclude⟩]
  | inside {n : Naming} {st : Struct} {exclude : Field → Bool} {f : Field} {name : String}
      {hops : List Hop} {levels : List (Option Level)} (lists : Lists n (Level.fields ⟨st, exclude⟩) f name)
      (rest : Schema.Along F n [st.name] f.shape hops levels) :
      Along F (.struct n st exclude) (.property name :: hops) (some ⟨st, exclude⟩ :: levels)

theorem schema_bound (F : Family) (st : Struct) (exclude : Field → Bool) :
    (struct .bound st exclude).schema F = .obj (ofStruct F st exclude) :=
  rfl

variable {F : Family} {start : Start} {hops : List Hop}

theorem exists_along {node : Json} (h : follow? hops (start.schema F) = some node) :
    ∃ levels, start.Along F hops levels := by
  cases start with
  | request s =>
    obtain ⟨levels, hlevels⟩ := Schema.exists_along (fun _ _ _ => rfl) h
    exact ⟨levels, .request hlevels⟩
  | response s =>
    obtain ⟨levels, hlevels⟩ := Schema.exists_along (fun _ _ _ => rfl) h
    exact ⟨levels, .response hlevels⟩
  | struct n st exclude =>
    cases hops with
    | nil => exact ⟨_, .root⟩
    | cons hop hops =>
      obtain ⟨f, name, rfl, hlists⟩ := lists_of_hop (fun _ _ _ => rfl) h
      rw [schema, follow?_property _ hlists fun _ _ _ => rfl] at h
      obtain ⟨levels, hlevels⟩ := Schema.exists_along (agrees_describe f _) h
      exact ⟨_, .inside hlists hlevels⟩

theorem Along.nodes {levels : List (Option Level)} (h : start.Along F hops levels) :
    Nodes start.naming (start.schema F) hops levels := by
  cases h with
  | request rest => exact rest.nodes fun _ _ _ => rfl
  | response rest => exact rest.nodes fun _ _ _ => rfl
  | root => exact .nil (Level.writtenAt fun _ _ _ => rfl)
  | @inside n st exclude f name hops levels lists rest =>
    exact .cons (Level.writtenAt fun _ _ _ => rfl)
      (fun path => follow?_property _ lists (fun _ _ _ => rfl) path) (rest.nodes (agrees_describe f _))

theorem Along.opened {levels : List (Option Level)} (h : start.Along F hops levels) :
    (openedNames levels).Nodup := by
  cases h with
  | request rest => exact rest.opened.1
  | response rest => exact rest.opened.1
  | root => simp [openedNames]
  | @inside n st exclude f name hops levels lists rest =>
    obtain ⟨hnodup, hnew⟩ := rest.opened
    exact List.nodup_cons.2 ⟨fun hmem => hnew _ hmem (.head _), hnodup⟩

theorem Along.excluded {levels : List (Option Level)} (h : start.Along F hops levels) {i : Nat}
    {level : Level} (hi : levels[i]? = some (some level)) : level.exclude = start.excluded i := by
  cases h with
  | request rest => exact rest.whole (List.mem_of_getElem? hi)
  | response rest => exact rest.whole (List.mem_of_getElem? hi)
  | root =>
    cases i with
    | zero =>
      obtain rfl := Option.some.inj (Option.some.inj hi)
      rfl
    | succ i => cases hi
  | inside _ rest =>
    cases i with
    | zero =>
      obtain rfl := Option.some.inj (Option.some.inj hi)
      rfl
    | succ i => exact rest.whole (List.mem_of_getElem? hi)

end Start

/-- **Schemas are well formed.** At each node of a schema a struct is written out, or nothing is said of
properties. Where a struct is written out, the properties have just the names of its data fields that are
shown under the naming, and the required ones are those of fields with the rule. Fields are left out of
the outermost struct only. -/
theorem object_levels {F : Family} {start : Start} {hops : List Hop} {node : Json}
    (h : follow? hops (start.schema F) = some node) :
    ∃ levels, start.Along F hops levels ∧ Nodes start.naming (start.schema F) hops levels ∧
      ∀ (i : Nat) (level : Level), levels[i]? = some (some level) → level.exclude = start.excluded i := by
  obtain ⟨levels, hlevels⟩ := Start.exists_along h
  exact ⟨levels, hlevels, hlevels.nodes, fun i level => hlevels.excluded⟩

/-- A field that only the path gives is left out of the body itself, and listed in a struct inside. -/
theorem path_field_inside :
    let id : Field := ⟨"id", "id", "uri:\"id\"", "", false, .string⟩
    let root : Field := ⟨"root", "root", "", "", false, .struct 1⟩
    let children : Field := ⟨"children", "children", "", "", false, .array (.struct 1)⟩
    let F : Family := ⟨[⟨"Tree", [id, root]⟩, ⟨"Node", [id, children]⟩]⟩
    let start := Start.struct .bound (F.get 0) Field.isPathOnly
    ∃ node, follow? [.property "root"] (start.schema F) = some node ∧
      (Level.mk (F.get 0) Field.isPathOnly).WrittenAt .bound (start.schema F) ∧
      (Level.whole (F.get 1)).WrittenAt .bound node ∧
      (∀ f, ¬ (Level.mk (F.get 0) Field.isPathOnly).Shows .bound f "id") ∧
      (Level.whole (F.get 1)).Shows .bound id "id" := by
  intro id root children F start
  have hroot : Lists .bound (Level.fields ⟨F.get 0, Field.isPathOnly⟩) root "root" :=
    ⟨by decide +kernel, [], [], by decide +kernel, nofun⟩
  have hnode : follow? [.property "root"] (start.schema F) =
      some (.obj (describe root (ofShape F .bound ["Tree"] root.shape))) :=
    follow?_property ["Tree"] hroot (fun _ _ _ => rfl) []
  obtain ⟨levels, halong, hnodes, _⟩ := object_levels hnode
  have hfields : (Level.mk (F.get 0) Field.isPathOnly).fields = [root] := by decide +kernel
  have hlevels : levels = [some ⟨F.get 0, Field.isPathOnly⟩, some (.whole (F.get 1))] := by
    have halong : Start.Along F (.struct .bound (F.get 0) Field.isPathOnly) [.property "root"] levels :=
      halong
    cases halong with
    | @inside _ _ _ f _ _ levels lists rest =>
      obtain rfl := List.mem_singleton.1 (hfields ▸ lists.mem)
      have rest : Along F .bound ["Tree"] (.struct 1) [] levels := rest
      cases rest with
      | plain leaf => cases leaf
      | cut again => exact absurd again (by decide)
      | here _ => rfl
  subst hlevels
  obtain ⟨_, hdoc, houter⟩ := hnodes.node 0 _ rfl
  obtain rfl := Option.some.inj hdoc
  obtain ⟨node, hfollow, hinner⟩ := hnodes.node 1 _ rfl
  refine ⟨node, hfollow, houter, hinner, fun f hf => ?_, Level.shows_iff.2 ⟨?_, by decide +kernel⟩⟩
  · obtain ⟨hmem, hname⟩ := Level.shows_iff.1 hf
    obtain rfl := List.mem_singleton.1 (hfields ▸ hmem)
    exact absurd hname (by decide +kernel)
  · rw [Level.fields_whole]
    decide +kernel

end HttpService.Schema
