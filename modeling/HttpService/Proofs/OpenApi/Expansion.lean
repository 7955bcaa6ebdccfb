import HttpService.Proofs.OpenApi.Listing

/-!
# Where schemas stop

A schema writes out the fields of a struct wherever the struct stands, unless the struct is being written
out around that place: there it is a plain object, so that the schema of a recursive struct ends. The
structs around a place are known by their names alone. `cut_off_only_if_recursive`: where the structs on
the way to a place have names of their own, a struct is cut off there just if it is one of those around
it. Another struct of the same name is cut off as well (`namesake_cut_off`).

`Stands F n hops s on id`: in the schema of the shape `s`, the struct `id` is found by `hops`, inside the
structs `on`. The node there is the schema of the struct inside the names of `on` (`exists_node`).
-/

set_option autoImplicit false

namespace HttpService

/-! ## Recursive structs -/

/-- A struct is part of a shape. -/
inductive Shape.Holds (F : Family) : Shape → StructId → Prop
  | here {id : StructId} : Holds F (.struct id) id
  | optional {inner : Shape} {id : StructId} (rest : Holds F inner id) : Holds F (.optional inner) id
  | array {elem : Shape} {id : StructId} (rest : Holds F elem id) : Holds F (.array elem) id
  | map {value : Shape} {id : StructId} (rest : Holds F value id) : Holds F (.map value) id
  | field {st id : StructId} {f : Field} (mem : f ∈ (F.get st).dataFields)
      (rest : Holds F f.shape id) : Holds F (.struct st) id

/-- A struct that contains itself. -/
def Family.Recursive (F : Family) (id : StructId) : Prop :=
  ∃ f ∈ (F.get id).dataFields, f.shape.Holds F id

namespace Schema

/-! ## Places in a schema -/

/-- A step down in a schema. -/
inductive Hop
  | items
  | values
  | property (name : String)

def Hop.follow? : Hop → Json → Option Json
  | .items, node => node.get? "items"
  | .values, node => node.get? "additionalProperties"
  | .property name, node => (node.get? "properties").bind (Json.get? name)

def follow? : List Hop → Json → Option Json
  | [], node => some node
  | hop :: hops, node => (hop.follow? node).bind (follow? hops)

/-- A field has a property of its own: no later one has its name. -/
structure Lists (n : Naming) (fields : List Field) (f : Field) (name : String) : Prop where
  named : n.name? f = some name
  last : ∃ before after, fields = before ++ f :: after ∧ ∀ g ∈ after, n.name? g ≠ some name

theorem Lists.mem {n : Naming} {fields : List Field} {f : Field} {name : String}
    (h : Lists n fields f name) : f ∈ fields := by
  obtain ⟨before, after, rfl, _⟩ := h.last
  simp

/-- A struct stands at a place in the schema of a shape, inside other structs, outermost first. -/
inductive Stands (F : Family) (n : Naming) : List Hop → Shape → List StructId → StructId → Prop
  | here {id : StructId} : Stands F n [] (.struct id) [] id
  | optional {hops : List Hop} {inner : Shape} {on : List StructId} {id : StructId}
      (rest : Stands F n hops inner on id) : Stands F n hops (.optional inner) on id
  | array {hops : List Hop} {elem : Shape} {on : List StructId} {id : StructId}
      (rest : Stands F n hops elem on id) : Stands F n (.items :: hops) (.array elem) on id
  | map {hops : List Hop} {value : Shape} {on : List StructId} {id : StructId}
      (rest : Stands F n hops value on id) : Stands F n (.values :: hops) (.map value) on id
  | field {hops : List Hop} {st : StructId} {f : Field} {name : String} {on : List StructId}
      {id : StructId} (lists : Lists n (F.get st).dataFields f name)
      (rest : Stands F n hops f.shape on id) :
      Stands F n (.property name :: hops) (.struct st) (st :: on) id

/-- The node of a struct that is cut off: an object of which nothing is said but whether it may be null,
and its description. -/
def Bare (node : Json) : Prop :=
  ∀ key, key ≠ "nullable" → key ≠ "description" →
    node.get? key = if key = "type" then some (.str "object") else none

/-- The node of a struct that is written out: an object with a property for each name of a field. -/
def Expanded (n : Naming) (fields : List Field) (node : Json) : Prop :=
  node.get? "type" = some (.str "object") ∧
    ∃ properties, node.get? "properties" = some (.obj properties) ∧
      ∀ name, (∃ schema, Assoc.find? name properties = some schema) ↔
        ∃ f ∈ fields, n.name? f = some name

/-- The struct places of a document: of the schema of a request or a response, and of a struct with some
of its fields left out. -/
inductive Place (F : Family) : Json → Naming → List Hop → List StructId → StructId → List Field → Prop
  | request {s : Shape} {hops : List Hop} {on : List StructId} {id : StructId}
      (stands : Stands F .bound hops s on id) :
      Place F (request F s) .bound hops on id (F.get id).dataFields
  | response {s : Shape} {hops : List Hop} {on : List StructId} {id : StructId}
      (stands : Stands F .serialised hops s on id) :
      Place F (response F s) .serialised hops on id (F.get id).dataFields
  | root {id : StructId} {exclude : Field → Bool} :
      Place F (.obj (ofStruct F (F.get id) exclude)) .bound [] [] id
        ((F.get id).dataFields.filter (!exclude ·))
  | inside {root : StructId} {exclude : Field → Bool} {f : Field} {name : String} {hops : List Hop}
      {on : List StructId} {id : StructId}
      (lists : Lists .bound ((F.get root).dataFields.filter (!exclude ·)) f name)
      (stands : Stands F .bound hops f.shape on id) :
      Place F (.obj (ofStruct F (F.get root) exclude)) .bound (.property name :: hops) (root :: on) id
        (F.get id).dataFields

/-! ## The node at a place -/

section
variable {F : Family} {n : Naming}

theorem ofShape_struct (visiting : List String) (id : StructId) :
    ofShape F n visiting (.struct id) =
      if (F.get id).name ∈ visiting then typed "object" []
      else object ((F.get id).dataFields.filterMap (member? F n ((F.get id).name :: visiting))) := by
  rw [ofShape]
  dsimp only
  split
  · rfl
  · congr 1
    show (F.get id).dataFields.attach.filterMap
      (member? F n ((F.get id).name :: visiting) ∘ Subtype.val) = _
    rw [← List.filterMap_map, List.attach_map_subtype_val]

theorem ofStruct_eq (st : Struct) (exclude : Field → Bool) :
    ofStruct F st exclude =
      object ((st.dataFields.filter (!exclude ·)).filterMap (member? F .bound [st.name])) :=
  rfl

/-- Two nodes agree in all but whether they may be null and their descriptions. -/
def Agrees (m m' : Assoc Json) : Prop :=
  ∀ key, key ≠ "nullable" → key ≠ "description" → Assoc.find? key m = Assoc.find? key m'

theorem agrees_describe (f : Field) (m : Assoc Json) : Agrees (describe f m) m := by
  intro key _ hdescription
  unfold describe
  split
  · exact Assoc.find?_insert_of_ne hdescription _ _
  · rfl

theorem find?_type_object (ps : List Property) :
    Assoc.find? "type" (object ps) = some (.str "object") := by
  rw [object, typed, Assoc.find?_insert_self]

/-- The schema of an object leads to the schema of each field that it lists. -/
theorem follow?_property (visiting : List String) {fields : List Field} {f : Field} {name : String}
    {m : Assoc Json} (hlists : Lists n fields f name)
    (hm : Agrees m (object (fields.filterMap (member? F n visiting)))) (hops : List Hop) :
    follow? (.property name :: hops) (.obj m) =
      follow? hops (.obj (describe f (ofShape F n visiting f.shape))) := by
  obtain ⟨before, after, rfl, hafter⟩ := hlists.last
  have hproperties := (hm "properties" (by decide) (by decide)).trans (find?_object_properties _)
  have hmember : member? F n visiting f =
      some ⟨name, describe f (ofShape F n visiting f.shape), f.isRequired⟩ := by
    rw [member?, hlists.named]
    rfl
  have hlast : name ∉ ((after.filterMap (member? F n visiting)).map
      fun p => (p.name, Json.obj p.schema)).map (·.1) := by
    rw [keys_members, List.mem_filterMap]
    rintro ⟨g, hg, hname⟩
    exact hafter g hg hname
  rw [List.filterMap_append, List.filterMap_cons, hmember, List.map_append, List.map_cons] at hproperties
  show (((Json.obj m).get? "properties").bind (Json.get? name)).bind (follow? hops) = _
  rw [Json.get?, hproperties, Option.bind_some, Json.get?, Assoc.find?_ofList_append hlast]
  rfl

theorem expanded_object {visiting : List String} {fields : List Field} {m : Assoc Json}
    (hm : Agrees m (object (fields.filterMap (member? F n visiting)))) :
    Expanded n fields (.obj m) := by
  refine ⟨(hm "type" (by decide) (by decide)).trans (find?_type_object _), _,
    (hm "properties" (by decide) (by decide)).trans (find?_object_properties _), fun name => ?_⟩
  rw [Assoc.exists_find?_ofList, keys_members, List.mem_filterMap]

/-- The names of structs. -/
def names (F : Family) (ids : List StructId) : List String :=
  ids.map fun id => (F.get id).name

/-- Where no struct on the way has a name that is being written out around it, the place has a node: the
schema of the struct inside all those names. -/
theorem exists_node {hops : List Hop} {s : Shape} {on : List StructId} {id : StructId}
    (h : Stands F n hops s on id) (visiting : List String) (hdistinct : (names F on).Nodup)
    (hopen : ∀ name ∈ names F on, name ∉ visiting) {m : Assoc Json}
    (hm : Agrees m (ofShape F n visiting s)) :
    ∃ node, follow? hops (.obj m) = some (.obj node) ∧
      Agrees node (ofShape F n ((names F on).reverse ++ visiting) (.struct id)) := by
  induction h generalizing visiting m with
  | here => exact ⟨m, rfl, hm⟩
  | optional _ ih =>
    refine ih visiting hdistinct hopen fun key hnull hdescription => ?_
    rw [hm key hnull hdescription, ofShape, Assoc.find?_insert_of_ne hnull]
  | array _ ih =>
    rw [ofShape] at hm
    have hitems := (hm "items" (by decide) (by decide)).trans
      (Assoc.find?_insert_of_ne (by decide) _ _)
    rw [follow?, Hop.follow?, Json.get?, hitems]
    exact ih visiting hdistinct hopen fun _ _ _ => rfl
  | map _ ih =>
    rw [ofShape] at hm
    have hvalues := (hm "additionalProperties" (by decide) (by decide)).trans
      (Assoc.find?_insert_of_ne (by decide) _ _)
    rw [follow?, Hop.follow?, Json.get?, hvalues]
    exact ih visiting hdistinct hopen fun _ _ _ => rfl
  | @field hops st f name on id lists _ ih =>
    have hnot : (F.get st).name ∉ visiting := hopen _ (.head _)
    obtain ⟨hfresh, hrest⟩ := List.nodup_cons.1 hdistinct
    rw [ofShape_struct, if_neg hnot] at hm
    have hopen' : ∀ other ∈ names F on, other ∉ (F.get st).name :: visiting := by
      intro other hother hmem
      rcases List.mem_cons.1 hmem with rfl | hmem
      · exact hfresh hother
      · exact hopen other (.tail _ hother) hmem
    obtain ⟨node, hnode, hagrees⟩ := ih _ hrest hopen' (agrees_describe f _)
    refine ⟨node, (follow?_property _ lists hm hops).trans hnode, ?_⟩
    have hnames : (names F (st :: on)).reverse ++ visiting =
        (names F on).reverse ++ (F.get st).name :: visiting := by
      rw [names, List.map_cons, List.reverse_cons, List.append_assoc]
      rfl
    rw [hnames]
    exact hagrees

/-- The node of a struct inside the names `visiting`. -/
theorem judged {node : Assoc Json} {visiting : List String} {id : StructId}
    (h : Agrees node (ofShape F n visiting (.struct id))) :
    ((F.get id).name ∈ visiting → Bare (.obj node)) ∧
      ((F.get id).name ∉ visiting → Expanded n (F.get id).dataFields (.obj node)) := by
  rw [ofShape_struct] at h
  refine ⟨fun hcut key hnull hdescription => ?_, fun hnew => ?_⟩
  · rw [if_pos hcut] at h
    rw [Json.get?, h key hnull hdescription, typed, Assoc.find?_insert]
    rfl
  · rw [if_neg hnew] at h
    exact expanded_object h

/-- A struct is cut off where its name is the name of a struct around it. -/
theorem node_of_place {doc : Json} {hops : List Hop} {on : List StructId} {id : StructId}
    {fields : List Field} (h : Place F doc n hops on id fields) (hdistinct : (names F on).Nodup) :
    ∃ node, follow? hops doc = some node ∧ ((F.get id).name ∈ names F on → Bare node) ∧
      ((F.get id).name ∉ names F on → Expanded n fields node) := by
  cases h with
  | request stands =>
    obtain ⟨node, hnode, hagrees⟩ := exists_node stands [] hdistinct nofun fun _ _ _ => rfl
    rw [List.append_nil] at hagrees
    exact ⟨_, hnode, by simpa using judged hagrees⟩
  | response stands =>
    obtain ⟨node, hnode, hagrees⟩ := exists_node stands [] hdistinct nofun fun _ _ _ => rfl
    rw [List.append_nil] at hagrees
    exact ⟨_, hnode, by simpa using judged hagrees⟩
  | root =>
    refine ⟨_, rfl, nofun, fun _ => ?_⟩
    exact expanded_object fun key _ _ => congrArg (Assoc.find? key) (ofStruct_eq _ _)
  | @inside root exclude f name hops on id lists stands =>
    obtain ⟨hfresh, hrest⟩ := List.nodup_cons.1 hdistinct
    have hopen : ∀ other ∈ names F on, other ∉ [(F.get root).name] := by
      intro other hother hmem
      obtain rfl := List.mem_singleton.1 hmem
      exact hfresh hother
    obtain ⟨node, hnode, hagrees⟩ := exists_node stands _ hrest hopen (agrees_describe f _)
    have hfollow := follow?_property [(F.get root).name] lists
      (fun key _ _ => congrArg (Assoc.find? key) (ofStruct_eq (F := F) _ _)) hops
    refine ⟨_, hfollow.trans hnode, ?_⟩
    have hmem : (F.get id).name ∈ (names F on).reverse ++ [(F.get root).name] ↔
        (F.get id).name ∈ names F (root :: on) := by
      simp [names, or_comm]
    rw [← hmem]
    exact judged hagrees

/-! ## What is around a place -/

theorem holds_of_stands {hops : List Hop} {s : Shape} {on : List StructId} {id : StructId}
    (h : Stands F n hops s on id) : ∀ i ∈ id :: on, s.Holds F i := by
  induction h with
  | here =>
    intro i hi
    obtain rfl := List.mem_singleton.1 hi
    exact .here
  | optional _ ih => exact fun i hi => .optional (ih i hi)
  | array _ ih => exact fun i hi => .array (ih i hi)
  | map _ ih => exact fun i hi => .map (ih i hi)
  | @field hops st f name on id lists _ ih =>
    intro i hi
    rcases List.mem_cons.1 hi with rfl | hi
    · exact .field lists.mem (ih i (.head _))
    · rcases List.mem_cons.1 hi with rfl | hi
      · exact .here
      · exact .field lists.mem (ih i (.tail _ hi))

/-- A struct that does not contain itself is new inside its fields. -/
theorem not_mem_cons {st : StructId} {f : Field} {hops : List Hop} {on : List StructId} {id : StructId}
    (hf : f ∈ (F.get st).dataFields) (h : Stands F n hops f.shape on id) (hst : ¬ F.Recursive st)
    (hinner : on.Nodup ∧ id ∉ on) : (st :: on).Nodup ∧ id ∉ st :: on := by
  have hnew : ∀ i ∈ id :: on, st ≠ i := by
    rintro i hi rfl
    exact hst ⟨f, hf, holds_of_stands h st hi⟩
  refine ⟨List.nodup_cons.2 ⟨fun hst => hnew st (.tail _ hst) rfl, hinner.1⟩, fun hid => ?_⟩
  rcases List.mem_cons.1 hid with rfl | hid
  · exact hnew id (.head _) rfl
  · exact hinner.2 hid

theorem not_mem_of_stands {hops : List Hop} {s : Shape} {on : List StructId} {id : StructId}
    (h : Stands F n hops s on id) (hnone : ∀ i ∈ on, ¬ F.Recursive i) : on.Nodup ∧ id ∉ on := by
  induction h with
  | here => exact ⟨.nil, nofun⟩
  | optional _ ih => exact ih hnone
  | array _ ih => exact ih hnone
  | map _ ih => exact ih hnone
  | field lists rest ih =>
    exact not_mem_cons lists.mem rest (hnone _ (.head _)) (ih fun i hi => hnone i (.tail _ hi))

theorem not_mem_of_place {doc : Json} {hops : List Hop} {on : List StructId} {id : StructId}
    {fields : List Field} (h : Place F doc n hops on id fields) (hnone : ∀ i ∈ on, ¬ F.Recursive i) :
    on.Nodup ∧ id ∉ on := by
  cases h with
  | request stands => exact not_mem_of_stands stands hnone
  | response stands => exact not_mem_of_stands stands hnone
  | root => exact ⟨.nil, nofun⟩
  | inside lists stands =>
    exact not_mem_cons (List.mem_filter.1 lists.mem).1 stands (hnone _ (.head _))
      (not_mem_of_stands stands fun i hi => hnone i (.tail _ hi))

/-- No two of the structs have the same name. -/
def OwnNames (F : Family) (ids : List StructId) : Prop :=
  ∀ i ∈ ids, ∀ j ∈ ids, (F.get i).name = (F.get j).name → i = j

theorem OwnNames.mem_names_iff {on : List StructId} {id : StructId} (h : OwnNames F (id :: on)) :
    (F.get id).name ∈ names F on ↔ id ∈ on := by
  constructor
  · intro hmem
    obtain ⟨i, hi, hname⟩ := List.mem_map.1 hmem
    exact h i (.tail _ hi) id (.head _) hname ▸ hi
  · exact fun hmem => List.mem_map_of_mem hmem

theorem OwnNames.nodup_names {on : List StructId} {id : StructId} (h : OwnNames F (id :: on))
    (hnd : on.Nodup) : (names F on).Nodup := by
  refine List.pairwise_map.2 (hnd.imp_of_mem fun hi hj hne hname => hne ?_)
  exact h _ (.tail _ hi) _ (.tail _ hj) hname

end

/-- **Cut-off structs.** At each struct place of a schema where the struct and those on the way to it have
names of their own:

* if no struct is on the way twice, the place has a node, which is cut off if the struct is on the way to
  it, and else has a property for each of its names;
* if no struct on the way contains itself, the place has a node with a property for each name. -/
theorem cut_off_only_if_recursive {F : Family} {doc : Json} {n : Naming} {hops : List Hop}
    {on : List StructId} {id : StructId} {fields : List Field} (h : Place F doc n hops on id fields)
    (hnames : OwnNames F (id :: on)) :
    (on.Nodup → ∃ node, follow? hops doc = some node ∧ (id ∈ on → Bare node) ∧
      (id ∉ on → Expanded n fields node)) ∧
    ((∀ i ∈ on, ¬ F.Recursive i) → ∃ node, follow? hops doc = some node ∧ Expanded n fields node) := by
  have hnode (hnd : on.Nodup) : ∃ node, follow? hops doc = some node ∧ (id ∈ on → Bare node) ∧
      (id ∉ on → Expanded n fields node) := by
    obtain ⟨node, hfollow, hbare, hexpanded⟩ := node_of_place h (hnames.nodup_names hnd)
    rw [hnames.mem_names_iff] at hbare hexpanded
    exact ⟨node, hfollow, hbare, hexpanded⟩
  refine ⟨hnode, fun hnone => ?_⟩
  obtain ⟨hnd, hnew⟩ := not_mem_of_place h hnone
  obtain ⟨node, hfollow, _, hexpanded⟩ := hnode hnd
  exact ⟨node, hfollow, hexpanded hnew⟩

/-- The nodes of a tree are written out once, and cut off inside themselves. -/
theorem nodes_of_tree :
    let root : Field := ⟨"root", "root", "", "", false, .struct 1⟩
    let children : Field := ⟨"children", "children", "", "", false, .array (.struct 1)⟩
    let F : Family := ⟨[⟨"Tree", [root]⟩, ⟨"Node", [children]⟩]⟩
    let doc := request F (.struct 0)
    Place F doc .bound [.property "root", .property "children", .items] [0, 1] 1 [children] ∧
      OwnNames F [1, 0, 1] ∧ [0, 1].Nodup ∧
      ∃ node, follow? [.property "root", .property "children", .items] doc = some node ∧ Bare node := by
  intro root children F doc
  have hroot : Lists .bound (F.get 0).dataFields root "root" :=
    ⟨by decide +kernel, [], [], rfl, nofun⟩
  have hchildren : Lists .bound (F.get 1).dataFields children "children" :=
    ⟨by decide +kernel, [], [], rfl, nofun⟩
  have hplace : Place F doc .bound [.property "root", .property "children", .items] [0, 1] 1 [children] :=
    .request (.field hroot (.field hchildren (.array .here)))
  have hnames : OwnNames F [1, 0, 1] := by
    unfold OwnNames
    decide
  have hnd : [0, 1].Nodup := by decide
  obtain ⟨node, hnode, hbare, _⟩ := (cut_off_only_if_recursive hplace hnames).1 hnd
  exact ⟨hplace, hnames, hnd, node, hnode, hbare (by decide)⟩

/-- A struct inside another one of its name is cut off, though neither of them contains itself. -/
theorem namesake_cut_off :
    let inner : Field := ⟨"inner", "inner", "", "", false, .struct 1⟩
    let a : Field := ⟨"a", "a", "", "", false, .string⟩
    let F : Family := ⟨[⟨"Page", [inner]⟩, ⟨"Page", [a]⟩]⟩
    let doc := request F (.struct 0)
    Place F doc .bound [.property "inner"] [0] 1 [a] ∧ (∀ i, ¬ F.Recursive i) ∧
      ∃ node, follow? [.property "inner"] doc = some node ∧ Bare node ∧ ¬ Expanded .bound [a] node := by
  intro inner a F doc
  have hinner : Lists .bound (F.get 0).dataFields inner "inner" :=
    ⟨by decide +kernel, [], [], rfl, nofun⟩
  have hplace : Place F doc .bound [.property "inner"] [0] 1 [a] := .request (.field hinner .here)
  have hnone : ∀ i, ¬ F.Recursive i := by
    rintro (_ | _ | i) ⟨f, hf, hholds⟩
    · obtain rfl := List.mem_singleton.1 (show f ∈ [inner] from hf)
      cases hholds with
      | field mem rest =>
        obtain rfl := List.mem_singleton.1 (show _ ∈ [a] from mem)
        cases rest
    · obtain rfl := List.mem_singleton.1 (show f ∈ [a] from hf)
      cases hholds
    · cases hf
  obtain ⟨node, hnode, hbare, _⟩ := node_of_place hplace (by decide)
  refine ⟨hplace, hnone, node, hnode, hbare (by decide), fun hexpanded => ?_⟩
  obtain ⟨_, properties, hproperties, _⟩ := hexpanded
  have hbare := hbare (by decide) "properties" (by decide) (by decide)
  cases hbare.symm.trans hproperties

end Schema

end HttpService
