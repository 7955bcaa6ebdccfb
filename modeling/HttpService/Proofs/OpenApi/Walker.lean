import HttpService.OpenApi.Walker
import HttpService.Proofs.OpenApi.Levels

/-!
# Schema walks end

A walk over structs that refer to each other unfolds shapes without end, but each struct that is written out
puts its name on the stack, and no name is put there twice. The calls that are open inside each other are thus
bounded by the layers of the shape, and the layers of a field for each struct whose name is not on the stack
(`Walk.shape_run`).

`walk_ends`: with that many calls a walk makes the schema of the shape and leaves the stack as it was. So no
field of a struct changes what its siblings are walked with.
-/

set_option autoImplicit false

namespace HttpService

/-! ## Layers -/

/-- How many shapes stand inside each other, the fields of structs not counted. -/
def Shape.layers : Shape → Nat
  | .array elem => elem.layers + 1
  | .map value => value.layers + 1
  | .optional inner => inner.layers + 1
  | _ => 1

/-- The most layers of a field. -/
def Struct.layers (st : Struct) : Nat :=
  (st.dataFields.map (·.shape.layers)).max?.getD 0

def Family.layers (F : Family) : Nat :=
  (F.structs.map Struct.layers).max?.getD 0

theorem Struct.layers_le {st : Struct} {f : Field} (hf : f ∈ st.dataFields) :
    f.shape.layers ≤ st.layers :=
  List.le_max?_getD_of_mem (List.mem_map_of_mem hf)

theorem Family.layers_le {F : Family} {st : Struct} (hst : st ∈ F.structs) : st.layers ≤ F.layers :=
  List.le_max?_getD_of_mem (List.mem_map_of_mem hst)

namespace Schema

theorem unvisited_cons_le (F : Family) (name : String) (stack : List String) :
    unvisited F (name :: stack) ≤ unvisited F stack := by
  refine List.countP_mono_left fun st _ h => ?_
  simp only [List.contains_cons, Bool.not_or, Bool.and_eq_true] at h
  exact h.2

namespace Walk

section
variable {F : Family} {n : Naming}

/-! ## One object -/

/-- The draft of an object with these properties. -/
def Draft.of (ps : List Property) : Draft :=
  ⟨Assoc.ofList (ps.map fun p => (p.name, Json.obj p.schema)), (ps.filter (·.required)).map (·.name)⟩

theorem Draft.of_append (ps : List Property) (p : Property) :
    Draft.of (ps ++ [p]) =
      ⟨Assoc.insert p.name (.obj p.schema) (Draft.of ps).properties,
        if p.required then (Draft.of ps).required ++ [p.name] else (Draft.of ps).required⟩ := by
  unfold Draft.of Assoc.ofList
  rw [List.map_append, List.foldl_append, List.filter_append, List.map_append]
  cases hp : p.required <;> simp [hp]

variable {walk : Shape → Walk (Assoc Json)} {stack : List String}

/-- A field is walked with the stack as it is, and leaves it so. -/
def Keeps (F : Family) (n : Naming) (walk : Shape → Walk (Assoc Json)) (stack : List String)
    (s : Shape) : Prop :=
  (walk s).run stack = some (ofShape F n stack s, stack)

theorem property_run {f : Field} (hf : Keeps F n walk stack f.shape) (ps : List Property) :
    (property n walk (Draft.of ps) f).run stack =
      some (Draft.of (ps ++ (member? F n stack f).toList), stack) := by
  have hwalk : (walk f.shape).run stack = some (ofShape F n stack f.shape, stack) := hf
  unfold property member?
  cases n.name? f with
  | none => simp
  | some name =>
    simp only [StateT.run_bind, hwalk, Option.map_some, Option.toList_some, Draft.of_append]
    rfl

theorem foldlM_property {fields : List Field} (h : ∀ f ∈ fields, Keeps F n walk stack f.shape)
    (ps : List Property) :
    (fields.foldlM (property n walk) (Draft.of ps)).run stack =
      some (Draft.of (ps ++ fields.filterMap (member? F n stack)), stack) := by
  induction fields generalizing ps with
  | nil => simp
  | cons f fields ih =>
    have hmembers : (f :: fields).filterMap (member? F n stack) =
        (member? F n stack f).toList ++ fields.filterMap (member? F n stack) := by
      rw [List.filterMap_cons]
      cases member? F n stack f <;> rfl
    rw [List.foldlM_cons, StateT.run_bind, property_run (h f (.head _)), hmembers, ← List.append_assoc]
    exact ih (fun g hg => h g (.tail _ hg)) _

/-- The schema of a struct inside the names `stack`, fields that `exclude` picks left out. -/
def ofObject (F : Family) (n : Naming) (stack : List String) (st : Struct) (exclude : Field → Bool) :
    Assoc Json :=
  if st.name ∈ stack then typed "object" []
  else Schema.object ((Level.fields ⟨st, exclude⟩).filterMap (member? F n (st.name :: stack)))

theorem object_run {st : Struct} (h : st.name ∉ stack →
      ∀ f ∈ st.dataFields, Keeps F n walk (st.name :: stack) f.shape) (exclude : Field → Bool) :
    (object n walk st exclude).run stack = some (ofObject F n stack st exclude, stack) := by
  unfold ofObject
  by_cases hname : st.name ∈ stack
  · simp [object, hname]
  · have hfields : ∀ f ∈ Level.fields ⟨st, exclude⟩, Keeps F n walk (st.name :: stack) f.shape :=
      fun f hf => h hname f (List.mem_filter.1 hf).1
    have hobject : (object n walk st exclude).run stack =
        ((Level.fields ⟨st, exclude⟩).foldlM (property n walk) (Draft.of [])).run (st.name :: stack) >>=
          fun (d, after) => some (d.schema, after.tail) := by
      simp only [object, StateT.run_bind, StateT.run_get, pure_bind, if_neg hname]
      rfl
    rw [hobject, foldlM_property hfields, if_neg hname]
    rfl

/-! ## Enough calls -/

/-- Each struct whose name is put on the stack makes room for its fields. -/
theorem room {stack : List String} {id : StructId} {f : Field} (hf : f ∈ (F.get id).dataFields)
    (hnew : (F.get id).name ∉ stack) :
    f.shape.layers + unvisited F ((F.get id).name :: stack) * F.layers ≤
      unvisited F stack * F.layers := by
  have hlayers : f.shape.layers ≤ F.layers :=
    Nat.le_trans (Struct.layers_le hf) (Family.layers_le (get_mem hf))
  calc f.shape.layers + unvisited F ((F.get id).name :: stack) * F.layers
      ≤ (unvisited F ((F.get id).name :: stack) + 1) * F.layers := by
        rw [Nat.add_mul, Nat.one_mul, Nat.add_comm]
        exact Nat.add_le_add_left hlayers _
    _ ≤ unvisited F stack * F.layers := Nat.mul_le_mul_right _ (unvisited_lt hf hnew)

theorem shape_run {calls : Nat} {stack : List String} {s : Shape}
    (h : s.layers + unvisited F stack * F.layers ≤ calls) : Keeps F n (shape F n calls) stack s := by
  -- By induction on the calls: each call has one less for the shapes inside.
  induction calls generalizing stack s with
  | zero => cases s <;> simp only [Shape.layers] at h <;> omega
  | succ calls ih =>
    cases s with
    | array inner | map inner | optional inner =>
      have hinner : Keeps F n (shape F n calls) stack inner :=
        ih (by simp only [Shape.layers] at h; omega)
      unfold Keeps at hinner ⊢
      simp only [shape, StateT.run_bind, hinner, ofShape]
      rfl
    | struct id =>
      have hwhole : Level.fields ⟨F.get id, fun _ => false⟩ = (F.get id).dataFields :=
        Level.fields_whole _
      unfold Keeps
      rw [shape, object_run fun hnew f hf => ih ?_, ofObject, ofShape_struct, hwhole]
      · have := room hf hnew
        simp only [Shape.layers] at h
        omega
    | string | integer w signed | number w | boolean | bytes | enum variants | any | marker =>
      simp only [Keeps, shape, ofShape]
      rfl

theorem object_run_of_layers {calls : Nat} {stack : List String} {st : Struct}
    (h : st.layers + unvisited F stack * F.layers ≤ calls) (exclude : Field → Bool) :
    (object n (shape F n calls) st exclude).run stack = some (ofObject F n stack st exclude, stack) := by
  refine object_run (fun _ f hf => shape_run ?_) exclude
  have hunvisited : unvisited F (st.name :: stack) * F.layers ≤ unvisited F stack * F.layers :=
    Nat.mul_le_mul_right _ (unvisited_cons_le F st.name stack)
  have hlayers : f.shape.layers ≤ st.layers := Struct.layers_le hf
  omega

end

end Walk

section
variable {F : Family} {n : Naming}

/-! ## Siblings -/

theorem Along.getLast?_cons {visiting : List String} {s : Shape} {hops : List Hop}
    {levels : List (Option Level)} (h : Along F n visiting s hops levels) (level : Option Level) :
    (level :: levels).getLast? = levels.getLast? := by
  have hne : levels ≠ [] := by induction h <;> simp_all
  obtain ⟨first, rest, rfl⟩ := List.exists_cons_of_ne_nil hne
  exact List.getLast?_cons_cons

/-- The schema of a field at a level that is written out depends on the names on the path to it, and on no
other field. -/
theorem Along.follow?_field {visiting : List String} {s : Shape} {hops : List Hop}
    {levels : List (Option Level)} (h : Along F n visiting s hops levels) {m : Assoc Json}
    (hm : Agrees m (ofShape F n visiting s)) {l : Level} (hlast : levels.getLast? = some (some l))
    {f : Field} {name : String} (hlists : Lists n l.fields f name) :
    follow? (hops ++ [.property name]) (.obj m) =
      some (.obj (describe f (ofShape F n ((openedNames levels).reverse ++ visiting) f.shape))) := by
  induction h generalizing m with
  | optional _ ih => exact ih (agrees_optional hm) hlast
  | plain _ => cases hlast
  | items rest ih | values rest ih =>
    rw [List.cons_append, follow?_inner rfl rfl hm]
    exact ih (fun _ _ _ => rfl) (rest.getLast?_cons none ▸ hlast)
  | cut _ => cases hlast
  | here new =>
    obtain rfl := Option.some.inj (Option.some.inj hlast)
    rw [Level.fields_whole] at hlists
    rw [ofShape_struct, if_neg new] at hm
    exact follow?_property _ hlists hm []
  | @property visiting id g other hops levels new lists rest ih =>
    rw [ofShape_struct, if_neg new] at hm
    have hopened : (openedNames (some (.whole (F.get id)) :: levels)).reverse ++ visiting =
        (openedNames levels).reverse ++ (F.get id).name :: visiting := by
      show ((F.get id).name :: openedNames levels).reverse ++ visiting = _
      rw [List.reverse_cons, List.append_assoc, List.singleton_append]
    rw [List.cons_append, follow?_property _ lists hm, hopened]
    exact ih (agrees_describe g _) (rest.getLast?_cons _ ▸ hlast)

/-- A struct whose name is new is written out. -/
theorem writtenAt_field (f : Field) {visiting : List String} {id : StructId}
    (hid : f.shape.struct? = some id) (hnew : (F.get id).name ∉ visiting) :
    (Level.whole (F.get id)).WrittenAt n (.obj (describe f (ofShape F n visiting f.shape))) := by
  have hagrees : Agrees (describe f (ofShape F n visiting f.shape)) (ofShape F n visiting (.struct id)) :=
    fun key hnull hdescription => (agrees_describe f _ key hnull hdescription).trans
      (agrees_struct visiting hid key hnull hdescription)
  rw [ofShape_struct, if_neg hnew, ← Level.fields_whole] at hagrees
  exact Level.writtenAt hagrees

namespace Start

variable {start : Start} {hops : List Hop} {levels : List (Option Level)}

theorem Along.follow?_field (h : start.Along F hops levels) {l : Level}
    (hlast : levels.getLast? = some (some l)) {f : Field} {name : String}
    (hlists : Lists start.naming l.fields f name) :
    follow? (hops ++ [.property name]) (start.schema F) =
      some (.obj (describe f (ofShape F start.naming (openedNames levels).reverse f.shape))) := by
  rw [← List.append_nil (openedNames levels).reverse]
  cases h with
  | request rest => exact rest.follow?_field (fun _ _ _ => rfl) hlast hlists
  | response rest => exact rest.follow?_field (fun _ _ _ => rfl) hlast hlists
  | root =>
    obtain rfl := Option.some.inj (Option.some.inj hlast)
    exact follow?_property _ hlists (fun _ _ _ => rfl) []
  | @inside n st exclude g other hops levels lists rest =>
    have hopened : (openedNames (some ⟨st, exclude⟩ :: levels)).reverse ++ [] =
        (openedNames levels).reverse ++ [st.name] := by
      rw [List.append_nil]
      exact List.reverse_cons
    rw [List.cons_append, schema, follow?_property _ lists (fun _ _ _ => rfl), hopened]
    exact rest.follow?_field (agrees_describe g _) (rest.getLast?_cons _ ▸ hlast) hlists

/-- The walk that makes a schema. -/
def walk (F : Family) (calls : Nat) : Start → Walk (Assoc Json)
  | request s => Walk.shape F .bound calls s
  | response s => Walk.shape F .serialised calls s
  | struct n st exclude => Walk.object n (Walk.shape F n calls) st exclude

/-- Calls that are enough for the walk. -/
def enough (F : Family) : Start → Nat
  | request s | response s => s.layers + unvisited F [] * F.layers
  | struct _ st _ => st.layers + unvisited F [] * F.layers

theorem walk_run {calls : Nat} (h : start.enough F ≤ calls) :
    ∃ m, (start.walk F calls).run [] = some (m, []) ∧ start.schema F = .obj m := by
  cases start with
  | request s => exact ⟨_, Walk.shape_run h, rfl⟩
  | response s => exact ⟨_, Walk.shape_run h, rfl⟩
  | struct n st exclude => exact ⟨_, Walk.object_run_of_layers h exclude, rfl⟩

end Start

end

/-- **Schema walks end.** Structs may refer to each other in any way.

* The walk of a shape, or of a struct with fields left out, makes its schema and leaves the stack as it was,
  whatever is on the stack, if as many calls may be open as the layers say.
* So a whole schema is made. Along each of its paths no name is written out twice.
* Where a struct is written out, the schema of each field that it lists depends on the names on the path
  alone: a struct there whose name is new is written out, whatever its siblings are. -/
theorem walks_end (F : Family) :
    (∀ (n : Naming) (stack : List String) (calls : Nat),
      (∀ s : Shape, s.layers + unvisited F stack * F.layers ≤ calls →
        (Walk.shape F n calls s).run stack = some (ofShape F n stack s, stack)) ∧
      ∀ (st : Struct) (exclude : Field → Bool), st.layers + unvisited F stack * F.layers ≤ calls →
        (Walk.object n (Walk.shape F n calls) st exclude).run stack =
          some (Walk.ofObject F n stack st exclude, stack)) ∧
    ∀ start : Start,
      (∀ calls, start.enough F ≤ calls →
        ∃ m, (start.walk F calls).run [] = some (m, []) ∧ start.schema F = .obj m) ∧
      ∀ (hops : List Hop) (node : Json), follow? hops (start.schema F) = some node →
        ∃ levels, start.Along F hops levels ∧ Nodes start.naming (start.schema F) hops levels ∧
          (openedNames levels).Nodup ∧
          ∀ l, levels.getLast? = some (some l) → ∀ f name, Lists start.naming l.fields f name →
            ∃ child, follow? (hops ++ [.property name]) (start.schema F) = some child ∧
              child =
                .obj (describe f (ofShape F start.naming (openedNames levels).reverse f.shape)) ∧
              ∀ id, f.shape.struct? = some id → (F.get id).name ∉ openedNames levels →
                (Level.whole (F.get id)).WrittenAt start.naming child := by
  refine ⟨fun n stack calls => ⟨fun s h => Walk.shape_run h, fun st exclude h =>
    Walk.object_run_of_layers h exclude⟩, fun start => ⟨fun calls h => Start.walk_run h, ?_⟩⟩
  intro hops node hnode
  obtain ⟨levels, hlevels⟩ := Start.exists_along hnode
  refine ⟨levels, hlevels, hlevels.nodes, hlevels.opened, fun l hlast f name hlists => ?_⟩
  refine ⟨_, hlevels.follow?_field hlast hlists, rfl, fun id hid hnew => ?_⟩
  exact writtenAt_field f hid (by simpa using hnew)

/-- Two fields hold the same recursive struct, and both are written out. -/
theorem siblings_written_out :
    let left : Field := ⟨"left", "left", "", "", false, .struct 1⟩
    let right : Field := ⟨"right", "right", "", "", false, .optional (.struct 1)⟩
    let children : Field := ⟨"children", "children", "", "", false, .array (.struct 1)⟩
    let F : Family := ⟨[⟨"Pair", [left, right]⟩, ⟨"Node", [children]⟩]⟩
    let start := Start.request (.struct 0)
    start.enough F = 5 ∧
      (∃ m, (start.walk F 5).run [] = some (m, []) ∧ start.schema F = .obj m) ∧
      ∀ name ∈ ["left", "right"], ∃ node, follow? [.property name] (start.schema F) = some node ∧
        (Level.whole (F.get 1)).WrittenAt .bound node := by
  intro left right children F start
  have henough : start.enough F = 5 := by decide +kernel
  obtain ⟨hwalk, hpaths⟩ := (walks_end F).2 start
  obtain ⟨levels, halong, _, _, hfields⟩ := hpaths [] _ rfl
  have hlevels : levels = [some (.whole (F.get 0))] := by
    have halong : Start.Along F (.request (.struct 0)) [] levels := halong
    cases halong with
    | request rest =>
      cases rest with
      | plain leaf => cases leaf
      | cut again => cases again
      | here _ => rfl
  subst hlevels
  refine ⟨henough, hwalk 5 (Nat.le_of_eq henough), fun name hname => ?_⟩
  have hleft : Lists .bound (Level.whole (F.get 0)).fields left "left" :=
    ⟨by decide +kernel, [], [right], rfl, by decide +kernel⟩
  have hright : Lists .bound (Level.whole (F.get 0)).fields right "right" :=
    ⟨by decide +kernel, [left], [], rfl, nofun⟩
  simp only [List.mem_cons, List.not_mem_nil, or_false] at hname
  rcases hname with rfl | rfl
  · obtain ⟨node, hnode, _, hwritten⟩ := hfields _ rfl left "left" hleft
    exact ⟨node, hnode, hwritten 1 rfl (by decide)⟩
  · obtain ⟨node, hnode, _, hwritten⟩ := hfields _ rfl right "right" hright
    exact ⟨node, hnode, hwritten 1 rfl (by decide)⟩

end Schema

end HttpService
