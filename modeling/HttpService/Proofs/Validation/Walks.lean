import HttpService.Proofs.Binding.Supplied
import HttpService.Proofs.Validation.Coverage

/-!
# Where rules are checked

`Walks` is the way that binding takes into a value when it renames members: through the fields that have a
name in JSON, through optional layers and through arrays, and further through maps. The validator takes
the same way as long as it is `Flat`: a struct follows each step, so that no array stands in an array,
and no map is entered. `rules_checked_on_flat_walks`: there a broken rule is among the failures. In an
array of arrays, and in a map, it is not (`rules_unchecked_in_containers`).
-/

set_option autoImplicit false

namespace HttpService.Validation

/-- A path from a value and its shape to an object of a struct in it. -/
inductive Walks (F : Family) : List Binding.Step → Shape → Json → StructId → Assoc Json → Prop
  | here {s : Shape} {id : StructId} {ms : Assoc Json} (struct : s.struct? = some id) :
    Walks F [] s (.obj ms) id ms
  | member {path : List Binding.Step} {s : Shape} {v : Json} {id id' : StructId} {ms ms' : Assoc Json}
      {f : Field} (struct : s.struct? = some id) (mem : f ∈ (F.get id).dataFields)
      (named : f.jsonName? ≠ none) (has : Assoc.find? f.key ms = some v)
      (rest : Walks F path f.shape v id' ms') : Walks F (.member f.key :: path) s (.obj ms) id' ms'
  | item {path : List Binding.Step} {s elem : Shape} {v : Json} {id' : StructId} {ms' : Assoc Json}
      {items : List Json} {index : Nat} (array : s.unwrap = .array elem) (has : items[index]? = some v)
      (rest : Walks F path elem v id' ms') : Walks F (.item index :: path) s (.arr items) id' ms'
  | entry {path : List Binding.Step} {s value : Shape} {v : Json} {id' : StructId} {ms ms' : Assoc Json}
      {key : String} (map : s.unwrap = .map value) (has : Assoc.find? key ms = some v)
      (rest : Walks F path value v id' ms') : Walks F (.entry key :: path) s (.obj ms) id' ms'

/-- Paths without an item of an item, and without an entry of a map. -/
inductive Flat : List Binding.Step → Prop
  | here : Flat []
  | member {key : String} {path : List Binding.Step} (rest : Flat path) : Flat (.member key :: path)
  | lastItem {index : Nat} : Flat [.item index]
  | item {index : Nat} {key : String} {path : List Binding.Step} (rest : Flat path) :
    Flat (.item index :: .member key :: path)

section
variable {F : Family} {path : List Binding.Step} {s : Shape} {v w : Json} {id id' : StructId} {f : Field}
  {ms ms' : Assoc Json}

theorem Flat.of_member {key : String} (h : Flat (.member key :: path)) : Flat path := by
  cases h with
  | member rest => exact rest

theorem Flat.of_item {index : Nat} (h : Flat (.item index :: path)) :
    Flat path ∧ ∀ j rest, path ≠ .item j :: rest := by
  cases h with
  | lastItem => exact ⟨.here, nofun⟩
  | item rest => exact ⟨.member rest, nofun⟩

/-- What the validator comes to from the end of a flat path, it comes to from the start: from the object
there, or from one of the items there. -/
theorem reaches_of_walks (h : Walks F path s v id' ms') (hflat : Flat path)
    (hreach : Reaches F (F.get id') (.obj ms') f w) :
    (∃ id ms, s.struct? = some id ∧ v = .obj ms ∧ Reaches F (F.get id) (.obj ms) f w) ∨
    ∃ id items item, elementStruct? s = some id ∧ v = .arr items ∧ item ∈ items ∧
      (∃ index rest, path = .item index :: rest) ∧ Reaches F (F.get id) item f w := by
  induction h with
  | here struct => exact .inl ⟨_, _, struct, rfl, hreach⟩
  | member struct mem named has _ ih =>
    obtain ⟨name, hname⟩ := Option.ne_none_iff_exists'.1 named
    have hnamed := named_of_messageName? (messageName?_of_jsonName? hname)
    refine .inl ⟨_, _, struct, rfl, ?_⟩
    rcases ih hflat.of_member hreach with
      ⟨id, ms, inner, rfl, hinner⟩ | ⟨id, items, item, inner, rfl, among, _, hinner⟩
    · exact .inside mem hnamed has inner hinner
    · exact .item mem hnamed has inner among hinner
  | item array has _ ih =>
    obtain ⟨hrest, hitem⟩ := hflat.of_item
    rcases ih hrest hreach with ⟨id, ms, inner, rfl, hinner⟩ | ⟨_, _, _, _, _, _, ⟨j, rest, hpath⟩, _⟩
    · refine .inr ⟨id, _, _, ?_, rfl, List.mem_of_getElem? has, ⟨_, _, rfl⟩, hinner⟩
      rw [elementStruct?, array]
      exact inner
    · exact absurd hpath (hitem j rest)
  | entry => cases hflat

theorem mem_failures_of_inner {st : Struct} {value : Json} {g : Field} {e : RuleFailure}
    (mem : g ∈ st.dataFields) (named : Named g)
    (h : e ∈ innerFailures F g.shape (value.get? g.key)) : e ∈ failures F st value := by
  obtain ⟨name, hname⟩ := Option.ne_none_iff_exists'.1 fun hn => messageName?_eq_none.1 hn named
  rw [failures_eq]
  refine List.mem_flatMap.2 ⟨g, mem, ?_⟩
  rw [fieldFailures, hname]
  exact List.mem_append_right _ h

/-- A broken rule that a walk comes to is among the failures. -/
theorem mem_failures_of_reaches {st : Struct} {value : Json} {name : String} {e : RuleFailure}
    (h : Reaches F st value f v) (hname : messageName? f = some name)
    (he : firstFailure name f.rules v = some e) : e ∈ failures F st value := by
  induction h with
  | field mem =>
    rw [failures_eq]
    refine List.mem_flatMap.2 ⟨_, mem, ?_⟩
    rw [fieldFailures, hname]
    exact List.mem_append_left _ (he ▸ .head _)
  | inside mem named has struct _ ih =>
    refine mem_failures_of_inner mem named ?_
    rw [has, innerFailures, struct]
    exact ih hname he
  | item mem named has struct among _ ih =>
    refine mem_failures_of_inner mem named ?_
    rw [has, innerFailures, struct]
    exact List.mem_flatMap.2 ⟨_, among, ih hname he⟩

end

/-- **Rules on the way of the binder.** Where a flat path leads from a struct's object to the object of a
struct, through struct fields, optional layers and arrays of structs to any depth, a data field there that
has a name in JSON and a value that breaks its rules is reported: under that name, with the first rule
that its value fails. -/
theorem rules_checked_on_flat_walks {F : Family} {path : List Binding.Step} {s : Shape} {id id' : StructId}
    {ms ms' : Assoc Json} {f : Field} {name : String} (hs : s.struct? = some id)
    (hwalk : Walks F path s (.obj ms) id' ms') (hflat : Flat path)
    (hf : f ∈ (F.get id').dataFields) (hname : f.jsonName? = some name)
    (hbreaks : Breaks f ((Assoc.find? f.key ms').getD .null)) :
    ∃ e ∈ failures F (F.get id) (.obj ms), e.field = name ∧
      firstFailure name f.rules ((Assoc.find? f.key ms').getD .null) = some e := by
  have hmessage := messageName?_of_jsonName? hname
  obtain ⟨e, he⟩ := Option.isSome_iff_exists.1 ((firstFailure_isSome_iff name).2 hbreaks)
  have hfield : e.field = name := by
    unfold firstFailure at he
    split at he
    · cases he
    · obtain ⟨rule, _, rfl⟩ := Option.map_eq_some_iff.1 he
      rfl
  refine ⟨e, ?_, hfield, he⟩
  rcases reaches_of_walks hwalk hflat (.field hf) with
    ⟨id₁, ms₁, hs₁, hms, hreach⟩ | ⟨_, _, _, _, hitems, _⟩
  · cases hms
    cases hs.symm.trans hs₁
    exact mem_failures_of_reaches hreach hmessage he
  · cases hitems

/-- A struct in an array of structs. -/
theorem rule_checked_in_array :
    let a : Field := ⟨"a", "a", "binding:\"required\"", "", false, .string⟩
    let rows : Field := ⟨"rows", "rows", "", "", false, .array (.struct 1)⟩
    let F : Family := ⟨[⟨"P", [rows]⟩, ⟨"Q", [a]⟩]⟩
    let ms : Assoc Json := [("rows", .arr [.obj [("a", .str "")]])]
    let path : List Binding.Step := [.member "rows", .item 0]
    ((Shape.struct 0).struct? = some 0 ∧ Walks F path (.struct 0) (.obj ms) 1 [("a", .str "")] ∧
      Flat path ∧ a ∈ (F.get 1).dataFields ∧ a.jsonName? = some "a" ∧ Breaks a (.str "")) ∧
    ∃ e ∈ failures F (F.get 0) (.obj ms), e.field = "a" ∧
      firstFailure "a" a.rules (.str "") = some e := by
  intro a rows F ms path
  have hrows : rows.jsonName? ≠ none := by decide +kernel
  have hname : a.jsonName? = some "a" := by decide +kernel
  have hwalk : Walks F path (.struct 0) (.obj ms) 1 [("a", .str "")] :=
    .member rfl (.head _) hrows (if_pos rfl) (.item rfl rfl (.here rfl))
  have hflat : Flat path := .member .lastItem
  have hbreaks : Breaks a (.str "") :=
    ⟨.inr (by decide +kernel), "required", by decide +kernel, by decide +kernel, nofun⟩
  have hvalue : (Assoc.find? a.key [("a", Json.str "")]).getD .null = .str "" := rfl
  refine ⟨⟨rfl, hwalk, hflat, .head _, hname, hbreaks⟩, ?_⟩
  exact rules_checked_on_flat_walks rfl hwalk hflat (.head _) hname (hvalue ▸ hbreaks)

/-- The same object in an array of arrays, where the binder renames its members, and in a map: its broken
rule is not noticed. -/
theorem rules_unchecked_in_containers :
    let a : Field := ⟨"a", "a", "binding:\"required\"", "", false, .string⟩
    let rows : Field := ⟨"rows", "rows", "", "", false, .array (.array (.struct 1))⟩
    let named : Field := ⟨"named", "named", "", "", false, .map (.struct 1)⟩
    let F : Family := ⟨[⟨"P", [rows, named]⟩, ⟨"Q", [a]⟩]⟩
    let object : Assoc Json := [("a", .str "")]
    let ms : Assoc Json := [("named", .obj [("k", .obj object)]), ("rows", .arr [.arr [.obj object]])]
    Walks F [.member "rows", .item 0, .item 0] (.struct 0) (.obj ms) 1 object ∧
      Walks F [.member "named", .entry "k"] (.struct 0) (.obj ms) 1 object ∧
      a ∈ (F.get 1).dataFields ∧ a.jsonName? = some "a" ∧ Breaks a (.str "") ∧
      failures F (F.get 0) (.obj ms) = [] := by
  intro a rows named F object ms
  have hrows : rows.jsonName? ≠ none := by decide +kernel
  have hnamed : named.jsonName? ≠ none := by decide +kernel
  have hbreaks : Breaks a (.str "") :=
    ⟨.inr (by decide +kernel), "required", by decide +kernel, by decide +kernel, nofun⟩
  have hfail : failures F (F.get 0) (.obj ms) = [] := by
    rw [failures_eq]
    decide +kernel
  refine ⟨.member rfl (.head _) hrows rfl (.item rfl rfl (.item rfl rfl (.here rfl))),
    .member rfl (.tail _ (.head _)) hnamed rfl (.entry rfl rfl (.here rfl)), .head _, by decide +kernel,
    hbreaks, hfail⟩

end HttpService.Validation
