import HttpService.OpenApi.Document
import HttpService.Proofs.Basic
import HttpService.Proofs.Route.Path
import HttpService.Proofs.Route.Registry
import Mathlib.Data.List.Dedup

/-!
# Operations and routes

Every route has a place in the document, its documented path and its verb (`place?`). The operation at a
place is that of the last route with it (`operation?_document`), so there are as many operations as places
(`length_placed`). Two routes of one verb have one place just if their paths are alike (`place?_eq_iff`), and
`operation_of_each_route` says when no operation is lost.
-/

set_option autoImplicit false

namespace HttpService.OpenApi

/-! ## Places -/

/-- The method of a verb. -/
def Slot.method : Slot → String
  | get => "GET"
  | post => "POST"
  | put => "PUT"
  | patch => "PATCH"
  | delete => "DELETE"
  | head => "HEAD"
  | options => "OPTIONS"

theorem Slot.method_of_ofMethod? {method : String} {slot : Slot} (h : ofMethod? method = some slot) :
    method = slot.method := by
  unfold ofMethod? at h
  split at h <;> cases h <;> rfl

/-- A documented path and a verb. -/
abbrev Place := String × Slot

/-- Where a route is documented. -/
def place? (r : RouteDoc) : Option Place :=
  (Slot.ofMethod? r.method).map fun slot => (Path.documented r.path, slot)

/-- The operation at a place. -/
def operationAt (paths : Assoc PathItem) (place : Place) : Option Operation :=
  (Assoc.find? place.1 paths).bind fun item => item place.2

/-- All operations with their places. -/
def placed (paths : Assoc PathItem) : List (Place × Operation) :=
  paths.flatMap fun (path, item) => item.operations.map fun (slot, op) => ((path, slot), op)

section
variable {F : Family} {paths : Assoc PathItem} {place : Place} {r : RouteDoc}

theorem operationAt_addRoute : operationAt (addRoute F paths r) place =
    if place? r = some place then some (operation F r) else operationAt paths place := by
  obtain ⟨path, slot⟩ := place
  unfold operationAt addRoute place?
  rw [Assoc.find?_insert]
  by_cases hpath : path = Path.documented r.path
  · subst hpath
    have hitem : (((Assoc.find? (Path.documented r.path) paths).getD PathItem.empty) slot) =
        (Assoc.find? (Path.documented r.path) paths).bind fun item => item slot := by
      cases Assoc.find? (Path.documented r.path) paths <;> rfl
    rw [if_pos rfl]
    cases hverb : Slot.ofMethod? r.method with
    | none => simpa using hitem
    | some verb =>
      by_cases hslot : slot = verb
      · simp [PathItem.set, hslot]
      · simpa [PathItem.set, hslot, Ne.symm hslot] using hitem
  · rw [if_neg hpath, if_neg]
    intro hplace
    obtain ⟨_, _, heq⟩ := Option.map_eq_some_iff.1 hplace
    exact hpath (Prod.mk.inj heq).1.symm

theorem operationAt_foldl (routes : List RouteDoc) :
    operationAt (routes.foldl (addRoute F) paths) place =
      ((routes.reverse.find? fun r => place? r = some place).map (operation F)).or
        (operationAt paths place) := by
  induction routes generalizing paths with
  | nil => rfl
  | cons r rs ih =>
    rw [List.foldl_cons, ih, operationAt_addRoute, List.reverse_cons, List.find?_append, Option.map_or,
      Option.or_assoc, List.find?_singleton]
    by_cases h : place? r = some place <;> simp [h]

theorem mem_operations {item : PathItem} {slot : Slot} {op : Operation} :
    (slot, op) ∈ item.operations ↔ item slot = some op := by
  have hall : slot ∈ Slot.all := by cases slot <;> decide
  simp only [PathItem.operations, List.mem_filterMap, Option.map_eq_some_iff, Prod.mk.injEq]
  exact ⟨fun ⟨_, _, _, hop, hslot, heq⟩ => hslot ▸ heq ▸ hop,
    fun hop => ⟨slot, hall, op, hop, rfl, rfl⟩⟩

theorem mem_placed (h : Assoc.Sorted paths) {op : Operation} :
    (place, op) ∈ placed paths ↔ operationAt paths place = some op := by
  obtain ⟨path, slot⟩ := place
  unfold placed operationAt
  rw [List.mem_flatMap, Option.bind_eq_some_iff]
  constructor
  · rintro ⟨⟨path', item⟩, hrow, hmem⟩
    obtain ⟨⟨slot', op'⟩, hop, heq⟩ := List.mem_map.1 hmem
    cases heq
    exact ⟨item, Assoc.find?_of_mem h.nodup_keys hrow, mem_operations.1 hop⟩
  · rintro ⟨item, hrow, hop⟩
    have hmem : (slot, op) ∈ item.operations := mem_operations.2 hop
    exact ⟨(path, item), Assoc.mem_of_find? hrow, List.mem_map.2 ⟨_, hmem, rfl⟩⟩

/-- No place has two operations. -/
theorem nodup_placed (h : Assoc.Sorted paths) : ((placed paths).map (·.1)).Nodup := by
  refine List.pairwise_map.2 (List.pairwise_flatMap.2 ⟨fun row _ => ?_, h.imp fun {row row'} hlt => ?_⟩)
  · have hall : Slot.all.Pairwise (· ≠ ·) := by decide
    refine List.pairwise_map.2 (List.pairwise_filterMap.2 (hall.imp fun {a b} hne => ?_))
    rintro x hx y hy heq
    obtain ⟨_, _, rfl⟩ := Option.map_eq_some_iff.1 hx
    obtain ⟨_, _, rfl⟩ := Option.map_eq_some_iff.1 hy
    exact hne (Prod.mk.inj heq).2
  · intro x hx y hy heq
    obtain ⟨_, _, rfl⟩ := List.mem_map.1 hx
    obtain ⟨_, _, rfl⟩ := List.mem_map.1 hy
    exact String.ne_of_lt hlt (Prod.mk.inj heq).1

end

/-! ## The document of a registry -/

section
variable {F : Family} {title version : String}

/-- The operations of a document with their places. -/
def Document.placed (d : Document) : List (Place × Operation) :=
  OpenApi.placed d.paths

/-- The operation that a document has at a place. -/
def Document.operation? (d : Document) (place : Place) : Option Operation :=
  operationAt d.paths place

theorem operation?_document (routes : List RouteDoc) (place : Place) :
    (document F title version routes).operation? place =
      (routes.reverse.find? fun r => place? r = some place).map (operation F) :=
  (operationAt_foldl routes).trans Option.or_none

/-- A place of a route has the operation of a route with that place. -/
theorem exists_operation? {routes : List RouteDoc} {r : RouteDoc} {place : Place} (hr : r ∈ routes)
    (hplace : place? r = some place) : ∃ last ∈ routes, place? last = some place ∧
      (document F title version routes).operation? place = some (operation F last) := by
  have hfound : (routes.reverse.find? fun r => place? r = some place).isSome = true :=
    List.find?_isSome.2 ⟨r, List.mem_reverse.2 hr, decide_eq_true hplace⟩
  obtain ⟨last, hlast⟩ := Option.isSome_iff_exists.1 hfound
  have hsame := List.find?_some hlast
  refine ⟨last, List.mem_reverse.1 (List.mem_of_find?_eq_some hlast), of_decide_eq_true hsame, ?_⟩
  rw [operation?_document, hlast]
  rfl

theorem sorted_document (routes : List RouteDoc) :
    Assoc.Sorted (document F title version routes).paths := by
  have hfold (paths : Assoc PathItem) (h : Assoc.Sorted paths) :
      Assoc.Sorted (routes.foldl (addRoute F) paths) := by
    induction routes generalizing paths with
    | nil => exact h
    | cons r rs ih => exact ih _ (Assoc.sorted_insert h)
  exact hfold [] .nil

/-- A document has one operation for each place of its routes. -/
theorem length_placed (routes : List RouteDoc) :
    (document F title version routes).placed.length = (routes.filterMap place?).dedup.length := by
  have hsorted : Assoc.Sorted (document F title version routes).paths := sorted_document routes
  rw [← List.length_map (f := Prod.fst)]
  refine List.Perm.length_eq ((List.perm_ext_iff_of_nodup (nodup_placed hsorted)
    (List.nodup_dedup _)).2 fun place => ?_)
  rw [List.mem_dedup, List.mem_filterMap]
  constructor
  · intro h
    obtain ⟨⟨place', op⟩, hmem, heq⟩ := List.mem_map.1 h
    obtain rfl : place' = place := heq
    have hop := (operation?_document routes place').symm.trans ((mem_placed hsorted).1 hmem)
    obtain ⟨r, hr, _⟩ := Option.map_eq_some_iff.1 hop
    have hsame := List.find?_some hr
    exact ⟨r, List.mem_reverse.1 (List.mem_of_find?_eq_some hr), of_decide_eq_true hsame⟩
  · rintro ⟨r, hr, hplace⟩
    obtain ⟨last, _, _, hop⟩ := exists_operation? hr hplace
    exact List.mem_map.2 ⟨(place, operation F last), (mem_placed hsorted).2 hop, rfl⟩

end

/-! ## Routes that are told apart -/

/-- No two routes of one verb have alike paths. -/
def Apart (routes : List RouteDoc) : Prop :=
  routes.Pairwise fun a b => a.method = b.method → ¬ Path.Alike a.path b.path

instance (routes : List RouteDoc) : Decidable (Apart routes) :=
  inferInstanceAs (Decidable (List.Pairwise _ routes))

section
variable {F : Family} {title version : String} {routes : List RouteDoc}

/-- Routes have one place just if they have one verb and alike paths. -/
theorem place?_eq_iff {a b : RouteDoc} (ha : Slot.ofMethod? a.method ≠ none) :
    place? a = place? b ↔ a.method = b.method ∧ Path.Alike a.path b.path := by
  obtain ⟨slot, hslot⟩ := Option.ne_none_iff_exists'.1 ha
  rw [← Path.documented_eq_iff]
  constructor
  · intro h
    have hplace : place? b = some (Path.documented a.path, slot) := by
      rw [← h, place?, hslot]
      rfl
    obtain ⟨_, hverb, heq⟩ := Option.map_eq_some_iff.1 hplace
    obtain ⟨hpath, rfl⟩ := Prod.mk.inj heq
    exact ⟨(Slot.method_of_ofMethod? hslot).trans (Slot.method_of_ofMethod? hverb).symm, hpath.symm⟩
  · rintro ⟨hmethod, hpath⟩
    rw [place?, place?, hmethod, hpath]

variable (hverbs : ∀ r ∈ routes, Slot.ofMethod? r.method ≠ none)
include hverbs

theorem exists_place {r : RouteDoc} (hr : r ∈ routes) : ∃ slot, Slot.ofMethod? r.method = some slot ∧
    place? r = some (Path.documented r.path, slot) := by
  obtain ⟨slot, hslot⟩ := Option.ne_none_iff_exists'.1 (hverbs r hr)
  exact ⟨slot, hslot, by rw [place?, hslot]; rfl⟩

theorem nodup_places_iff : (routes.filterMap place?).Nodup ↔ Apart routes := by
  unfold List.Nodup Apart
  rw [List.pairwise_filterMap]
  refine List.Pairwise.iff_of_mem fun {a b} ha hb => ?_
  obtain ⟨slot, _, hplace⟩ := exists_place hverbs ha
  obtain ⟨slot', _, hplace'⟩ := exists_place hverbs hb
  have hiff := place?_eq_iff (b := b) (hverbs a ha)
  rw [hplace, hplace'] at hiff ⊢
  simp_all

theorem length_placed_eq_iff :
    (document F title version routes).placed.length = routes.length ↔ Apart routes := by
  have hlength : (routes.filterMap place?).length = routes.length := by
    refine List.filterMap_length_eq_length.2 fun r hr => ?_
    obtain ⟨_, _, hplace⟩ := exists_place hverbs hr
    rw [hplace]
    rfl
  rw [length_placed, ← nodup_places_iff hverbs, ← List.dedup_eq_self, ← hlength]
  exact ⟨(List.dedup_sublist _).eq_of_length, congrArg _⟩

theorem operation?_of_apart (h : Apart routes) {r : RouteDoc} (hr : r ∈ routes) :
    ∃ slot, Slot.ofMethod? r.method = some slot ∧
      (document F title version routes).operation? (Path.documented r.path, slot) =
        some (operation F r) := by
  obtain ⟨slot, hslot, hplace⟩ := exists_place hverbs hr
  obtain ⟨last, hlast, hplace', hop⟩ := exists_operation? hr hplace
  obtain rfl := eq_of_nodup_filterMap ((nodup_places_iff hverbs).2 h) hr hlast hplace hplace'
  exact ⟨slot, hslot, hop⟩

end

/-- **No operation is lost** unless two routes have one place. Take the registry that any registrations
lead to, of routes with the verbs that documents know. The document has exactly as many operations as the
registry has routes just if no two routes of one verb have alike paths, ones that differ at most in that a
segment is written `:name`, `*name` or as the literal name in braces. Then the operation of each route
itself, with its operation id, its texts and its parameters, stands at the documented form of its path under
its verb. In any case a place has the operation of the last route of the registry that is documented there. -/
theorem operation_of_each_route {M E : Type} (F : Family) (title version : String)
    {routes : List (Route M E)} (hverbs : ∀ r ∈ routes,
      r.method ∈ ["GET", "POST", "PUT", "PATCH", "DELETE", "HEAD", "OPTIONS"]) :
    let reg := (Registry.registerAll [] routes).1
    let d := document F title version reg.docs
    (d.placed.length = reg.length ↔ Apart reg.docs) ∧
    (Apart reg.docs → ∀ r ∈ reg, ∃ slot, Slot.ofMethod? r.method = some slot ∧
      d.operation? (Path.documented r.path, slot) = some (operation F r.toRouteDoc)) ∧
    ∀ place, d.operation? place =
      (reg.docs.reverse.find? fun r => place? r = some place).map (operation F) := by
  intro reg d
  have hreg : reg = Registry.putAll [] routes := Registry.registerAll_fst routes
  have hknown : ∀ r ∈ reg.docs, Slot.ofMethod? r.method ≠ none := by
    intro doc hdoc
    obtain ⟨r, hr, rfl⟩ := List.mem_map.1 hdoc
    rw [hreg] at hr
    have hverb := hverbs r ((Registry.of_mem_putAll hr).resolve_right List.not_mem_nil)
    simp only [List.mem_cons, List.not_mem_nil, or_false] at hverb
    rcases hverb with h | h | h | h | h | h | h <;> rw [h] <;> nofun
  have hlength : reg.docs.length = reg.length := List.length_map _
  refine ⟨?_, fun h r hr => operation?_of_apart hknown h (List.mem_map.2 ⟨r, hr, rfl⟩),
    operation?_document reg.docs⟩
  rw [← hlength]
  exact length_placed_eq_iff hknown

/-- A route about which nothing but its verb, its path and its handler is known. -/
def bareRoute (method path handler : String) : Route Unit Unit :=
  { method, path, groupPrefix := none, summary := none, tag := none, description := none
    request := ⟨"Any", .any⟩, response := ⟨"Any", .any⟩, handler, middleware := [], endpoint := () }

/-- The first two have one documented path, but different verbs. -/
theorem operations_of_three_routes :
    let routes := [bareRoute "GET" "/u/:id" "U.one", bareRoute "POST" "/u/\x7bid\x7d" "U.braces",
      bareRoute "GET" "/u/new" "U.new"]
    let reg := (Registry.registerAll [] routes).1
    let d := document ⟨[]⟩ "t" "1" reg.docs
    (∀ r ∈ routes, r.method ∈ ["GET", "POST", "PUT", "PATCH", "DELETE", "HEAD", "OPTIONS"]) ∧
      Apart reg.docs ∧ d.placed.length = 3 ∧
      (d.operation? ("/u/\x7bid\x7d", .get)).map (·.id) = some "U.one" := by
  intro routes reg d
  have hverbs : ∀ r ∈ routes,
      r.method ∈ ["GET", "POST", "PUT", "PATCH", "DELETE", "HEAD", "OPTIONS"] := by
    decide
  have hapart : Apart reg.docs := by decide +kernel
  obtain ⟨hcount, hown, _⟩ := operation_of_each_route ⟨[]⟩ "t" "1" hverbs
  have hone : bareRoute "GET" "/u/:id" "U.one" ∈ reg := .head _
  obtain ⟨slot, hslot, hop⟩ := hown hapart _ hone
  cases hslot
  have hpath : Path.documented "/u/:id" = "/u/\x7bid\x7d" := by decide +kernel
  have hthree : reg.length = 3 := by decide +kernel
  refine ⟨hverbs, hapart, (hcount.2 hapart).trans hthree, ?_⟩
  rw [← hpath]
  exact congrArg (Option.map (·.id)) hop

/-- Two routes of one verb with normal paths that the matcher tells apart, and one operation. -/
theorem operation_lost :
    let routes := [bareRoute "GET" "/u/:id" "U.one", bareRoute "GET" "/u/\x7bid\x7d" "U.braces"]
    let reg := (Registry.registerAll [] routes).1
    let d := document ⟨[]⟩ "t" "1" reg.docs
    (∀ r ∈ routes, Path.normalise r.path = r.path) ∧ reg.length = 2 ∧
      (reg.map fun r => Path.pattern r.path) = ["/u/\x7bid\x7d", "/u/\x7b\x7bid\x7d\x7d"] ∧
      d.placed.length = 1 ∧
      (d.operation? (Path.documented "/u/:id", .get)).map (·.id) = some "U.braces" := by
  decide +kernel

end HttpService.OpenApi
