import HttpService.Proofs.Server.Composition

/-!
# The composition of paths

A group writes its prefix anew, after the prefix of the group around it, and so does the introspection of
a controller with the path of a marker. `segments_pathFrom`, by induction on the nesting: each writing
keeps the segments, so the prefix of a place has the segments of all groups around it in order. What is
written in the end depends on segments alone (`Path.normalise_eq_iff`), and so `composed_of_mem` gives the
path of a route as the written form of all prefixes and the path of the marker, joined once.
-/

set_option autoImplicit false

namespace HttpService

open Enclosing

/-! ## Prefixes -/

section
variable {M E : Type}

namespace Enclosing

theorem segments_pathFrom (path : String) (gs : List (Enclosing M E)) :
    Path.segments (pathFrom path gs).toList = Path.segments path.toList ++
      (gs.map Enclosing.path).flatMap fun sub => Path.segments sub.toList := by
  induction gs generalizing path with
  | nil => exact (List.append_nil _).symm
  | cons g gs ih =>
    have hfirst : Path.segments (Path.normalise (path ++ "/" ++ g.path)).toList =
        Path.segments path.toList ++ Path.segments g.path.toList := by
      rw [Path.segments_normalise, Path.segments_slash]
    rw [List.map_cons, List.flatMap_cons, ← List.append_assoc, ← hfirst]
    exact ih _

/-- The groups from the root add up to their prefixes, joined. -/
theorem normalise_pathFrom (gs : List (Enclosing M E)) :
    Path.normalise (pathFrom "/" gs) = Path.normalise (Text.join "/" (gs.map Enclosing.path)) := by
  rw [Path.normalise_eq_iff, segments_pathFrom, Path.segments_join]
  rfl

theorem normalise_pathFrom_slash (gs : List (Enclosing M E)) (path : String) :
    Path.normalise (pathFrom "/" gs ++ "/" ++ path) =
      Path.normalise (Text.join "/" (gs.map Enclosing.path ++ [path])) := by
  rw [Path.normalise_eq_iff, Path.segments_slash, segments_pathFrom, Path.segments_join,
    List.flatMap_append, List.flatMap_singleton]
  rfl

end Enclosing

/-! ## Routes -/

/-- The prefix that is documented of a group; the root has none. -/
def shownGroup? (path : String) : Option String :=
  if Path.normalise path = "/" then none else some (Path.normalise path)

/-- What a route with a marker path has for path and prefix: those of the groups around it, or those of
the group that its marker names. -/
structure Composed (F : Family) (gs : List (Enclosing M E)) (path : String) (doc : RouteDoc) :
    Prop where
  marked : (F.metadata doc.request.shape).find? "path" = some path
  enclosed : (F.metadata doc.request.shape).find? "group" = none →
    doc.path = Path.normalise (Text.join "/" (gs.map Enclosing.path ++ [path])) ∧
    doc.groupPrefix = shownGroup? (Text.join "/" (gs.map Enclosing.path))
  named : ∀ group, (F.metadata doc.request.shape).find? "group" = some group →
    doc.path = Path.normalise (group ++ "/" ++ path) ∧ doc.groupPrefix = shownGroup? group

section
variable (group : String) (tags : Assoc String) (path verb handler : String)
  (request response : TypeInfo)

theorem path_routeDoc :
    (Controller.routeDoc group tags path verb handler request response).path =
      Path.normalise ((tags.find? "group").getD group ++ "/" ++ path) :=
  rfl

theorem groupPrefix_routeDoc :
    (Controller.routeDoc group tags path verb handler request response).groupPrefix =
      shownGroup? ((tags.find? "group").getD group) :=
  rfl

end

theorem composed_routeDoc {F : Family} {request : TypeInfo} {path : String}
    (h : (F.metadata request.shape).find? "path" = some path) (gs : List (Enclosing M E))
    (verb handler : String) (response : TypeInfo) :
    Composed F gs path (Controller.routeDoc (pathFrom "/" gs) (F.metadata request.shape) path verb
      handler request response) := by
  refine ⟨h, fun hnone => ?_, fun group hgroup => ?_⟩
  · change (F.metadata request.shape).find? "group" = none at hnone
    rw [path_routeDoc, groupPrefix_routeDoc, hnone, Option.getD_none, normalise_pathFrom_slash,
      shownGroup?, normalise_pathFrom, shownGroup?]
    exact ⟨rfl, rfl⟩
  · change (F.metadata request.shape).find? "group" = some group at hgroup
    rw [path_routeDoc, groupPrefix_routeDoc, hgroup, Option.getD_some]
    exact ⟨rfl, rfl⟩

end

namespace Server

variable {F : Family} {gs : List (Enclosing Middleware Endpoint)} {c : Controller Endpoint}
  {own : List Middleware}

theorem composed_of_mem {r : Route Middleware Endpoint} (h : r ∈ routesAt F gs c own) :
    ∃ m ∈ c.methods, IsRouteOf (shortTypeName c.typeName) (captured gs ++ own) m r ∧
      ∃ path, Composed F gs path r.toRouteDoc := by
  obtain ⟨result, hresult, hr⟩ := List.mem_filterMap.1 h
  obtain ⟨m, hm, rfl⟩ := List.mem_map.1 hresult
  cases hok : Controller.introspectMethod F (shortTypeName c.typeName) (pathFrom "/" gs)
      (captured gs ++ own) m with
  | error e => rw [hok] at hr; cases hr
  | ok r' =>
    rw [hok] at hr
    cases hr
    refine ⟨m, hm, (Controller.isRouteOf_of_ok hok).2, ?_⟩
    obtain ⟨name, request, response, endpoint, path, verb, rfl, hpath, _, _, rfl⟩ :=
      Controller.introspectMethod_eq_ok hok
    exact ⟨path, composed_routeDoc hpath gs _ _ response⟩

/-- A method with a path and a verb has a route. -/
theorem exists_route {m : ControllerMethod Endpoint} (hm : m ∈ c.methods)
    (hroutable : m.isRoutable F = true) :
    ∃ r ∈ routesAt F gs c own, IsRouteOf (shortTypeName c.typeName) (captured gs ++ own) m r := by
  cases hok : Controller.introspectMethod F (shortTypeName c.typeName) (pathFrom "/" gs)
      (captured gs ++ own) m with
  | error e =>
    rw [(Controller.isWarningAbout_of_error hok).1] at hroutable
    cases hroutable
  | ok r =>
    refine ⟨r, List.mem_filterMap.2 ⟨_, List.mem_map.2 ⟨m, hm, rfl⟩, ?_⟩,
      (Controller.isRouteOf_of_ok hok).2⟩
    rw [hok]
    rfl

/-- **The composition of paths.** Whatever calls build a server:

* every registered route is the route of a method that was bound inside some groups, and its path and
  prefix are composed of these groups, or of the group that its marker names, and of the marker's path;
* every method that names a path and a verb has such a route wherever it is bound, and a route with that
  method and path is registered;
* writing a path is idempotent, what it gives is a written path, and it gives the same for two paths just
  if these have the same segments. -/
theorem path_composition (F : Family) (settings : Settings) (calls : List Call) :
    let s := assemble F settings calls
    (∀ r ∈ s.registry, ∃ gs c own, BindsAt calls gs c own ∧
      ∃ m ∈ c.methods, IsRouteOf (shortTypeName c.typeName) (captured gs ++ own) m r ∧
        ∃ path, Composed F gs path r.toRouteDoc) ∧
    (∀ gs c own, BindsAt calls gs c own → ∀ m ∈ c.methods, m.isRoutable F = true →
      ∃ r ∈ routesAt F gs c own,
        IsRouteOf (shortTypeName c.typeName) (captured gs ++ own) m r ∧
        (∃ path, Composed F gs path r.toRouteDoc) ∧
        ∃ r' ∈ s.registry, Registry.sameKey r'.toRouteDoc r.toRouteDoc = true) ∧
    ∀ p q, Path.normalise (Path.normalise p) = Path.normalise p ∧
      Path.IsWritten (Path.normalise p) ∧
      (Path.normalise p = Path.normalise q ↔ Path.segments p.toList = Path.segments q.toList) := by
  intro s
  refine ⟨fun r hr => ?_, fun gs c own hbinds m hm hroutable => ?_, fun p q =>
    ⟨Path.normalise_normalise p, Path.isWritten_normalise p, Path.normalise_eq_iff⟩⟩
  · obtain ⟨gs, c, own, hbinds, hr⟩ := place_of_mem hr
    exact ⟨gs, c, own, hbinds, composed_of_mem hr⟩
  · obtain ⟨r, hr, hroute⟩ := exists_route hm hroutable
    obtain ⟨_, _, _, hcomposed⟩ := composed_of_mem hr
    exact ⟨r, hr, hroute, hcomposed, registered_at hbinds hr⟩

/-- One route is composed of both groups, the other of the group that its marker names. -/
theorem paths_in_nested_groups :
    let marker (tag : String) : Field := ⟨"meta", "meta", tag, "", false, .marker⟩
    let F : Family := ⟨[⟨"ListReq", [marker "path:\"items/\" method:\"get\""]⟩,
      ⟨"StatsReq", [marker "path:\"/stats\" method:\"get\" group:\"admin//\""]⟩]⟩
    let request (name : String) (id : StructId) : TypeInfo := ⟨name, .struct id⟩
    let c : Controller Endpoint := ⟨"Shop", [
      .bindable "list" (request "ListReq" 0) (request "ListReq" 0) .health,
      .bindable "stats" (request "StatsReq" 1) (request "StatsReq" 1) .health]⟩
    let gs : List (Enclosing Middleware Endpoint) := [⟨"/api/", [], []⟩, ⟨"//v1", [], []⟩]
    let s := assemble F Settings.default [.item (within gs (.bind c []))]
    (∃ r ∈ routesAt F gs c [], r.path = "/api/v1/items" ∧ r.groupPrefix = some "/api/v1" ∧
      ∃ r' ∈ s.registry, r'.path = r.path) ∧
    ∃ r ∈ routesAt F gs c [], r.path = "/admin/stats" ∧ r.groupPrefix = some "/admin" ∧
      ∃ r' ∈ s.registry, r'.path = r.path := by
  intro marker F request c gs s
  obtain ⟨_, hbound, _⟩ := path_composition F Settings.default [.item (within gs (.bind c []))]
  have hplace := hbound gs c [] ⟨[], [], rfl⟩
  have hkey {r r' : Route Middleware Endpoint}
      (h : Registry.sameKey r'.toRouteDoc r.toRouteDoc = true) : r'.path = r.path := by
    simp only [Registry.sameKey, Bool.and_eq_true, beq_iff_eq] at h
    exact h.2
  constructor
  · obtain ⟨r, hr, hroute, ⟨path, hmarked, henclosed, _⟩, r', hr', hsame⟩ :=
      hplace _ (.head _) (by decide +kernel)
    have hrequest : r.request = request "ListReq" 0 := (Option.some.inj hroute.request).symm
    rw [hrequest] at hmarked henclosed
    obtain ⟨hpath, hgroup⟩ := henclosed (by decide +kernel)
    have hitems : (F.metadata (.struct 0)).find? "path" = some "items/" := by decide +kernel
    obtain rfl : "items/" = path := Option.some.inj (hitems.symm.trans hmarked)
    exact ⟨r, hr, hpath.trans (by decide +kernel), hgroup.trans (by decide +kernel), r', hr',
      hkey hsame⟩
  · obtain ⟨r, hr, hroute, ⟨path, hmarked, _, hnamed⟩, r', hr', hsame⟩ :=
      hplace _ (.tail _ (.head _)) (by decide +kernel)
    have hrequest : r.request = request "StatsReq" 1 := (Option.some.inj hroute.request).symm
    rw [hrequest] at hmarked hnamed
    obtain ⟨hpath, hgroup⟩ := hnamed "admin//" (by decide +kernel)
    have hstats : (F.metadata (.struct 1)).find? "path" = some "/stats" := by decide +kernel
    obtain rfl : "/stats" = path := Option.some.inj (hstats.symm.trans hmarked)
    exact ⟨r, hr, hpath.trans (by decide +kernel), hgroup.trans (by decide +kernel), r', hr',
      hkey hsame⟩

end Server

end HttpService
