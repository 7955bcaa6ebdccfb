import HttpService.Proofs.Controller.Introspection
import HttpService.Proofs.Route.Registry
import HttpService.Proofs.Route.Table
import HttpService.Server.Service

/-!
# The composition of chains

A builder program is a list of calls; groups nest in them to any depth. `within gs step` is a step inside
the groups `gs`, so that `first ++ .item (within gs (.bind c own)) :: last` is a program with a place where
a controller is bound. `chain_composition`: the chain of every route is the chain of the server, then what
each group around its place got before that place, then what is the route's own; what a group got is in no
chain outside it; and requests that lead to no route run the chain of the server.

`captured gs` follows the nesting of the program, not the way in which `GroupStep.build` collects
middleware. `build_within` and `bound_within` relate the two, one for each direction.
-/

set_option autoImplicit false

namespace HttpService

/-! ## Places in a program -/

section
variable {M E : Type}

/-- A group around a place: what it does before the step that leads on to the place, and after it. -/
structure Enclosing (M E : Type) where
  path : String
  before : List (GroupStep M E)
  after : List (GroupStep M E)

namespace Enclosing

/-- A step inside groups, the first outermost. -/
def within : List (Enclosing M E) → GroupStep M E → GroupStep M E
  | [], step => step
  | g :: gs, step => .group g.path (g.before ++ within gs step :: g.after)

/-- The prefix that groups add up to. -/
def pathFrom (path : String) (gs : List (Enclosing M E)) : String :=
  gs.foldl (fun path g => Path.normalise (path ++ "/" ++ g.path)) path

/-- The middleware that each group, from the outermost, got before the step that leads on. -/
def captured (gs : List (Enclosing M E)) : List M :=
  gs.flatMap fun g => g.before.flatMap GroupStep.added

theorem added_within {step : GroupStep M E} (h : step.added = []) (gs : List (Enclosing M E)) :
    (within gs step).added = [] := by
  cases gs with
  | nil => exact h
  | cons => rfl

end Enclosing

open Enclosing

namespace GroupStep

variable (F : Family)

theorem buildAll_append (path : String) (xs ys : List (GroupStep M E)) (mw : List M) :
    (buildAll F path mw (xs ++ ys)).routes =
      (buildAll F path mw xs).routes ++
        (buildAll F path (mw ++ xs.flatMap added) ys).routes := by
  induction xs generalizing mw with
  | nil => simp [buildAll]
  | cons x xs ih => simp [buildAll, Built.append, ih]

theorem mem_buildAll {F : Family} {path : String} {mw : List M} {steps : List (GroupStep M E)}
    {r : Route M E} (h : r ∈ (buildAll F path mw steps).routes) :
    ∃ before step after, steps = before ++ step :: after ∧
      r ∈ (step.build F path (mw ++ before.flatMap added)).routes := by
  induction steps generalizing mw with
  | nil => simp [buildAll] at h
  | cons x xs ih =>
    rw [buildAll] at h
    rcases List.mem_append.1 h with h | h
    · exact ⟨[], x, xs, rfl, by simpa using h⟩
    · obtain ⟨before, step, after, rfl, hr⟩ := ih h
      exact ⟨x :: before, step, after, rfl, by simpa using hr⟩

/-- Inside groups a step sees their prefixes and what they captured, and around it nothing changes with
the step, unless it adds middleware. -/
theorem build_within (gs : List (Enclosing M E)) (path : String) (mw : List M) :
    ∃ pre post, ∀ step : GroupStep M E, step.added = [] →
      ((within gs step).build F path mw).routes =
        pre ++ (step.build F (pathFrom path gs) (mw ++ captured gs)).routes ++ post := by
  induction gs generalizing path mw with
  | nil => exact ⟨[], [], fun step _ => by simp [within, pathFrom, captured]⟩
  | cons g gs ih =>
    let inside := Path.normalise (path ++ "/" ++ g.path)
    let seen := mw ++ g.before.flatMap added
    obtain ⟨pre, post, h⟩ := ih inside seen
    refine ⟨(buildAll F inside mw g.before).routes ++ pre,
      post ++ (buildAll F inside seen g.after).routes, fun step hstep => ?_⟩
    have hgroup : ((within (g :: gs) step).build F path mw).routes =
        (buildAll F inside mw g.before).routes ++ (((within gs step).build F inside seen).routes ++
          (buildAll F inside (seen ++ (within gs step).added) g.after).routes) := by
      rw [within, build]
      show (buildAll F inside mw _).routes = _
      rw [buildAll_append, buildAll]
      rfl
    have hseen : seen ++ captured gs = mw ++ captured (g :: gs) := by
      simp [seen, captured]
    rw [hgroup, h step hstep, added_within hstep, hseen, List.append_nil]
    simp only [List.append_assoc]
    rfl

/-- A route that a step gives was bound at some place inside it. -/
theorem bound_within {F : Family} {path : String} {mw : List M} {r : Route M E} :
    {step : GroupStep M E} → r ∈ (step.build F path mw).routes →
    ∃ gs c own, step = within gs (.bind c own) ∧
      r ∈ (c.introspect F (pathFrom path gs) (mw ++ captured gs ++ own)).1
  | .use _, h => by simp [build] at h
  | .bind c own, h => ⟨[], c, own, rfl, by simpa [build, pathFrom, captured] using h⟩
  | .group sub steps, h => by
    obtain ⟨before, step, after, hsteps, hr⟩ := mem_buildAll (by simpa [build, Built.append] using h)
    have hsize : sizeOf step < sizeOf steps := by
      rw [hsteps]
      exact List.sizeOf_lt_of_mem (by simp)
    obtain ⟨gs, c, own, rfl, hc⟩ := bound_within hr
    refine ⟨⟨sub, before, after⟩ :: gs, c, own, by rw [hsteps, within], ?_⟩
    simpa [pathFrom, captured] using hc
termination_by step => sizeOf step

end GroupStep

/-- The routes of a controller get the middleware given to them. -/
theorem Controller.middleware_of_introspect {F : Family} {c : Controller E} {group : String}
    {mw : List M} {r : Route M E} (h : r ∈ (c.introspect F group mw).1) : r.middleware = mw := by
  obtain ⟨result, hresult, hr⟩ := List.mem_filterMap.1 h
  obtain ⟨m, _, rfl⟩ := List.mem_map.1 hresult
  cases hm : introspectMethod F (shortTypeName c.typeName) group mw m with
  | error e => rw [hm] at hr; cases hr
  | ok r' =>
    rw [hm] at hr
    cases hr
    exact (isRouteOf_of_ok hm).2.middleware

end

/-! ## Building a server -/

namespace Server

/-- A call that builds a server. -/
inductive Call
  /-- Middleware of the server, a controller bound, or a group. -/
  | item (step : GroupStep Middleware Endpoint)
  | metrics
  | policy (p : ResponsePolicy)

namespace Call

def apply (F : Family) (s : Server) : Call → Server
  | item step => (Server.step F s step).1
  | metrics => { s with metrics := true }
  | policy p => { s with policy := p }

/-- The middleware that a call adds to the server. -/
def added : Call → List Middleware
  | item step => step.added
  | _ => []

/-- The routes that a call registers. -/
def routes (F : Family) : Call → List (Route Middleware Endpoint)
  | item step => (step.build F "/" []).routes
  | _ => []

def isMetrics : Call → Bool
  | metrics => true
  | _ => false

def policy? : Call → Option ResponsePolicy
  | policy p => some p
  | _ => none

end Call

/-- The server that calls build, in order. -/
def assemble (F : Family) (settings : Settings) (calls : List Call) : Server :=
  calls.foldl (Call.apply F) { settings }

open Enclosing

/-- The calls bind a controller inside groups, with middleware of its own. -/
def BindsAt (calls : List Call) (gs : List (Enclosing Middleware Endpoint))
    (c : Controller Endpoint) (own : List Middleware) : Prop :=
  ∃ first last, calls = first ++ .item (within gs (.bind c own)) :: last

/-- The routes of a controller that is bound so. -/
def routesAt (F : Family) (gs : List (Enclosing Middleware Endpoint)) (c : Controller Endpoint)
    (own : List Middleware) : List (Route Middleware Endpoint) :=
  (c.introspect F (pathFrom "/" gs) (captured gs ++ own)).1

theorem register_idle {s : Server} (h : s.frozen = false)
    (routes : List (Route Middleware Endpoint)) :
    (s.register routes).1 = { s with registry := s.registry.putAll routes } := by
  unfold register
  simp only [h, Bool.false_eq_true, if_false, Registry.registerAll_fst]

/-- What one call changes. -/
theorem Call.apply_idle (F : Family) {s : Server} (h : s.frozen = false) (c : Call) :
    c.apply F s = { s with
      middleware := s.middleware ++ c.added
      registry := s.registry.putAll (c.routes F)
      metrics := s.metrics || c.isMetrics
      policy := c.policy?.getD s.policy } := by
  cases c with
  | metrics => simp [apply, added, routes, isMetrics, policy?, Registry.putAll]
  | policy p => simp [apply, added, routes, isMetrics, policy?, Registry.putAll]
  | item step =>
    cases step with
    | use m =>
      simp [apply, Server.step, added, routes, isMetrics, policy?, GroupStep.added,
        GroupStep.build, Registry.putAll]
    | bind c own =>
      simp [apply, Server.step, added, routes, isMetrics, policy?, GroupStep.added, register_idle h]
    | group path steps =>
      simp [apply, Server.step, added, routes, isMetrics, policy?, GroupStep.added, register_idle h]

/-- Middleware and routes add up, and of the policies the last one stays. -/
theorem foldl_apply (F : Family) (calls : List Call) {s : Server} (h : s.frozen = false) :
    calls.foldl (Call.apply F) s = { s with
      middleware := s.middleware ++ calls.flatMap Call.added
      registry := s.registry.putAll (calls.flatMap (Call.routes F))
      metrics := s.metrics || calls.any Call.isMetrics
      policy := (calls.reverse.findSome? Call.policy?).getD s.policy } := by
  induction calls generalizing s with
  | nil => simp [Registry.putAll]
  | cons c cs ih =>
    have hc : (c.apply F s).frozen = false := by rw [c.apply_idle F h]; exact h
    rw [List.foldl_cons, ih hc, c.apply_idle F h]
    cases hp : c.policy? <;>
      simp [hp, Registry.putAll, Bool.or_assoc, List.findSome?_append]

section
variable {F : Family} {settings : Settings} {calls : List Call}

theorem assemble_eq : assemble F settings calls =
    { settings
      middleware := calls.flatMap Call.added
      registry := Registry.putAll [] (calls.flatMap (Call.routes F))
      metrics := calls.any Call.isMetrics
      policy := (calls.reverse.findSome? Call.policy?).getD .envelope } :=
  (foldl_apply F calls rfl).trans (by simp)

/-- A registered route was bound at some place of the program. -/
theorem place_of_mem {r : Route Middleware Endpoint}
    (h : r ∈ (assemble F settings calls).registry) :
    ∃ gs c own, BindsAt calls gs c own ∧ r ∈ routesAt F gs c own := by
  rw [assemble_eq] at h
  rcases Registry.of_mem_putAll h with h | h
  · obtain ⟨call, hcall, hr⟩ := List.mem_flatMap.1 h
    obtain ⟨first, last, rfl⟩ := List.append_of_mem hcall
    cases call with
    | item step =>
      obtain ⟨gs, c, own, rfl, hc⟩ := GroupStep.bound_within hr
      exact ⟨gs, c, own, ⟨first, last, rfl⟩, by simpa [routesAt] using hc⟩
    | metrics => cases hr
    | policy p => cases hr
  · cases h

/-- Routes bound at a place are registered, unless others took their keys later. -/
theorem registered_at {gs : List (Enclosing Middleware Endpoint)} {c : Controller Endpoint}
    {own : List Middleware} (h : BindsAt calls gs c own) {r : Route Middleware Endpoint}
    (hr : r ∈ routesAt F gs c own) :
    ∃ r' ∈ (assemble F settings calls).registry,
      Registry.sameKey r'.toRouteDoc r.toRouteDoc = true := by
  obtain ⟨first, last, rfl⟩ := h
  obtain ⟨pre, post, hbuild⟩ := GroupStep.build_within F gs "/" []
  rw [assemble_eq]
  refine Registry.exists_mem_putAll
    (List.mem_flatMap.2 ⟨.item (within gs (.bind c own)), by simp, ?_⟩)
  rw [Call.routes, hbuild _ rfl]
  simpa [GroupStep.build, routesAt] using .inr (.inl hr)

/-- A route is bound in a group, or is one of the program in which the group is left empty, with the same
chain. -/
theorem outside_group {first last : List Call} {gs : List (Enclosing Middleware Endpoint)}
    {path : String} {inner : List (GroupStep Middleware Endpoint)}
    (h : calls = first ++ .item (within gs (.group path inner)) :: last)
    {r : Route Middleware Endpoint} (hr : r ∈ (assemble F settings calls).registry) :
    let emptied := assemble F settings (first ++ .item (within gs (.group path [])) :: last)
    r ∈ ((GroupStep.group path inner).build F (pathFrom "/" gs) (captured gs)).routes ∨
    r ∈ emptied.registry ∧ (assemble F settings calls).chainOf r = emptied.chainOf r := by
  intro emptied
  obtain ⟨pre, post, hbuild⟩ := GroupStep.build_within F gs "/" []
  have hroutes (steps : List (GroupStep Middleware Endpoint)) :
      (first ++ Call.item (within gs (.group path steps)) :: last).flatMap (Call.routes F) =
        (first.flatMap (Call.routes F) ++ pre) ++
          ((GroupStep.group path steps).build F (pathFrom "/" gs) (captured gs)).routes ++
          (post ++ last.flatMap (Call.routes F)) := by
    rw [List.flatMap_append, List.flatMap_cons, Call.routes, hbuild _ rfl]
    simp
  have hadded (steps : List (GroupStep Middleware Endpoint)) :
      (Call.item (within gs (.group path steps))).added = [] := added_within rfl gs
  have hempty : ((GroupStep.group path ([] : List (GroupStep Middleware Endpoint))).build F
      (pathFrom "/" gs) (captured gs)).routes = [] := rfl
  rw [assemble_eq, h] at hr
  dsimp only at hr
  rw [hroutes] at hr
  refine (Registry.mem_putAll_without hr).imp_right fun hr => ⟨?_, ?_⟩
  · show r ∈ (assemble F settings _).registry
    rw [assemble_eq]
    dsimp only
    rwa [hroutes, hempty, List.append_nil]
  · show (assemble F settings calls).chainOf r = (assemble F settings _).chainOf r
    rw [assemble_eq, assemble_eq, h]
    simp [chainOf, baseChain, hadded, Call.isMetrics, Call.policy?, List.findSome?_append,
      List.findSome?_cons]

end

/-! ## Rows of a started server -/

section
variable {s : Server} {t t' : RouteTable Entry}

theorem holds_insertRoutes (hrange : t.InRange) {routes : List (Route Middleware Endpoint)}
    (h : s.insertRoutes t routes = .ok t') : t'.InRange ∧ ∀ method (e : Entry),
      t'.Holds method e ↔ t.Holds method e ∨
        ∃ r ∈ routes, method = r.method ∧ e = ⟨r.path, s.chainOf r, r.endpoint⟩ := by
  induction routes generalizing t with
  | nil =>
    cases h
    simpa using hrange
  | cons r rs ih =>
    have hnext := RouteTable.inRange_insert hrange r.method r.path ⟨r.path, s.chainOf r, r.endpoint⟩
    rw [insertRoutes] at h
    split at h
    · rename_i t₁ hinsert
      rw [hinsert] at hnext
      obtain ⟨hrange', hholds⟩ := ih hnext h
      refine ⟨hrange', fun method e => ?_⟩
      rw [hholds, RouteTable.holds_insert hrange hinsert, or_assoc]
      simp
    · cases h

theorem holds_insertBuiltins (hrange : t.InRange) {pages : List (String × Endpoint)}
    {events : List Event} (h : s.insertBuiltins t pages = (.ok t', events)) :
    t'.InRange ∧ ∀ method (e : Entry), t'.Holds method e ↔ t.Holds method e ∨ method = "GET" ∧
      ∃ page ∈ pages, (s.registry.get? "GET" (Path.normalise page.1)) = none ∧
        e = ⟨Path.normalise page.1, s.baseChain, page.2⟩ := by
  induction pages generalizing t events with
  | nil =>
    cases h
    simpa using hrange
  | cons page rest ih =>
    obtain ⟨path, endpoint⟩ := page
    have hnext := RouteTable.inRange_insert hrange "GET" (Path.normalise path)
      ⟨Path.normalise path, s.baseChain, endpoint⟩
    unfold insertBuiltins at h
    dsimp only at h
    split at h
    · rename_i hshadowed
      cases hrest : s.insertBuiltins t rest with
      | mk result more =>
        rw [hrest] at h
        cases h
        obtain ⟨hrange', hholds⟩ := ih hrange hrest
        refine ⟨hrange', fun method e => ?_⟩
        rw [hholds]
        simp [Option.isSome_iff_ne_none.1 hshadowed]
    · rename_i hfree
      split at h
      · rename_i t₁ hinsert
        rw [hinsert] at hnext
        have hnone : s.registry.get? "GET" (Path.normalise path) = none := by simpa using hfree
        obtain ⟨hrange', hholds⟩ := ih hnext h
        refine ⟨hrange', fun method e => ?_⟩
        rw [hholds, RouteTable.holds_insert hrange hinsert]
        simp [hnone, and_or_left, or_assoc]
      · cases h

end

/-- What may serve a request, each with its chain. -/
inductive Serves (F : Family) (s : Server) : Entry → Prop
  | route {r : Route Middleware Endpoint} (bound : r ∈ s.registry) :
    Serves F s ⟨r.path, s.chainOf r, r.endpoint⟩
  | page {path : String} {endpoint : Endpoint} (builtin : (path, endpoint) ∈ (s.builtins F).1) :
    Serves F s ⟨Path.normalise path, s.baseChain, endpoint⟩
  | fallback {endpoint : Endpoint} (h : endpoint ∈ [.rejected, .status 404, .status 405]) :
    Serves F s ⟨none, s.baseChain, endpoint⟩

section
variable {F : Family} {s : Server} {v : Service} {events : List Event}

theorem holds_service (h : s.service F = (.ok v, events)) :
    v.base = s.baseChain ∧ v.table.InRange ∧ ∀ method e, v.table.Holds method e ↔
      (∃ r ∈ s.registry, method = r.method ∧ e = ⟨r.path, s.chainOf r, r.endpoint⟩) ∨
      method = "GET" ∧ ∃ page ∈ (s.builtins F).1,
        s.registry.get? "GET" (Path.normalise page.1) = none ∧
          e = ⟨Path.normalise page.1, s.baseChain, page.2⟩ := by
  unfold service at h
  split at h
  · cases h
  · rename_i t hroutes
    dsimp only at h
    cases hpages : s.insertBuiltins t (s.builtins F).1 with
    | mk result more =>
      rw [hpages] at h
      obtain ⟨hv, _⟩ := Prod.mk.inj h
      obtain ⟨t', rfl, rfl⟩ := map_eq_ok.1 hv
      obtain ⟨hrange, hbound⟩ := holds_insertRoutes RouteTable.inRange_empty hroutes
      obtain ⟨hrange', hbuiltin⟩ := holds_insertBuiltins hrange hpages
      refine ⟨rfl, hrange', fun method e => ?_⟩
      rw [hbuiltin, hbound]
      simp [RouteTable.not_holdsAt_empty, RouteTable.Holds]

theorem serves_entry (h : s.service F = (.ok v, events)) (unread : Bool) (request : Request) :
    s.Serves F (v.entry unread request).1 := by
  obtain ⟨hbase, hrange, hrows⟩ := holds_service h
  have hrow {method : String} {e : Entry} (he : v.table.Holds method e) : s.Serves F e := by
    rcases (hrows method e).1 he with ⟨r, hr, _, rfl⟩ | ⟨_, ⟨path, endpoint⟩, hpage, _, rfl⟩
    · exact .route hr
    · exact .page hpage
  unfold Service.entry
  rw [hbase]
  dsimp only
  split
  · exact .fallback (by simp)
  · split
    · rename_i hfound
      rcases RouteTable.holds_of_lookup hfound with he | he
      · exact hrow he
      · exact hrow he
    · exact .fallback (by simp)
    · exact .fallback (by simp)
    · rename_i hmissing
      exact absurd hmissing (RouteTable.lookup_ne_missing hrange _)

end

/-- **The composition of chains.** Whatever calls build a server:

* its base chain is recovery, tracing, metrics if they are asked for, the response of the last policy,
  a time limit unless that is zero, and all middleware of the server, also what comes after a route;
* every route was bound at a place of the program, and its chain is the base chain, then what each group
  around the place got before the step that leads there, from the outermost, then its own middleware;
* a route bound at a place is registered, unless another one took its key;
* a route is bound in a group, or is one of the program in which that group is left empty, where it has
  the same chain: none of the middleware in a group is in a chain outside it;
* once started, the server has a row for every route with that chain, and whatever serves a request is a
  route, or a built-in page or a fallback with just the base chain. -/
theorem chain_composition (F : Family) (settings : Settings) (calls : List Call) :
    let s := assemble F settings calls
    s.baseChain = [.recovery, .tracing false] ++
      (if calls.any Call.isMetrics then [.metrics] else []) ++
      [.respond ((calls.reverse.findSome? Call.policy?).getD .envelope)] ++
      (if settings.writeTimeout.isZero then [] else [.timeout settings.writeTimeout]) ++
      calls.flatMap Call.added ∧
    (∀ r ∈ s.registry, ∃ gs c own, BindsAt calls gs c own ∧ r ∈ routesAt F gs c own ∧
      s.chainOf r = s.baseChain ++ captured gs ++ own) ∧
    (∀ gs c own, BindsAt calls gs c own → ∀ r ∈ routesAt F gs c own,
      ∃ r' ∈ s.registry, Registry.sameKey r'.toRouteDoc r.toRouteDoc = true) ∧
    (∀ first gs path inner last,
      calls = first ++ .item (within gs (.group path inner)) :: last →
      let emptied := assemble F settings (first ++ .item (within gs (.group path [])) :: last)
      ∀ r ∈ s.registry,
        r ∈ ((GroupStep.group path inner).build F (pathFrom "/" gs) (captured gs)).routes ∨
        r ∈ emptied.registry ∧ s.chainOf r = emptied.chainOf r) ∧
    ∀ v events, s.service F = (.ok v, events) →
      (∀ r ∈ s.registry, v.table.Holds r.method ⟨r.path, s.chainOf r, r.endpoint⟩) ∧
      ∀ unread request, s.Serves F (v.entry unread request).1 := by
  intro s
  refine ⟨?_, fun r hr => ?_, fun gs c own h r hr => registered_at h hr,
    fun first gs path inner last h r hr => outside_group h hr, fun v events h => ?_⟩
  · show (assemble F settings calls).baseChain = _
    rw [assemble_eq]
    rfl
  · obtain ⟨gs, c, own, hbinds, hr⟩ := place_of_mem hr
    refine ⟨gs, c, own, hbinds, hr, ?_⟩
    rw [chainOf, Controller.middleware_of_introspect hr, List.append_assoc]
  · exact ⟨fun r hr => ((holds_service h).2.2 _ _).2 (.inl ⟨r, hr, rfl, rfl⟩), serves_entry h⟩

/-- The middleware `late` and what the server asks for come after the route: it has the one of the server
and not the one of the group. -/
theorem chain_in_nested_groups :
    let user (name : String) : Middleware := .user ⟨name, [], true, []⟩
    let marker : Field :=
      ⟨"meta", "meta", "path:\"/items\" method:\"get\"", "", false, .marker⟩
    let F : Family := ⟨[⟨"ListReq", [marker]⟩]⟩
    let c : Controller Endpoint :=
      ⟨"Shop", [.bindable "list" ⟨"ListReq", .struct 0⟩ ⟨"ListReq", .struct 0⟩ .health]⟩
    let api : Enclosing Middleware Endpoint := ⟨"api", [.use (user "auth")], [.use (user "late")]⟩
    let v2 : Enclosing Middleware Endpoint := ⟨"v2", [.use (user "audit")], []⟩
    let bound := Call.item (within [api, v2] (.bind c [user "own"]))
    let calls := [bound, .metrics, .item (.use (user "server")), .policy .httpNative]
    let settings := { Settings.default with openapiPath := "", writeTimeout := .ofSecs 5 }
    let s := assemble F settings calls
    ∃ v events, s.service F = (.ok v, events) ∧ ∃ r ∈ s.registry,
      v.table.Holds r.method ⟨r.path, s.chainOf r, r.endpoint⟩ ∧
      s.chainOf r = [.recovery, .tracing false, .metrics, .respond .httpNative,
        .timeout settings.writeTimeout, user "server", user "auth", user "audit", user "own"] := by
  intro user marker F c api v2 bound calls settings s
  obtain ⟨hbase, _, hbound, houtside, hservice⟩ := chain_composition F settings calls
  have hstarts : (s.service F).1.toBool = true := by decide +kernel
  have hroute : routesAt F [api, v2] c [user "own"] ≠ [] := by
    have hroutable : (ControllerMethod.bindable "list" ⟨"ListReq", .struct 0⟩
      ⟨"ListReq", .struct 0⟩ Endpoint.health).isRoutable F = true := by decide +kernel
    obtain ⟨hroutes, _⟩ := c.forall₂_introspect F (pathFrom "/" [api, v2])
      (captured [api, v2] ++ [user "own"])
    intro hnil
    rw [routesAt] at hnil
    rw [hnil] at hroutes
    simp [c, hroutable] at hroutes
  obtain ⟨r₀, hr₀⟩ := List.exists_mem_of_ne_nil _ hroute
  obtain ⟨r, hr, _⟩ := hbound [api, v2] c [user "own"] ⟨[], _, rfl⟩ r₀ hr₀
  have hmiddleware : r.middleware = [user "auth", user "audit", user "own"] := by
    rcases houtside [] [api] "v2" [.use (user "audit"), .bind c [user "own"]] _ rfl r hr with
      hin | ⟨hout, _⟩
    · have hbind : r ∈ (c.introspect F (Path.normalise (pathFrom "/" [api] ++ "/" ++ "v2"))
          [user "auth", user "audit", user "own"]).1 := by
        simpa [GroupStep.build, GroupStep.buildAll, Built.append, GroupStep.added, captured, api]
          using hin
      exact Controller.middleware_of_introspect hbind
    · exact absurd hout List.not_mem_nil
  cases hstart : s.service F with
  | mk result events =>
    rw [hstart] at hstarts
    cases result with
    | error f => cases hstarts
    | ok v =>
      refine ⟨v, events, rfl, r, hr, (hservice v events hstart).1 r hr, ?_⟩
      rw [chainOf, hmiddleware, hbase]
      rfl

end Server

end HttpService
