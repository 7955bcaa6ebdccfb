import HttpService.Proofs.Pipeline.Deadlines
import HttpService.Proofs.Pipeline.Reach

/-!
# User code as a sequence of effects

A chain of user middleware around an endpoint does one thing after another to its exchange.
`Endpoint.effects` and `UserMiddleware.effects` list these as actions, for a request and the metrics that
the endpoint may show. `Enacts.chain`: a run does all of them, or those before a panic, or those before a
wait in which it is cut off. It may be cut off in any wait (`Action.steps_cut_off`).
-/

set_option autoImplicit false

namespace HttpService

namespace Action

/-- What an action does to an exchange. -/
def effect (a : Action) (x : Exchange) : Exchange := (a.apply ⟨x, default⟩).exchange

theorem apply_exchange (a : Action) (s : State) : (a.apply s).exchange = a.effect s.exchange := by
  cases a <;> rfl

theorem effect_request (a : Action) (x : Exchange) : (a.effect x).request = x.request :=
  a.apply_request ⟨x, default⟩

/-- What actions do to an exchange, one after another. -/
def effects (as : List Action) (x : Exchange) : Exchange := as.foldl (fun x a => a.effect x) x

theorem effects_append (as bs : List Action) (x : Exchange) :
    effects (as ++ bs) x = effects bs (effects as x) :=
  List.foldl_append

theorem effects_request (as : List Action) (x : Exchange) : (effects as x).request = x.request := by
  induction as generalizing x with
  | nil => rfl
  | cons a as ih => exact (ih (a.effect x)).trans (a.effect_request x)

end Action

open HttpService.Action (effects)

/-- A run did all of the actions to the exchange, or those before a panic, or those before a wait in which
it was cut off. -/
inductive Enacted (as : List Action) (x : Exchange) : Outcome × State → Prop
  | returned {s : State} (exchange : s.exchange = effects as x) : Enacted as x (.returned, s)
  | panicked {message : Option String} {s : State} {done rest : List Action}
      (split : as = done ++ .panic message :: rest) (exchange : s.exchange = effects done x) :
      Enacted as x (.panicked message, s)
  | abandoned {level : Nat} {s : State} {done rest : List Action} {d : Duration}
      (split : as = done ++ .sleep d :: rest) (exchange : s.exchange = effects done x) :
      Enacted as x (.abandoned level, s)

namespace Enacted

variable {as bs : List Action} {x : Exchange} {run : Outcome × State}

/-- The actions that come after do not matter to a run that stopped. -/
theorem of_stopped (h : Enacted as x run) (hrun : run.1 ≠ .returned) (bs : List Action) :
    Enacted (as ++ bs) x run := by
  cases h with
  | returned exchange => exact absurd rfl hrun
  | panicked split exchange => exact .panicked (by rw [split, List.append_assoc]; rfl) exchange
  | abandoned split exchange => exact .abandoned (by rw [split, List.append_assoc]; rfl) exchange

theorem after (h : Enacted bs (effects as x) run) : Enacted (as ++ bs) x run := by
  cases h with
  | returned exchange => exact .returned (by rw [exchange, Action.effects_append])
  | panicked split exchange =>
    exact .panicked (by rw [split, List.append_assoc]) (by rw [exchange, Action.effects_append])
  | abandoned split exchange =>
    exact .abandoned (by rw [split, List.append_assoc]) (by rw [exchange, Action.effects_append])

end Enacted

/-- For a request and with these metrics, `p` does the actions. -/
def Enacts (r : Request) (m : Metrics) (p : Step) (as : List Action) : Prop :=
  ∀ ds (s : State), s.exchange.request = r → s.site.metrics = m → Enacted as s.exchange (p ds s)

namespace Enacts

variable {r : Request} {m : Metrics} {p q : Step} {as bs : List Action}

theorem update {f : State → State}
    (h : ∀ s : State, s.exchange.request = r → s.site.metrics = m →
      (f s).exchange = effects as s.exchange) : Enacts r m (Step.update f) as :=
  fun _ s hr hm => .returned (h s hr hm)

theorem note (n : Note) : Enacts r m (.update fun s => s.note n) [] := update fun _ _ _ => rfl

theorem andThen (hp : Enacts r m p as) (hkept : Confined p) (hq : Enacts r m q bs) :
    Enacts r m (p.andThen q) (as ++ bs) := by
  intro ds s hr hm
  have hfirst := hp ds s hr hm
  have hmetrics := (hkept ds s).1
  unfold Step.andThen
  rcases hrun : p ds s with ⟨_ | message | level, s'⟩ <;> rw [hrun] at hfirst hmetrics
  · cases hfirst with
    | returned exchange =>
      have hr' : s'.exchange.request = r := by rw [exchange, Action.effects_request, hr]
      exact (exchange ▸ hq ds s' hr' (hmetrics.trans hm)).after
  · exact hfirst.of_stopped nofun bs
  · exact hfirst.of_stopped nofun bs

theorem action (a : Action) : Enacts r m a.step [a] := by
  cases a with
  | sleep d =>
    intro ds s _ _
    unfold Action.step Step.sleep
    dsimp only
    split
    · have hsplit : [Action.sleep d] = [] ++ .sleep d :: [] := rfl
      exact .abandoned hsplit rfl
    · exact .returned rfl
  | panic message =>
    have hsplit : [Action.panic message] = [] ++ .panic message :: [] := rfl
    exact fun _ _ _ _ => .panicked hsplit rfl
  | _ => exact update fun s _ _ => Action.apply_exchange _ s

theorem actions (as : List Action) : Enacts r m (Action.steps as) as := by
  induction as with
  | nil => exact fun _ _ _ _ => .returned rfl
  | cons a as ih => exact (action a).andThen (Confined.layers.action (.apply a)) ih

end Enacts

/-! ## Endpoints -/

/-- What a handler does once it answers. -/
def Reply.effects (bound : Json) (r : Request) : Reply → List Action
  | .echo => [.setPayload (.json bound)]
  | .payload p => [.setPayload p]
  | .nothing => []
  | .unencodable => [.pushError Payload.noText]
  | .failure f => [.pushError f]
  | .context header => [.setPayload (.json (Endpoint.contextView header (.start r "")))]

/-- What a handler does for a request: an error if that cannot be bound, else its actions and its answer. -/
def Handler.effects (h : Handler) (r : Request) : List Action :=
  match bind h.family h.request h.decode r with
  | .error f => [.pushError f]
  | .ok bound => h.actions ++ h.reply.effects bound r

/-- What an endpoint does for a request, where it shows these metrics. -/
def Endpoint.effects (r : Request) (m : Metrics) : Endpoint → List Action
  | .actions as => as
  | .handler h => h.effects r
  | .status n => [.setStatus n]
  | .rejected => []
  | .health => [.write 200 ContentType.json healthBody]
  | .document text => [.write 200 ContentType.json (Text.encode text)]
  | .page template path => [.write 200 ContentType.html (Text.encode (Page.fill template path))]
  | .metrics => [.write 200 ContentType.exposition (Text.encode (Exposition.text m))]

namespace Enacts

variable {r : Request} {m : Metrics}

theorem answer (bound : Json) (reply : Reply) :
    Enacts r m (.update (Endpoint.answer bound reply)) (reply.effects bound r) := by
  refine update fun s hr _ => ?_
  subst hr
  cases reply <;> rfl

theorem handler (h : Handler) : Enacts r m (Endpoint.invoke h) (h.effects r) := by
  intro ds s hr hm
  unfold Endpoint.invoke Handler.effects
  rw [hr]
  cases bind h.family h.request h.decode r with
  | error f => exact .returned rfl
  | ok bound =>
    have hkept : Confined (Action.steps h.actions) := Confined.layers.actions h.actions
    exact ((actions h.actions).andThen hkept (answer bound h.reply)) ds s hr hm

theorem endpoint (e : Endpoint) : Enacts r m e.step (e.effects r m) := by
  cases e with
  | actions as => exact actions as
  | handler h => exact handler h
  | metrics =>
    refine update fun s _ hm => ?_
    subst hm
    rfl
  | rejected => exact fun _ _ _ _ => .returned rfl
  | _ => exact update fun _ _ _ => rfl

end Enacts

/-! ## Chains of user middleware -/

/-- What a chain does around an endpoint that does `core`. -/
def UserMiddleware.effects (core : List Action) : List UserMiddleware → List Action
  | [] => core
  | u :: us => u.pre ++ if u.continues then effects core us ++ u.post else []

namespace Enacts

variable {r : Request} {m : Metrics}

theorem enter (u : UserMiddleware) : Enacts r m u.enter u.pre :=
  (note _).andThen (.update (.note _)) (actions u.pre)

theorem exit (u : UserMiddleware) : Enacts r m u.exit u.post := by
  have hexit := (actions u.post).andThen (Confined.layers.actions u.post)
    (note (.value (.str (u.name ++ ".post")))) (r := r) (m := m)
  rwa [List.append_nil] at hexit

/-- A chain of user middleware around an endpoint does its effects, one after another. -/
theorem chain (us : List UserMiddleware) (e : Endpoint) :
    Enacts r m (Middleware.chain (us.map .user) e.step) (UserMiddleware.effects (e.effects r m) us) := by
  induction us with
  | nil => exact endpoint e
  | cons u us ih =>
    have hrest : Confined (Middleware.chain (us.map .user) e.step) := .chain (by simp) e
    rw [List.map_cons, UserMiddleware.effects]
    show Enacts r m (Middleware.around (.user u) (Middleware.chain (us.map .user) e.step)) _
    rw [u.around_eq]
    split
    · exact (enter u).andThen (Confined.layers.enter u) (ih.andThen hrest (exit u))
    · rw [List.append_nil]
      exact enter u

end Enacts

/-! ## Cut-offs -/

/-- Neither a wait nor a panic. -/
def Action.isInstant : Action → Bool
  | .sleep _ => false
  | .panic _ => false
  | _ => true

theorem Action.step_of_isInstant {a : Action} (h : a.isInstant = true) : a.step = .update a.apply := by
  cases a with
  | sleep | panic => cases h
  | _ => rfl

theorem Action.apply_timer (a : Action) (s : State) : (a.apply s).site.timer = s.site.timer := by
  cases a <;> rfl

theorem Action.steps_cons (a : Action) (as : List Action) :
    Action.steps (a :: as) = a.step.andThen (Action.steps as) := rfl

/-- A deadline that passes first in a wait cuts off what comes after it, whatever was done before. -/
theorem Action.steps_cut_off {done : List Action} (hdone : done.all Action.isInstant = true) (d : Duration)
    (rest : List Action) {deadline : Nat} {ds : List Nat} {s : State}
    (hleads : Step.Leads (s.site.timer + d.nanos) deadline
      (Step.passed? (s.site.timer + d.nanos) ds)) :
    ∃ s', Action.steps (done ++ .sleep d :: rest) (deadline :: ds) s = (.abandoned ds.length, s') ∧
      s'.exchange = effects done s.exchange := by
  induction done generalizing s with
  | nil =>
    refine ⟨{ s with site.timer := deadline }, ?_, rfl⟩
    rw [List.nil_append, Action.steps_cons]
    unfold Step.andThen Action.step Step.sleep
    dsimp only
    rw [Step.passed?_of_leads hleads]
  | cons a done ih =>
    rw [List.all_cons, Bool.and_eq_true] at hdone
    rw [← a.apply_timer s] at hleads
    obtain ⟨s', hrun, hexchange⟩ := ih hdone.2 hleads
    refine ⟨s', ?_, ?_⟩
    · rw [List.cons_append, Action.steps_cons, Action.step_of_isInstant hdone.1]
      exact hrun
    · rw [hexchange, a.apply_exchange]
      rfl

end HttpService
