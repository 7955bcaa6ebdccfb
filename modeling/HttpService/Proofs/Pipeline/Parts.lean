import HttpService.Pipeline.Endpoint
import HttpService.Proofs.Pipeline.Deeds

/-!
# Properties of pipelines, part by part

A pipeline is put together from updates, waits and panics. `Step.Composes` is a property of steps that goes
from one step and the next to both, so that user code has it once the updates of single actions have it
(`Composes.actions`). `Step.Layers` is one that also gets past what middleware does around a step, so that
every chain has it (`Layers.chain`). `free` are the updates that have the property. Of the updates that
pipelines make, only those of the metrics layer change the metrics.
-/

set_option autoImplicit false

namespace HttpService

/-! ## Updates and metrics -/

/-- From every state, an update leaves the metrics as they are. -/
def LeavesMetrics (f : State → State) : Prop :=
  ∀ s, (f s).site.metrics = s.site.metrics

namespace LeavesMetrics

theorem note (n : Note) : LeavesMetrics fun s => s.note n := fun _ => rfl

theorem apply (a : Action) : LeavesMetrics a.apply := by
  cases a <;> exact fun _ => rfl

theorem answer (bound : Json) (reply : Reply) : LeavesMetrics (Endpoint.answer bound reply) := by
  cases reply <;> exact fun _ => rfl

theorem closeSpan (records : Bool) (span : Exchange → Span) :
    LeavesMetrics (Middleware.closeSpan records span) := by
  intro s
  unfold Middleware.closeSpan
  split <;> rfl

theorem timedOut (limit : Duration) : LeavesMetrics (Step.timedOut limit) := by
  intro s
  unfold Step.timedOut
  dsimp only
  split <;> rfl

theorem checkLimit (limiter : Nat) (key : ClientKey) :
    LeavesMetrics fun s => (Middleware.checkLimit limiter (key.extract s.exchange.request) s).2 := by
  intro s
  unfold Middleware.checkLimit
  dsimp only
  split <;> rfl

end LeavesMetrics

namespace Step

/-- Changes the state once a step is over, in one way if it returned and in another if it stopped. -/
def closing (returned stopped : State → State) (p : Step) : Step := fun ds s =>
  match p ds s with
  | (.returned, s) => (.returned, returned s)
  | (o, s) => (o, stopped s)

/-! ## User code -/

/-- A property that goes from one step and the next to both. -/
structure Composes (free : (State → State) → Prop) (P : Step → Prop) : Prop where
  skip : P skip
  update {f : State → State} (h : free f) : P (update f)
  panic (message : Option String) : P fun _ s => (.panicked message, s)
  sleep (nanos : Nat) : P (sleep nanos)
  andThen {p q : Step} (hp : P p) (hq : P q) : P (p.andThen q)

namespace Composes

variable {free : (State → State) → Prop} {P : Step → Prop} (h : Composes free P)
include h

theorem sequence {ps : List Step} (hps : ∀ p ∈ ps, P p) : P (Step.sequence ps) := by
  induction ps with
  | nil => exact h.skip
  | cons p ps ih => exact h.andThen (hps p (.head _)) (ih fun q hq => hps q (.tail _ hq))

theorem action {a : Action} (ha : free a.apply) : P a.step := by
  cases a with
  | sleep d => exact h.sleep d.nanos
  | panic message => exact h.panic message
  | _ => exact h.update ha

theorem actions (hfree : ∀ a : Action, free a.apply) (as : List Action) : P (Action.steps as) := by
  refine h.sequence fun p hp => ?_
  obtain ⟨a, _, rfl⟩ := List.mem_map.1 hp
  exact h.action (hfree a)

end Composes

/-! ## Layers -/

/-- A property that also gets past what middleware does around a step. -/
structure Layers (free : (State → State) → Prop) (P : Step → Prop) : Prop
    extends Composes free P where
  quiet {f : State → State} (h : LeavesMetrics f) : free f
  /-- What is done may depend on the state. -/
  choose {c : State → Step} (h : ∀ s, P (c s)) : P fun ds s => c s ds s
  guarded {p : Step} (hp : P p) : P (guarded p)
  limited (limit : Duration) {p : Step} (hp : P p) : P (limited limit p)
  closing {returned stopped : State → State} {p : Step} (hr : free returned) (hs : free stopped)
    (hp : P p) : P (p.closing returned stopped)

end Step

/-- A handler as a step that the binding of the request chooses. -/
theorem Endpoint.invoke_eq (h : Handler) :
    invoke h = fun ds s =>
      (match HttpService.bind h.family h.request h.decode s.exchange.request with
        | .error f => Step.update fun s => s.put (s.exchange.pushError f)
        | .ok bound => (Action.steps h.actions).andThen (.update (answer bound h.reply))) ds s := by
  funext ds s
  unfold invoke
  cases HttpService.bind h.family h.request h.decode s.exchange.request <;> rfl

namespace Middleware

theorem traced_eq (records : Bool) (p : Step) :
    traced records p = (Step.update (openSpan records)).andThen
      ((Step.guarded p).closing (closeSpan records .ofExchange) (closeSpan records .ofDropped)) := rfl

/-- Which request is counted, and from when, is settled on the way in. -/
theorem counted_eq (p : Step) :
    counted p = fun ds s =>
      ((Step.update fun s =>
        { s with site.metrics := s.site.metrics.enter s.exchange.request.labels }).andThen
      ((Step.guarded p).closing
        (fun s' => leave s.exchange.request.labels (complete s.site.timer s'))
        (leave s.exchange.request.labels))) ds s := rfl

/-- A limiter is asked, and what it answers chooses the step. -/
theorem around_rateLimit_eq (limiter : Nat) (key : ClientKey) (p : Step) :
    around (.rateLimit limiter key) p = fun ds s =>
      ((Step.update fun s =>
        (checkLimit limiter (key.extract s.exchange.request) s).2).andThen
      (match (checkLimit limiter (key.extract s.exchange.request) s).1 with
        | .ok _ => p
        | .error wait => .update (rejectClient wait))) ds s := by
  funext ds s
  unfold around Step.andThen Step.update
  dsimp only
  rcases checkLimit limiter (key.extract s.exchange.request) s with ⟨_ | _, s'⟩ <;> rfl

end Middleware

namespace Step.Layers

variable {free : (State → State) → Prop} {P : Step → Prop} (h : Layers free P)
include h

theorem actions (as : List Action) : P (Action.steps as) :=
  h.toComposes.actions (fun a => h.quiet (.apply a)) as

theorem enter (u : UserMiddleware) : P u.enter :=
  h.andThen (h.update (h.quiet (.note _))) (h.actions u.pre)

theorem exit (u : UserMiddleware) : P u.exit :=
  h.andThen (h.actions u.post) (h.update (h.quiet (.note _)))

theorem endpoint (e : Endpoint) : P e.step := by
  cases e with
  | actions as => exact h.actions as
  | handler handler =>
    show P (Endpoint.invoke handler)
    rw [Endpoint.invoke_eq]
    refine h.choose fun s => ?_
    split
    · exact h.update (h.quiet fun _ => rfl)
    · exact h.andThen (h.actions _) (h.update (h.quiet (.answer _ _)))
  | rejected => exact h.skip
  | _ => exact h.update (h.quiet fun _ => rfl)

/-- The metrics layer has the property if changes of the metrics have it. -/
theorem around {m : Middleware} {p : Step} (hm : m ≠ .metrics ∨ ∀ f, free f) (hp : P p) :
    P (m.around p) := by
  cases m with
  | recovery => exact h.guarded hp
  | respond policy => exact h.andThen hp (h.update (h.quiet fun _ => rfl))
  | tracing records =>
    show P (Middleware.traced records p)
    rw [Middleware.traced_eq]
    refine h.andThen (h.update (h.quiet fun _ => rfl)) (h.closing ?_ ?_ (h.guarded hp))
    all_goals exact h.quiet (.closeSpan records _)
  | metrics =>
    have hfree := hm.resolve_left fun hne => hne rfl
    show P (Middleware.counted p)
    rw [Middleware.counted_eq]
    exact h.choose fun s =>
      h.andThen (h.update (hfree _)) (h.closing (hfree _) (hfree _) (h.guarded hp))
  | timeout limit => exact h.limited limit hp
  | rateLimit limiter key =>
    rw [Middleware.around_rateLimit_eq]
    refine h.choose fun s => h.andThen (h.update (h.quiet (.checkLimit limiter key))) ?_
    split
    · exact hp
    · exact h.update (h.quiet fun _ => rfl)
  | user u =>
    rw [u.around_eq]
    split
    · exact h.andThen (h.enter u) (h.andThen hp (h.exit u))
    · exact h.enter u

theorem chain {ms : List Middleware} (hms : .metrics ∉ ms ∨ ∀ f, free f) (e : Endpoint) :
    P (Middleware.chain ms e.step) := by
  induction ms with
  | nil => exact h.endpoint e
  | cons m ms ih =>
    rw [List.mem_cons, not_or] at hms
    exact h.around (hms.imp_left fun hne => Ne.symm hne.1) (ih (hms.imp_left (·.2)))

end Step.Layers

end HttpService
