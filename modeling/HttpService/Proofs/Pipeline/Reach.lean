import HttpService.Proofs.Pipeline.Growth
import HttpService.Proofs.Pipeline.ResponseLaw

/-!
# Where a chain meets its end

A middleware runs what it stands around at most once, at the place that `enter?` tells. So a whole chain
meets its end at most once: at `reach?`, if at all, and still with the request it was started with
(`request_reach`). Ends that do the same there make the same chain (`chain_congr`), and what the end left
only grows on the way out (`grows_chain`).
-/

set_option autoImplicit false

namespace HttpService

/-! ## The request stays -/

theorem Exchange.materialise_request (x : Exchange) (p : ResponsePolicy) :
    (x.materialise p).1.request = x.request := by
  unfold materialise
  split
  · rfl
  · split
    · rfl
    · unfold writePayload
      split <;> rfl

theorem Action.apply_request (a : Action) (s : State) :
    (a.apply s).exchange.request = s.exchange.request := by
  cases a with
  | pushError f => exact s.exchange.pushError_request f
  | materialise p => exact s.exchange.materialise_request p
  | _ => rfl

/-- From every state, the request stays. -/
def Faithful (p : Step) : Prop :=
  ∀ ds (s : State), (p ds s).2.exchange.request = s.exchange.request

namespace Faithful

variable {p q : Step}

theorem andThen (hp : Faithful p) (hq : Faithful q) : Faithful (p.andThen q) := by
  intro ds s
  have hfirst := hp ds s
  unfold Step.andThen
  rcases hrun : p ds s with ⟨_ | _ | _, s'⟩ <;> rw [hrun] at hfirst
  · exact (hq ds s').trans hfirst
  · exact hfirst
  · exact hfirst

theorem sleep (nanos : Nat) : Faithful (Step.sleep nanos) := by
  intro ds s
  unfold Step.sleep
  dsimp only
  split <;> rfl

theorem composes :
    Step.Composes (fun f => ∀ s : State, (f s).exchange.request = s.exchange.request) Faithful where
  skip _ _ := rfl
  update h _ s := h s
  panic _ _ _ := rfl
  sleep := sleep
  andThen := andThen

theorem actions (as : List Action) : Faithful (Action.steps as) :=
  composes.actions Action.apply_request as

theorem enter (u : UserMiddleware) : Faithful u.enter :=
  andThen (fun _ _ => rfl) (actions u.pre)

end Faithful

namespace Middleware

variable {m : Middleware} {ms : List Middleware} {ds ds' : List Nat} {s s' : State} {p q : Step}

theorem checkLimit_exchange (limiter : Nat) (key : String) (s : State) :
    (checkLimit limiter key s).2.exchange = s.exchange := by
  unfold checkLimit
  split <;> rfl

theorem request_enter (h : m.enter? ds s = some (ds', s')) :
    s'.exchange.request = s.exchange.request := by
  cases m with
  | recovery | respond | metrics | timeout =>
    cases h
    rfl
  | tracing records =>
    cases h
    exact (openSpan_kept records s).2
  | rateLimit limiter key =>
    have hkept := checkLimit_exchange limiter (key.extract s.exchange.request) s
    unfold enter? at h
    rcases hcheck : checkLimit limiter (key.extract s.exchange.request) s with ⟨_ | _, s''⟩ <;>
      simp only [hcheck] at h hkept <;> cases h
    rw [hkept]
  | user u =>
    have hkept := Faithful.enter u ds s
    unfold enter? at h
    rcases henter : u.enter ds s with ⟨_ | _ | _, s''⟩ <;> simp only [henter] at h hkept
    · split at h <;> cases h
      exact hkept
    · cases h
    · cases h

/-! ## The end of a chain -/

/-- A middleware asks for the rest of its chain where it enters it, and nowhere else. -/
theorem around_congr (h : ∀ ds' s', m.enter? ds s = some (ds', s') → p ds' s' = q ds' s') :
    m.around p ds s = m.around q ds s := by
  cases m with
  | recovery =>
    change Step.guarded p ds s = Step.guarded q ds s
    rw [Step.guarded, Step.guarded, h ds s rfl]
  | respond policy =>
    change Step.andThen p _ ds s = Step.andThen q _ ds s
    rw [Step.andThen, Step.andThen, h ds s rfl]
  | tracing records =>
    change traced records p ds s = traced records q ds s
    rw [traced, traced, Step.guarded, Step.guarded, h ds _ rfl]
  | metrics =>
    have hq : p ds (arrive s) = q ds (arrive s) := h ds _ rfl
    unfold arrive at hq
    change counted p ds s = counted q ds s
    simp only [counted, Step.guarded, hq]
  | timeout limit =>
    change Step.limited limit p ds s = Step.limited limit q ds s
    rw [Step.limited, Step.limited, h _ s rfl]
  | rateLimit limiter key =>
    unfold enter? at h
    unfold around
    dsimp only
    rcases hcheck : checkLimit limiter (key.extract s.exchange.request) s with ⟨_ | _, s''⟩ <;>
      simp only [hcheck] at h ⊢
    exact h _ _ rfl
  | user u =>
    unfold enter? at h
    rw [u.around_eq, u.around_eq]
    split
    · next hcontinues =>
      unfold Step.andThen
      rcases henter : u.enter ds s with ⟨_ | _ | _, s''⟩ <;>
        simp only [henter, hcontinues, if_true] at h ⊢
      rw [h _ _ rfl]
    · rfl

/-- Where the end of a chain starts, and under which deadlines, if it runs at all. -/
def reach? : List Middleware → List Nat → State → Option (List Nat × State)
  | [], ds, s => some (ds, s)
  | m :: ms, ds, s =>
    match m.enter? ds s with
    | some (ds', s') => reach? ms ds' s'
    | none => none

theorem request_reach (h : reach? ms ds s = some (ds', s')) :
    s'.exchange.request = s.exchange.request := by
  induction ms generalizing ds s with
  | nil =>
    cases h
    rfl
  | cons m ms ih =>
    rw [reach?] at h
    split at h
    · next henter => exact (ih h).trans (request_enter henter)
    · cases h

/-- A chain asks its end where it is reached, and nowhere else. -/
theorem chain_congr (h : ∀ ds' s', reach? ms ds s = some (ds', s') → p ds' s' = q ds' s') :
    chain ms p ds s = chain ms q ds s := by
  induction ms generalizing ds s with
  | nil => exact h ds s rfl
  | cons m ms ih =>
    refine around_congr fun ds₁ s₁ henter => ih fun ds₂ s₂ hreach => h ds₂ s₂ ?_
    rw [reach?, henter]
    exact hreach

theorem chain_append (ms ms' : List Middleware) (p : Step) : chain (ms ++ ms') p = chain ms (chain ms' p) :=
  List.foldr_append

/-- What the end of a chain left only grows on the way out. -/
theorem grows_chain (h : reach? ms ds s = some (ds', s')) (p : Step) :
    (p ds' s').2.exchange.Grows (chain ms p ds s).2.exchange := by
  induction ms generalizing ds s with
  | nil =>
    cases h
    exact .refl _
  | cons m ms ih =>
    rw [reach?] at h
    split at h
    · next henter => exact (ih h).trans (grows_around henter (chain ms p))
    · cases h

end Middleware

end HttpService
