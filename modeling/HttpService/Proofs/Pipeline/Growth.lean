import HttpService.Proofs.Metrics.Conservation
import HttpService.Proofs.Response.WriteOnce

/-!
# Exchanges only grow

Whatever runs on an exchange adds errors behind those that are there, and leaves a response that was written
as it is. `Middleware.enter?` is where the rest of a chain starts inside a middleware, and
`Middleware.grows_around` says that what the rest left only grows on the way out. A guard does nothing but
catch panics: `Middleware.around_guard`.
-/

set_option autoImplicit false

namespace HttpService

/-! ## What exchanges keep -/

namespace Exchange

/-- Errors are only added, and a body that was written stays. -/
structure Grows (x x' : Exchange) : Prop where
  errors : x.errors <+: x'.errors
  written : x.writer.isWritten = true →
    x'.writer.status = x.writer.status ∧ x'.writer.body = x.writer.body

namespace Grows

variable {x x' x'' : Exchange}

theorem refl (x : Exchange) : x.Grows x := ⟨List.prefix_refl _, fun _ => ⟨rfl, rfl⟩⟩

theorem isWritten (h : x.Grows x') (hw : x.writer.isWritten = true) :
    x'.writer.isWritten = true := by
  rwa [Writer.isWritten, (h.written hw).2]

theorem trans (h : x.Grows x') (h' : x'.Grows x'') : x.Grows x'' where
  errors := h.errors.trans h'.errors
  written hw := by
    obtain ⟨hstatus, hbody⟩ := h.written hw
    obtain ⟨hstatus', hbody'⟩ := h'.written (h.isWritten hw)
    exact ⟨hstatus'.trans hstatus, hbody'.trans hbody⟩

/-- The first error stays the first. -/
theorem error? {f : Failure} (h : x.Grows x') (hf : x.error? = some f) : x'.error? = some f := by
  obtain ⟨more, hmore⟩ := h.errors
  rw [Exchange.error?] at hf ⊢
  rw [← hmore, List.head?_append, hf, Option.some_or]

/-- A change of the writer alone that leaves it as it is once it is written. -/
theorem of_writer {w : Writer} (h : x.writer.isWritten = true → w = x.writer) :
    x.Grows { x with writer := w } where
  errors := List.prefix_refl _
  written hw := by
    rw [h hw]
    exact ⟨rfl, rfl⟩

end Grows

theorem writer_pushError_written {x : Exchange} (h : x.writer.isWritten = true) (f : Failure) :
    (x.pushError f).1.writer = x.writer := by
  unfold pushError
  split
  · exact Writer.setStatus_written h _
  · rfl

theorem isWritten_pushError (x : Exchange) (f : Failure) :
    (x.pushError f).1.writer.isWritten = x.writer.isWritten := by
  unfold pushError
  split
  · exact x.writer.isWritten_setStatus _
  · rfl

theorem grows_pushError (x : Exchange) (f : Failure) : x.Grows (x.pushError f).1 where
  errors := by
    rw [pushError_errors]
    exact List.prefix_append _ _
  written hw := by
    rw [writer_pushError_written hw]
    exact ⟨rfl, rfl⟩

theorem grows_materialise (x : Exchange) (p : ResponsePolicy) : x.Grows (x.materialise p).1 where
  errors := x.materialise_errors p ▸ List.prefix_refl _
  written hw := by
    rw [materialise, if_pos hw]
    exact ⟨rfl, rfl⟩

end Exchange

theorem Action.grows_apply (a : Action) (s : State) : s.exchange.Grows (a.apply s).exchange := by
  cases a with
  | pushError f => exact s.exchange.grows_pushError f
  | materialise p => exact s.exchange.grows_materialise p
  | setStatus n => exact .of_writer fun hw => Writer.setStatus_written hw n
  | write n contentType body => exact .of_writer fun hw => Writer.write_written hw n contentType body
  | writeJson n v => exact .of_writer fun hw => Writer.write_written hw n _ _
  | _ => exact ⟨List.prefix_refl _, fun _ => ⟨rfl, rfl⟩⟩

/-- From every state, the exchange only grows. -/
def Growing (p : Step) : Prop :=
  ∀ ds (s : State), s.exchange.Grows (p ds s).2.exchange

namespace Growing

variable {p q : Step}

theorem update {f : State → State} (h : ∀ s : State, s.exchange.Grows (f s).exchange) :
    Growing (Step.update f) := fun _ s => h s

/-- What a step left only grows by what follows it. -/
theorem grows_andThen (hq : Growing q) (p : Step) (ds : List Nat) (s : State) :
    (p ds s).2.exchange.Grows ((p.andThen q) ds s).2.exchange := by
  unfold Step.andThen
  rcases p ds s with ⟨_ | _ | _, s'⟩
  · exact hq ds s'
  · exact .refl _
  · exact .refl _

theorem andThen (hp : Growing p) (hq : Growing q) : Growing (p.andThen q) :=
  fun ds s => (hp ds s).trans (hq.grows_andThen p ds s)

theorem sleep (nanos : Nat) : Growing (Step.sleep nanos) := by
  intro ds s
  unfold Step.sleep
  dsimp only
  split <;> exact .refl _

theorem composes :
    Step.Composes (fun f => ∀ s : State, s.exchange.Grows (f s).exchange) Growing where
  skip _ _ := .refl _
  update := update
  panic _ _ _ := .refl _
  sleep := sleep
  andThen := andThen

theorem actions (as : List Action) : Growing (Action.steps as) :=
  composes.actions Action.grows_apply as

theorem exit (u : UserMiddleware) : Growing u.exit :=
  (actions u.post).andThen (update fun _ => .refl _)

end Growing

/-! ## The way in and the way out -/

theorem Step.guarded_of_returned {p : Step} {ds : List Nat} {s : State}
    (h : (p ds s).1 = .returned) : Step.guarded p ds s = p ds s := by
  unfold Step.guarded
  rcases hrun : p ds s with ⟨_ | _ | _, s'⟩
  · rfl
  · rw [hrun] at h
    cases h
  · rfl

/-- What a timeout does to the exchange. -/
theorem Step.timedOut_exchange (limit : Duration) (s : State) :
    (timedOut limit s).exchange =
      if s.exchange.writer.isWritten then s.exchange
      else ((s.exchange.pushError timeoutError).1.writeEnvelope 503
        (.failure .serverBusy "request timed out")).1 := by
  unfold timedOut
  dsimp only
  rw [State.log_exchange]
  split <;> rfl

namespace Middleware

/-- Middleware that does nothing to the exchange of a run that returns. -/
def isGuard : Middleware → Bool
  | recovery | tracing _ | metrics => true
  | _ => false

/-- Middleware of the service that may write the body itself. -/
def writes : Middleware → Bool
  | recovery | tracing _ | metrics | respond _ | timeout _ => true
  | _ => false

/-- Where the rest of a chain starts inside a middleware, and under which deadlines, if it runs at all. -/
def enter? (m : Middleware) (ds : List Nat) (s : State) : Option (List Nat × State) :=
  match m with
  | recovery | respond _ => some (ds, s)
  | tracing records => some (ds, openSpan records s)
  | metrics => some (ds, arrive s)
  | timeout limit => some ((s.site.timer + limit.nanos) :: ds, s)
  | rateLimit limiter key =>
    match checkLimit limiter (key.extract s.exchange.request) s with
    | (.ok _, s) => some (ds, s)
    | (.error _, _) => none
  | user u =>
    match u.enter ds s with
    | (.returned, s) => if u.continues then some (ds, s) else none
    | _ => none

variable {m : Middleware} {ds ds' : List Nat} {s s' : State}

theorem closeSpan_exchange (records : Bool) (span : Exchange → Span) (s : State) :
    (closeSpan records span s).exchange = s.exchange := by
  unfold closeSpan
  split <;> rfl

/-- A guard does to the outcome and the exchange what catching panics does. -/
theorem around_guard (hm : m.isGuard = true) (h : m.enter? ds s = some (ds', s')) (next : Step) :
    (m.around next ds s).1 = (Step.guarded next ds' s').1 ∧
      (m.around next ds s).2.exchange = (Step.guarded next ds' s').2.exchange := by
  cases m with
  | recovery =>
    cases h
    exact ⟨rfl, rfl⟩
  | tracing records =>
    cases h
    change (traced records next ds s).1 = _ ∧ (traced records next ds s).2.exchange = _
    unfold traced
    rcases Step.guarded next ds (openSpan records s) with ⟨_ | _ | _, s''⟩ <;>
      exact ⟨rfl, closeSpan_exchange records _ s''⟩
  | metrics =>
    cases h
    change (counted next ds s).1 = _ ∧ (counted next ds s).2.exchange = _
    unfold counted arrive
    dsimp only
    rcases Step.guarded next ds
      { s with site.metrics := s.site.metrics.enter s.exchange.request.labels } with
      ⟨_ | _ | _, s''⟩ <;> exact ⟨rfl, rfl⟩
  | _ => cases hm

theorem grows_timedOut (limit : Duration) (s : State) :
    s.exchange.Grows (Step.timedOut limit s).exchange := by
  rw [Step.timedOut_exchange]
  split
  · exact .refl _
  · next hw =>
    refine ⟨?_, fun hw' => absurd hw' hw⟩
    change s.exchange.errors <+: (s.exchange.pushError _).1.errors
    rw [Exchange.pushError_errors]
    exact List.prefix_append _ _

/-- What the rest of the chain left only grows on the way out. -/
theorem grows_around (h : m.enter? ds s = some (ds', s')) (next : Step) :
    (next ds' s').2.exchange.Grows (m.around next ds s).2.exchange := by
  by_cases hm : m.isGuard = true
  · rw [(around_guard hm h next).2]
    unfold Step.guarded
    rcases next ds' s' with ⟨_ | message | _, s''⟩
    · exact .refl _
    · exact (Exchange.grows_pushError _ _).trans (Exchange.grows_materialise _ _)
    · exact .refl _
  cases m with
  | recovery | tracing records | metrics => exact absurd rfl hm
  | respond p =>
    cases h
    have hfinal : Growing (.update fun s => s.put (s.exchange.materialise p)) :=
      .update fun s => s.exchange.grows_materialise p
    exact hfinal.grows_andThen next ds s
  | timeout limit =>
    cases h
    change Exchange.Grows _ (Step.limited limit next ds s).2.exchange
    unfold Step.limited
    rcases next ((s.site.timer + limit.nanos) :: ds) s with ⟨_ | _ | level, s''⟩
    · exact .refl _
    · exact .refl _
    · dsimp only
      split
      · exact grows_timedOut limit s''
      · exact .refl _
  | rateLimit limiter key =>
    unfold enter? at h
    change Exchange.Grows _ (match checkLimit limiter (key.extract s.exchange.request) s with
      | (.ok _, s) => next ds s
      | (.error wait, s) => (.returned, rejectClient wait s)).2.exchange
    rcases hcheck : checkLimit limiter (key.extract s.exchange.request) s with ⟨_ | _, s''⟩ <;>
      simp only [hcheck] at h <;> cases h
    exact .refl _
  | user u =>
    unfold enter? at h
    rcases henter : u.enter ds s with ⟨_ | _ | _, s''⟩ <;> simp only [henter] at h
    · split at h
      · next hcontinues =>
        cases h
        have hrun : (around (.user u) next) ds s = (next.andThen u.exit) ds s' := by
          rw [u.around_eq, if_pos hcontinues, Step.andThen, henter]
        rw [hrun]
        exact (Growing.exit u).grows_andThen next ds s'
      · cases h
    · cases h
    · cases h

end Middleware

end HttpService
