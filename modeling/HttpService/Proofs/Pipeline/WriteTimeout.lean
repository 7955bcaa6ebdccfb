import HttpService.Proofs.Pipeline.Codes
import HttpService.Proofs.Pipeline.Effects

/-!
# The write timeout

What runs inside the write timeout is let alone, or it is cut off in a wait, and then the response is
settled: it is what was written before, or the envelope of the timeout with one more error. Nothing outside
changes it any more (`write_timeout_transparent_or_final`).
-/

set_option autoImplicit false

namespace HttpService

/-! ## Runs under the deadline -/

namespace Step

variable {limit : Duration} {p : Step} {ds : List Nat} {s : State}

theorem limited_of_returned (h : (p ((s.site.timer + limit.nanos) :: ds) s).1 = .returned) :
    limited limit p ds s = p ((s.site.timer + limit.nanos) :: ds) s := by
  unfold limited
  rcases hrun : p ((s.site.timer + limit.nanos) :: ds) s with ⟨_ | _ | _, s'⟩
  · rfl
  · rfl
  · rw [hrun] at h
    cases h

theorem limited_of_abandoned
    (h : (p ((s.site.timer + limit.nanos) :: ds) s).1 = .abandoned ds.length) :
    limited limit p ds s =
      (.returned, timedOut limit (p ((s.site.timer + limit.nanos) :: ds) s).2) := by
  unfold limited
  rcases hrun : p ((s.site.timer + limit.nanos) :: ds) s with ⟨_ | _ | level, s'⟩ <;> rw [hrun] at h
  · cases h
  · cases h
  · exact if_pos (Outcome.abandoned.inj h)

end Step

/-- What the timeout leaves of an exchange that was cut off: as it was if a body was written, else one more
error and the envelope of the timeout. -/
structure TimedOut (cut left : Exchange) : Prop where
  kept : cut.writer.isWritten = true → left = cut
  errors : cut.writer.isWritten = false → left.errors = cut.errors ++ [Step.timeoutError]
  answer : cut.writer.isWritten = false →
    left.answer? = some (503, Envelope.encode ⟨503, "request timed out", .null⟩)

theorem timedOut_spec (limit : Duration) (s : State) :
    TimedOut s.exchange (Step.timedOut limit s).exchange := by
  rw [Step.timedOut_exchange]
  cases hw : s.exchange.writer.isWritten with
  | true =>
    refine ⟨fun _ => if_pos rfl, fun h => ?_, fun h => ?_⟩
    all_goals
      rw [hw] at h
      cases h
  | false =>
    have hbody : (s.exchange.pushError Step.timeoutError).1.writer.body = none := by
      have hpushed := s.exchange.isWritten_pushError Step.timeoutError
      rw [hw] at hpushed
      exact Option.not_isSome_iff_eq_none.1 (Bool.eq_false_iff.1 hpushed)
    rw [if_neg Bool.false_ne_true]
    refine ⟨fun h => ?_, fun _ => s.exchange.pushError_errors Step.timeoutError, fun _ => ?_⟩
    · rw [hw] at h
      cases h
    · exact Exchange.answer?_writeEnvelope hbody 503 _

theorem TimedOut.isWritten {cut left : Exchange} (h : TimedOut cut left) :
    left.writer.isWritten = true := by
  cases hw : cut.writer.isWritten with
  | true => rw [h.kept hw, hw]
  | false =>
    obtain ⟨body, hbody, _⟩ := Option.map_eq_some_iff.1 (h.answer hw)
    rw [Writer.isWritten, hbody]
    rfl

/-- An answer stays, once there is one. -/
theorem Exchange.Grows.answer? {x x' : Exchange} (h : x.Grows x')
    (hw : x.writer.isWritten = true) : x'.answer? = x.answer? := by
  obtain ⟨hstatus, hbody⟩ := h.written hw
  unfold Exchange.answer? Writer.sentStatus
  rw [hstatus, hbody]

/-! ## The rest of the chain -/

/-- **The write timeout is transparent or final.** Where a chain reaches a write timeout, on a request that
has arrived as `entered`, let `run` be what happens inside it under its deadline:

* if that returns in time, the timeout leaves just what it left, which is what it leaves without the
  deadline;
* if it is cut off by the deadline, the timeout returns. Where a body was written by then, the exchange
  stays as it was cut off; else it gets one more error, which says that the service is busy, and the
  envelope of the timeout. What stands outside leaves status and body as they are;
* where user code stands inside, `run` does its effects one after another, to the end or up to the panic
  or the wait that ended it. -/
theorem write_timeout_transparent_or_final (outer inner : List Middleware) (limit : Duration)
    (e : Endpoint) {ds ds' : List Nat} {start entered : State}
    (hreach : Middleware.reach? outer ds start = some (ds', entered)) :
    let p := Middleware.chain inner e.step
    let run := p ((entered.site.timer + limit.nanos) :: ds') entered
    let left := Middleware.around (.timeout limit) p ds' entered
    let final := Middleware.chain (outer ++ .timeout limit :: inner) e.step ds start
    (run.1 = .returned → left = run ∧ left = p ds' entered) ∧
    (run.1 = .abandoned ds'.length →
      left.1 = .returned ∧ TimedOut run.2.exchange left.2.exchange ∧
        final.2.exchange.answer? = left.2.exchange.answer?) ∧
    ∀ us : List UserMiddleware, inner = us.map .user →
      Enacted (UserMiddleware.effects (e.effects entered.exchange.request entered.site.metrics) us)
        entered.exchange run := by
  intro p run left final
  refine ⟨fun hreturned => ?_, fun habandoned => ?_, ?_⟩
  · have hleft : left = run := Step.limited_of_returned hreturned
    have hwithout : p ds' entered = run := by
      have hrun := Indifferent.chain inner e [] _ ds' entered (show run = (run.1, run.2) from rfl)
      rw [hreturned] at hrun
      exact (hrun nofun).trans (Prod.ext hreturned.symm rfl)
    exact ⟨hleft, hleft.trans hwithout.symm⟩
  · have hleft : left = (.returned, Step.timedOut limit run.2) := Step.limited_of_abandoned habandoned
    have htimedOut : TimedOut run.2.exchange left.2.exchange := by
      rw [hleft]
      exact timedOut_spec limit run.2
    have hfinal : final = Middleware.chain outer (Middleware.around (.timeout limit) p) ds start := by
      show Middleware.chain (outer ++ .timeout limit :: inner) e.step ds start = _
      rw [Middleware.chain_append]
      rfl
    refine ⟨by rw [hleft], htimedOut, ?_⟩
    rw [hfinal]
    exact (Middleware.grows_chain hreach _).answer? htimedOut.isWritten
  · rintro us rfl
    exact Enacts.chain us e _ entered rfl rfl

/-- User code of a server records an error and waits past the deadline: the client gets the envelope of the
timeout, over the status and behind the error that were there. -/
theorem timeout_over_effects :
    let u : UserMiddleware :=
      ⟨"auth", [.setStatus 201, .pushError (.new .notFound "no such user")], true, []⟩
    let srv : Server := { settings := { Settings.default with writeTimeout := ⟨50⟩ }, metrics := true }
    let e : Endpoint := .actions [.setPayload (.text "late"), .sleep ⟨100⟩, .panic (some "boom")]
    let start : State := ⟨.start default "id", .start default []⟩
    ∃ outer entered left, srv.baseChain = outer ++ [.timeout ⟨50⟩] ∧
      Middleware.reach? outer [] start = some ([], entered) ∧
      (Middleware.chain [.user u] e.step [50] entered).1 = .abandoned 0 ∧
      Middleware.around (.timeout ⟨50⟩) (Middleware.chain [.user u] e.step) [] entered =
        (.returned, left) ∧
      left.exchange.errors = [.new .notFound "no such user", Step.timeoutError] ∧
      (Middleware.chain (srv.baseChain ++ [.user u]) e.step [] start).2.exchange.answer? =
        some (503, Envelope.encode ⟨503, "request timed out", .null⟩) := by
  intro u srv e start
  let outer : List Middleware := [.recovery, .tracing false, .metrics, .respond .envelope]
  have hreach : Middleware.reach? outer [] start =
      some ([], Middleware.arrive (Middleware.openSpan false start)) := rfl
  obtain ⟨_, hcut, _⟩ := write_timeout_transparent_or_final outer [.user u] ⟨50⟩ e hreach
  obtain ⟨hreturned, htimedOut, hfinal⟩ := hcut rfl
  refine ⟨_, _, _, rfl, hreach, rfl, Prod.ext hreturned rfl, htimedOut.errors rfl, ?_⟩
  exact hfinal.trans (htimedOut.answer rfl)

end HttpService
