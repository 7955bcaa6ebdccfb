import HttpService.Proofs.Pipeline.Deeds
import HttpService.Server.Service

/-!
# The response law of the server chain

`lawful p start deeds` is the response that the deeds of user code ask for: the first body written, else
the envelope of the first error, else the payload, else the status alone. `route_answers_lawfully`: a
route of a server without write timeout returns and answers so, whatever its user code does.

The draft is settled in one of two places: by the response middleware once the user code returned, or by
the innermost guard around it that recovers a panic. `Yields` says of a step that either way the same
answer comes out; it holds just above the user code (`yields_respond`), and every guard turns it into
`Answers`, which says that the step returns with that answer.
-/

set_option autoImplicit false

namespace HttpService

/-- What is sent: a status and a body. -/
abbrev Answer := Status × Bytes

def Exchange.answer? (x : Exchange) : Option Answer :=
  x.writer.body.map fun body => (x.writer.sentStatus, body)

/-! ## The law -/

namespace Deed

def answer? : Deed → Option Answer
  | .write n body => some (n, body)
  | _ => none

def error? : Deed → Option Failure
  | .recordError f => some f
  | _ => none

/-- The explicit status after a deed; an error asks for its own where none is set. -/
def statusAfter (n : Option Status) : Deed → Option Status
  | .recordError f => n.or f.report.status
  | .setStatus m => some m
  | _ => n

def payloadAfter (p : Option Payload) : Deed → Option Payload
  | .setPayload q => q
  | _ => p

end Deed

/-- The status of an error where none is explicit. -/
def ResponsePolicy.errorStatus (p : ResponsePolicy) (f : Failure) : Status :=
  match p with
  | .envelope => 200
  | .httpNative => f.code.status

/-- The body of a response without errors. -/
def plainBody (n : Status) : Option Payload → Bytes
  | some (.text t) => Text.encode t
  | some (.binary bytes) => bytes
  | some (.json v) => Envelope.encode ⟨0, "OK", v⟩
  | none => (Exchange.statusEnvelope n).encode

/-- The response to what was done to a draft without a body. -/
def lawful (p : ResponsePolicy) (start : Draft) (deeds : List Deed) : Answer :=
  match deeds.findSome? Deed.answer? with
  | some first => first
  | none =>
    let explicit := deeds.foldl Deed.statusAfter start.status
    match start.errors ++ deeds.filterMap Deed.error? with
    | f :: _ =>
      (explicit.getD (p.errorStatus f), Envelope.encode ⟨f.code.value, f.display, .null⟩)
    | [] =>
      let n := explicit.getD 200
      (n, plainBody n (deeds.foldl Deed.payloadAfter start.payload))

/-- What a draft is answered with: its body, else what it asks for as it stands. -/
def Draft.answer (p : ResponsePolicy) (d : Draft) : Answer :=
  match d.body with
  | some body => (d.status.getD 200, body)
  | none => lawful p d []

theorem Draft.answer_written {p : ResponsePolicy} {d : Draft} {n : Status} {body : Bytes}
    (hs : d.status = some n) (hb : d.body = some body) (deeds : List Deed) :
    (d.performAll deeds).answer p = (n, body) := by
  induction deeds generalizing d with
  | nil => simp [answer, hs, hb]
  | cons e es ih =>
    rw [performAll_cons]
    apply ih <;> cases e <;> simp [perform, hs, hb]

/-- Nothing but the deeds themselves counts: the draft is answered by the law. -/
theorem Draft.answer_performAll {p : ResponsePolicy} {d : Draft} (hb : d.body = none)
    (deeds : List Deed) : (d.performAll deeds).answer p = lawful p d deeds := by
  induction deeds generalizing d with
  | nil => simp [answer, hb]
  | cons e es ih =>
    rw [performAll_cons]
    cases e with
    | write n body =>
      have hs : (d.perform (.write n body)).status = some n := by simp [perform, hb]
      have hb' : (d.perform (.write n body)).body = some body := by simp [perform, hb]
      rw [answer_written hs hb']
      rfl
    | recordError f =>
      rw [ih (by simp [perform, hb])]
      simp [lawful, perform, hb, List.findSome?_cons, Deed.answer?, Deed.error?, Deed.statusAfter,
        Deed.payloadAfter]
    | setStatus n =>
      rw [ih (by simp [perform, hb])]
      simp [lawful, perform, hb, List.findSome?_cons, List.filterMap_cons, Deed.answer?,
        Deed.error?, Deed.statusAfter, Deed.payloadAfter]
    | setPayload q =>
      rw [ih (by simp [perform, hb])]
      simp [lawful, perform, List.findSome?_cons, List.filterMap_cons, Deed.answer?, Deed.error?,
        Deed.statusAfter, Deed.payloadAfter]

/-! ## Final responses -/

theorem Exchange.answer?_writeEnvelope {x : Exchange} (hb : x.writer.body = none) (n : Status)
    (e : Envelope) : (x.writeEnvelope n e).1.answer? = some (n, e.encode) := by
  simp [writeEnvelope, answer?, Writer.write, Writer.isWritten, Writer.sentStatus, hb]

theorem Exchange.answer?_writePayload {x : Exchange} (hb : x.writer.body = none) (n : Status) :
    (x.writePayload n).1.answer? = some (n, plainBody n x.payload) := by
  unfold writePayload
  rcases hp : x.payload with _ | (t | bytes | v)
  · exact answer?_writeEnvelope hb n _
  · simp [answer?, Writer.write, Writer.isWritten, Writer.sentStatus, plainBody, hb]
  · simp [answer?, Writer.write, Writer.isWritten, Writer.sentStatus, plainBody, hb]
  · exact answer?_writeEnvelope (x := { x with payload := none }) hb n _

theorem Exchange.answer?_materialise (x : Exchange) (p : ResponsePolicy) :
    (x.materialise p).1.answer? = some (x.draft.answer p) := by
  unfold materialise
  cases hb : x.writer.body with
  | some body =>
    simp [Writer.isWritten, hb, answer?, Draft.answer, draft, Writer.sentStatus]
  | none =>
    rw [if_neg (by simp [Writer.isWritten, hb])]
    cases he : x.errors with
    | nil =>
      simp only [error?, he, List.head?_nil, answer?_writePayload hb]
      simp [Draft.answer, draft, hb, he, lawful, Writer.sentStatus]
    | cons f fs =>
      simp only [error?, he, List.head?_cons, answer?_writeEnvelope hb]
      cases p <;>
        simp [Draft.answer, draft, hb, he, lawful, Writer.sentStatus, errorStatus,
          ResponsePolicy.errorStatus, Envelope.failure]

/-- A recovered panic is one more error, then the response is made. -/
theorem Step.answer?_recover (message : Option String) (s : State) :
    (recover message s).exchange.answer? =
      some ((s.exchange.draft.perform (.recordError (recoveredError message))).answer
        s.exchange.request.policy) := by
  simp only [recover, State.put_exchange, State.log_exchange, Exchange.answer?_materialise,
    Exchange.pushError_draft, Exchange.pushError_request]

/-! ## Guards -/

/-- A run returned with an answer, or panicked and has that answer once the panic is recovered. -/
def Promises (p : ResponsePolicy) (a : Answer) : Outcome × State → Prop
  | (.returned, s) => s.exchange.answer? = some a
  | (.panicked message, s) =>
    s.exchange.request.policy = p ∧
      (s.exchange.draft.perform (.recordError (Step.recoveredError message))).answer p = a
  | (.abandoned _, _) => False

/-- Whatever unwritten draft `q` starts from, it promises the answer that `answer` gives for it. -/
def Yields (p : ResponsePolicy) (q : Step) (answer : Draft → Answer) : Prop :=
  ∀ s : State, s.exchange.request.policy = p → s.exchange.writer.body = none →
    Promises p (answer s.exchange.draft) (q [] s)

/-- From every unwritten draft, `q` returns with the answer that `answer` gives for it. -/
def Answers (p : ResponsePolicy) (q : Step) (answer : Draft → Answer) : Prop :=
  ∀ s : State, s.exchange.request.policy = p → s.exchange.writer.body = none →
    (q [] s).1 = .returned ∧ (q [] s).2.exchange.answer? = some (answer s.exchange.draft)

section
variable {p : ResponsePolicy} {q : Step} {answer : Draft → Answer}

theorem Answers.yields (h : Answers p q answer) : Yields p q answer := by
  intro s hp hb
  rcases hrun : q [] s with ⟨o, s'⟩
  obtain ⟨ho, ha⟩ := h s hp hb
  rw [hrun] at ho ha
  subst ho
  exact ha

theorem Yields.guarded (h : Yields p q answer) : Answers p (Step.guarded q) answer := by
  intro s hp hb
  have hs := h s hp hb
  unfold Step.guarded
  rcases hrun : q [] s with ⟨_ | message | level, s'⟩ <;> rw [hrun] at hs
  · exact ⟨rfl, hs⟩
  · obtain ⟨hpolicy, ha⟩ := hs
    exact ⟨rfl, by rw [Step.answer?_recover, hpolicy, ha]⟩
  · exact hs.elim

theorem Yields.counted (h : Yields p q answer) : Answers p (Middleware.counted q) answer := by
  intro s hp hb
  obtain ⟨ho, ha⟩ := h.guarded
    { s with site.metrics := s.site.metrics.enter s.exchange.request.labels } hp hb
  unfold Middleware.counted
  dsimp only at ho ha ⊢
  split
  · rename_i s' hrun
    rw [hrun] at ha
    exact ⟨rfl, ha⟩
  · rename_i o s' hne hrun
    rw [hrun] at ho
    exact absurd ho hne

theorem Middleware.openSpan_kept (records : Bool) (s : State) :
    (openSpan records s).exchange.draft = s.exchange.draft ∧
      (openSpan records s).exchange.request = s.exchange.request := by
  refine ⟨?_, rfl⟩
  unfold openSpan Exchange.draft Writer.insertText
  by_cases hv : (Span.resolveTraceId (if records then some s.site.fresh.trace else none)
      s.exchange.request s.site.fresh.uuid).toList.all
        (fun c => (' ' ≤ c && c.toNat ≠ 0x7F) || c == '\t') = true
  · simp only [hv]; rfl
  · simp only [hv]; rfl

theorem Yields.traced (h : Yields p q answer) (records : Bool) :
    Answers p (Middleware.traced records q) answer := by
  intro s hp hb
  obtain ⟨hd, hr⟩ := Middleware.openSpan_kept records s
  have hb' : (Middleware.openSpan records s).exchange.writer.body = none := by
    have := congrArg Draft.body hd
    exact this.trans hb
  obtain ⟨ho, ha⟩ := h.guarded (Middleware.openSpan records s) (by rw [hr, hp]) hb'
  rw [hd] at ha
  unfold Middleware.traced
  split
  · rename_i s' hrun
    rw [hrun] at ha
    refine ⟨rfl, ?_⟩
    unfold Middleware.closeSpan
    split <;> exact ha
  · rename_i o s' hne hrun
    rw [hrun] at ho
    exact absurd ho hne

/-- The response middleware around user code: it settles the draft, or the panic goes on outwards and
takes the draft along. -/
theorem yields_respond {t : Trail} (h : Performs q t) :
    Yields p (Middleware.around (.respond p) q) fun d => lawful p d t.recorded := by
  intro s hp hb
  have hbody : s.exchange.draft.body = none := hb
  obtain ⟨ho, hd, hr⟩ := h s
  unfold Middleware.around Step.andThen
  rcases hrun : q [] s with ⟨o, s'⟩
  rw [hrun] at ho hd hr
  dsimp only at ho hd hr
  subst ho
  simp only [hrun]
  cases ht : t.panic with
  | none =>
    have hrec : t.recorded = t.deeds := by simp [Trail.recorded, ht]
    simp only [Trail.outcome, ht, Step.update, Promises, State.put_exchange,
      Exchange.answer?_materialise, hrec]
    rw [hd, Draft.answer_performAll hbody]
  | some message =>
    have hrec : t.recorded = t.deeds ++ [.recordError (Step.recoveredError message)] := by
      simp [Trail.recorded, ht]
    simp only [Trail.outcome, ht, Promises, hrec]
    refine ⟨hr ▸ hp, ?_⟩
    rw [← Draft.answer_performAll hbody, Draft.performAll_append, ← hd]
    rfl

end

/-! ## The server -/

/-- The base chain without write timeout, as nested steps around the rest. -/
theorem Server.chain_base {s : Server} (hw : s.settings.writeTimeout.isZero = true)
    (rest : List Middleware) (core : Step) :
    Middleware.chain (s.baseChain ++ rest) core =
      Step.guarded (Middleware.traced false
        ((if s.metrics then Middleware.counted else id)
          (Middleware.around (.respond s.policy) (Middleware.chain (s.middleware ++ rest) core)))) := by
  unfold Server.baseChain Middleware.chain
  rw [if_pos hw]
  cases s.metrics <;> simp [Middleware.around]

/-- **The response law.** Where the middleware of the server and of the route are user code around an
endpoint of user code, a request is answered as their deeds ask for: the chain returns, and its response
is the lawful one. -/
theorem route_answers_lawfully (s : Server) (r : Route Middleware Endpoint)
    (us : List UserMiddleware) (as : List Action) (start : State)
    (hw : s.settings.writeTimeout.isZero = true)
    (hus : s.middleware ++ r.middleware = us.map .user) (has : r.endpoint = .actions as)
    (hplain : (∀ u ∈ us, u.isPlain = true) ∧ as.all Action.isPlain = true)
    (hp : start.exchange.request.policy = s.policy) (hb : start.exchange.writer.body = none) :
    ∃ final, Middleware.chain (s.chainOf r) r.endpoint.step [] start = (.returned, final) ∧
      final.exchange.answer? = some (lawful s.policy start.exchange.draft
        (UserMiddleware.trail us (Action.trail as)).recorded) := by
  have huser : Performs (Middleware.chain (us.map .user) r.endpoint.step)
      (UserMiddleware.trail us (Action.trail as)) := by
    rw [has]
    exact performs_chain hplain.1 (performs_steps hplain.2)
  have hcounted : Yields s.policy
      ((if s.metrics then Middleware.counted else id)
        (Middleware.around (.respond s.policy)
          (Middleware.chain (us.map .user) r.endpoint.step)))
      fun d => lawful s.policy d (UserMiddleware.trail us (Action.trail as)).recorded := by
    cases s.metrics with
    | true => exact (yields_respond huser).counted.yields
    | false => exact yields_respond huser
  obtain ⟨ho, ha⟩ := (hcounted.traced false).yields.guarded start hp hb
  rw [Server.chainOf, Server.chain_base hw, hus]
  exact ⟨_, Prod.ext ho rfl, ha⟩

/-- The endpoint panics after the route's middleware recorded an error and before it could write, so the
first error is answered, with the status that the server's middleware set. -/
theorem route_answers_first_error :
    let outer : UserMiddleware := ⟨"outer", [.setStatus 418], true, [.setStatus 200]⟩
    let inner : UserMiddleware :=
      ⟨"inner", [.pushError (.new .notFound "no such user")], true, [.write 200 "text/plain" []]⟩
    let endpoint : List Action := [.setPayload (.text "late"), .panic (some "boom")]
    let server : Server :=
      { settings := .default, middleware := [.user outer], metrics := true, policy := .httpNative }
    let route : Route Middleware Endpoint :=
      { toRouteDoc := default, middleware := [.user inner], endpoint := .actions endpoint }
    let start : State :=
      ⟨.start { (default : Request) with policy := .httpNative } "id", .start default []⟩
    (server.settings.writeTimeout.isZero = true ∧
      server.middleware ++ route.middleware = [outer, inner].map .user) ∧
    ∃ final, Middleware.chain (server.chainOf route) route.endpoint.step [] start =
        (.returned, final) ∧
      final.exchange.answer? = some (418, Envelope.encode ⟨404, "no such user", .null⟩) := by
  intro outer inner endpoint server route start
  have hplain : (∀ u ∈ [outer, inner], u.isPlain = true) ∧ endpoint.all Action.isPlain = true :=
    ⟨by decide, rfl⟩
  exact ⟨⟨rfl, rfl⟩,
    route_answers_lawfully server route [outer, inner] endpoint start rfl rfl rfl hplain rfl rfl⟩

end HttpService
