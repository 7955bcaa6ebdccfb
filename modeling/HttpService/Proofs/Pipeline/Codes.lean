import HttpService.Proofs.Pipeline.Deadlines
import HttpService.Proofs.Pipeline.Growth
import HttpService.Proofs.Text.Utf8
import HttpService.Server.Service

/-!
# Codes of responses

A client reads a code in the body of a response, and the metrics count its request under a code.
`Writing.of?` says which part of a chain wrote the body and what it found: the part is the innermost one
that found nothing written and left something written, so all around it only grows what it left.

`shown_code_is_measured`: where the service wrote the body itself, both codes are that of the first error.
A timeout is the exception: it answers with its own code whatever was recorded before
(`timeout_after_error`).
-/

set_option autoImplicit false

namespace HttpService

/-! ## What a client reads -/

namespace Envelope

/-- The code in an envelope, as it is written: what stands between the name of the first member and the
next one. -/
def shownCode? (body : Bytes) : Option String :=
  (Text.decode? body).bind fun text =>
    (Text.dropFront? "\x7b\"code\":" text).map fun rest =>
      String.ofList (rest.toList.takeWhile (· ≠ ','))

theorem ne_comma_of_mem_toString {i : Int} {c : Char} (h : c ∈ (toString i).toList) : c ≠ ',' := by
  rintro rfl
  have hdigits (n : Nat) (hn : ',' ∈ n.repr.toList) : False := by
    rw [show n.repr = String.ofList (Nat.toDigits 10 n) from rfl, String.toList_ofList] at hn
    exact absurd (Nat.isDigit_of_mem_toDigits (by decide) (by decide) hn) (by decide)
  rw [Int.toString_eq_repr] at h
  cases i with
  | ofNat n => exact hdigits n h
  | negSucc n =>
    have hminus : (Int.negSucc n).repr.toList = '-' :: n.succ.repr.toList := String.toList_append
    rw [hminus] at h
    rcases List.mem_cons.1 h with h | h
    · cases h
    · exact hdigits _ h

theorem toList_print (e : Envelope) :
    ∃ rest, e.json.print.toList =
      "\x7b\"code\":".toList ++ ((toString e.code).toList ++ ',' :: rest) := by
  refine ⟨"\"message\":".toList ++ (Json.quote e.message).toList ++ ",\"data\":".toList ++
    e.data.print.toList ++ ['\x7d'], ?_⟩
  simp only [json, Json.print, Json.printMembers, Json.int, Number.print, String.toList_append,
    List.append_assoc]
  rfl

theorem shownCode?_encode (e : Envelope) : shownCode? e.encode = some (toString e.code) := by
  obtain ⟨rest, hrest⟩ := e.toList_print
  have htake : ((toString e.code).toList ++ ',' :: rest).takeWhile (· ≠ ',') =
      (toString e.code).toList := by
    rw [List.takeWhile_append_of_pos fun c hc => by simpa using ne_comma_of_mem_toString hc]
    simp
  have hfront : Text.dropFront? "\x7b\"code\":" e.json.print =
      some (String.ofList ((toString e.code).toList ++ ',' :: rest)) := by
    rw [Text.dropFront?, hrest, if_pos (List.isPrefixOf_iff_prefix.2 (List.prefix_append _ _))]
    exact congrArg (some ∘ String.ofList) List.drop_left
  rw [shownCode?, encode, Text.decode?_encode, Option.bind_some, hfront, Option.map_some,
    String.toList_ofList, htake, String.ofList_toList]

end Envelope

/-! ## Who writes the body -/

/-- How the body of a response came to be written. -/
structure Writing where
  /-- The middleware around the one that wrote, outermost first. -/
  outer : List Middleware
  /-- The middleware that wrote, unless the endpoint did. -/
  author : Option Middleware
  /-- The exchange as the author found it: as what it encloses left it. -/
  found : Exchange
  /-- How the author left. -/
  left : Outcome × State

namespace Writing

/-- Whether a run wrote the body. -/
def wroteBody (s : State) (run : Outcome × State) : Bool :=
  !s.exchange.writer.isWritten && run.2.exchange.writer.isWritten

/-- How the body was written in a run of a chain around an endpoint. -/
def of? (core : Step) : List Middleware → List Nat → State → Option Writing
  | [], ds, s =>
    let run := core ds s
    if wroteBody s run then some ⟨[], none, s.exchange, run⟩ else none
  | m :: ms, ds, s =>
    let run := Middleware.chain (m :: ms) core ds s
    match m.enter? ds s with
    | none => if wroteBody s run then some ⟨[], some m, s.exchange, run⟩ else none
    | some (ds', s') =>
      match of? core ms ds' s' with
      | some w => some { w with outer := m :: w.outer }
      | none =>
        if wroteBody s run then
          some ⟨[], some m, (Middleware.chain ms core ds' s').2.exchange, run⟩
        else none

variable {core : Step} {m : Middleware} {ms : List Middleware} {ds : List Nat} {s : State}
  {w : Writing}

theorem of?_nil (h : of? core [] ds s = some w) :
    w.author = none ∧ w.left = Middleware.chain [] core ds s := by
  rw [of?] at h
  split at h <;> cases h
  exact ⟨rfl, rfl⟩

/-- The body was written inside the outermost middleware, or that wrote it over what it encloses. -/
theorem of?_cons (h : of? core (m :: ms) ds s = some w) :
    (∃ ds' s' w', m.enter? ds s = some (ds', s') ∧ of? core ms ds' s' = some w' ∧
      w = { w' with outer := m :: w'.outer }) ∨
    (w.author = some m ∧ w.left = Middleware.chain (m :: ms) core ds s ∧
      wroteBody s w.left = true ∧ ∀ ds' s', m.enter? ds s = some (ds', s') →
        of? core ms ds' s' = none ∧ w.found = (Middleware.chain ms core ds' s').2.exchange) := by
  rw [of?] at h
  split at h
  · next henter =>
    split at h <;> cases h
    next hwrote => exact .inr ⟨rfl, rfl, hwrote, fun _ _ h => by cases henter.symm.trans h⟩
  · next ds' s' henter =>
    split at h
    · next w' hw' =>
      cases h
      exact .inl ⟨ds', s', w', henter, hw', rfl⟩
    · next hnone =>
      split at h <;> cases h
      next hwrote =>
      refine .inr ⟨rfl, rfl, hwrote, fun _ _ h => ?_⟩
      cases henter.symm.trans h
      exact ⟨hnone, rfl⟩

theorem isWritten_of_eq_none (h : of? core ms ds s = none)
    (hs : s.exchange.writer.isWritten = false) :
    (Middleware.chain ms core ds s).2.exchange.writer.isWritten = false := by
  have hwrote : wroteBody s (Middleware.chain ms core ds s) = false := by
    cases ms with
    | nil => simpa [of?, Middleware.chain] using h
    | cons m ms =>
      rw [of?] at h
      split at h
      · simpa using h
      · split at h
        · cases h
        · simpa using h
  simpa [wroteBody, hs] using hwrote

/-- What the author left only grows on the way out. -/
theorem grows_left (h : of? core ms ds s = some w) :
    w.left.2.exchange.Grows (Middleware.chain ms core ds s).2.exchange := by
  induction ms generalizing ds s w with
  | nil =>
    rw [(of?_nil h).2]
    exact .refl _
  | cons m ms ih =>
    obtain ⟨ds', s', w', henter, hw', rfl⟩ | ⟨_, hleft, _⟩ := of?_cons h
    · exact (ih hw').trans (Middleware.grows_around henter (Middleware.chain ms core))
    · rw [hleft]
      exact .refl _

/-- Guards leave what returned as it is. -/
theorem kept_left (h : of? core ms ds s = some w) (hguards : w.outer.all Middleware.isGuard = true)
    (hreturned : w.left.1 = .returned) :
    (Middleware.chain ms core ds s).1 = .returned ∧
      (Middleware.chain ms core ds s).2.exchange = w.left.2.exchange := by
  induction ms generalizing ds s w with
  | nil =>
    rw [← (of?_nil h).2]
    exact ⟨hreturned, rfl⟩
  | cons m ms ih =>
    obtain ⟨ds', s', w', henter, hw', rfl⟩ | ⟨_, hleft, _⟩ := of?_cons h
    · rw [List.all_cons, Bool.and_eq_true] at hguards
      obtain ⟨hinner, hkept⟩ := ih hw' hguards.2 hreturned
      obtain ⟨houtcome, hexchange⟩ :=
        Middleware.around_guard hguards.1 henter (Middleware.chain ms core)
      rw [Step.guarded_of_returned hinner] at houtcome hexchange
      exact ⟨houtcome.trans hinner, hexchange.trans hkept⟩
    · rw [← hleft]
      exact ⟨hreturned, rfl⟩

end Writing

theorem Writer.isWritten_insertText (w : Writer) (name value : String) :
    (w.insertText name value).isWritten = w.isWritten := by
  unfold insertText
  split <;> rfl

namespace Middleware

variable {m : Middleware} {ds ds' : List Nat} {s s' : State}

theorem exists_enter (hm : m.writes = true) (ds : List Nat) (s : State) :
    ∃ ds' s', m.enter? ds s = some (ds', s') := by
  cases m with
  | rateLimit | user => cases hm
  | _ => exact ⟨_, _, rfl⟩

theorem isWritten_enter (hm : m.writes = true) (h : m.enter? ds s = some (ds', s')) :
    s'.exchange.writer.isWritten = s.exchange.writer.isWritten := by
  cases m with
  | tracing records =>
    cases h
    exact s.exchange.writer.isWritten_insertText _ _
  | rateLimit | user => cases hm
  | _ =>
    cases h
    rfl

end Middleware

/-- An author of the service encloses something that left nothing written. -/
theorem Writing.author_around {core : Step} {m : Middleware} {ms : List Middleware} {ds : List Nat}
    {s : State} {w : Writing} (h : of? core ms ds s = some w) (hauthor : w.author = some m)
    (hm : m.writes = true) :
    ∃ ds s ds' s' next, m.enter? ds s = some (ds', s') ∧ w.found = (next ds' s').2.exchange ∧
      w.left = m.around next ds s ∧ w.found.writer.isWritten = false ∧
      w.left.2.exchange.writer.isWritten = true := by
  induction ms generalizing ds s w with
  | nil => cases (of?_nil h).1.symm.trans hauthor
  | cons m' ms ih =>
    obtain ⟨ds', s', w', _, hw', rfl⟩ | ⟨hm', hleft, hwrote, hrest⟩ := of?_cons h
    · have hinner := ih hw' hauthor
      exact hinner
    · cases hm'.symm.trans hauthor
      obtain ⟨ds', s', henter⟩ := Middleware.exists_enter hm ds s
      obtain ⟨hnone, hfound⟩ := hrest ds' s' henter
      rw [wroteBody, Bool.and_eq_true, Bool.not_eq_true'] at hwrote
      have hunwritten := (Middleware.isWritten_enter hm henter).trans hwrote.1
      refine ⟨ds, s, ds', s', Middleware.chain ms core, henter, hfound, hleft, ?_, hwrote.2⟩
      rw [hfound]
      exact isWritten_of_eq_none hnone hunwritten

/-! ## What authors write -/

/-- The first error, and an envelope of its code. -/
def Exchange.Answered (x : Exchange) : Prop :=
  ∃ f message, x.error? = some f ∧
    x.writer.body = some (Envelope.encode ⟨f.code.value, message, .null⟩)

namespace Exchange

variable {x x' : Exchange}

theorem Answered.grows (h : x.Answered) (hx : x.Grows x') : x'.Answered := by
  obtain ⟨f, message, hf, hbody⟩ := h
  have hw : x.writer.isWritten = true := by rw [Writer.isWritten, hbody, Option.isSome_some]
  exact ⟨f, message, hx.error? hf, (hx.written hw).2.trans hbody⟩

theorem body_materialise {x : Exchange} {f : Failure} (hw : x.writer.isWritten = false)
    (hf : x.error? = some f) (p : ResponsePolicy) :
    (x.materialise p).1.writer.body = some (Envelope.encode ⟨f.code.value, f.display, .null⟩) := by
  rw [Writer.Shared.writer_materialise]
  dsimp only
  rw [(Writer.write_unwritten hw _ _ _).2, Writer.finalBody, hf]

theorem answered_materialise {f : Failure} (hw : x.writer.isWritten = false)
    (hf : x.error? = some f) (p : ResponsePolicy) : (x.materialise p).1.Answered := by
  refine ⟨f, f.display, ?_, body_materialise hw hf p⟩
  rw [error?, materialise_errors]
  exact hf

theorem exists_error? (h : x.errors ≠ []) : ∃ f, x.error? = some f :=
  ⟨_, List.head?_eq_some_head h⟩

theorem error?_pushError (x : Exchange) (f : Failure) :
    (x.pushError f).1.error? = some (x.error?.getD f) := by
  rw [error?, pushError_errors, error?]
  cases x.errors <;> rfl

end Exchange

/-- A recovered panic is answered with the first error, which may be the panic. -/
theorem Step.answered_recover {s : State} (hw : s.exchange.writer.isWritten = false)
    (message : Option String) : (recover message s).exchange.Answered := by
  refine Exchange.answered_materialise (f := s.exchange.error?.getD (recoveredError message)) ?_ ?_ _
  · change (s.exchange.pushError (recoveredError message)).1.writer.isWritten = false
    rw [Exchange.isWritten_pushError, hw]
  · exact s.exchange.error?_pushError (recoveredError message)

/-- A timeout is answered with its own code, which is the first one unless another error came before. -/
theorem Step.answered_timedOut {s : State} (hw : s.exchange.writer.isWritten = false)
    (herror : ∀ f, s.exchange.error? = some f → f.code.value = 503) (limit : Duration) :
    (timedOut limit s).exchange.Answered := by
  rw [timedOut_exchange, hw, if_neg Bool.false_ne_true]
  refine ⟨s.exchange.error?.getD timeoutError, "request timed out",
    s.exchange.error?_pushError timeoutError, ?_⟩
  have hpushed : (s.exchange.pushError timeoutError).1.writer.isWritten = false := by
    rw [Exchange.isWritten_pushError, hw]
  have hcode : (s.exchange.error?.getD timeoutError).code.value = 503 := by
    cases hf : s.exchange.error? with
    | none => rfl
    | some f => exact herror f hf
  rw [hcode]
  exact (Writer.write_unwritten hpushed _ _ _).2

namespace Middleware

variable {m : Middleware} {ds ds' : List Nat} {s s' : State} {next : Step}

/-- The response middleware writes once what it encloses returned. -/
theorem around_respond {p : ResponsePolicy} (h : (respond p).enter? ds s = some (ds', s'))
    (hfound : (next ds' s').2.exchange.writer.isWritten = false)
    (hleft : ((respond p).around next ds s).2.exchange.writer.isWritten = true) :
    ((respond p).around next ds s).1 = .returned ∧
      ((respond p).around next ds s).2.exchange = ((next ds' s').2.exchange.materialise p).1 := by
  cases h
  have haround : (respond p).around next ds s =
      next.andThen (.update fun s => s.put (s.exchange.materialise p)) ds s := rfl
  rw [haround] at hleft ⊢
  unfold Step.andThen at hleft ⊢
  rcases hrun : next ds s with ⟨_ | _ | _, s''⟩ <;> rw [hrun] at hleft hfound
  · exact ⟨rfl, rfl⟩
  · exact absurd hleft (Bool.eq_false_iff.1 hfound)
  · exact absurd hleft (Bool.eq_false_iff.1 hfound)

/-- What an author of the service wrote over errors. -/
theorem answered_around (hm : m.writes = true) (h : m.enter? ds s = some (ds', s'))
    (hfound : (next ds' s').2.exchange.writer.isWritten = false)
    (hleft : (m.around next ds s).2.exchange.writer.isWritten = true)
    (htimeout : ∀ limit, m = .timeout limit → ∀ f, (next ds' s').2.exchange.error? = some f →
      f.code.value = 503)
    (hrespond : ∀ p, m = .respond p → (next ds' s').2.exchange.errors ≠ []) :
    (m.around next ds s).2.exchange.Answered := by
  by_cases hg : m.isGuard = true
  · rw [(around_guard hg h next).2] at hleft ⊢
    unfold Step.guarded at hleft ⊢
    rcases hrun : next ds' s' with ⟨_ | message | _, s''⟩ <;>
      simp only [hrun] at hleft hfound ⊢
    · exact absurd hleft (Bool.eq_false_iff.1 hfound)
    · exact Step.answered_recover hfound message
    · exact absurd hleft (Bool.eq_false_iff.1 hfound)
  cases m with
  | recovery | tracing records | metrics => exact absurd rfl hg
  | rateLimit | user => cases hm
  | respond p =>
    obtain ⟨f, hf⟩ := Exchange.exists_error? (hrespond p rfl)
    rw [(around_respond h hfound hleft).2]
    exact Exchange.answered_materialise hfound hf p
  | timeout limit =>
    cases h
    change (Step.limited limit next ds s).2.exchange.writer.isWritten = true at hleft
    change (Step.limited limit next ds s).2.exchange.Answered
    unfold Step.limited at hleft ⊢
    have herror := htimeout limit rfl
    rcases hrun : next ((s.site.timer + limit.nanos) :: ds) s with ⟨_ | _ | level, s''⟩ <;>
      simp only [hrun] at hleft hfound herror ⊢
    · exact absurd hleft (Bool.eq_false_iff.1 hfound)
    · exact absurd hleft (Bool.eq_false_iff.1 hfound)
    · by_cases hlevel : level = ds.length
      · rw [if_pos hlevel]
        exact Step.answered_timedOut hfound herror limit
      · rw [if_neg hlevel] at hleft
        exact absurd hleft (Bool.eq_false_iff.1 hfound)

end Middleware

/-! ## The server -/

/-- The last that happened to the metrics is that an exchange was counted and left. -/
def Exchange.IsCounted (x : Exchange) (entered : RequestLabels) (metrics : Metrics) : Prop :=
  ∃ (before : Metrics) (duration : Nat), metrics =
    (before.record x.labels x.request.body.length x.writer.length duration).leave entered

namespace Server

/-- A guard without a deadline around it returns. -/
theorem guarded_returned {p : Step} (hp : Bounded p) (s : State) :
    ∃ s', Step.guarded p [] s = (.returned, s') := by
  have hpanic := Traffic.guarded_returns p [] s
  have hcut := hp.guarded.not_abandoned s
  rcases hrun : Step.guarded p [] s with ⟨_ | message | level, s'⟩ <;> rw [hrun] at hpanic hcut
  · exact ⟨s', rfl⟩
  · exact absurd rfl (hpanic message)
  · exact absurd rfl (hcut level)

variable (srv : Server) (own : List Middleware) (e : Endpoint) (start : State)

theorem chain_returned :
    (Middleware.chain (srv.baseChain ++ own) e.step [] start).1 = .returned := by
  have hbase : ∃ ms, srv.baseChain ++ own = .recovery :: ms := ⟨_, rfl⟩
  obtain ⟨ms, hms⟩ := hbase
  obtain ⟨s', hrun⟩ := guarded_returned (Bounded.chain ms e) start
  rw [hms]
  exact congrArg Prod.fst hrun

/-- A measured request is counted under the labels that it has in the end. -/
theorem chain_counted (hm : srv.metrics = true) :
    let final := (Middleware.chain (srv.baseChain ++ own) e.step [] start).2
    final.exchange.IsCounted start.exchange.request.labels final.site.metrics := by
  have hbase : ∃ ms, srv.baseChain ++ own = .recovery :: .tracing false :: .metrics :: ms := by
    rw [baseChain, if_pos hm]
    exact ⟨_, rfl⟩
  obtain ⟨ms, hms⟩ := hbase
  obtain ⟨s', hrun⟩ := guarded_returned (Bounded.chain ms e)
    (Middleware.arrive (Middleware.openSpan false start))
  let last := Middleware.leave start.exchange.request.labels
    (Middleware.complete (Middleware.openSpan false start).site.timer s')
  have hcounted : Middleware.counted (Middleware.chain ms e.step) []
      (Middleware.openSpan false start) = (.returned, last) := by
    rw [Middleware.arrive] at hrun
    unfold Middleware.counted
    simp only [hrun]
    rfl
  have htraced : Middleware.traced false (Middleware.counted (Middleware.chain ms e.step)) [] start =
      (.returned, last) := by
    unfold Middleware.traced Step.guarded
    rw [hcounted]
    rfl
  have hchain : Middleware.chain (srv.baseChain ++ own) e.step [] start = (.returned, last) := by
    rw [hms]
    change Step.guarded (Middleware.traced false
      (Middleware.counted (Middleware.chain ms e.step))) [] start = _
    unfold Step.guarded
    rw [htraced]
  rw [hchain]
  exact ⟨_, _, rfl⟩

end Server

/-- **The code that a client sees is the code that is measured.** Where the service itself writes the body
of a response and an error was recorded, the body is an envelope with the code of the first error, and that
code is the error label under which the request is counted. -/
theorem shown_code_is_measured (srv : Server) (own : List Middleware) (e : Endpoint) (start : State)
    (w : Writing) (m : Middleware)
    (hw : Writing.of? e.step (srv.baseChain ++ own) [] start = some w)
    (hauthor : w.author = some m) (hm : m.writes = true)
    (herrors : (Middleware.chain (srv.baseChain ++ own) e.step [] start).2.exchange.errors ≠ [])
    (htimeout : ∀ limit, m = .timeout limit → ∀ f, w.found.error? = some f → f.code.value = 503)
    (hrespond : ∀ p, m = .respond p → w.outer.all Middleware.isGuard = true ∨ w.found.errors ≠ []) :
    ∃ final f message,
      Middleware.chain (srv.baseChain ++ own) e.step [] start = (.returned, final) ∧
      final.exchange.error? = some f ∧
      final.exchange.writer.body = some (Envelope.encode ⟨f.code.value, message, .null⟩) ∧
      final.exchange.writer.body.bind Envelope.shownCode? = some final.exchange.labels.errorCode ∧
      (srv.metrics = true →
        final.exchange.IsCounted start.exchange.request.labels final.site.metrics) := by
  have hanswered : (Middleware.chain (srv.baseChain ++ own) e.step [] start).2.exchange.Answered := by
    obtain ⟨ds, s, ds', s', next, henter, hfound, hleft, hunwritten, hwritten⟩ :=
      Writing.author_around hw hauthor hm
    rw [hfound] at htimeout hrespond hunwritten
    rw [hleft] at hwritten
    have hlate : ∀ p, m = .respond p → (next ds' s').2.exchange.errors ≠ [] := by
      rintro p rfl
      refine (hrespond p rfl).elim (fun hguards => ?_) id
      -- nothing records an error once the server's own response middleware wrote
      obtain ⟨hreturned, hfinal⟩ := Middleware.around_respond henter hunwritten hwritten
      rw [(Writing.kept_left hw hguards (by rw [hleft, hreturned])).2, hleft, hfinal,
        Exchange.materialise_errors] at herrors
      exact herrors
    have hanswered := Middleware.answered_around hm henter hunwritten hwritten htimeout hlate
    rw [← hleft] at hanswered
    exact hanswered.grows (Writing.grows_left hw)
  obtain ⟨f, message, hf, hbody⟩ := hanswered
  refine ⟨_, f, message, Prod.ext (srv.chain_returned own e start) rfl, hf, hbody, ?_,
    srv.chain_counted own e start⟩
  rw [hbody, Option.bind_some, Envelope.shownCode?_encode]
  simp only [Exchange.labels, hf, Option.map_some, Option.getD_some]

/-- The deadline passes after the route's middleware recorded an error with the code of a timeout. -/
theorem shown_code_of_timeout :
    let inner : UserMiddleware := ⟨"inner", [.pushError (.new .serverBusy "overloaded")], true, []⟩
    let srv : Server :=
      { settings := { Settings.default with writeTimeout := ⟨50⟩ }, metrics := true }
    let e : Endpoint := .actions [.sleep ⟨100⟩, .panic (some "late")]
    let start : State := ⟨.start default "id", .start default []⟩
    ∃ w final,
      (Writing.of? e.step (srv.baseChain ++ [.user inner]) [] start = some w ∧
        w.author = some (.timeout ⟨50⟩) ∧ w.found.error?.isSome = true) ∧
      Middleware.chain (srv.baseChain ++ [.user inner]) e.step [] start = (.returned, final) ∧
      final.exchange.writer.body.bind Envelope.shownCode? = some final.exchange.labels.errorCode ∧
      final.exchange.labels.errorCode = "503" := by
  intro inner srv e start
  have hw : Writing.of? e.step (srv.baseChain ++ [.user inner]) [] start =
    some ⟨[.recovery, .tracing false, .metrics, .respond .envelope], some (.timeout ⟨50⟩),
      _, _⟩ := rfl
  obtain ⟨final, f, _, hrun, _, _, hshown, _⟩ := shown_code_is_measured srv [.user inner] e start _
    (.timeout ⟨50⟩) hw rfl rfl nofun (fun _ _ f hf => by cases hf; rfl) nofun
  refine ⟨_, final, ⟨hw, rfl, rfl⟩, hrun, hshown, ?_⟩
  cases hrun
  rfl

/-- An error was recorded before the deadline passed: the client sees the code of the timeout, and the
request is counted under the code of the error. -/
theorem timeout_after_error :
    let srv : Server :=
      { settings := { Settings.default with writeTimeout := ⟨50⟩ }, metrics := true }
    let e : Endpoint :=
      .actions [.pushError (.new .notFound "no such user"), .sleep ⟨100⟩]
    let start : State := ⟨.start default "id", .start default []⟩
    ∃ w final,
      (Writing.of? e.step srv.baseChain [] start = some w ∧
        w.author = some (.timeout ⟨50⟩)) ∧
      Middleware.chain srv.baseChain e.step [] start = (.returned, final) ∧
      final.exchange.writer.body.bind Envelope.shownCode? = some "503" ∧
      final.exchange.error?.map (·.code.value) = some 404 ∧
      final.exchange.labels.errorCode = "404" := by
  intro srv e start
  refine ⟨_, _, ⟨rfl, rfl⟩, rfl, ?_, rfl, rfl⟩
  change (some (Envelope.encode ⟨503, "request timed out", .null⟩)).bind Envelope.shownCode? = _
  exact Envelope.shownCode?_encode ⟨503, "request timed out", .null⟩

end HttpService
