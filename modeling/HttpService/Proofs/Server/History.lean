import HttpService.Proofs.Server.Composition
import HttpService.Server.Lifecycle

/-!
# The history of a server

`history F s ops` is what operations on a server come to, one after another: calls that build, attempts
to start, and stops. A stop stands where it changes the phase, so that stops that wait at the same time
are in the order in which they changed it. Whether the address is free, what the system says of a listener
and how many connections are still busy at the end is open: the operations carry it.

`exists_effect` is all that an operation can do, and `perform_phase` what that means for the phase. What
follows for a whole history is in `lifecycle_safety`: one start at most, one shutdown after it, and the same
routes from then on.
-/

set_option autoImplicit false

namespace HttpService.Server

/-! ## Operations -/

/-- What is asked of a server. -/
inductive Op
  /-- A call that builds. -/
  | call (c : Call)
  /-- A start on the address of the settings, with the files there are and what listening comes to. -/
  | start (files : Files) (listening : Except Failure (Except String SocketAddress))
  /-- A start on a listener. -/
  | serve (files : Files) (listener : Except String SocketAddress)
  /-- A stop; so many connections are still busy when its time is over. -/
  | stop (left : Nat)

namespace Op

/-- The files and the listener that an attempt to start gets. -/
def attempt? : Op → Option (Files × Except Failure (Except String SocketAddress))
  | start files listening => some (files, listening)
  | serve files listener => some (files, .ok listener)
  | _ => none

def isStop : Op → Bool
  | stop _ => true
  | _ => false

/-- What a start needs: a listener with an address, the files of a secured server, and routes that can
stand beside each other. -/
def Ready (F : Family) (s : Server) (a : SocketAddress) (v : Service) (op : Op) : Prop :=
  ∃ files, op.attempt? = some (files, .ok (.ok a)) ∧
    (s.settings.tls.enable = true → s.settings.tls.load files = .ok ()) ∧ (s.service F).1 = .ok v

end Op

/-- What is answered. -/
inductive Reply
  | built (warnings : List Event)
  | started (result : Except Failure (SocketAddress × Service)) (warnings : List Event)
  | stopped (result : Except Failure Unit)

/-- An operation, with the server before and after it and what was answered. -/
structure Occurrence where
  before : Server
  op : Op
  reply : Reply
  after : Server

/-- The warnings of a call. -/
def Call.warnings (F : Family) (s : Server) : Call → List Event
  | item step => (Server.step F s step).2.1
  | _ => []

def perform (F : Family) (s : Server) (op : Op) : Occurrence :=
  match op with
  | .call c => ⟨s, op, .built (c.warnings F s), c.apply F s⟩
  | .start files listening =>
    let t := s.startOn F files listening
    ⟨s, op, .started t.result t.warnings, t.server⟩
  | .serve files listener =>
    let t := s.serve F files listener
    ⟨s, op, .started t.result t.warnings, t.server⟩
  | .stop left =>
    let (result, t) := s.stop left
    ⟨s, op, .stopped result, t⟩

@[simp] theorem before_perform (F : Family) (s : Server) (op : Op) : (perform F s op).before = s := by
  cases op <;> rfl

@[simp] theorem op_perform (F : Family) (s : Server) (op : Op) : (perform F s op).op = op := by
  cases op <;> rfl

/-- What operations come to, one after another. -/
def history (F : Family) (s : Server) : List Op → List Occurrence
  | [] => []
  | op :: ops => perform F s op :: history F (perform F s op).after ops

/-- The server that operations lead to. -/
def afterAll (F : Family) (s : Server) (ops : List Op) : Server :=
  ops.foldl (fun s op => (perform F s op).after) s

namespace Occurrence

/-- The address and the service of a start that succeeded. -/
def started? (o : Occurrence) : Option (SocketAddress × Service) :=
  match o.reply with
  | .started (.ok served) _ => some served
  | _ => none

/-- Whether a start succeeded. -/
def starts (o : Occurrence) : Bool :=
  o.started?.isSome

/-- Whether the server ran before and does not run afterwards. -/
def shutsDown (o : Occurrence) : Bool :=
  o.before.isRunning && !o.after.isRunning

end Occurrence

/-- The answer of a stop that shuts the server down. -/
def drained (s : Server) (left : Nat) : Except Failure Unit :=
  if left = 0 then .ok () else .error (closedEarly s.settings.gracefulTimeout left)

/-! ## What an operation does -/

section
variable {F : Family} {s : Server}

/-- What an attempt to start comes to. -/
inductive Attempt (F : Family) (s : Server) (files : Files)
    (listening : Except Failure (Except String SocketAddress)) : Started → Prop
  | refused (f : Failure) (warnings : List Event)
      (why : s.phase = .idle → ∀ a v, listening = .ok (.ok a) →
        (s.settings.tls.enable = true → s.settings.tls.load files = .ok ()) →
        (s.service F).1 ≠ .ok v) :
      Attempt F s files listening ⟨.error f, warnings, s⟩
  | unread (f : Failure) (warnings : List Event) {why : String} (idle : s.phase = .idle)
      (h : listening = .ok (.error why)) :
      Attempt F s files listening ⟨.error f, warnings, { s with frozen := true }⟩
  | started {a : SocketAddress} {v : Service} (warnings : List Event) (idle : s.phase = .idle)
      (h : listening = .ok (.ok a))
      (secured : s.settings.tls.enable = true → s.settings.tls.load files = .ok ())
      (served : (s.service F).1 = .ok v) :
      Attempt F s files listening
        ⟨.ok (a, v), warnings, { s with frozen := true, phase := .running a }⟩

theorem attempt_serve (files : Files) (listener : Except String SocketAddress) :
    Attempt F s files (.ok listener) (s.serve F files listener) := by
  unfold serve
  split
  · rename_i hphase
    exact .refused _ _ fun hidle => absurd hidle hphase
  · rename_i hphase
    have hidle : s.phase = .idle := Decidable.not_not.1 hphase
    dsimp only
    split
    · rename_i f htls
      refine .refused _ _ fun _ _ _ _ hload _ => ?_
      split at htls
      · rename_i henable
        cases htls.symm.trans (hload henable)
      · cases htls
    · rename_i htls
      have hload (henable : s.settings.tls.enable = true) : s.settings.tls.load files = .ok () := by
        rwa [if_pos henable] at htls
      split
      · rename_i hservice
        exact .refused _ _ fun _ _ _ _ _ hok => by rw [hservice] at hok; cases hok
      · rename_i hservice
        split
        · exact .unread _ _ hidle rfl
        · exact .started _ hidle rfl hload (by rw [hservice])

theorem check_of_load {files : Files} {t : TlsSettings} (h : t.load files = .ok ()) :
    t.check files = .ok () := by
  obtain ⟨_, hcheck, _⟩ := bind_eq_ok.1 h
  exact hcheck

theorem attempt_startOn (files : Files) (listening : Except Failure (Except String SocketAddress)) :
    Attempt F s files listening (s.startOn F files listening) := by
  unfold startOn
  cases hsecured : s.settings.tls.enable with
  | false =>
    cases listening with
    | error f => exact .refused _ _ nofun
    | ok listener => exact attempt_serve files listener
  | true =>
    cases hcheck : s.settings.tls.check files with
    | error f =>
      refine .refused _ _ fun _ _ _ _ hload _ => ?_
      cases hcheck.symm.trans (check_of_load (hload hsecured))
    | ok u =>
      cases listening with
      | error f => exact .refused _ _ nofun
      | ok listener => exact attempt_serve files listener

/-- What an operation comes to. -/
inductive Effect (F : Family) (s : Server) : Op → Reply → Server → Prop
  | built (c : Call) : Effect F s (.call c) (.built (c.warnings F s)) (c.apply F s)
  | attempted {op : Op} {files : Files} {listening : Except Failure (Except String SocketAddress)}
      {t : Started} (h : op.attempt? = some (files, listening))
      (attempt : Attempt F s files listening t) :
      Effect F s op (.started t.result t.warnings) t.server
  | shutDown (left : Nat) (running : s.isRunning = true) :
      Effect F s (.stop left) (.stopped (drained s left)) { s with phase := .stopped }
  | unmoved (left : Nat) (h : s.isRunning = false) : Effect F s (.stop left) (.stopped (.ok ())) s

theorem stop_of_running (h : s.isRunning = true) (left : Nat) :
    s.stop left = (drained s left, { s with phase := .stopped }) := by
  unfold isRunning at h
  split at h
  · rename_i hphase
    rw [stop, hphase]
    rfl
  · cases h

theorem stop_of_not_running (h : s.isRunning = false) (left : Nat) : s.stop left = (.ok (), s) := by
  unfold isRunning at h
  split at h
  · cases h
  · rename_i hphase
    rw [stop]
    split
    · exact absurd ‹_› (hphase _)
    · rfl

/-- Everything that an operation can come to. -/
theorem exists_effect (F : Family) (s : Server) (op : Op) :
    ∃ reply t, perform F s op = ⟨s, op, reply, t⟩ ∧ Effect F s op reply t := by
  cases op with
  | call c => exact ⟨_, _, rfl, .built c⟩
  | start files listening => exact ⟨_, _, rfl, .attempted rfl (attempt_startOn files listening)⟩
  | serve files listener => exact ⟨_, _, rfl, .attempted rfl (attempt_serve files listener)⟩
  | stop left =>
    refine ⟨.stopped (s.stop left).1, (s.stop left).2, rfl, ?_⟩
    cases hrunning : s.isRunning with
    | true => rw [stop_of_running hrunning]; exact .shutDown left hrunning
    | false => rw [stop_of_not_running hrunning]; exact .unmoved left hrunning

/-! ## One operation -/

theorem Op.isStop_of_attempt? {op : Op} {files : Files}
    {listening : Except Failure (Except String SocketAddress)}
    (h : op.attempt? = some (files, listening)) : op.isStop = false := by
  cases op with
  | stop left => cases h
  | _ => rfl

theorem isRunning_eq (s : Server) : s.isRunning = s.address?.isSome := by
  unfold isRunning address?
  split <;> rfl

/-- A call leaves the phase as it is, and registers its routes unless the routes are fixed. -/
theorem Call.apply_kept (F : Family) (s : Server) (c : Call) :
    (c.apply F s).phase = s.phase ∧ (c.apply F s).frozen = s.frozen ∧
      (c.apply F s).registry = if s.frozen then s.registry else s.registry.putAll (c.routes F) := by
  cases hfrozen : s.frozen with
  | false =>
    rw [c.apply_idle F hfrozen]
    exact ⟨rfl, hfrozen, rfl⟩
  | true =>
    have hregister (routes : List (Route Middleware Endpoint)) : (s.register routes).1 = s := by
      rw [register, if_pos hfrozen]
    cases c with
    | metrics => exact ⟨rfl, hfrozen, rfl⟩
    | policy p => exact ⟨rfl, hfrozen, rfl⟩
    | item step =>
      cases step with
      | use m => exact ⟨rfl, hfrozen, rfl⟩
      | bind c own => simp [apply, Server.step, hregister, hfrozen]
      | group path steps => simp [apply, Server.step, hregister, hfrozen]

/-- Fixed routes stay fixed. -/
theorem perform_frozen (h : s.frozen = true) (op : Op) :
    (perform F s op).after.frozen = true ∧ (perform F s op).after.registry = s.registry := by
  obtain ⟨reply, t, hperform, heffect⟩ := exists_effect F s op
  rw [hperform]
  cases heffect with
  | built c =>
    obtain ⟨_, hfrozen, hregistry⟩ := c.apply_kept F s
    exact ⟨hfrozen.trans h, by rw [hregistry, if_pos h]⟩
  | attempted _ attempt => cases attempt <;> exact ⟨by simp [h], rfl⟩
  | shutDown => exact ⟨h, rfl⟩
  | unmoved => exact ⟨h, rfl⟩

/-- A start that succeeds finds the server idle; without one the phase changes only when a running server
is stopped. -/
theorem perform_phase (F : Family) (s : Server) (op : Op) :
    (∃ a v, (perform F s op).started? = some (a, v) ∧ s.phase = .idle ∧
      (perform F s op).after = { s with frozen := true, phase := .running a }) ∨
    (perform F s op).started? = none ∧
      (perform F s op).after.phase = if s.isRunning && op.isStop then .stopped else s.phase := by
  obtain ⟨reply, t, hperform, heffect⟩ := exists_effect F s op
  rw [hperform]
  cases heffect with
  | built c => exact .inr ⟨rfl, by simpa [Op.isStop] using (c.apply_kept F s).1⟩
  | attempted h attempt =>
    cases attempt with
    | refused => exact .inr ⟨rfl, by simp [Op.isStop_of_attempt? h]⟩
    | unread => exact .inr ⟨rfl, by simp [Op.isStop_of_attempt? h]⟩
    | started warnings idle => exact .inl ⟨_, _, rfl, idle, rfl⟩
  | shutDown left running => exact .inr ⟨rfl, by simp [running, Op.isStop]⟩
  | unmoved left h => exact .inr ⟨rfl, by simp [h]⟩

theorem after_of_starts {op : Op} (h : (perform F s op).starts = true) : s.phase = .idle ∧
    ∃ a, (perform F s op).after = { s with frozen := true, phase := .running a } := by
  rcases perform_phase F s op with ⟨a, v, _, hidle, hafter⟩ | ⟨hnone, _⟩
  · exact ⟨hidle, a, hafter⟩
  · rw [Occurrence.starts, hnone] at h
    cases h

/-- A start succeeds just if the server is idle and nothing is missing. -/
theorem started?_perform (op : Op) (a : SocketAddress) (v : Service) :
    (perform F s op).started? = some (a, v) ↔ s.phase = .idle ∧ op.Ready F s a v := by
  obtain ⟨reply, t, hperform, heffect⟩ := exists_effect F s op
  rw [hperform]
  cases heffect with
  | attempted h attempt =>
    cases attempt with
    | refused f warnings why =>
      refine iff_of_false nofun fun ⟨idle, files, hop, hload, hservice⟩ => ?_
      cases h.symm.trans hop
      exact why idle a v rfl hload hservice
    | unread f warnings idle hunread =>
      refine iff_of_false nofun fun ⟨_, files, hop, _⟩ => ?_
      cases h.symm.trans hop
      cases hunread
    | started warnings idle hlistening secured served =>
      subst hlistening
      refine ⟨fun hsome => ?_, fun ⟨_, files, hop, _, hservice⟩ => ?_⟩
      · cases hsome
        exact ⟨idle, _, h, secured, served⟩
      · cases h.symm.trans hop
        cases served.symm.trans hservice
        rfl
  | built => exact iff_of_false nofun fun ⟨_, _, hop, _⟩ => nomatch hop
  | shutDown => exact iff_of_false nofun fun ⟨_, _, hop, _⟩ => nomatch hop
  | unmoved => exact iff_of_false nofun fun ⟨_, _, hop, _⟩ => nomatch hop

/-- An attempt that fails changes nothing, unless a listener is there and its address cannot be read. -/
theorem perform_failed {op : Op} {files : Files}
    {listening : Except Failure (Except String SocketAddress)}
    (hop : op.attempt? = some (files, listening)) (h : (perform F s op).starts = false) :
    (∃ f warnings, (perform F s op).reply = .started (.error f) warnings) ∧
      ((perform F s op).after = s ∨ s.phase = .idle ∧ (∃ why, listening = .ok (.error why)) ∧
        (perform F s op).after = { s with frozen := true }) := by
  obtain ⟨reply, t, hperform, heffect⟩ := exists_effect F s op
  rw [hperform] at h ⊢
  cases heffect with
  | attempted hop' attempt =>
    cases hop'.symm.trans hop
    cases attempt with
    | refused f warnings => exact ⟨⟨f, warnings, rfl⟩, .inl rfl⟩
    | unread f warnings idle hunread =>
      exact ⟨⟨f, warnings, rfl⟩, .inr ⟨idle, ⟨_, hunread⟩, rfl⟩⟩
    | started => cases h
  | built => cases hop
  | shutDown => cases hop
  | unmoved => cases hop

/-- A server that was started once is not idle again, and no further start succeeds. -/
theorem perform_started (h : s.phase ≠ .idle) (op : Op) :
    (perform F s op).started? = none ∧ (perform F s op).after.phase ≠ .idle := by
  rcases perform_phase F s op with ⟨_, _, _, hidle, _⟩ | ⟨hnone, hphase⟩
  · exact absurd hidle h
  · refine ⟨hnone, ?_⟩
    rw [hphase]
    split
    · nofun
    · exact h

/-- Such a start changes nothing. -/
theorem after_of_attempt (h : s.phase ≠ .idle) {op : Op} (hop : op.attempt? ≠ none) :
    (perform F s op).after = s := by
  obtain ⟨reply, t, hperform, heffect⟩ := exists_effect F s op
  rw [hperform]
  cases heffect with
  | attempted _ attempt =>
    cases attempt with
    | refused => rfl
    | unread _ _ idle => exact absurd idle h
    | started _ idle => exact absurd idle h
  | built => exact absurd rfl hop
  | shutDown => exact absurd rfl hop
  | unmoved => exact absurd rfl hop

/-! ## Histories -/

section
variable {P : Server → Prop} {R : Occurrence → Occurrence → Prop}

theorem map_op_history (ops : List Op) : (history F s ops).map (·.op) = ops := by
  induction ops generalizing s with
  | nil => rfl
  | cons op ops ih => rw [history, List.map_cons, ih, op_perform]

/-- What each operation keeps holds before and after every one. -/
theorem forall_history (hstep : ∀ s op, P s → P (perform F s op).after) (h : P s) (ops : List Op) :
    ∀ o ∈ history F s ops, o = perform F o.before o.op ∧ P o.before ∧ P o.after := by
  induction ops generalizing s with
  | nil => exact fun _ ho => absurd ho List.not_mem_nil
  | cons op ops ih =>
    intro o ho
    rw [history] at ho
    rcases List.mem_cons.1 ho with rfl | ho
    · exact ⟨by rw [before_perform, op_perform], by rwa [before_perform], hstep s op h⟩
    · exact ih (hstep s op h) o ho

/-- An occurrence is one operation on the server before it. -/
theorem eq_perform_of_mem {ops : List Op} {o : Occurrence} (h : o ∈ history F s ops) :
    o = perform F o.before o.op :=
  (forall_history (P := fun _ => True) (fun _ _ _ => trivial) trivial ops o h).1

theorem pairwise_history
    (h : ∀ s op ops, ∀ o ∈ history F (perform F s op).after ops, R (perform F s op) o) (ops : List Op) :
    (history F s ops).Pairwise R := by
  induction ops generalizing s with
  | nil => exact .nil
  | cons op ops ih => exact List.pairwise_cons.2 ⟨h s op ops, ih⟩

theorem exists_of_history_eq {ops : List Op} {xs ys : List Occurrence} {o : Occurrence}
    (h : history F s ops = xs ++ o :: ys) : ∃ first last, ops = first ++ o.op :: last ∧
      xs = history F s first ∧ o.before = afterAll F s first ∧ ys = history F o.after last := by
  induction xs generalizing s ops with
  | nil =>
    cases ops with
    | nil => cases h
    | cons op ops =>
      obtain ⟨rfl, rfl⟩ := List.cons.inj h
      exact ⟨[], ops, by simp, rfl, by simp [afterAll], rfl⟩
  | cons x xs ih =>
    cases ops with
    | nil => cases h
    | cons op ops =>
      obtain ⟨rfl, htail⟩ := List.cons.inj h
      obtain ⟨first, last, rfl, rfl, hbefore, hys⟩ := ih htail
      exact ⟨op :: first, last, rfl, rfl, hbefore, hys⟩

end

theorem afterAll_started (h : s.phase ≠ .idle) (ops : List Op) : (afterAll F s ops).phase ≠ .idle := by
  induction ops generalizing s with
  | nil => exact h
  | cons op ops ih => exact ih (perform_started h op).2

/-- After a start that succeeded there is no other. -/
theorem history_started (h : s.phase ≠ .idle) (ops : List Op) :
    ∀ o ∈ history F s ops, o.before.phase ≠ .idle ∧ o.started? = none := by
  intro o ho
  obtain ⟨hperform, hbefore, _⟩ := forall_history (P := fun s => s.phase ≠ .idle)
    (fun s op hs => (perform_started hs op).2) h ops o ho
  exact ⟨hbefore, hperform ▸ (perform_started hbefore o.op).1⟩

theorem starts_le_one (ops : List Op) : (history F s ops).countP Occurrence.starts ≤ 1 := by
  induction ops generalizing s with
  | nil => exact Nat.zero_le 1
  | cons op ops ih =>
    rw [history, List.countP_cons]
    cases hstarts : (perform F s op).starts with
    | true =>
      obtain ⟨_, a, hafter⟩ := after_of_starts hstarts
      have hrest : (history F (perform F s op).after ops).countP Occurrence.starts = 0 := by
        refine List.countP_eq_zero.2 fun o ho => ?_
        rw [Occurrence.starts, (history_started (by rw [hafter]; nofun) ops o ho).2]
        exact Bool.false_ne_true
      rw [hrest]
      exact Nat.le_refl 1
    | false => exact ih

theorem history_registry (h : s.frozen = true) (ops : List Op) :
    ∀ o ∈ history F s ops, o.after.registry = s.registry := by
  intro o ho
  have hstep (t : Server) (op : Op) (ht : t.frozen = true ∧ t.registry = s.registry) :
      (perform F t op).after.frozen = true ∧ (perform F t op).after.registry = s.registry :=
    ⟨(perform_frozen ht.1 op).1, (perform_frozen ht.1 op).2.trans ht.2⟩
  obtain ⟨_, _, _, hafter⟩ := forall_history hstep ⟨h, rfl⟩ ops o ho
  exact hafter

/-! ## Shutting down -/

theorem isRunning_congr {t : Server} (h : t.phase = s.phase) : t.isRunning = s.isRunning := by
  rw [isRunning, isRunning, h]

/-- A server is shut down by a stop that finds it running. -/
theorem shutsDown_perform (F : Family) (s : Server) (op : Op) :
    (perform F s op).shutsDown = (s.isRunning && op.isStop) := by
  rw [Occurrence.shutsDown, before_perform]
  rcases perform_phase F s op with ⟨a, v, _, hidle, hafter⟩ | ⟨_, hphase⟩
  · simp [isRunning, hidle]
  · cases hstop : s.isRunning && op.isStop with
    | true =>
      rw [hstop, if_pos rfl] at hphase
      rw [((Bool.and_eq_true _ _).mp hstop).1, isRunning, hphase]
      rfl
    | false =>
      rw [hstop, if_neg Bool.false_ne_true] at hphase
      rw [isRunning_congr hphase, Bool.and_not_self]

theorem history_stopped (h : s.phase = .stopped) (ops : List Op) :
    ∀ o ∈ history F s ops, o.before.isRunning = false ∧ o.after.isRunning = false := by
  have hstep (s : Server) (op : Op) (hs : s.phase = .stopped) :
      (perform F s op).after.phase = .stopped := by
    rcases perform_phase F s op with ⟨_, _, _, hidle, _⟩ | ⟨_, hphase⟩
    · cases hs.symm.trans hidle
    · rw [hphase, hs, ite_self]
  intro o ho
  obtain ⟨_, hbefore, hafter⟩ := forall_history hstep h ops o ho
  exact ⟨by rw [isRunning, hbefore], by rw [isRunning, hafter]⟩

theorem shutdowns_of_stopped (h : s.phase = .stopped) (ops : List Op) :
    (history F s ops).countP Occurrence.shutsDown = 0 := by
  refine List.countP_eq_zero.2 fun o ho => ?_
  rw [Occurrence.shutsDown, (history_stopped h ops o ho).1]
  exact Bool.false_ne_true

/-- The first stop shuts a running server down, and no other does. -/
theorem shutdowns_of_running (h : s.isRunning = true) (ops : List Op) :
    (history F s ops).countP Occurrence.shutsDown = if ops.any Op.isStop then 1 else 0 := by
  induction ops generalizing s with
  | nil => rfl
  | cons op ops ih =>
    have hshuts := shutsDown_perform F s op
    rw [h, Bool.true_and] at hshuts
    rw [history, List.countP_cons, hshuts, List.any_cons]
    rcases perform_phase F s op with ⟨_, _, _, hidle, _⟩ | ⟨_, hphase⟩
    · rw [isRunning, hidle] at h
      cases h
    · cases hstop : op.isStop with
      | true =>
        rw [h, hstop] at hphase
        rw [shutdowns_of_stopped hphase]
        rfl
      | false =>
        rw [h, hstop] at hphase
        rw [ih ((isRunning_congr hphase).trans h)]
        rfl

/-- A server that is idle at the end was idle all along. -/
theorem history_idle (ops : List Op) (h : (afterAll F s ops).phase = .idle) :
    ∀ o ∈ history F s ops, o.before.phase = .idle := by
  intro o ho
  obtain ⟨first, last, hsplit⟩ := List.append_of_mem ho
  obtain ⟨done, left, rfl, _, hbefore, _⟩ := exists_of_history_eq hsplit
  rw [afterAll, List.foldl_append] at h
  rw [hbefore]
  exact Decidable.byContradiction fun hne => afterAll_started hne (o.op :: left) h

/-- Of the stops after a start that succeeded just one shuts the server down. -/
theorem shutdowns_of_start {ops : List Op} {xs ys : List Occurrence} {o : Occurrence}
    (hsplit : history F s ops = xs ++ o :: ys) (hstarts : o.starts = true) :
    (history F s ops).countP Occurrence.shutsDown = if ys.any (·.op.isStop) then 1 else 0 := by
  have hmem : o ∈ history F s ops := hsplit ▸ List.mem_append_right _ (.head _)
  have ho : o = perform F o.before o.op := eq_perform_of_mem hmem
  rw [ho] at hstarts
  obtain ⟨hidle, a, hafter⟩ := after_of_starts hstarts
  rw [← ho] at hafter
  obtain ⟨first, last, _, rfl, hbefore, rfl⟩ := exists_of_history_eq hsplit
  have hfirst : (history F s first).countP Occurrence.shutsDown = 0 := by
    refine List.countP_eq_zero.2 fun x hx => ?_
    rw [Occurrence.shutsDown, isRunning, history_idle first (hbefore ▸ hidle) x hx]
    exact Bool.false_ne_true
  have hself : o.shutsDown = false := by rw [Occurrence.shutsDown, isRunning, hidle, Bool.false_and]
  have hlast : ((history F o.after last).any fun x => x.op.isStop) = last.any Op.isStop := by
    conv => rhs; rw [← map_op_history (F := F) (s := o.after) last, List.any_map]
    rfl
  rw [hsplit, List.countP_append, List.countP_cons, hfirst, hself,
    shutdowns_of_running (by rw [hafter, isRunning]), hlast]
  simp

/-! ## The address -/

/-- The address is the one of the start that succeeded, until the server is shut down. -/
theorem address?_afterAll (ops : List Op) :
    (afterAll F s ops).address? = if (history F s ops).any Occurrence.shutsDown then none
      else (((history F s ops).findSome? Occurrence.started?).map (·.1)).or s.address? := by
  induction ops generalizing s with
  | nil => rfl
  | cons op ops ih =>
    show (afterAll F (perform F s op).after ops).address? = _
    have hnone (h : (perform F s op).after.phase ≠ .idle) :
        (history F (perform F s op).after ops).findSome? Occurrence.started? = none :=
      List.findSome?_eq_none_iff.2 fun o ho => (history_started h ops o ho).2
    rw [ih, history, List.any_cons, List.findSome?_cons, shutsDown_perform]
    rcases perform_phase F s op with ⟨a, v, hstarted, hidle, hafter⟩ | ⟨hfailed, hphase⟩
    · rw [hnone (by rw [hafter]; nofun), hstarted, hafter]
      simp [address?, isRunning, hidle]
    · cases hstop : s.isRunning && op.isStop with
      | true =>
        rw [hstop, if_pos rfl] at hphase
        rw [hnone (by rw [hphase]; nofun), address?, hphase]
        simp
      | false =>
        rw [hstop, if_neg Bool.false_ne_true] at hphase
        rw [hfailed, Bool.false_or, address?, hphase]
        rfl

end

/-- **The life of a server.** Whatever is asked of a new server, in any order:

* at most one start succeeds;
* a start succeeds just if the server is idle, its TLS files load, its routes can stand beside each other
  and there is a listener with an address; then the server runs on that address and its routes are fixed;
* a start that fails leaves the server as it was, so that an idle one can still be built and started; only
  if the system cannot say the address of a listener that it gave are the routes fixed by then;
* a call leaves the phase as it is, and registers its routes unless they are fixed;
* a stop of a server that does not run answers that all is well and changes nothing; one of a server that
  runs shuts it down;
* after a start that succeeded every other one fails and changes nothing, and the routes never change;
* of the stops after it just one shuts the server down, if there is any;
* afterwards the server never runs again, whether it drained in time or not;
* the server has an address just while it runs: that of the start that succeeded. -/
theorem lifecycle_safety (F : Family) (settings : Settings) (ops : List Op) :
    let s₀ : Server := { settings }
    let h := history F s₀ ops
    h.countP Occurrence.starts ≤ 1 ∧
    (∀ o ∈ h, ∀ a v,
      (o.started? = some (a, v) ↔ o.before.phase = .idle ∧ o.op.Ready F o.before a v) ∧
      (o.started? = some (a, v) →
        o.after = { o.before with frozen := true, phase := .running a })) ∧
    (∀ o ∈ h, ∀ files listening, o.op.attempt? = some (files, listening) → o.starts = false →
      (∃ f warnings, o.reply = .started (.error f) warnings) ∧
      (o.after = o.before ∨ o.before.phase = .idle ∧ (∃ why, listening = .ok (.error why)) ∧
        o.after = { o.before with frozen := true })) ∧
    (∀ o ∈ h, ∀ c, o.op = .call c → o.after.phase = o.before.phase ∧
      o.after.frozen = o.before.frozen ∧ o.after.registry =
        if o.before.frozen then o.before.registry else o.before.registry.putAll (c.routes F)) ∧
    (∀ o ∈ h, ∀ left, o.op = .stop left → if o.before.isRunning
      then o.reply = .stopped (drained o.before left) ∧ o.after = { o.before with phase := .stopped }
      else o.reply = .stopped (.ok ()) ∧ o.after = o.before) ∧
    h.Pairwise (fun o o' => o.starts = true →
      (o'.op.attempt? ≠ none → o'.starts = false ∧ o'.after = o'.before) ∧
      o'.after.registry = o.after.registry) ∧
    (∀ xs o ys, h = xs ++ o :: ys → o.starts = true →
      h.countP Occurrence.shutsDown = if ys.any (·.op.isStop) then 1 else 0) ∧
    h.Pairwise (fun o o' => o.shutsDown = true →
      o'.before.isRunning = false ∧ o'.after.isRunning = false) ∧
    (afterAll F s₀ ops).isRunning = (afterAll F s₀ ops).address?.isSome ∧
    (afterAll F s₀ ops).address? = if h.any Occurrence.shutsDown then none
      else (h.findSome? Occurrence.started?).map (·.1) := by
  intro s₀ h
  have every {P : Occurrence → Prop} (hP : ∀ s op, P (perform F s op)) : ∀ o ∈ h, P o :=
    fun o ho => eq_perform_of_mem ho ▸ hP o.before o.op
  have hlater {s : Server} {op : Op} {later : List Op} {o : Occurrence}
      (hstarts : (perform F s op).starts = true) (ho : o ∈ history F (perform F s op).after later) :
      o.before.phase ≠ .idle ∧ o.started? = none ∧
        o.after.registry = (perform F s op).after.registry := by
    obtain ⟨_, a, hafter⟩ := after_of_starts hstarts
    have hphase : (perform F s op).after.phase ≠ .idle := by rw [hafter]; nofun
    have hfrozen : (perform F s op).after.frozen = true := by rw [hafter]
    exact ⟨(history_started hphase later o ho).1, (history_started hphase later o ho).2,
      history_registry hfrozen later o ho⟩
  refine ⟨?_, every fun s op a v => ?_, every fun s op files listening hop hfails => ?_,
    every fun s op c hop => ?_, every fun s op left hop => ?_,
    pairwise_history (fun s op later o ho hstarts => ?_) ops, fun xs o ys hsplit hstarts => ?_,
    pairwise_history (fun s op later o ho hshuts => ?_) ops, isRunning_eq _, ?_⟩
  · exact starts_le_one ops
  · rw [before_perform, op_perform]
    refine ⟨started?_perform op a v, fun hsome => ?_⟩
    rcases perform_phase F s op with ⟨a', v', hsome', _, hafter⟩ | ⟨hnone, _⟩
    · cases hsome'.symm.trans hsome
      exact hafter
    · cases hnone.symm.trans hsome
  · rw [op_perform] at hop
    rw [before_perform]
    exact perform_failed hop hfails
  · rw [op_perform] at hop
    subst hop
    exact c.apply_kept F s
  · rw [op_perform] at hop
    subst hop
    cases hrunning : s.isRunning with
    | true => simp [perform, hrunning, stop_of_running]
    | false => simp [perform, hrunning, stop_of_not_running]
  · obtain ⟨hphase, hnone, hregistry⟩ := hlater hstarts ho
    refine ⟨fun hop => ⟨by rw [Occurrence.starts, hnone]; rfl, ?_⟩, hregistry⟩
    have hafter := after_of_attempt (F := F) hphase hop
    rwa [← eq_perform_of_mem ho] at hafter
  · exact shutdowns_of_start hsplit hstarts
  · refine history_stopped ?_ later o ho
    rw [shutsDown_perform] at hshuts
    rcases perform_phase F s op with ⟨_, _, _, hidle, _⟩ | ⟨_, hphase⟩
    · rw [isRunning, hidle] at hshuts
      cases hshuts
    · rw [hphase, if_pos hshuts]
  · rw [address?_afterAll, show s₀.address? = none from rfl, Option.or_none]

/-- The first start finds no address and leaves an idle server, the second one succeeds, the third one
fails; one of the two stops shuts the server down, though a connection is left. -/
theorem lifecycle_of_three_starts :
    let F : Family := ⟨[]⟩
    let s₀ : Server := { settings := { Settings.default with openapiPath := "" } }
    let a : SocketAddress := ⟨"127.0.0.1", 8080⟩
    let ops : List Op := [.start [] (.error (.plain "no address")), .serve [] (.ok a),
      .serve [] (.ok a), .stop 1, .stop 0]
    let h := history F s₀ ops
    (∃ o ∈ h, o.before.phase = .idle ∧ o.starts = true ∧ o.after.isRunning = true) ∧
      h.countP Occurrence.starts ≤ 1 ∧ h.countP Occurrence.shutsDown = 1 ∧
      (afterAll F s₀ ops).isRunning = false := by
  intro F s₀ a ops h
  obtain ⟨honce, hstart, _, _, _, _, hshuts, _, hrunning, haddress⟩ :=
    lifecycle_safety F s₀.settings ops
  have hservice : ∃ v, (s₀.service F).1 = .ok v := by
    have hok : (s₀.service F).1.toBool = true := by decide +kernel
    cases hresult : (s₀.service F).1 with
    | ok v => exact ⟨v, rfl⟩
    | error f => rw [hresult] at hok; cases hok
  obtain ⟨v, hv⟩ := hservice
  -- The start that found no address left the server as it was.
  let o := perform F s₀ (.serve [] (.ok a))
  have hsplit : h = [perform F s₀ (.start [] (.error (.plain "no address")))] ++
      o :: history F o.after [.serve [] (.ok a), .stop 1, .stop 0] := rfl
  have ho : o ∈ h := hsplit ▸ List.mem_append_right _ (.head _)
  have hstarted : o.started? = some (a, v) :=
    (hstart o ho a v).1.2 ⟨rfl, [], rfl, nofun, hv⟩
  have hstarts : o.starts = true := by rw [Occurrence.starts, hstarted]; rfl
  have hone : h.countP Occurrence.shutsDown = 1 := by
    have hcount := hshuts _ o _ hsplit hstarts
    rwa [if_pos (by simp [history, Op.isStop])] at hcount
  refine ⟨⟨o, ho, rfl, hstarts, ?_⟩, honce, hone, ?_⟩
  · rw [(hstart o ho a v).2 hstarted]
    rfl
  · have hany : h.any Occurrence.shutsDown = true := by
      rw [List.any_eq_true, ← List.countP_pos_iff, hone]
      exact Nat.one_pos
    rw [hrunning, haddress, if_pos hany]
    rfl

end HttpService.Server
