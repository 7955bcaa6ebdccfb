import HttpService.Proofs.Pipeline.ResponseLaw

/-!
# A writer shared by tasks

Clones of a writer share what they hold, and each call on one of them takes it in one or more turns: making
the final response first looks whether anything was written, then reads the status, then writes. `history`
is what any number of tasks do in any order of their turns.

`Stage.run_written` says what a turn does once a body was written, and `Stage.run_write` what a write does
before. `write_once` is what follows for every history: one write is accepted, and the response stays as
that write made it, but for headers inserted later.
-/

set_option autoImplicit false

namespace HttpService

/-! ## Headers -/

namespace Headers

theorem get?_replaceFirst_self {h : Headers} {name : String} (hmem : h.any (·.1 = name) = true)
    (value : String) : (insert.replaceFirst name value h).get? name = some value := by
  induction h with
  | nil => cases hmem
  | cons p rest ih =>
    obtain ⟨n, v⟩ := p
    rw [insert.replaceFirst]
    split
    · simp [get?, Assoc.find?]
    · next hne =>
      have hrest : rest.any (·.1 = name) = true := by simpa [hne] using hmem
      simpa [get?, Assoc.find?, hne] using ih hrest

theorem get?_filter_ne {name other : String} (hne : other ≠ name) (h : Headers) :
    get? (h.filter (·.1 ≠ name)) other = h.get? other := by
  induction h with
  | nil => rfl
  | cons p rest ih =>
    obtain ⟨n, v⟩ := p
    by_cases hn : n = name
    · rw [List.filter_cons_of_neg (by simpa using hn), ih]
      simp [get?, Assoc.find?, hn, Ne.symm hne]
    · rw [List.filter_cons_of_pos (by simpa using hn)]
      simp only [get?, Assoc.find?] at ih ⊢
      rw [ih]

theorem get?_replaceFirst_of_ne {name other : String} (hne : other ≠ name) (value : String)
    (h : Headers) : (insert.replaceFirst name value h).get? other = h.get? other := by
  induction h with
  | nil => rfl
  | cons p rest ih =>
    obtain ⟨n, v⟩ := p
    rw [insert.replaceFirst]
    split
    · next hn =>
      have hfilter := get?_filter_ne hne rest
      simp only [get?, Assoc.find?, hn, if_neg (Ne.symm hne)] at hfilter ⊢
      exact hfilter
    · simp only [get?, Assoc.find?] at ih ⊢
      rw [ih]

theorem get?_append_single (h : Headers) (name value other : String) :
    get? (h ++ [(name, value)]) other =
      (h.get? other).or (if name = other then some value else none) := by
  induction h with
  | nil => rfl
  | cons p rest ih =>
    simp only [get?, List.cons_append, Assoc.find?] at ih ⊢
    split
    · rfl
    · exact ih

/-- A header that is there stays there, whatever is inserted. -/
theorem get?_insert_isSome {h : Headers} {other : String} (hother : (h.get? other).isSome = true)
    (name value : String) : ((h.insert name value).get? other).isSome = true := by
  rw [insert]
  split
  · next hmem =>
    by_cases hne : other = name
    · rw [hne, get?_replaceFirst_self hmem]
      rfl
    · rwa [get?_replaceFirst_of_ne hne]
  · rw [get?_append_single, Option.isSome_or, hother]
    rfl

end Headers

namespace Writer

/-! ## Calls and their turns -/

/-- A call on a clone of a writer. -/
inductive Call
  | setStatus (n : Status)
  | insertHeader (name value : String)
  | write (n : Status) (contentType : String) (body : Bytes)
  | writeJson (n : Status) (v : Json)
  /-- Writes a value that has no JSON form. -/
  | writeUnencodable
  /-- Makes the final response of an exchange whose writer is the clone. -/
  | materialise (x : Exchange) (p : ResponsePolicy)

/-- What a task does in one turn. -/
inductive Stage
  | start (c : Call)
  /-- Nothing was written: reads the status of the final response. -/
  | settle (x : Exchange) (p : ResponsePolicy)
  /-- Writes the final response. -/
  | conclude (n : Status) (contentType : String) (body : Bytes)

/-- The content type of a final response. -/
def finalType (x : Exchange) : String :=
  match x.error?, x.payload with
  | none, some (.text _) => ContentType.text
  | none, some (.binary _) => ContentType.binary
  | _, _ => ContentType.json

/-- The status of a final response, given the one that was set. -/
def finalStatus (x : Exchange) (p : ResponsePolicy) (explicit : Option Status) : Status :=
  match x.error? with
  | some f => explicit.getD (p.errorStatus f)
  | none => explicit.getD 200

/-- The body of a final response. -/
def finalBody (x : Exchange) (n : Status) : Bytes :=
  match x.error? with
  | some f => Envelope.encode ⟨f.code.value, f.display, .null⟩
  | none => plainBody n x.payload

namespace Stage

/-- What a turn that writes asks for. -/
def written? : Stage → Option (Status × String × Bytes)
  | start (.write n contentType body) => some (n, contentType, body)
  | start (.writeJson n v) => some (n, ContentType.json, Text.encode v.print)
  | conclude n contentType body => some (n, contentType, body)
  | _ => none

/-- Whether the turn is one of making a final response. -/
def isFinal : Stage → Bool
  | start (.materialise _ _) | settle _ _ | conclude _ _ _ => true
  | _ => false

end Stage

/-- A turn: the writer before and after it, whether a write was accepted, and the turn that the same call
still takes. -/
structure Turn where
  before : Writer
  stage : Stage
  accepted? : Option Bool
  after : Writer
  next : Option Stage

namespace Turn

/-- Whether a call for the final response is over. -/
def concludes (t : Turn) : Bool :=
  t.stage.isFinal && t.next.isNone

end Turn

/-- Writes, unless a body was written. -/
def takeWrite (w : Writer) (stage : Stage) (n : Status) (contentType : String) (body : Bytes) : Turn :=
  ⟨w, stage, some (!w.isWritten), (w.write n contentType body).1, none⟩

/-- Takes the writer for a turn. -/
def Stage.run (w : Writer) (stage : Stage) : Turn :=
  match stage with
  | start (.setStatus n) => ⟨w, stage, none, (w.setStatus n).1, none⟩
  | start (.insertHeader name value) => ⟨w, stage, none, w.insertHeader name value, none⟩
  | start (.write n contentType body) => w.takeWrite stage n contentType body
  | start (.writeJson n v) => w.takeWrite stage n ContentType.json (Text.encode v.print)
  | start .writeUnencodable => ⟨w, stage, none, w, none⟩
  | start (.materialise x p) =>
    ⟨w, stage, none, w, if w.isWritten then none else some (settle x p)⟩
  | settle x p =>
    let n := finalStatus x p w.status
    ⟨w, stage, none, w, some (conclude n (finalType x) (finalBody x n))⟩
  | conclude n contentType body => w.takeWrite stage n contentType body

/-! ## Tasks -/

/-- A writer, and the turns that each task that holds a clone of it still has to take. -/
structure Shared where
  writer : Writer
  tasks : List (List Stage)

namespace Shared

/-- A new writer for tasks that make calls. -/
def start (programs : List (List Call)) : Shared :=
  ⟨.empty, programs.map fun calls => calls.map .start⟩

/-- The turn of a task that is not done, and what it leaves. -/
def turn? (s : Shared) (task : Nat) : Option (Turn × Shared) :=
  match s.tasks[task]? with
  | some (stage :: rest) =>
    let t := stage.run s.writer
    some (t, ⟨t.after, s.tasks.set task (t.next.toList ++ rest)⟩)
  | _ => none

/-- The turns that tasks take, in an order. -/
def history (s : Shared) : List Nat → List Turn
  | [] => []
  | task :: order =>
    match s.turn? task with
    | some (t, s') => t :: history s' order
    | none => history s order

/-- What the turns of tasks lead to. -/
def after (s : Shared) : List Nat → Shared
  | [] => s
  | task :: order =>
    match s.turn? task with
    | some (_, s') => after s' order
    | none => after s order

end Shared

/-! ## What a turn does -/

theorem setStatus_written {w : Writer} (h : w.isWritten = true) (n : Status) :
    (w.setStatus n).1 = w := by
  rw [setStatus, if_pos h]

theorem write_written {w : Writer} (h : w.isWritten = true) (n : Status) (contentType : String)
    (body : Bytes) : (w.write n contentType body).1 = w := by
  rw [write, if_pos h]

theorem write_unwritten {w : Writer} (h : w.isWritten = false) (n : Status) (contentType : String)
    (body : Bytes) :
    (w.write n contentType body).1.status = some n ∧
      (w.write n contentType body).1.body = some body := by
  rw [write, if_neg (Bool.eq_false_iff.1 h)]
  exact ⟨rfl, rfl⟩

theorem isWritten_setStatus (w : Writer) (n : Status) :
    (w.setStatus n).1.isWritten = w.isWritten := by
  rw [setStatus]
  split <;> rfl

theorem isWritten_write (w : Writer) (n : Status) (contentType : String) (body : Bytes) :
    (w.write n contentType body).1.isWritten = true := by
  cases h : w.isWritten with
  | true => rwa [write_written h]
  | false => rw [isWritten, (write_unwritten h n contentType body).2, Option.isSome_some]

theorem headers_setStatus (w : Writer) (n : Status) : (w.setStatus n).1.headers = w.headers := by
  rw [setStatus]
  split <;> rfl

theorem get?_write_isSome {w : Writer} {name : String} (h : (w.headers.get? name).isSome = true)
    (n : Status) (contentType : String) (body : Bytes) :
    ((w.write n contentType body).1.headers.get? name).isSome = true := by
  rw [write]
  split
  · exact h
  · change ((w.insertText _ _).headers.get? name).isSome = true
    rw [insertText]
    split
    · exact Headers.get?_insert_isSome h _ _
    · exact h

namespace Stage

variable {w : Writer} (stage : Stage)

theorem stage_run : (stage.run w).stage = stage ∧ (stage.run w).before = w := by
  rcases stage with (_ | _ | _ | _ | _ | _) | _ | _ <;> exact ⟨rfl, rfl⟩

/-- Writes are answered, and accepted where nothing was written. -/
theorem accepted_run : (stage.run w).accepted? = stage.written?.map fun _ => !w.isWritten := by
  rcases stage with (_ | _ | _ | _ | _ | _) | _ | _ <;> rfl

theorem after_run_of_written {n : Status} {contentType : String} {body : Bytes}
    (h : stage.written? = some (n, contentType, body)) :
    (stage.run w).after = (w.write n contentType body).1 := by
  rcases stage with (_ | _ | _ | _ | _ | _) | _ | _ <;> cases h <;> rfl

/-- Only a write makes a writer written. -/
theorem isWritten_run :
    (stage.run w).after.isWritten = (w.isWritten || stage.written?.isSome) := by
  rcases hwritten : stage.written? with _ | ⟨n, contentType, body⟩
  · rw [Option.isSome_none, Bool.or_false]
    rcases stage with (n | _ | _ | _ | _ | _) | _ | _
    case start.setStatus => exact isWritten_setStatus w n
    all_goals first | rfl | cases hwritten
  · rw [stage.after_run_of_written hwritten, isWritten_write, Option.isSome_some, Bool.or_true]

/-- Once a body was written, a turn changes neither it nor the status, writes nothing, and changes nothing
at all if it is a write or one of making a final response. -/
theorem run_written (h : w.isWritten = true) :
    (stage.run w).after.status = w.status ∧ (stage.run w).after.body = w.body ∧
      ((stage.written?.isSome || stage.isFinal) = true → (stage.run w).after = w) := by
  rcases hwritten : stage.written? with _ | ⟨n, contentType, body⟩
  · rcases stage with (n | _ | _ | _ | _ | _) | _ | _
    case start.setStatus =>
      rw [run, setStatus_written h]
      exact ⟨rfl, rfl, fun _ => rfl⟩
    case start.insertHeader => exact ⟨rfl, rfl, fun hfinal => by cases hfinal⟩
    all_goals first | exact ⟨rfl, rfl, fun _ => rfl⟩ | cases hwritten
  · rw [stage.after_run_of_written hwritten, write_written h]
    exact ⟨rfl, rfl, fun _ => rfl⟩

/-- An accepted write leaves what it asks for. -/
theorem run_accepted (h : (stage.run w).accepted? = some true) :
    ∃ n contentType body, stage.written? = some (n, contentType, body) ∧
      (stage.run w).after.status = some n ∧ (stage.run w).after.body = some body := by
  rw [accepted_run] at h
  rcases hwritten : stage.written? with _ | ⟨n, contentType, body⟩
  · rw [hwritten] at h
    cases h
  · have hw : w.isWritten = false := by simpa [hwritten] using h
    refine ⟨n, contentType, body, rfl, ?_⟩
    rw [stage.after_run_of_written hwritten]
    exact write_unwritten hw n contentType body

/-- No turn removes a header. -/
theorem get?_run_isSome {name : String} (h : (w.headers.get? name).isSome = true) :
    ((stage.run w).after.headers.get? name).isSome = true := by
  rcases hwritten : stage.written? with _ | ⟨n, contentType, body⟩
  · rcases stage with (n | _ | _ | _ | _ | _) | _ | _
    case start.setStatus => rwa [run, headers_setStatus]
    case start.insertHeader => exact Headers.get?_insert_isSome h _ _
    all_goals first | exact h | cases hwritten
  · rw [stage.after_run_of_written hwritten]
    exact get?_write_isSome h n contentType body

/-- Making a final response goes on until something was written. -/
theorem isWritten_of_concludes (h : (stage.run w).concludes = true) :
    (stage.run w).after.isWritten = true := by
  rw [Turn.concludes, stage.stage_run.1, Bool.and_eq_true] at h
  obtain ⟨hfinal, hnext⟩ := h
  rcases stage with (_ | _ | _ | _ | _ | _) | _ | _
  case start.materialise =>
    cases hw : w.isWritten with
    | true => exact hw
    | false => simp [run, hw] at hnext
  case settle => cases hnext
  case conclude => exact isWritten_write w _ _ _
  all_goals cases hfinal

theorem isFinal_next {stage' : Stage} (h : (stage.run w).next = some stage') :
    stage.isFinal = true ∧ stage'.isFinal = true := by
  rcases stage with (_ | _ | _ | _ | _ | _) | _ | _
  case start.materialise =>
    rw [run] at h
    split at h <;> cases h
    exact ⟨rfl, rfl⟩
  case settle =>
    cases h
    exact ⟨rfl, rfl⟩
  all_goals cases h

/-- A turn that does nothing to a response that was written. -/
structure Idle (w : Writer) (t : Turn) : Prop where
  status : t.after.status = w.status
  body : t.after.body = w.body
  refused : t.accepted? ≠ some true
  unchanged : (t.accepted?.isSome || t.stage.isFinal) = true → t.after = t.before

theorem idle_run {w v : Writer} (hv : v.isWritten = true) (hstatus : v.status = w.status)
    (hbody : v.body = w.body) (stage : Stage) : Idle w (stage.run v) := by
  obtain ⟨hs, hb, hkept⟩ := stage.run_written hv
  refine ⟨hs.trans hstatus, hb.trans hbody, ?_, ?_⟩
  · rw [stage.accepted_run, hv]
    cases stage.written? <;> simp
  · rw [stage.accepted_run, Option.isSome_map, stage.stage_run.1, stage.stage_run.2]
    exact hkept

end Stage

/-! ## What a history is -/

namespace Shared

variable {s s' : Shared} {t : Turn}

/-- All that a turn of a task is. -/
theorem turn?_eq_some {task : Nat} (h : s.turn? task = some (t, s')) :
    ∃ stage rest, s.tasks[task]? = some (stage :: rest) ∧ t = stage.run s.writer ∧
      s' = ⟨t.after, s.tasks.set task (t.next.toList ++ rest)⟩ := by
  rw [turn?] at h
  split at h
  · next stage rest htask =>
    cases h
    exact ⟨stage, rest, htask, rfl, rfl⟩
  · cases h

/-- A law of every turn, given what holds of the writer before it and is kept by turns. -/
theorem history_forall (Inv : Writer → Prop) {P : Turn → Prop}
    (hturn : ∀ w stage, Inv w → P (Stage.run w stage) ∧ Inv (Stage.run w stage).after)
    (order : List Nat) {s : Shared} (hs : Inv s.writer) : ∀ t ∈ s.history order, P t := by
  induction order generalizing s with
  | nil => exact fun t ht => by cases ht
  | cons task order ih =>
    rw [history]
    split
    · next t s' hstep =>
      obtain ⟨stage, rest, -, rfl, rfl⟩ := turn?_eq_some hstep
      obtain ⟨hp, hinv⟩ := hturn s.writer stage hs
      exact List.forall_mem_cons.2 ⟨hp, ih hinv⟩
    · exact ih hs

/-- A law of every two turns: it holds of a turn and all that follow from where it leaves the writer. -/
theorem history_pairwise {R : Turn → Turn → Prop}
    (hturn : ∀ w stage (s : Shared) order, s.writer = (Stage.run w stage).after →
      ∀ t ∈ s.history order, R (Stage.run w stage) t)
    (order : List Nat) (s : Shared) : (s.history order).Pairwise R := by
  induction order generalizing s with
  | nil => exact .nil
  | cons task order ih =>
    rw [history]
    split
    · next t s' hstep =>
      obtain ⟨stage, rest, -, rfl, rfl⟩ := turn?_eq_some hstep
      exact .cons (hturn s.writer stage _ order rfl) (ih _)
    · exact ih s

theorem history_idle (order : List Nat) {s : Shared} (h : s.writer.isWritten = true) :
    ∀ t ∈ s.history order, Stage.Idle s.writer t := by
  refine history_forall
    (fun v => v.isWritten = true ∧ v.status = s.writer.status ∧ v.body = s.writer.body)
    (fun v stage hv => ?_) order ⟨h, rfl, rfl⟩
  have hidle := Stage.idle_run hv.1 hv.2.1 hv.2.2 stage
  refine ⟨hidle, ?_, hidle.status, hidle.body⟩
  rw [isWritten, hidle.body]
  exact h

/-- Of all writes the first is accepted, and no other. -/
theorem accepted_history (order : List Nat) {s : Shared} (h : s.writer.isWritten = false) :
    (s.history order).filterMap (·.accepted?) = [] ∨
      ∃ n, (s.history order).filterMap (·.accepted?) = true :: List.replicate n false := by
  induction order generalizing s with
  | nil => exact .inl rfl
  | cons task order ih =>
    rw [history]
    split
    · next t s' hstep =>
      obtain ⟨stage, rest, -, rfl, rfl⟩ := turn?_eq_some hstep
      have hafter := stage.isWritten_run (w := s.writer)
      cases hwritten : stage.written? with
      | none =>
        rw [List.filterMap_cons_none (by rw [stage.accepted_run, hwritten, Option.map_none])]
        rw [h, hwritten] at hafter
        exact ih hafter
      | some asked =>
        rw [List.filterMap_cons_some (by rw [stage.accepted_run, hwritten, Option.map_some, h])]
        rw [hwritten, Option.isSome_some, Bool.or_true] at hafter
        refine .inr ⟨_, congrArg (true :: ·) (List.eq_replicate_iff.2 ⟨rfl, fun answer ha => ?_⟩)⟩
        obtain ⟨t, ht, hanswer⟩ := List.mem_filterMap.1 ha
        have hidle := history_idle order hafter t ht
        cases answer with
        | false => rfl
        | true => exact absurd hanswer hidle.refused
    · exact ih h

/-- Turns that follow each other without a gap, from one writer to another. -/
def Leads (w : Writer) : List Turn → Writer → Prop
  | [], w' => w = w'
  | t :: turns, w' => t.before = w ∧ Leads t.after turns w'

theorem leads_history (order : List Nat) (s : Shared) :
    Leads s.writer (s.history order) (s.after order).writer := by
  induction order generalizing s with
  | nil => exact rfl
  | cons task order ih =>
    rw [history, after]
    split
    · next t s' hstep =>
      obtain ⟨stage, rest, -, rfl, rfl⟩ := turn?_eq_some hstep
      exact ⟨stage.stage_run.2, ih ⟨_, _⟩⟩
    · exact ih s

/-- A task has yet to make a final response, or something was written. -/
def Owes (task : Nat) (s : Shared) : Prop :=
  s.writer.isWritten = true ∨
    ∃ stages, s.tasks[task]? = some stages ∧ stages.any Stage.isFinal = true

theorem owes_turn {task task' : Nat} (h : s.Owes task) (hstep : s.turn? task' = some (t, s')) :
    s'.Owes task := by
  obtain ⟨stage, rest, htask, rfl, rfl⟩ := turn?_eq_some hstep
  rcases h with h | ⟨stages, hstages, hfinal⟩
  · have hafter := stage.isWritten_run (w := s.writer)
    rw [h, Bool.true_or] at hafter
    exact .inl hafter
  by_cases hi : task = task'
  · subst hi
    cases htask.symm.trans hstages
    have hlt := (List.getElem?_eq_some_iff.1 htask).1
    cases hnext : (stage.run s.writer).next with
    | some stage' =>
      refine .inr ⟨stage' :: rest, List.getElem?_set_self hlt, ?_⟩
      rw [List.any_cons, (stage.isFinal_next hnext).2, Bool.true_or]
    | none =>
      rw [List.any_cons, Bool.or_eq_true] at hfinal
      rcases hfinal with hfinal | hfinal
      · have hconcludes : (stage.run s.writer).concludes = true := by
          rw [Turn.concludes, stage.stage_run.1, hfinal, hnext]
          rfl
        exact .inl (stage.isWritten_of_concludes hconcludes)
      · exact .inr ⟨rest, List.getElem?_set_self hlt, hfinal⟩
  · exact .inr ⟨stages, by rw [List.getElem?_set_ne (Ne.symm hi), hstages], hfinal⟩

theorem owes_after {task : Nat} (order : List Nat) {s : Shared} (h : s.Owes task) :
    (s.after order).Owes task := by
  induction order generalizing s with
  | nil => exact h
  | cons task' order ih =>
    rw [after]
    split
    · next t s' hstep => exact ih (owes_turn h hstep)
    · exact ih h

/-- Once a task with a call for a final response is done, something was written. -/
theorem written_of_done {programs : List (List Call)} {task : Nat} {calls : List Call}
    (order : List Nat) (hcalls : programs[task]? = some calls)
    (hfinal : ∃ x p, Call.materialise x p ∈ calls)
    (hdone : ((start programs).after order).tasks[task]? = some []) :
    ((start programs).after order).writer.isWritten = true := by
  obtain ⟨x, p, hmem⟩ := hfinal
  have howes : (start programs).Owes task := by
    refine .inr ⟨calls.map .start, ?_, ?_⟩
    · rw [start, List.getElem?_map, hcalls]
      rfl
    · exact List.any_eq_true.2 ⟨.start (.materialise x p), List.mem_map_of_mem hmem, rfl⟩
  rcases owes_after order howes with hwritten | ⟨stages, hstages, hany⟩
  · exact hwritten
  · cases hstages.symm.trans hdone
    cases hany

/-! ## Calls alone -/

/-- What a call leaves when no other task takes a turn before it is over. -/
def alone (c : Call) (w : Writer) : Writer :=
  (after ⟨w, [[.start c]]⟩ [0, 0, 0]).writer

/-- What an action asks of the writer of its exchange. -/
def call? (x : Exchange) : Action → Option Call
  | .setStatus n => some (.setStatus n)
  | .insertHeader name value => some (.insertHeader name value)
  | .write n contentType body => some (.write n contentType body)
  | .writeJson n v => some (.writeJson n v)
  | .writeUnencodable => some .writeUnencodable
  | .materialise p => some (.materialise x p)
  | _ => none

theorem writer_materialise (x : Exchange) (p : ResponsePolicy) :
    (x.materialise p).1.writer =
      let n := finalStatus x p x.writer.status
      (x.writer.write n (finalType x) (finalBody x n)).1 := by
  cases hw : x.writer.isWritten with
  | true => rw [Exchange.materialise, if_pos hw, write_written hw]
  | false =>
    rw [Exchange.materialise, if_neg (Bool.eq_false_iff.1 hw)]
    cases herror : x.error? with
    | some f =>
      have hstatus : x.errorStatus p f.code = x.writer.status.getD (p.errorStatus f) := by
        cases p <;> rfl
      simp only [finalStatus, finalType, finalBody, herror, hstatus]
      rfl
    | none =>
      simp only [finalStatus, finalType, finalBody, herror, Exchange.writePayload]
      rcases x.payload with _ | (text | bytes | v) <;> rfl

theorem alone_materialise (x : Exchange) (p : ResponsePolicy) :
    alone (.materialise x p) x.writer = (x.materialise p).1.writer := by
  rw [writer_materialise]
  cases hw : x.writer.isWritten with
  | true => simp [alone, after, turn?, Stage.run, hw, write_written hw]
  | false => simp [alone, after, turn?, Stage.run, takeWrite, hw]

theorem alone_call {a : Action} {s : State} {c : Call} (h : call? s.exchange a = some c) :
    alone c s.exchange.writer = (a.apply s).exchange.writer := by
  cases a <;> cases h
  case materialise p => exact alone_materialise s.exchange p
  all_goals rfl

end Shared

/-! ## The write-once law -/

/-- What holds of every turn. -/
structure Turn.Lawful (t : Turn) : Prop where
  /-- An accepted write leaves what it asks for. -/
  accepted : t.accepted? = some true → ∃ n contentType body,
    t.stage.written? = some (n, contentType, body) ∧ t.after.status = some n ∧ t.after.body = some body
  /-- No header is removed. -/
  headers : ∀ name, (t.before.headers.get? name).isSome = true →
    (t.after.headers.get? name).isSome = true
  /-- A final response leaves the writer written. -/
  written : t.concludes = true → t.after.isWritten = true

/-- What holds of every turn and a later one. -/
structure Turn.Settles (t t' : Turn) : Prop where
  /-- From an accepted write on, status and body stay. -/
  response : t.accepted? = some true →
    t'.after.status = t.after.status ∧ t'.after.body = t.after.body
  /-- Later writes change nothing, nor do they touch the headers. -/
  writes : t.accepted? = some true → t'.accepted?.isSome = true → t'.after = t'.before
  /-- After a final response, another one changes nothing, whatever its policy. -/
  finals : t.concludes = true → t'.stage.isFinal = true → t'.after = t'.before

theorem Stage.lawful_run (w : Writer) (stage : Stage) : (stage.run w).Lawful where
  accepted := stage.stage_run.1.symm ▸ stage.run_accepted
  headers _ := stage.stage_run.2.symm ▸ stage.get?_run_isSome
  written := stage.isWritten_of_concludes

theorem Stage.settles_run {w : Writer} {stage : Stage} {s : Shared} {order : List Nat}
    (h : s.writer = (stage.run w).after) {t : Turn} (ht : t ∈ s.history order) :
    (stage.run w).Settles t := by
  have hidle (hw : (stage.run w).after.isWritten = true) : Stage.Idle (stage.run w).after t := by
    rw [← h] at hw ⊢
    exact Shared.history_idle order hw t ht
  have haccepted (ha : (stage.run w).accepted? = some true) :
      (stage.run w).after.isWritten = true := by
    obtain ⟨_, _, body, _, _, hbody⟩ := stage.run_accepted ha
    rw [isWritten, hbody, Option.isSome_some]
  refine ⟨fun ha => ?_, fun ha hwrite => ?_, fun hc hfinal => ?_⟩
  · exact ⟨(hidle (haccepted ha)).status, (hidle (haccepted ha)).body⟩
  · exact (hidle (haccepted ha)).unchanged (by rw [hwrite, Bool.true_or])
  · exact (hidle (stage.isWritten_of_concludes hc)).unchanged (by rw [hfinal, Bool.or_true])

/-- **A response is written once.** Tasks that hold clones of a new writer make any calls, and their turns
come in any order. Of all writes the first is accepted and no other; from then on status and body stay,
and later writes touch no header; no header is ever removed; and a call for the final response leaves the
writer written, so that another one changes nothing. A call that is not interrupted does to the writer what
the action of that name does to the writer of its exchange. -/
theorem write_once (programs : List (List Call)) (order : List Nat) :
    let turns := (Shared.start programs).history order
    let last := (Shared.start programs).after order
    Shared.Leads .empty turns last.writer ∧
    (turns.filterMap (·.accepted?) = [] ∨
      ∃ n, turns.filterMap (·.accepted?) = true :: List.replicate n false) ∧
    (∀ t ∈ turns, t.Lawful) ∧ turns.Pairwise Turn.Settles ∧
    (∀ (task : Nat) (calls : List Call), programs[task]? = some calls →
      (∃ x p, Call.materialise x p ∈ calls) → last.tasks[task]? = some [] →
        last.writer.isWritten = true) ∧
    ∀ a s c, Shared.call? s.exchange a = some c →
      Shared.alone c s.exchange.writer = (a.apply s).exchange.writer := by
  intro turns last
  refine ⟨Shared.leads_history order (.start programs), Shared.accepted_history order rfl, ?_, ?_, ?_,
    fun _ _ _ h => Shared.alone_call h⟩
  · exact Shared.history_forall (fun _ => True)
      (fun w stage _ => ⟨stage.lawful_run w, trivial⟩) order trivial
  · exact Shared.history_pairwise (fun w stage s order h t ht => Stage.settles_run h ht) order _
  · exact fun task calls hcalls hfinal hdone => Shared.written_of_done order hcalls hfinal hdone

/-- Between the turns of a final response another task may write; then that write is the one that counts. -/
example (x : Exchange) (p : ResponsePolicy) :
    ((Shared.start [[.materialise x p], [.write 201 "text/plain" []]]).history
      [0, 1, 0, 0]).filterMap (·.accepted?) = [true, false] := rfl

end Writer

end HttpService
