import HttpService.Pipeline.Middleware

/-!
# What user code does to a response

`Exchange.draft` is the part of an exchange that its response is made of: the errors, the payload, the
status and the body. User code changes it by `Deed`s. `Action.trail` lists the deeds of a stretch of user
code and the panic that ends it, `UserMiddleware.trail` those of a chain of user middleware around an
endpoint. Both are read off the code alone; `performs_chain` says that a run does exactly these deeds.
-/

set_option autoImplicit false

namespace HttpService

/-- The part of an exchange that its response is made of. -/
structure Draft where
  errors : List Failure
  payload : Option Payload
  status : Option Status
  body : Option Bytes

def Exchange.draft (x : Exchange) : Draft := ⟨x.errors, x.payload, x.writer.status, x.writer.body⟩

/-- A change of a draft. -/
inductive Deed
  | recordError (f : Failure)
  | setStatus (n : Status)
  | setPayload (p : Option Payload)
  | write (n : Status) (body : Bytes)

namespace Draft

/-- A written body fixes the status and itself; an error asks for its status where none is set. -/
def perform (d : Draft) : Deed → Draft
  | .recordError f =>
    { d with
      errors := d.errors ++ [f]
      status := if d.body.isSome then d.status else d.status.or f.report.status }
  | .setStatus n => if d.body.isSome then d else { d with status := some n }
  | .setPayload p => { d with payload := p }
  | .write n b => if d.body.isSome then d else { d with status := some n, body := some b }

def performAll (d : Draft) (deeds : List Deed) : Draft := deeds.foldl perform d

@[simp] theorem performAll_nil (d : Draft) : d.performAll [] = d := rfl

@[simp] theorem performAll_cons (d : Draft) (e : Deed) (es : List Deed) :
    d.performAll (e :: es) = (d.perform e).performAll es := rfl

theorem performAll_append (d : Draft) (es es' : List Deed) :
    d.performAll (es ++ es') = (d.performAll es).performAll es' :=
  List.foldl_append

end Draft

/-! ## Trails -/

/-- What a stretch of user code did, and the panic that ended it. -/
structure Trail where
  deeds : List Deed
  panic : Option (Option String)

namespace Trail

/-- A trail, and another one unless the first ended in a panic. -/
def andThen (t t' : Trail) : Trail :=
  match t.panic with
  | some _ => t
  | none => ⟨t.deeds ++ t'.deeds, t'.panic⟩

def outcome (t : Trail) : Outcome :=
  match t.panic with
  | some message => .panicked message
  | none => .returned

/-- The deeds of the trail and the error that its panic is recovered into. -/
def recorded (t : Trail) : List Deed :=
  t.deeds ++ (t.panic.map fun message => Deed.recordError (Step.recoveredError message)).toList

end Trail

namespace Action

/-- Whether an action is one of user code proper: only the service makes final responses. -/
def isPlain : Action → Bool
  | .materialise _ => false
  | _ => true

def deeds : Action → List Deed
  | .setStatus n => [.setStatus n]
  | .write n _ body => [.write n body]
  | .writeJson n v => [.write n (Text.encode v.print)]
  | .pushError f => [.recordError f]
  | .setPayload p => [.setPayload (some p)]
  | .takePayload => [.setPayload none]
  | _ => []

/-- The deeds up to the first panic. -/
def trail : List Action → Trail
  | [] => ⟨[], none⟩
  | .panic message :: _ => ⟨[], some message⟩
  | a :: as => ⟨a.deeds ++ (trail as).deeds, (trail as).panic⟩

end Action

namespace UserMiddleware

def isPlain (u : UserMiddleware) : Bool :=
  u.pre.all Action.isPlain && u.post.all Action.isPlain

/-- What the middleware does before it goes on. -/
def enter (u : UserMiddleware) : Step :=
  (Step.update fun s => s.note (.value (.str (u.name ++ ".pre")))).andThen (Action.steps u.pre)

/-- What the middleware does once the rest of the chain returned. -/
def exit (u : UserMiddleware) : Step :=
  (Action.steps u.post).andThen (.update fun s => s.note (.value (.str (u.name ++ ".post"))))

theorem around_eq (u : UserMiddleware) (next : Step) :
    Middleware.around (.user u) next =
      if u.continues then u.enter.andThen (next.andThen u.exit) else u.enter := rfl

/-- The deeds of a chain around an endpoint with the trail `core`. -/
def trail : List UserMiddleware → Trail → Trail
  | [], core => core
  | u :: us, core =>
    (Action.trail u.pre).andThen <|
      if u.continues then (trail us core).andThen (Action.trail u.post) else ⟨[], none⟩

end UserMiddleware

/-! ## Actions -/

section
variable (s : State)

@[simp] theorem State.note_exchange (n : Note) : (s.note n).exchange = s.exchange := rfl

@[simp] theorem State.log_exchange (e : Event) : (s.log e).exchange = s.exchange := rfl

@[simp] theorem State.put_exchange (step : Exchange × List Event) :
    (s.put step).exchange = step.1 := rfl

@[simp] theorem State.putWriter_exchange (step : Writer × List Event) :
    (s.putWriter step).exchange = { s.exchange with writer := step.1 } := rfl

end

namespace Exchange

theorem pushError_request (x : Exchange) (f : Failure) : (x.pushError f).1.request = x.request := by
  unfold pushError
  split <;> rfl

theorem pushError_draft (x : Exchange) (f : Failure) :
    (x.pushError f).1.draft = x.draft.perform (.recordError f) := by
  unfold pushError
  cases hf : f.report.status <;> cases hs : x.writer.status <;> cases hb : x.writer.body <;>
    simp [draft, Draft.perform, Writer.setStatus, Writer.isWritten, hf, hs, hb]

theorem pushError_errors (x : Exchange) (f : Failure) :
    (x.pushError f).1.errors = x.errors ++ [f] :=
  congrArg Draft.errors (x.pushError_draft f)

theorem materialise_errors (x : Exchange) (p : ResponsePolicy) :
    (x.materialise p).1.errors = x.errors := by
  unfold materialise
  split
  · rfl
  · split
    · rfl
    · unfold writePayload
      split <;> rfl

end Exchange

theorem Step.recover_errors (message : Option String) (s : State) :
    (recover message s).exchange.errors = s.exchange.errors ++ [recoveredError message] := by
  simp only [recover, State.put_exchange, Exchange.materialise_errors, Exchange.pushError_errors,
    State.log_exchange]

theorem Step.recover_notes (message : Option String) (s : State) :
    (recover message s).site.notes = s.site.notes := rfl

/-- Everything but the draft is free to change, the request apart. -/
theorem Action.apply_draft {a : Action} (h : a.isPlain = true) (s : State) :
    (a.apply s).exchange.draft = s.exchange.draft.performAll a.deeds ∧
      (a.apply s).exchange.request = s.exchange.request := by
  cases a with
  | materialise p => simp [isPlain] at h
  | pushError f =>
    exact ⟨s.exchange.pushError_draft f, s.exchange.pushError_request f⟩
  | setStatus n =>
    refine ⟨?_, rfl⟩
    cases hb : s.exchange.writer.body <;>
      simp [apply, deeds, Exchange.draft, Draft.perform, Writer.setStatus, Writer.isWritten, hb]
  | write n contentType body =>
    refine ⟨?_, rfl⟩
    cases hb : s.exchange.writer.body <;>
      simp [apply, deeds, Exchange.draft, Draft.perform, Writer.write, Writer.isWritten, hb]
  | writeJson n v =>
    refine ⟨?_, rfl⟩
    cases hb : s.exchange.writer.body <;>
      simp [apply, deeds, Exchange.draft, Draft.perform, Writer.write, Writer.isWritten, hb]
  | _ => exact ⟨rfl, rfl⟩

/-! ## Runs -/

/-- Without a deadline around it, `p` runs as the trail `t` says and leaves the request as it is. -/
def Performs (p : Step) (t : Trail) : Prop :=
  ∀ s : State, (p [] s).1 = t.outcome ∧
    (p [] s).2.exchange.draft = s.exchange.draft.performAll t.deeds ∧
    (p [] s).2.exchange.request = s.exchange.request

theorem Performs.skip : Performs Step.skip ⟨[], none⟩ := fun _ => ⟨rfl, rfl, rfl⟩

theorem Performs.note (n : State → Note) : Performs (.update fun s => s.note (n s)) ⟨[], none⟩ :=
  fun _ => ⟨rfl, rfl, rfl⟩

theorem Performs.andThen {p q : Step} {t t' : Trail} (hp : Performs p t) (hq : Performs q t') :
    Performs (p.andThen q) (t.andThen t') := by
  intro s
  obtain ⟨ho, hd, hr⟩ := hp s
  rcases hrun : p [] s with ⟨o, s'⟩
  simp only [hrun] at ho hd hr
  cases ht : t.panic with
  | none =>
    have : o = .returned := by rw [ho, Trail.outcome, ht]
    subst this
    obtain ⟨ho', hd', hr'⟩ := hq s'
    have hq' : p.andThen q [] s = q [] s' := by rw [Step.andThen, hrun]
    rw [hq', hd', hr', hd, hr, ← Draft.performAll_append, ho']
    simp [Trail.andThen, Trail.outcome, ht]
  | some message =>
    have : o = .panicked message := by rw [ho, Trail.outcome, ht]
    subst this
    have hp' : p.andThen q [] s = (.panicked message, s') := by rw [Step.andThen, hrun]
    rw [hp', hd, hr]
    simp [Trail.andThen, Trail.outcome, ht]

theorem performs_action {a : Action} (h : a.isPlain = true) (hp : ∀ message, a ≠ .panic message) :
    Performs a.step ⟨a.deeds, none⟩ := by
  intro s
  cases a with
  | panic message => exact absurd rfl (hp message)
  | sleep d => exact ⟨rfl, rfl, rfl⟩
  | _ => exact ⟨rfl, Action.apply_draft h s⟩

theorem performs_steps {as : List Action} (h : as.all Action.isPlain = true) :
    Performs (Action.steps as) (Action.trail as) := by
  induction as with
  | nil => exact .skip
  | cons a as ih =>
    simp only [List.all_cons, Bool.and_eq_true] at h
    have hrest := ih h.2
    by_cases hp : ∃ message, a = .panic message
    · obtain ⟨message, rfl⟩ := hp
      exact fun _ => ⟨rfl, rfl, rfl⟩
    · have ha : Performs a.step ⟨a.deeds, none⟩ :=
        performs_action h.1 fun message he => hp ⟨message, he⟩
      have ht : Action.trail (a :: as) = Trail.andThen ⟨a.deeds, none⟩ (Action.trail as) := by
        cases a with
        | panic message => exact absurd ⟨message, rfl⟩ hp
        | _ => rfl
      rw [ht]
      exact ha.andThen hrest

theorem Trail.andThen_nil (t : Trail) : t.andThen ⟨[], none⟩ = t := by
  obtain ⟨deeds, panic⟩ := t
  cases panic <;> simp [andThen]

theorem performs_user {u : UserMiddleware} (h : u.isPlain = true) {next : Step} {t : Trail}
    (hn : Performs next t) :
    Performs (Middleware.around (.user u) next) <|
      (Action.trail u.pre).andThen <|
        if u.continues then t.andThen (Action.trail u.post) else ⟨[], none⟩ := by
  simp only [UserMiddleware.isPlain, Bool.and_eq_true] at h
  have henter : Performs u.enter (Action.trail u.pre) :=
    (Performs.note fun _ => .value (.str (u.name ++ ".pre"))).andThen (performs_steps h.1)
  have hexit : Performs u.exit (Action.trail u.post) := by
    have := (performs_steps h.2).andThen
      (Performs.note fun _ => .value (.str (u.name ++ ".post")))
    rwa [Trail.andThen_nil] at this
  rw [u.around_eq]
  split
  · exact henter.andThen (hn.andThen hexit)
  · rwa [Trail.andThen_nil]

/-- A chain of user middleware does the deeds of its trail. -/
theorem performs_chain {us : List UserMiddleware} (h : ∀ u ∈ us, u.isPlain = true) {core : Step}
    {t : Trail} (hc : Performs core t) :
    Performs (Middleware.chain (us.map .user) core) (UserMiddleware.trail us t) := by
  induction us with
  | nil => exact hc
  | cons u us ih =>
    exact performs_user (h u (.head _)) (ih fun v hv => h v (.tail _ hv))

end HttpService
