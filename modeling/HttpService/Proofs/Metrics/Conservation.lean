import HttpService.Proofs.Pipeline.Parts
import Mathlib.Algebra.GroupWithZero.Nat
import Mathlib.Logic.Relation

/-!
# Conservation of request metrics

Any number of requests are under way in the metrics layer of a chain at the same time. A `Move` is what
happens between two points where another request may run: a request enters the layer, goes on below it,
is counted, leaves, or is dropped. `metrics_conserved` says what the metrics show after any sequence of
moves, and that an uninterrupted run of the layer around a chain is such a sequence
(`moves_of_counted`): the gauge of each label set counts the requests that entered and are neither
finished nor dropped, and the counters add up over the completed ones.
-/

set_option autoImplicit false

namespace HttpService

/-! ## Gauges and tallies -/

section
variable {κ υ : Type} [DecidableEq κ]

theorem lookup_adjust (key : κ) (start : υ) (f : υ → υ) (rows : List (κ × υ)) (l : κ) :
    (adjust key start f rows).lookup l =
      if l = key then some (f ((rows.lookup key).getD start)) else rows.lookup l := by
  induction rows with
  | nil => by_cases h : l = key <;> simp [adjust, h, List.lookup_cons, beq_false_of_ne]
  | cons row rows ih =>
    obtain ⟨k, v⟩ := row
    by_cases hk : k = key
    · subst hk
      by_cases h : l = k <;> simp [adjust, h, List.lookup_cons, beq_false_of_ne]
    · have hkey : (key == k) = false := beq_false_of_ne (Ne.symm hk)
      simp only [adjust, if_neg hk, List.lookup_cons, ih, hkey]
      by_cases h : l = k
      · have hl : l ≠ key := fun he => hk (h ▸ he)
        simp [h, hk]
      · simp [beq_false_of_ne h]

/-- The sum of what the rows are worth grows by what the changed row gains. -/
theorem sum_adjust {worth : υ → Nat} {start : υ} {f : υ → υ} {n : Nat} (hstart : worth start = 0)
    (hf : ∀ v, worth (f v) = worth v + n) (key : κ) (rows : List (κ × υ)) :
    ((adjust key start f rows).map fun row => worth row.2).sum =
      (rows.map fun row => worth row.2).sum + n := by
  induction rows with
  | nil => simp [adjust, hf, hstart]
  | cons row rows ih =>
    rw [adjust]
    split
    · simp only [List.map_cons, List.sum_cons, hf]
      omega
    · simp only [List.map_cons, List.sum_cons, ih]
      omega

end

namespace Metrics

variable (m : Metrics)

theorem inFlight?_enter (key l : RequestLabels) :
    (m.enter key).inFlight? l = m.inFlight? l + if l = key then 1 else 0 := by
  rw [inFlight?, enter, lookup_adjust]
  split
  · rename_i h
    rw [h]
    rfl
  · rw [Int.add_zero]
    rfl

theorem inFlight?_leave (key l : RequestLabels) :
    (m.leave key).inFlight? l = m.inFlight? l - if l = key then 1 else 0 := by
  rw [inFlight?, leave, lookup_adjust]
  split
  · rename_i h
    rw [h]
    rfl
  · rw [Int.sub_zero]
    rfl

/-- A counter summed over all label sets. -/
def total (value : Tally → Nat) : Nat :=
  (m.tallies.map fun row => value row.2).sum

theorem total_record {value : Tally → Nat} {a b n d : Nat} (h₀ : value ⟨0, 0, 0, []⟩ = 0)
    (h : ∀ t : Tally, value ⟨t.count + 1, t.requestBytes + a, t.responseBytes + b,
      t.durations ++ [d]⟩ = value t + n)
    (l : OutcomeLabels) : (m.record l a b d).total value = m.total value + n :=
  sum_adjust h₀ h l m.tallies

end Metrics

/-! ## Requests in the layer -/

/-- Where a request stands that entered the layer. -/
inductive Progress
  /-- It runs below the layer. -/
  | below
  /-- It is counted as completed, and still in flight. -/
  | counted
  | finished
  | dropped
  deriving DecidableEq

namespace Progress

/-- Neither finished nor dropped. -/
def isOpen : Progress → Bool
  | .below => true
  | .counted => true
  | _ => false

def isCompleted : Progress → Bool
  | .counted => true
  | .finished => true
  | _ => false

end Progress

/-- A request that entered the layer. -/
structure Passage where
  /-- Its labels when it entered. -/
  labels : RequestLabels
  /-- The time at which it entered. -/
  started : Nat
  exchange : Exchange
  progress : Progress

def Passage.isUnder (l : RequestLabels) (p : Passage) : Bool :=
  p.progress.isOpen && p.labels = l

/-- What the requests of a service share, and the requests that entered the layer so far. -/
structure Traffic where
  site : Site
  passages : List Passage

/-- What the layer does before it goes on. -/
def Middleware.arrive (s : State) : State :=
  { s with site.metrics := s.site.metrics.enter s.exchange.request.labels }

namespace Traffic

/-- The completed requests, as they stood when they were counted. -/
def completed (ps : List Passage) : List Exchange :=
  (ps.filter (·.progress.isCompleted)).map (·.exchange)

/-- What happens between two points where another request may run. -/
inductive Move : Traffic → Traffic → Prop
  | enter (t : Traffic) (x : Exchange) :
      Move t ⟨(Middleware.arrive ⟨x, t.site⟩).site,
        t.passages ++ [⟨x.request.labels, t.site.timer, x, .below⟩]⟩
  /-- Code below the layer changes its exchange and what is shared, but not the metrics. -/
  | work {site site' : Site} {before after : List Passage} {p : Passage} (x : Exchange)
      (below : p.progress = .below) (kept : site'.metrics = site.metrics) :
      Move ⟨site, before ++ p :: after⟩ ⟨site', before ++ { p with exchange := x } :: after⟩
  /-- So does code outside the layer. -/
  | elsewhere {site site' : Site} {passages : List Passage} (kept : site'.metrics = site.metrics) :
      Move ⟨site, passages⟩ ⟨site', passages⟩
  | complete {site : Site} {before after : List Passage} {p : Passage}
      (below : p.progress = .below) :
      Move ⟨site, before ++ p :: after⟩
        ⟨(Middleware.complete p.started ⟨p.exchange, site⟩).site,
          before ++ { p with progress := .counted } :: after⟩
  | leave {site : Site} {before after : List Passage} {p : Passage}
      (counted : p.progress = .counted) :
      Move ⟨site, before ++ p :: after⟩
        ⟨(Middleware.leave p.labels ⟨p.exchange, site⟩).site,
          before ++ { p with progress := .finished } :: after⟩
  /-- A request may be dropped wherever it waits. -/
  | drop {site : Site} {before after : List Passage} {p : Passage} (below : p.progress = .below) :
      Move ⟨site, before ++ p :: after⟩
        ⟨(Middleware.leave p.labels ⟨p.exchange, site⟩).site,
          before ++ { p with progress := .dropped } :: after⟩

/-- Moves one after another, of any requests. -/
abbrev Moves : Traffic → Traffic → Prop := Relation.ReflTransGen Move

/-! ## The invariant -/

/-- A counter over all label sets is the sum of a number over the completed requests. -/
def Totals (value : Tally → Nat) (number : Exchange → Nat) (t : Traffic) : Prop :=
  t.site.metrics.total value = ((completed t.passages).map number).sum

/-- What the metrics show of the traffic. -/
structure Conserved (t : Traffic) : Prop where
  inFlight : ∀ l, t.site.metrics.inFlight? l = t.passages.countP (·.isUnder l)
  count : t.Totals Tally.count fun _ => 1
  observed : t.Totals (·.durations.length) fun _ => 1
  requestBytes : t.Totals Tally.requestBytes (·.request.body.length)
  responseBytes : t.Totals Tally.responseBytes (·.writer.length)

section
variable {before after : List Passage} {p p' : Passage}

theorem countP_replace {q : Passage → Bool} (h : q p' = q p) :
    (before ++ p' :: after).countP q = (before ++ p :: after).countP q := by
  simp [List.countP_append, List.countP_cons, h]

/-- A passage that closes is taken off the gauge of its labels. -/
theorem inFlight_closed {m : Metrics} {l : RequestLabels} (hlabels : p'.labels = p.labels)
    (hopen : p.progress.isOpen = true) (hclosed : p'.progress.isOpen = false)
    (h : m.inFlight? l = (before ++ p :: after).countP (·.isUnder l)) :
    (m.leave p.labels).inFlight? l = (before ++ p' :: after).countP (·.isUnder l) := by
  rw [Metrics.inFlight?_leave, h]
  by_cases hl : l = p.labels
  · simp [Passage.isUnder, hopen, hclosed, hl]
    omega
  · simp [Passage.isUnder, hclosed, hlabels, hl, Ne.symm hl]

/-- A passage that is completed neither before nor after counts for nothing, and one that is completed
before and after counts the same. -/
theorem completed_replace (h : p'.progress.isCompleted = p.progress.isCompleted)
    (hx : p.progress.isCompleted = true → p'.exchange = p.exchange) :
    completed (before ++ p' :: after) = completed (before ++ p :: after) := by
  cases hp : p.progress.isCompleted with
  | true => simp [completed, h, hp, hx hp]
  | false => simp [completed, h, hp]

theorem sum_completed_counted (number : Exchange → Nat) (h : p.progress.isCompleted = false)
    (h' : p'.progress.isCompleted = true) :
    ((completed (before ++ p' :: after)).map number).sum =
      ((completed (before ++ p :: after)).map number).sum + number p'.exchange := by
  simp [completed, h, h']
  omega

end

section
variable {t t' : Traffic}

theorem Move.inFlight (h : Move t t') {l : RequestLabels}
    (ht : t.site.metrics.inFlight? l = t.passages.countP (·.isUnder l)) :
    t'.site.metrics.inFlight? l = t'.passages.countP (·.isUnder l) := by
  cases h with
  | enter _ x =>
    show (t.site.metrics.enter x.request.labels).inFlight? l = _
    rw [Metrics.inFlight?_enter, ht, List.countP_append, List.countP_singleton]
    by_cases hl : l = x.request.labels
    · simp [Passage.isUnder, Progress.isOpen, hl]
    · simp [Passage.isUnder, Progress.isOpen, hl, Ne.symm hl]
  | @work _ _ _ _ p x _ kept =>
    have hp : Passage.isUnder l { p with exchange := x } = p.isUnder l := rfl
    rw [kept, ht, countP_replace hp]
  | elsewhere kept => rwa [kept]
  | @complete _ _ _ p below =>
    have hp : Passage.isUnder l { p with progress := .counted } = p.isUnder l := by
      simp [Passage.isUnder, below, Progress.isOpen]
    rw [countP_replace hp]
    exact ht
  | leave counted => exact inFlight_closed rfl (by rw [counted]; rfl) rfl ht
  | drop below => exact inFlight_closed rfl (by rw [below]; rfl) rfl ht

/-- A counter that gains the number of the exchange that is counted. -/
theorem Move.totals (h : Move t t') {value : Tally → Nat} {number : Exchange → Nat}
    (h₀ : value ⟨0, 0, 0, []⟩ = 0)
    (hadd : ∀ (x : Exchange) (t : Tally) (d : Nat),
      value ⟨t.count + 1, t.requestBytes + x.request.body.length,
        t.responseBytes + x.writer.length, t.durations ++ [d]⟩ = value t + number x)
    (ht : t.Totals value number) : t'.Totals value number := by
  unfold Totals at ht ⊢
  cases h with
  | enter _ x =>
    refine Eq.trans ht ?_
    simp [completed, Progress.isCompleted]
  | @work _ _ before after p x below kept =>
    have hp : p.progress.isCompleted = false := by rw [below]; rfl
    have hc : completed (before ++ { p with exchange := x } :: after) =
        completed (before ++ p :: after) :=
      completed_replace rfl fun h => absurd h (by simp [hp])
    dsimp only at ht ⊢
    rw [kept, ht, hc]
  | elsewhere kept => rwa [kept]
  | @complete site before after p below =>
    have hp : p.progress.isCompleted = false := by rw [below]; rfl
    have hm : (Middleware.complete p.started ⟨p.exchange, site⟩).site.metrics.total value =
        site.metrics.total value + number p.exchange :=
      Metrics.total_record _ h₀ (fun t => hadd p.exchange t _) _
    dsimp only at ht ⊢
    rw [hm, ht]
    symm
    exact sum_completed_counted number hp rfl
  | @leave _ before after p counted =>
    have hc : completed (before ++ { p with progress := .finished } :: after) =
        completed (before ++ p :: after) :=
      completed_replace (by rw [counted]; rfl) fun _ => rfl
    dsimp only at ht ⊢
    rw [hc]
    exact ht
  | @drop _ before after p below =>
    have hc : completed (before ++ { p with progress := .dropped } :: after) =
        completed (before ++ p :: after) :=
      completed_replace (by rw [below]; rfl) fun _ => rfl
    dsimp only at ht ⊢
    rw [hc]
    exact ht

/-- A move keeps the metrics true. -/
theorem Move.conserved (h : Move t t') (ht : Conserved t) : Conserved t' where
  inFlight l := h.inFlight (ht.inFlight l)
  count := h.totals rfl (fun _ _ _ => rfl) ht.count
  observed := h.totals rfl (fun _ _ _ => by simp) ht.observed
  requestBytes := h.totals rfl (fun _ _ _ => rfl) ht.requestBytes
  responseBytes := h.totals rfl (fun _ _ _ => rfl) ht.responseBytes

theorem Moves.conserved (h : Moves t t') (ht : Conserved t) : Conserved t' := by
  induction h with
  | refl => exact ht
  | tail _ hmove ih => exact hmove.conserved ih

end

/-- Before any request came. -/
theorem conserved_start {site : Site} (h : site.metrics = .empty) : Conserved ⟨site, []⟩ where
  inFlight l := by simp [h, Metrics.inFlight?, Metrics.empty]
  count := by simp [Totals, h, Metrics.total, Metrics.empty, completed]
  observed := by simp [Totals, h, Metrics.total, Metrics.empty, completed]
  requestBytes := by simp [Totals, h, Metrics.total, Metrics.empty, completed]
  responseBytes := by simp [Totals, h, Metrics.total, Metrics.empty, completed]

end Traffic

/-! ## Code below the layer -/

/-- From the state `s` and under `deadlines` deadlines, a run left the metrics alone, and if it was cut
off, then by one of those deadlines. -/
def Kept (deadlines : Nat) (s : State) (run : Outcome × State) : Prop :=
  run.2.site.metrics = s.site.metrics ∧ ∀ level, run.1 = .abandoned level → level < deadlines

/-- The metrics are safe from `p`, and only a deadline around it cuts it off. -/
def Confined (p : Step) : Prop :=
  ∀ ds s, Kept ds.length s (p ds s)

namespace Confined

variable {p q : Step}

theorem update {f : State → State} (h : LeavesMetrics f) : Confined (Step.update f) :=
  fun _ s => ⟨h s, nofun⟩

theorem andThen (hp : Confined p) (hq : Confined q) : Confined (p.andThen q) := by
  intro ds s
  have hs := hp ds s
  unfold Step.andThen
  rcases hrun : p ds s with ⟨_ | _ | _, s'⟩ <;> rw [hrun] at hs
  · exact ⟨(hq ds s').1.trans hs.1, (hq ds s').2⟩
  · exact hs
  · exact hs

theorem guarded (hp : Confined p) : Confined (Step.guarded p) := by
  intro ds s
  have hs := hp ds s
  unfold Step.guarded
  rcases hrun : p ds s with ⟨_ | _ | _, s'⟩ <;> rw [hrun] at hs
  · exact hs
  · exact ⟨hs.1, nofun⟩
  · exact hs

/-- The deadline of the step itself is caught, so that only one around it is left. -/
theorem limited (limit : Duration) (hp : Confined p) : Confined (Step.limited limit p) := by
  intro ds s
  have hs := hp ((s.site.timer + limit.nanos) :: ds) s
  unfold Step.limited
  rcases hrun : p ((s.site.timer + limit.nanos) :: ds) s with ⟨_ | message | level, s'⟩ <;>
    rw [hrun] at hs
  · exact ⟨hs.1, nofun⟩
  · exact ⟨hs.1, nofun⟩
  · by_cases hl : level = ds.length
    · simp only [hl, if_pos]
      exact ⟨(LeavesMetrics.timedOut limit s').trans hs.1, nofun⟩
    · simp only [hl, if_false]
      refine ⟨hs.1, fun level' he => ?_⟩
      have hlt := hs.2 level' he
      cases he
      rw [List.length_cons] at hlt
      omega

theorem closing {returned stopped : State → State} (hr : LeavesMetrics returned)
    (hs : LeavesMetrics stopped) (hp : Confined p) : Confined (p.closing returned stopped) := by
  intro ds s
  have hrest := hp ds s
  unfold Step.closing
  rcases hrun : p ds s with ⟨_ | _ | _, s'⟩ <;> rw [hrun] at hrest
  · exact ⟨(hr s').trans hrest.1, nofun⟩
  · exact ⟨(hs s').trans hrest.1, nofun⟩
  · exact ⟨(hs s').trans hrest.1, hrest.2⟩

theorem level_lt_of_passed? {wake deadline level : Nat} {ds : List Nat}
    (h : Step.passed? wake ds = some (deadline, level)) : level < ds.length := by
  induction ds generalizing deadline level with
  | nil => cases h
  | cons d outer ih =>
    rw [Step.passed?] at h
    rw [List.length_cons]
    split at h
    · rename_i e level' ho
      have := ih ho
      split at h <;> cases h <;> omega
    · split at h <;> cases h
      omega

theorem sleep (nanos : Nat) : Confined (Step.sleep nanos) := by
  intro ds s
  unfold Step.sleep
  dsimp only
  split
  · rename_i deadline level hpassed
    refine ⟨rfl, fun level' he => ?_⟩
    cases he
    exact level_lt_of_passed? hpassed
  · exact ⟨rfl, nofun⟩

theorem layers : Step.Layers LeavesMetrics Confined where
  skip _ _ := ⟨rfl, nofun⟩
  update := update
  panic _ _ _ := ⟨rfl, nofun⟩
  sleep := sleep
  andThen := andThen
  quiet h := h
  choose h ds s := h s ds s
  guarded := guarded
  limited limit := limited limit
  closing := closing

/-- Of all middleware only the metrics layer counts. -/
theorem chain {ms : List Middleware} (hms : Middleware.metrics ∉ ms) (e : Endpoint) :
    Confined (Middleware.chain ms e.step) :=
  layers.chain (.inl hms) e

end Confined

namespace Traffic

/-! ## Runs of the layer -/

/-- A panic does not get past a guard. -/
theorem guarded_returns (inner : Step) (ds : List Nat) (s : State) (message : Option String) :
    (Step.guarded inner ds s).1 ≠ .panicked message := by
  unfold Step.guarded
  rcases inner ds s with ⟨_ | _ | _, s'⟩ <;> simp

/-- An uninterrupted run of the layer enters, goes on below the layer, and is counted before it leaves
if it returns. Else a deadline around the layer cut it off, and it is dropped. -/
theorem moves_of_counted {inner : Step} (h : Confined inner) (ds : List Nat) (t : Traffic)
    (x : Exchange) :
    let run := Middleware.counted inner ds ⟨x, t.site⟩
    (run.1 = .returned ∨ ∃ level < ds.length, run.1 = .abandoned level) ∧
    Moves t ⟨run.2.site, t.passages ++ [⟨x.request.labels, t.site.timer, run.2.exchange,
      if run.1 = .returned then .finished else .dropped⟩]⟩ := by
  have henter := Move.enter t x
  obtain ⟨hkept, hlevel⟩ := h.guarded ds (Middleware.arrive ⟨x, t.site⟩)
  have hpanic := guarded_returns inner ds (Middleware.arrive ⟨x, t.site⟩)
  rcases hinner : Step.guarded inner ds (Middleware.arrive ⟨x, t.site⟩) with ⟨o, s⟩
  rw [hinner] at hkept hlevel hpanic
  have hwork : Moves t
      ⟨s.site, t.passages ++ [⟨x.request.labels, t.site.timer, s.exchange, .below⟩]⟩ :=
    .tail (.single henter) (.work s.exchange rfl hkept)
  unfold Middleware.arrive at hinner
  cases o with
  | panicked message => exact absurd rfl (hpanic message)
  | returned =>
    have hrun : Middleware.counted inner ds ⟨x, t.site⟩ =
        (.returned, Middleware.leave x.request.labels (Middleware.complete t.site.timer s)) := by
      unfold Middleware.counted
      simp only [hinner]
    rw [hrun]
    exact ⟨.inl rfl, (hwork.tail (.complete rfl)).tail (.leave rfl)⟩
  | abandoned level =>
    have hrun : Middleware.counted inner ds ⟨x, t.site⟩ =
        (.abandoned level, Middleware.leave x.request.labels s) := by
      unfold Middleware.counted
      simp only [hinner]
    rw [hrun]
    exact ⟨.inr ⟨level, hlevel level rfl, rfl⟩, hwork.tail (.drop rfl)⟩

/-- **Conservation of request metrics.** Before the first request nothing is counted. Then, whatever
moves the requests of a service made in whatever order: the gauge of each label set counts the requests
that entered under it and are neither finished nor dropped, so it is never negative, and zero once all
are gone; the requests and the observed durations over all label sets are as many as the completed
requests; and both sizes add up the bodies of these and what was written for them.

Requests move so: a chain below the layer that is not interrupted is a sequence of moves, and one that
no deadline around the layer cuts off ends as a completed request, whether its code returned, panicked
or ran out of its own time. -/
theorem metrics_conserved {site : Site} {t : Traffic} (hsite : site.metrics = .empty)
    (ht : Moves ⟨site, []⟩ t) :
    (∀ l, t.site.metrics.inFlight? l = t.passages.countP (·.isUnder l)) ∧
    (∀ l, 0 ≤ t.site.metrics.inFlight? l) ∧
    ((∀ p ∈ t.passages, p.progress = .finished ∨ p.progress = .dropped) →
      ∀ l, t.site.metrics.inFlight? l = 0) ∧
    t.site.metrics.total Tally.count = (completed t.passages).length ∧
    t.site.metrics.total (·.durations.length) = (completed t.passages).length ∧
    t.site.metrics.total (·.requestBytes) =
      ((completed t.passages).map (·.request.body.length)).sum ∧
    t.site.metrics.total (·.responseBytes) = ((completed t.passages).map (·.writer.length)).sum ∧
    ∀ ms e ds x, Middleware.metrics ∉ ms →
      let run := Middleware.chain (.metrics :: ms) (Endpoint.step e) ds ⟨x, t.site⟩
      (run.1 = .returned ∨ ∃ level < ds.length, run.1 = .abandoned level) ∧
      Moves t ⟨run.2.site, t.passages ++ [⟨x.request.labels, t.site.timer, run.2.exchange,
        if run.1 = .returned then .finished else .dropped⟩]⟩ := by
  have hc := Moves.conserved ht (conserved_start hsite)
  have hones : ((completed t.passages).map fun _ => 1).sum = (completed t.passages).length := by
    rw [List.map_const', List.sum_replicate_nat, Nat.mul_one]
  refine ⟨hc.inFlight, fun l => ?_, fun hquiet l => ?_, hc.count.trans hones,
    hc.observed.trans hones, hc.requestBytes, hc.responseBytes,
    fun ms e ds x hms => moves_of_counted (.chain hms e) ds t x⟩
  · rw [hc.inFlight]
    exact Int.natCast_nonneg _
  · have hnone : t.passages.countP (·.isUnder l) = 0 := by
      refine List.countP_eq_zero.2 fun p hp => ?_
      rcases hquiet p hp with h | h <;> simp [Passage.isUnder, Progress.isOpen, h]
    rw [hc.inFlight, hnone]
    rfl

/-- Two requests under the same labels overlap: the first is counted while the second is dropped. -/
theorem overlapping_requests :
    let site : Site := .start default []
    let upload : Exchange := .start { (default : Request) with body := [1, 2, 3] } "upload"
    let fetch : Exchange := .start default "fetch"
    ∃ t : Traffic, (site.metrics = .empty ∧ Moves ⟨site, []⟩ t) ∧
      completed t.passages = [upload] ∧
      t.site.metrics.inFlight? fetch.request.labels = 1 ∧
      t.site.metrics.total Tally.count = 1 ∧ t.site.metrics.total (·.requestBytes) = 3 := by
  intro site upload fetch
  have hin := (Relation.ReflTransGen.single (Move.enter ⟨site, []⟩ upload)).tail (.enter _ fetch)
  have hout := (hin.tail (@Move.complete _ [] _ _ rfl)).tail (@Move.drop _ [_] [] _ rfl)
  refine ⟨_, ⟨rfl, hout⟩, rfl, ?_⟩
  have hlaw := metrics_conserved rfl hout
  refine ⟨?_, hlaw.2.2.2.1, hlaw.2.2.2.2.2.1⟩
  rw [hlaw.1]
  have hlabels : upload.request.labels = fetch.request.labels := rfl
  simp [Passage.isUnder, Progress.isOpen, hlabels]

end Traffic

end HttpService
