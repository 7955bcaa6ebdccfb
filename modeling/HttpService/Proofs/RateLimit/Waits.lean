import HttpService.Proofs.RateLimit.Runs
import HttpService.RateLimit.Config
import Mathlib.Tactic.Ring

/-!
# A rejected check is told the truth

A rejected check is told how long the next token takes. `told_wait_is_true`: as long as no later check of the
key is admitted, one from that time on is, one before it is not unless the bucket of the key was dropped in
between, and a client that asks too early is told to wait for the same time as before.

That time is kept by the buckets: `b.DueAt rate due` says that the refill brings `b` to one whole token at the
time `due`. A rejected check leaves its bucket due when the told wait is over (`dueAt_of_rejected`). A check
that finds it due later refills it in part, which moves neither the line it refills along nor `due`
(`take_early`): it is below the capacity, so that nothing is capped.
-/

set_option autoImplicit false

namespace HttpService

open Amount (seconds seconds_eq seconds_nonneg)

theorem Amount.seconds_sub {m n : ℕ} (h : m ≤ n) : (seconds (n - m) : ℚ) = seconds n - seconds m := by
  rw [seconds_eq, seconds_eq, seconds_eq, Nat.cast_sub h, sub_div]

/-- Whole seconds that have passed in nanoseconds. -/
theorem Amount.add_le_seconds {m n k : ℕ} (h : m + k * Duration.second ≤ n) :
    (seconds m : ℚ) + k ≤ seconds n := by
  have hcast : ((m + k * Duration.second : ℕ) : ℚ) ≤ n := Nat.cast_le.2 h
  rw [Duration.second, Nat.cast_add, Nat.cast_mul, Nat.cast_ofNat] at hcast
  rw [seconds_eq, seconds_eq]
  linarith

/-! ## Buckets that are due -/

namespace Bucket

variable {rate capacity due wait : ℚ} {b : Bucket ℚ} {now : ℕ}

/-- The refill brings the bucket to one whole token at a time in seconds. -/
def DueAt (rate due : ℚ) (b : Bucket ℚ) : Prop :=
  b.tokens + (due - seconds b.refilled) * rate = 1

theorem tokensAt_of_dueAt (h : b.DueAt rate due) (hb : b.refilled ≤ now) :
    b.tokensAt rate capacity now = min (1 + (seconds now - due) * rate) capacity := by
  have hline : b.tokens + seconds (now - b.refilled) * rate = 1 + (seconds now - due) * rate := by
    rw [DueAt] at h
    rw [Amount.seconds_sub hb]
    linarith
  rw [tokensAt_eq, hline]

/-- From the time on at which a bucket is due it gives a token. -/
theorem take_due (h : b.DueAt rate due) (hr : 0 < rate) (hc : 1 ≤ capacity) (hb : b.refilled ≤ now)
    (hdue : due ≤ seconds now) : (b.take rate capacity now).1 = .ok () := by
  have hone : 1 ≤ b.tokensAt rate capacity now := by
    have hflow : 0 ≤ (seconds now - due) * rate := mul_nonneg (sub_nonneg.2 hdue) hr.le
    rw [tokensAt_of_dueAt h hb]
    exact le_min (by linarith) hc
  rw [take_eq, if_pos hone]

/-- Before that time it gives none: it tells the time that is left, and stays due at the same time. -/
theorem take_early (h : b.DueAt rate due) (hr : 0 < rate) (hc : 1 ≤ capacity) (hb : b.refilled ≤ now)
    (hdue : seconds now < due) :
    (b.take rate capacity now).1 = .error (due - seconds now) ∧
      (b.take rate capacity now).2.DueAt rate due := by
  have hshort : (seconds now - due) * rate < 0 := mul_neg_of_neg_of_pos (sub_neg.2 hdue) hr
  have htokens : b.tokensAt rate capacity now = 1 + (seconds now - due) * rate := by
    rw [tokensAt_of_dueAt h hb]
    exact min_eq_left (by linarith)
  have hnone : ¬ 1 ≤ 1 + (seconds now - due) * rate := by linarith
  have hwait : (1 - (1 + (seconds now - due) * rate)) / rate = due - seconds now := by
    rw [div_eq_iff hr.ne']
    ring
  rw [take_eq, htokens, if_neg hnone, hwait]
  refine ⟨rfl, ?_⟩
  show 1 + (seconds now - due) * rate + (due - seconds now) * rate = 1
  ring

/-- A rejected check leaves its bucket due when the wait is over that it tells. -/
theorem dueAt_of_rejected (hr : 0 < rate) (h : (b.take rate capacity now).1 = .error wait) :
    (b.take rate capacity now).2.DueAt rate (seconds now + wait) := by
  rw [take_eq] at h ⊢
  split at h
  · cases h
  · rename_i hnone
    cases h
    rw [if_neg hnone]
    show b.tokensAt rate capacity now +
      (seconds now + (1 - b.tokensAt rate capacity now) / rate - seconds now) * rate = 1
    rw [add_sub_cancel_left, div_mul_cancel₀ _ hr.ne']
    ring

theorem tokens_take_le (rate capacity : ℚ) (b : Bucket ℚ) (now : ℕ) :
    (b.take rate capacity now).2.tokens ≤ capacity := by
  have htaken := tokens_take rate capacity b now
  have hle := tokensAt_le rate capacity b now
  have hone : (0 : ℚ) ≤ if (b.take rate capacity now).1.isOk then 1 else 0 := by
    split <;> norm_num
  linarith

theorem take_full (hr : 0 ≤ rate) (hc : 1 ≤ capacity) (start : ℕ) :
    ((full capacity start).take rate capacity now).1 = .ok () := by
  rw [take_eq, tokensAt_full hr, if_pos hc]

end Bucket

namespace Limiter

variable {l : Limiter ℚ} {run : List Check} {key : String} {due : ℚ} {s now : ℕ}

/-! ## What a limiter holds for a key -/

/-- No bucket holds more than the capacity. -/
def Capped (l : Limiter ℚ) : Prop :=
  ∀ key b, Assoc.find? key l.buckets = some b → b.tokens ≤ l.burst

theorem Capped.check (h : l.Capped) (hs : l.buckets.Sorted) (key : String) (now : ℕ) :
    (l.check key now).2.Capped := by
  intro other b hb
  rw [find?_check] at hb
  split at hb
  · cases hb
    exact Bucket.tokens_take_le ..
  · exact h other b (of_find?_kept hs hb)

theorem Capped.after (h : l.Capped) (hs : l.buckets.Sorted) (run : List Check) :
    (l.after run).Capped := by
  induction run generalizing l with
  | nil => exact h
  | cons c run ih => exact ih (h.check hs c.key c.now) (sorted_check hs c.key c.now)

/-- The bucket of a key, if there is one, is due at a time. -/
def Due (l : Limiter ℚ) (key : String) (due : ℚ) : Prop :=
  ∀ b, Assoc.find? key l.buckets = some b → b.DueAt l.rate due

/-- A check drops the bucket of a key before it looks. -/
def Drops (l : Limiter ℚ) (key : String) (now : ℕ) : Prop :=
  Assoc.find? key l.buckets ≠ none ∧ Assoc.find? key (l.kept now) = none

/-- Some check of a run drops the bucket of a key. -/
def DropsIn (l : Limiter ℚ) (key : String) : List Check → Prop
  | [] => False
  | c :: run => l.Drops key c.now ∨ (l.check c.key c.now).2.DropsIn key run

instance (l : Limiter ℚ) (key : String) (now : ℕ) : Decidable (l.Drops key now) :=
  inferInstanceAs (Decidable (_ ∧ _))

instance decidableDropsIn (l : Limiter ℚ) (key : String) :
    (run : List Check) → Decidable (l.DropsIn key run)
  | [] => .isFalse id
  | c :: run =>
    have := decidableDropsIn (l.check c.key c.now).2 key run
    inferInstanceAs (Decidable (_ ∨ _))

/-- No check of a key is admitted in a run. -/
def Starves (l : Limiter ℚ) (key : String) (run : List Check) : Prop :=
  ∀ p ∈ run.zip (l.answers run), p.1.key = key → p.2.isOk = false

instance (l : Limiter ℚ) (key : String) (run : List Check) : Decidable (l.Starves key run) :=
  inferInstanceAs (Decidable (∀ p ∈ run.zip (l.answers run), _))

theorem starves_cons {c : Check} (h : l.Starves key (c :: run)) :
    (c.key = key → (l.check c.key c.now).1.isOk = false) ∧
      (l.check c.key c.now).2.Starves key run := by
  rw [Starves, answers, List.zip_cons_cons] at h
  exact List.forall_mem_cons.1 h

theorem dropsIn_append (l : Limiter ℚ) (key : String) (run more : List Check) :
    l.DropsIn key (run ++ more) ↔ l.DropsIn key run ∨ (l.after run).DropsIn key more := by
  induction run generalizing l with
  | nil => exact (iff_of_eq (false_or _)).symm
  | cons c run ih =>
    rw [List.cons_append, DropsIn, DropsIn, ih, or_assoc]
    rfl

/-! ## One check -/

theorem answer_check (l : Limiter ℚ) (key : String) (now : ℕ) :
    (l.check key now).1 = ((l.bucketFor key now).take l.rate l.burst now).1 :=
  rfl

/-- A client without a bucket is admitted. -/
theorem check_of_absent (hr : 0 < l.rate) (hc : (1 : ℚ) ≤ l.burst)
    (h : Assoc.find? key (l.kept now) = none) : (l.check key now).1 = .ok () := by
  rw [answer_check, bucketFor, h]
  exact Bucket.take_full hr.le hc now

theorem bucketFor_of_present {b : Bucket ℚ} (h : Assoc.find? key (l.kept now) = some b) :
    l.bucketFor key now = b := by
  rw [bucketFor, h]
  rfl

/-- A client whose bucket is due is admitted, whether the check drops the bucket or not. -/
theorem Due.check_due (h : l.Due key due) (hs : l.Sound now) (hr : 0 < l.rate) (hc : (1 : ℚ) ≤ l.burst)
    (hdue : due ≤ seconds now) : (l.check key now).1 = .ok () := by
  cases hb : Assoc.find? key (l.kept now) with
  | none => exact check_of_absent hr hc hb
  | some b =>
    have hmem := of_find?_kept hs.sorted hb
    rw [answer_check, bucketFor_of_present hb]
    exact Bucket.take_due (h b hmem) hr hc (hs.refilled hmem) hdue

/-- A check of the key that is not admitted leaves the bucket due at the same time, and so do all checks of
other keys. -/
theorem Due.check (h : l.Due key due) (hs : l.Sound now) (hr : 0 < l.rate) (hc : (1 : ℚ) ≤ l.burst)
    {other : String} (hother : other = key → (l.check other now).1.isOk = false) :
    (l.check other now).2.Due key due := by
  intro b hb
  rw [find?_check] at hb
  split at hb
  · rename_i hkey
    subst hkey
    cases hb
    have hrejected := hother rfl
    cases hkept : Assoc.find? key (l.kept now) with
    | none =>
      rw [check_of_absent hr hc hkept] at hrejected
      cases hrejected
    | some b =>
      have hmem := of_find?_kept hs.sorted hkept
      have hearly : seconds now < due := by
        refine lt_of_not_ge fun hdue => ?_
        rw [h.check_due hs hr hc hdue] at hrejected
        cases hrejected
      rw [bucketFor_of_present hkept]
      exact (Bucket.take_early (h b hmem) hr hc (hs.refilled hmem) hearly).2
  · exact h b (of_find?_kept hs.sorted hb)

/-- A bucket is gone after a check that was not admitted just if the check dropped it. -/
theorem absent_check (hr : 0 < l.rate) (hc : (1 : ℚ) ≤ l.burst) {other : String}
    (hother : other = key → (l.check other now).1.isOk = false) :
    Assoc.find? key (l.check other now).2.buckets = none ↔ Assoc.find? key (l.kept now) = none := by
  rw [find?_check]
  split
  · rename_i hkey
    subst hkey
    refine ⟨nofun, fun hnone => ?_⟩
    have hrejected := hother rfl
    rw [check_of_absent hr hc hnone] at hrejected
    cases hrejected
  · exact Iff.rfl

theorem absent_kept (hs : l.buckets.Sorted) (h : Assoc.find? key l.buckets = none) (now : ℕ) :
    Assoc.find? key (l.kept now) = none := by
  cases hb : Assoc.find? key (l.kept now) with
  | none => rfl
  | some b => exact nomatch h.symm.trans (of_find?_kept hs hb)

/-- A check finds no bucket just if there is none or it drops the one there is. -/
theorem absent_kept_iff (hs : l.buckets.Sorted) (key : String) (now : ℕ) :
    Assoc.find? key (l.kept now) = none ↔ Assoc.find? key l.buckets = none ∨ l.Drops key now :=
  ⟨fun h => or_iff_not_imp_left.2 fun hb => ⟨hb, h⟩, fun h => h.elim (absent_kept hs · now) And.right⟩

/-! ## A run that admits no check of the key -/

/-- What keeps a run that admits no check of a key. -/
theorem Due.after (h : l.Due key due) (hs : l.Sound s) (hr : 0 < l.rate) (hc : (1 : ℚ) ≤ l.burst)
    (hrun : run.Pairwise fun c d => c.now ≤ d.now) (hfrom : ∀ c ∈ run, s ≤ c.now)
    (hnone : l.Starves key run) : (l.after run).Due key due := by
  induction run generalizing l s with
  | nil => exact h
  | cons c run ih =>
    obtain ⟨hfirst, hrest⟩ := List.pairwise_cons.1 hrun
    obtain ⟨hc', hnone'⟩ := starves_cons hnone
    have hs' := hs.mono (hfrom c (.head _))
    exact ih (h.check hs' hr hc hc') (hs'.check hr.le c.key le_rfl) hr hc hrest hfirst hnone'

/-- After a run that admits no check of a key its bucket is gone just if it was before or was dropped. -/
theorem absent_after (hs : l.buckets.Sorted) (hr : 0 < l.rate) (hc : (1 : ℚ) ≤ l.burst)
    (hnone : l.Starves key run) :
    Assoc.find? key (l.after run).buckets = none ↔
      Assoc.find? key l.buckets = none ∨ l.DropsIn key run := by
  induction run generalizing l with
  | nil => exact (iff_of_eq (or_false _)).symm
  | cons c run ih =>
    obtain ⟨hc', hnone'⟩ := starves_cons hnone
    have hrest := ih (sorted_check hs c.key c.now) hr hc hnone'
    rw [absent_check hr hc hc', absent_kept_iff hs, or_assoc] at hrest
    exact hrest

/-- A check after such a run finds no bucket just if one was dropped since the first check, which left one. -/
theorem absent_at_retry (hs : (l.check key s).2.buckets.Sorted)
    (hs' : ((l.check key s).2.after run).buckets.Sorted) (hr : 0 < l.rate) (hc : (1 : ℚ) ≤ l.burst)
    (hnone : (l.check key s).2.Starves key run) (now : ℕ) :
    Assoc.find? key (((l.check key s).2.after run).kept now) = none ↔
      (l.check key s).2.DropsIn key (run ++ [⟨key, now⟩]) := by
  have hthere : Assoc.find? key (l.check key s).2.buckets ≠ none := by
    rw [find?_check, if_pos rfl]
    exact nofun
  rw [absent_kept_iff hs', absent_after hs hr hc hnone, or_iff_right hthere, dropsIn_append, DropsIn,
    DropsIn, or_false]

/-! ## The told wait -/

/-- The whole seconds that are told are at least the wait, where a duration holds it. -/
theorem le_retryAfter {wait : ℚ} (h0 : 0 ≤ wait) (hfits : wait < 2 ^ 64) :
    wait ≤ RateLimit.retryAfter wait := by
  have hwhole : WaitTime.wholeSeconds? wait = some wait.ceil.toNat :=
    if_pos ⟨h0, hfits.trans_eq (by norm_num)⟩
  have hceil : wait ≤ (wait.ceil.toNat : ℚ) := by
    have hle : wait ≤ (wait.ceil : ℚ) := Rat.le_ceil
    have hnat : ((wait.ceil.toNat : ℤ) : ℚ) = wait.ceil :=
      congrArg Int.cast (Int.toNat_of_nonneg (by exact_mod_cast h0.trans hle))
    rw [← hnat] at hle
    exact_mod_cast hle
  rw [RateLimit.retryAfter, hwhole]
  exact hceil.trans (Nat.cast_le.2 (le_max_right _ _))

theorem wait_pos (hr : 0 < l.rate) {wait : ℚ} (h : (l.check key now).1 = .error wait) : 0 < wait := by
  rw [answer_check, Bucket.take_eq] at h
  split at h
  · cases h
  · rename_i hnone
    cases h
    exact div_pos (sub_pos.2 (lt_of_not_ge hnone)) hr

/-- A rejected check leaves the bucket of its key due when the told wait is over. -/
theorem due_of_rejected (hr : 0 < l.rate) {wait : ℚ} (h : (l.check key now).1 = .error wait) :
    (l.check key now).2.Due key (seconds now + wait) := by
  intro b hb
  rw [find?_check, if_pos rfl] at hb
  cases hb
  exact Bucket.dueAt_of_rejected hr h

/-- A client whose bucket is there and not yet due is told the time that is left. -/
theorem Due.check_early (h : l.Due key due) (hs : l.Sound now) (hr : 0 < l.rate)
    (hc : (1 : ℚ) ≤ l.burst) (hearly : seconds now < due)
    (hkept : Assoc.find? key (l.kept now) ≠ none) :
    (l.check key now).1 = .error (due - seconds now) := by
  obtain ⟨b, hb⟩ := Option.ne_none_iff_exists'.1 hkept
  have hmem := of_find?_kept hs.sorted hb
  rw [answer_check, bucketFor_of_present hb]
  exact (Bucket.take_early (h b hmem) hr hc (hs.refilled hmem) hearly).1

/-- From the start on no bucket holds more than the burst. -/
theorem capped_after (rate : ℚ) (burst : ℕ) (run : List Check) {b : Bucket ℚ}
    (hb : Assoc.find? key ((new rate burst).after run).buckets = some b) : b.tokens ≤ burst := by
  have hcapped : (new rate burst).Capped := nofun
  have hle := hcapped.after .nil run key b hb
  rwa [burst_after] at hle

/-- **A told wait is true.** Take a limiter that refills and admits at all, checks of any keys at times that
do not fall, and a check of one key that is rejected with a wait, after which none of that key is admitted
until it is checked again. From the end of the wait on, and in particular after the whole seconds that the
client is told, that check is admitted. Before, it is admitted just if the bucket of the key was dropped since
the rejection; otherwise it is told the same end. Tokens never leave the range from nothing to the burst. -/
theorem told_wait_is_true {rate : ℚ} {burst : ℕ} (hr : 0 < rate) (hburst : 1 ≤ burst)
    {before between : List Check} {key : String} {t t' : ℕ}
    (hrun : List.Pairwise (fun c d : Check => c.now ≤ d.now)
      (before ++ ⟨key, t⟩ :: (between ++ [⟨key, t'⟩]))) :
    let l := (new rate burst).after before
    let rejecting := (l.check key t).2
    let retry := ((rejecting.after between).check key t').1
    (∀ other b, Assoc.find? other l.buckets = some b → 0 ≤ b.tokens ∧ b.tokens ≤ burst) ∧
      ∀ wait, (l.check key t).1 = .error wait → rejecting.Starves key between →
        (seconds t + wait ≤ seconds t' → retry = .ok ()) ∧
        (wait < 2 ^ 64 → t + RateLimit.retryAfter wait * Duration.second ≤ t' → retry = .ok ()) ∧
        (seconds t' < seconds t + wait →
          (rejecting.DropsIn key (between ++ [⟨key, t'⟩]) → retry = .ok ()) ∧
          (¬ rejecting.DropsIn key (between ++ [⟨key, t'⟩]) →
            ∃ wait', retry = .error wait' ∧ seconds t' + wait' = seconds t + wait)) := by
  intro l rejecting retry
  obtain ⟨-, hfrom, hbefore⟩ := List.pairwise_append.1 hrun
  obtain ⟨hafter, hbetween⟩ := List.pairwise_cons.1 hfrom
  obtain ⟨hbetween, -, hlast⟩ := List.pairwise_append.1 hbetween
  have htt : t ≤ t' := hafter _ (List.mem_append_right _ (.head _))
  have hl : l.Sound t := (sound_new rate burst t).after hr.le fun c hc => hbefore c hc _ (.head _)
  have hrate : l.rate = rate := rate_after ..
  have hcapacity : l.burst = burst := burst_after ..
  have hrl : 0 < l.rate := hrate ▸ hr
  have hcl : (1 : ℚ) ≤ l.burst := by
    rw [hcapacity]
    exact_mod_cast hburst
  have hrejecting : rejecting.Sound t := hl.check hrl.le key le_rfl
  have hlater : (rejecting.after between).Sound t' := by
    refine (hrejecting.mono htt).after hrl.le fun c hc => hlast c hc _ (.head _)
  refine ⟨fun other b hb => ⟨hl.tokens hb, capped_after rate burst before hb⟩, fun wait hwait hnone => ?_⟩
  have hdue : (rejecting.after between).Due key (seconds t + wait) :=
    (due_of_rejected hrl hwait).after hrejecting hrl hcl hbetween
      (fun c hc => hafter c (List.mem_append_left _ hc)) hnone
  have hra : 0 < (rejecting.after between).rate := (rate_after rejecting between).symm ▸ hrl
  have hca : (1 : ℚ) ≤ (rejecting.after between).burst := (burst_after rejecting between).symm ▸ hcl
  have hpassed : seconds t + wait ≤ seconds t' → retry = .ok () := hdue.check_due hlater hra hca
  have habsent := absent_at_retry hrejecting.sorted hlater.sorted hrl hcl hnone t'
  refine ⟨hpassed, fun hfits htold => ?_, fun hearly => ⟨fun hdrops => ?_, fun hstays => ?_⟩⟩
  · have hwhole := le_retryAfter (wait_pos hrl hwait).le hfits
    have htime := Amount.add_le_seconds htold
    exact hpassed (by linarith)
  · exact check_of_absent hra hca (habsent.2 hdrops)
  · refine ⟨_, hdue.check_early hlater hra hca hearly (mt habsent.1 hstays), ?_⟩
    ring

/-- Two tokens are taken at once, and the next one comes after a quarter of a second. A client that asks
again too early waits no longer for that. -/
theorem told_wait_of_early_retry :
    let l : Limiter ℚ := (new 4 2).after [⟨"client", 0⟩, ⟨"client", 0⟩]
    let rejecting := (l.check "client" 0).2
    let early : List Check := [⟨"other", 100000000⟩, ⟨"client", 200000000⟩]
    (l.check "client" 0).1 = .error (1 / 4) ∧ rejecting.Starves "client" early ∧
      ((rejecting.after early).check "client" 250000000).1 = .ok () ∧
      ((rejecting.after early).check "client" 1000000000).1 = .ok () ∧
      ∃ wait, ((rejecting.after [⟨"other", 100000000⟩]).check "client" 200000000).1 = .error wait ∧
        seconds 200000000 + wait = seconds 0 + 1 / 4 := by
  intro l rejecting early
  have hrejected : (l.check "client" 0).1 = .error (1 / 4) := by decide +kernel
  have hstarves : rejecting.Starves "client" early := by decide +kernel
  have honest (between : List Check) (t' : ℕ) :=
    @told_wait_is_true 4 2 (by norm_num) (by norm_num) [⟨"client", 0⟩, ⟨"client", 0⟩] between "client" 0 t'
  have hquarter := (honest early 250000000 (by decide)).2 _ hrejected hstarves
  have hsecond := (honest early 1000000000 (by decide)).2 _ hrejected hstarves
  have hearly := (honest [⟨"other", 100000000⟩] 200000000 (by decide)).2 _ hrejected (by decide +kernel)
  exact ⟨hrejected, hstarves, hquarter.1 (by decide +kernel),
    hsecond.2.1 (by decide +kernel) (by decide +kernel),
    (hearly.2.2 (by decide +kernel)).2 (by decide +kernel)⟩

end Limiter

end HttpService
