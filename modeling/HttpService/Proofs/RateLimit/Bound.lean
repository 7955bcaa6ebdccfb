import HttpService.Proofs.RateLimit.Runs

/-!
# How many checks a limiter admits

Within a window of time a bucket of capacity `b` that refills at the rate `r` cannot admit more than
`b + r (t − s)` checks, as long as no bucket is dropped that would not have refilled by then. A dropped
bucket comes back full, so that in effect every bucket refills at least at the rate at which its capacity
flows in while it grows stale. `admitted_in_window`: that rate bounds what is admitted in any window of any
run, and the bound by the rate `r` itself holds of all runs just if a bucket refills before it is dropped.

The first part follows the level of the key: what is admitted is taken from it (`Sound.admitted_le`). For the
second, `drainTwice` empties a bucket, waits until the bucket is dropped, and empties it again.
-/

set_option autoImplicit false

namespace HttpService.Limiter

open Amount (seconds seconds_eq seconds_nonneg seconds_sub_add)

/-- The number of checks of a key that were admitted at times from `s` to `t`. -/
def admitted (l : Limiter ℚ) (run : List Check) (key : String) (s t : ℕ) : ℕ :=
  (run.zip (l.answers run)).countP fun p => p.1.key = key ∧ s ≤ p.1.now ∧ p.1.now ≤ t ∧ p.2.isOk

section
variable {R : ℚ} {l : Limiter ℚ} {run : List Check} {key : String} {s t : ℕ}

theorem admitted_cons (l : Limiter ℚ) (c : Check) (run : List Check) (key : String) (s t : ℕ) :
    l.admitted (c :: run) key s t = (l.check c.key c.now).2.admitted run key s t +
      if c.key = key ∧ s ≤ c.now ∧ c.now ≤ t ∧ (l.check c.key c.now).1.isOk then 1 else 0 := by
  rw [admitted, answers, List.zip_cons_cons, List.countP_cons]
  simp only [decide_eq_true_eq]
  rfl

/-- A check takes what it is admitted for from the level of its key. -/
theorem Sound.level_check (h : l.Sound s) (hr : l.rate ≤ R) (hR : 0 ≤ R)
    (hidle : (l.burst : ℚ) ≤ seconds Bucket.staleAfter * R) (c : Check) (key : String) :
    (l.check c.key c.now).2.level R key c.now +
        (if c.key = key ∧ (l.check c.key c.now).1.isOk then 1 else 0) ≤
      l.level R key c.now := by
  by_cases hkey : c.key = key
  · subst hkey
    have htaken := level_check_self R l c.key c.now
    have hrate := held_mono_rate hr l.burst (l.kept c.now) c.key c.now
    have hkept := h.held_kept hR hidle c.key (le_refl c.now)
    simp only [true_and]
    linarith
  · have hsame := h.level_check_of_ne hR hidle (Ne.symm hkey) (le_refl c.now)
    simp [hkey, hsame]

/-- Nothing is admitted in a window before a run. -/
theorem admitted_eq_zero (l : Limiter ℚ) (hrun : ∀ c ∈ run, t < c.now) :
    l.admitted run key s t = 0 := by
  refine List.countP_eq_zero.2 fun p hp => ?_
  have hlate := hrun p.1 (List.of_mem_zip hp).1
  simp only [decide_eq_true_eq]
  omega

/-- What is admitted from a time on is taken from the level at that time and from what flows in. -/
theorem Sound.admitted_le_level (h : l.Sound s) (h0 : 0 ≤ l.rate) (hr : l.rate ≤ R)
    (hidle : (l.burst : ℚ) ≤ seconds Bucket.staleAfter * R)
    (hrun : run.Pairwise fun c d => c.now ≤ d.now) (hfrom : ∀ c ∈ run, s ≤ c.now) (key : String)
    {lo : ℕ} (hlo : lo ≤ s) (t : ℕ) :
    (l.admitted run key lo t : ℚ) ≤ l.level R key s + seconds (t - s) * R := by
  have hR : 0 ≤ R := h0.trans hr
  induction run generalizing l s with
  | nil =>
    have hflow := mul_nonneg (seconds_nonneg (t - s)) hR
    have hlevel : 0 ≤ l.level R key s := h.level_nonneg hR key s
    show ((0 : ℕ) : ℚ) ≤ _
    rw [Nat.cast_zero]
    exact add_nonneg hlevel hflow
  | cons c run ih =>
    obtain ⟨hfirst, hrest⟩ := List.pairwise_cons.1 hrun
    have hsc : s ≤ c.now := hfrom c (.head _)
    by_cases hct : c.now ≤ t
    · have hnext := ih ((h.mono hsc).check h0 c.key (le_refl c.now)) h0 hr hidle hrest hfirst
        (hlo.trans hsc)
      have hcheck := (h.mono hsc).level_check hr hR hidle c key
      have hflow := h.level_later hR key hsc
      have htime : seconds (t - c.now) * R + seconds (c.now - s) * R = seconds (t - s) * R := by
        rw [← add_mul, seconds_sub_add hsc hct]
      have hwindow : lo ≤ c.now := hlo.trans hsc
      rw [admitted_cons, Nat.cast_add, Nat.cast_ite, Nat.cast_one, Nat.cast_zero]
      simp only [hwindow, hct, true_and]
      linarith
    · have hlate : ∀ d ∈ c :: run, t < d.now := fun d hd => by
        rcases List.mem_cons.1 hd with rfl | hd
        · omega
        · have := hfirst d hd
          omega
      have hflow := mul_nonneg (seconds_nonneg (t - s)) hR
      have hlevel : 0 ≤ l.level R key s := h.level_nonneg hR key s
      rw [admitted_eq_zero l hlate, Nat.cast_zero]
      exact add_nonneg hlevel hflow

/-- Of a limiter that is asked for the first time up to a window, a window admits at most a full bucket and
what flows in. -/
theorem Sound.admitted_le (h : l.Sound s) (h0 : 0 ≤ l.rate) (hr : l.rate ≤ R)
    (hidle : (l.burst : ℚ) ≤ seconds Bucket.staleAfter * R)
    (hrun : run.Pairwise fun c d => c.now ≤ d.now) (key : String) (t : ℕ) :
    (l.admitted run key s t : ℚ) ≤ l.burst + seconds (t - s) * R := by
  induction run generalizing l with
  | nil => exact add_nonneg (Nat.cast_nonneg _) (mul_nonneg (seconds_nonneg _) (h0.trans hr))
  | cons c run ih =>
    obtain ⟨hfirst, hrest⟩ := List.pairwise_cons.1 hrun
    by_cases hsc : s ≤ c.now
    · have hfrom : ∀ d ∈ c :: run, s ≤ d.now := fun d hd => by
        rcases List.mem_cons.1 hd with rfl | hd
        · exact hsc
        · exact hsc.trans (hfirst d hd)
      have hlevel := held_le R l.burst l.buckets key s
      have hbound := h.admitted_le_level h0 hr hidle hrun hfrom key (le_refl s) t
      show (l.admitted (c :: run) key s t : ℚ) ≤ _
      have : l.level R key s ≤ l.burst := hlevel
      linarith
    · have hnext := ih (h.check h0 c.key (by omega : c.now ≤ s)) h0 hr hidle hrest
      rw [admitted_cons, if_neg fun hc => hsc hc.2.1]
      exact hnext

end

/-! ## A bucket emptied twice -/

section
variable {l : Limiter ℚ} {key : String} {now : ℕ}

theorem check_ok (h : 1 ≤ held l.rate l.burst (l.kept now) key now) :
    (l.check key now).1 = .ok () := by
  rw [check_eq, Bucket.take_eq]
  exact congrArg Prod.fst (if_pos h)

/-- A bucket that was just checked is not dropped by a check at the same time. -/
theorem held_kept_check (hl : l.buckets.Sorted) (R : ℚ) (key : String) (now : ℕ) :
    held R l.burst ((l.check key now).2.kept now) key now = (l.check key now).2.level R key now := by
  let left := ((l.bucketFor key now).take l.rate l.burst now).2
  have hfind : Assoc.find? key (l.check key now).2.buckets = some left := by
    rw [find?_check, if_pos rfl]
  have hfresh : left.isStale now = false := by
    have hnow : left.refilled = now := Bucket.refilled_take ..
    rw [Bucket.isStale, hnow, Nat.sub_self]
    rfl
  have hkept : Assoc.find? key ((l.check key now).2.kept now) = some left := by
    rw [find?_kept (sorted_check hl key now), hfind, Option.filter_some, hfresh]
    simp
  rw [level, held_of_some hkept, held_of_some hfind]
  rfl

/-- As many checks at one time as there are tokens are all admitted. -/
theorem answers_replicate {n : ℕ} (hl : l.buckets.Sorted)
    (h : (n : ℚ) ≤ held l.rate l.burst (l.kept now) key now) :
    l.answers (List.replicate n ⟨key, now⟩) = List.replicate n (.ok ()) := by
  induction n generalizing l with
  | zero => rfl
  | succ n ih =>
    rw [Nat.cast_succ] at h
    have hok : (l.check key now).1 = .ok () := by
      have hn : (0 : ℚ) ≤ n := Nat.cast_nonneg n
      exact check_ok (by linarith)
    have hleft : (l.check key now).2.level l.rate key now + 1 =
        held l.rate l.burst (l.kept now) key now := by
      have htaken := level_check_self l.rate l key now
      rwa [hok] at htaken
    have hrest : (n : ℚ) ≤ held l.rate l.burst ((l.check key now).2.kept now) key now := by
      rw [held_kept_check hl]
      linarith
    rw [List.replicate_succ, List.replicate_succ, answers, hok, ih (sorted_check hl key now) hrest]

theorem admitted_append (l : Limiter ℚ) (run more : List Check) (key : String) (s t : ℕ) :
    l.admitted (run ++ more) key s t =
      l.admitted run key s t + (l.after run).admitted more key s t := by
  rw [admitted, answers_append, List.zip_append (length_answers l run).symm, List.countP_append]
  rfl

theorem admitted_replicate {n s t : ℕ} (hl : l.buckets.Sorted)
    (h : (n : ℚ) ≤ held l.rate l.burst (l.kept now) key now) (hs : s ≤ now) (ht : now ≤ t) :
    l.admitted (List.replicate n ⟨key, now⟩) key s t = n := by
  rw [admitted, answers_replicate hl h, List.zip_replicate', List.countP_replicate]
  simp [hs, ht, Except.isOk, Except.toBool]

end

/-- A client takes all tokens, others check until the next one drops stale buckets, and when its bucket is
stale the client takes all tokens of the new one. -/
def drainTwice (burst : ℕ) : List Check :=
  List.replicate burst ⟨"client", 0⟩ ++
    (List.replicate ((cleanupInterval - 1) * burst) ⟨"other", 0⟩ ++
      List.replicate burst ⟨"client", Bucket.staleAfter⟩)

theorem pairwise_drainTwice (burst : ℕ) :
    (drainTwice burst).Pairwise fun c d => c.now ≤ d.now := by
  have hat (n : ℕ) (c : Check) : (List.replicate n c).Pairwise fun c d => c.now ≤ d.now :=
    List.pairwise_replicate.2 (.inr (le_refl _))
  refine List.pairwise_append.2 ⟨hat _ _, List.pairwise_append.2 ⟨hat _ _, hat _ _, ?_⟩, ?_⟩
  · intro c hc d _
    rw [List.eq_of_mem_replicate hc]
    exact Nat.zero_le _
  · intro c hc d _
    rw [List.eq_of_mem_replicate hc]
    exact Nat.zero_le _

/-- Each of the two times all tokens are there to be taken. -/
theorem admitted_drainTwice {rate : ℚ} (h0 : 0 ≤ rate) (burst : ℕ) :
    2 * burst ≤ (new rate burst).admitted (drainTwice burst) "client" 0 Bucket.staleAfter := by
  let early := List.replicate burst (Check.mk "client" 0) ++
    List.replicate ((cleanupInterval - 1) * burst) ⟨"other", 0⟩
  let l := (new rate burst).after early
  have hbefore : ∀ c ∈ early, c.now ≤ 0 := fun c hc => by
    rcases List.mem_append.1 hc with hc | hc <;> rw [List.eq_of_mem_replicate hc]
  have hl : l.Sound 0 := (sound_new rate burst 0).after h0 hbefore
  have hchecks : l.checks = cleanupInterval * burst := by
    have hlength : l.checks = 0 + early.length := checks_after _ _
    rw [hlength, List.length_append, List.length_replicate, List.length_replicate, cleanupInterval]
    omega
  have hfirst : (new rate burst).admitted (List.replicate burst ⟨"client", 0⟩) "client" 0
      Bucket.staleAfter = burst :=
    admitted_replicate List.Pairwise.nil (held_of_none h0 rfl).ge (le_refl 0) (Nat.zero_le _)
  have hsecond : l.admitted (List.replicate burst ⟨"client", Bucket.staleAfter⟩) "client" 0
      Bucket.staleAfter = burst := by
    rcases Nat.eq_zero_or_pos burst with rfl | hpos
    · rfl
    have hcleanup : l.isCleanup = true := by
      have hsome : 0 < cleanupInterval * burst := Nat.mul_pos (by decide) hpos
      simp [isCleanup, hchecks, hsome]
    have hdropped : Assoc.find? "client" (l.kept Bucket.staleAfter) = none := by
      rw [find?_kept hl.sorted, if_pos hcleanup, Option.filter_eq_none_iff]
      intro b hb
      have hold : b.refilled = 0 := Nat.le_zero.1 (hl.refilled hb)
      simp [Bucket.isStale, hold]
    have hrate : 0 ≤ l.rate := (rate_after (new rate burst) early).symm ▸ h0
    have hburst : l.burst = burst := burst_after (new rate burst) early
    have hfull : held l.rate l.burst (l.kept Bucket.staleAfter) "client" Bucket.staleAfter =
        burst := by
      rw [held_of_none hrate hdropped, hburst]
    exact admitted_replicate hl.sorted hfull.ge (Nat.zero_le _) (le_refl _)
  rw [drainTwice, ← List.append_assoc, admitted_append, admitted_append, hfirst]
  show 2 * burst ≤ burst + _ + l.admitted _ _ _ _
  rw [hsecond]
  omega

/-- **The bound on what is admitted.** Whatever run of checks at times that do not fall, stale buckets
being dropped on the way: in any window a limiter admits of one key at most a full bucket and what flows in
during the window, at its rate, or at the one at which a bucket flows full while it grows stale, if that is
higher. That the rate of the limiter alone bounds every window of every run, is so just if a bucket refills
before it is dropped. -/
theorem admitted_in_window {rate : ℚ} (h0 : 0 ≤ rate) (burst : ℕ) :
    (∀ (run : List Check) (key : String) (s t : ℕ), (run.Pairwise fun c d => c.now ≤ d.now) →
      ((new rate burst).admitted run key s t : ℚ) ≤
        burst + seconds (t - s) * max rate (burst / seconds Bucket.staleAfter)) ∧
    ((∀ (run : List Check) (key : String) (s t : ℕ), (run.Pairwise fun c d => c.now ≤ d.now) →
      ((new rate burst).admitted run key s t : ℚ) ≤ burst + seconds (t - s) * rate) ↔
        (burst : ℚ) ≤ seconds Bucket.staleAfter * rate) := by
  refine ⟨fun run key s t hrun => ?_, fun h => ?_, fun h run key s t hrun => ?_⟩
  · have hidle : (burst : ℚ) ≤
        seconds Bucket.staleAfter * max rate (burst / seconds Bucket.staleAfter) := by
      have hpos : (0 : ℚ) < seconds Bucket.staleAfter := by
        rw [seconds_eq, Bucket.staleAfter]
        norm_num
      calc (burst : ℚ) = seconds Bucket.staleAfter * (burst / seconds Bucket.staleAfter) :=
            (mul_div_cancel₀ _ hpos.ne').symm
        _ ≤ _ := mul_le_mul_of_nonneg_left (le_max_right _ _) hpos.le
    exact (sound_new rate burst s).admitted_le h0 (le_max_left _ _) hidle hrun key t
  · have hdrained : (2 * burst : ℚ) ≤ burst + seconds Bucket.staleAfter * rate := by
      have hbound := h (drainTwice burst) "client" 0 Bucket.staleAfter (pairwise_drainTwice burst)
      have hcount : ((2 * burst : ℕ) : ℚ) ≤ _ := Nat.cast_le.2 (admitted_drainTwice h0 burst)
      rw [Nat.cast_mul, Nat.cast_two] at hcount
      exact hcount.trans hbound
    linarith
  · exact (sound_new rate burst s).admitted_le h0 (le_refl _) h hrun key t

/-- The only token is taken twice, and that is the bound. -/
theorem drained_twice_at_bound :
    (drainTwice 1).Pairwise (fun c d => c.now ≤ d.now) ∧
      (new (0 : ℚ) 1).admitted (drainTwice 1) "client" 0 Bucket.staleAfter = 2 := by
  refine ⟨pairwise_drainTwice 1, le_antisymm ?_ (admitted_drainTwice (le_refl 0) 1)⟩
  have hbound := (admitted_in_window (le_refl (0 : ℚ)) 1).1 (drainTwice 1) "client" 0
    Bucket.staleAfter (pairwise_drainTwice 1)
  have htwo : ((1 : ℕ) : ℚ) + seconds (Bucket.staleAfter - 0) *
      max 0 (((1 : ℕ) : ℚ) / seconds Bucket.staleAfter) = (2 : ℕ) := by
    norm_num [seconds_eq, Bucket.staleAfter]
  rw [htwo] at hbound
  exact Nat.cast_le.1 hbound

/-- A bucket of one token that never refills admits a second check once it was dropped: the rate of the
limiter is no bound. -/
theorem drained_twice_beyond_rate :
    let run : List Check := ⟨"client", 0⟩ ::
      (List.replicate 999 ⟨"other", 0⟩ ++ [⟨"client", 600 * 1000000000⟩])
    (run.Pairwise fun c d => c.now ≤ d.now) ∧
      ¬ ((new (0 : ℚ) 1).admitted run "client" 0 (600 * 1000000000) : ℚ) ≤
        1 + seconds (600 * 1000000000 - 0) * 0 := by
  refine ⟨pairwise_drainTwice 1, fun h => ?_⟩
  have htwice : ((2 * 1 : ℕ) : ℚ) ≤ (new (0 : ℚ) 1).admitted (drainTwice 1) "client" 0
      Bucket.staleAfter :=
    Nat.cast_le.2 (admitted_drainTwice (le_refl 0) 1)
  have hone := htwice.trans h
  norm_num at hone

end HttpService.Limiter
