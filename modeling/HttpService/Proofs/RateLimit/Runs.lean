import HttpService.Proofs.Basic
import HttpService.RateLimit.Limiter
import Mathlib.Algebra.Order.Field.Rat
import Mathlib.Data.Nat.Cast.Order.Field
import Mathlib.Tactic.Linarith
import Mathlib.Tactic.Positivity

/-!
# Runs of a limiter

The arithmetic of buckets is exact here: tokens are rational numbers. A run is a list of checks of any
keys, and `answers` gives what a limiter says to each. `level R l key t` is what the bucket of a key would
hold at the time `t` if it refilled at the rate `R`. A check takes from the level of its key
(`level_check_self`) and leaves those of all others (`level_check_of_ne`), the dropping of buckets included
as long as a bucket refills at the rate `R` before it is dropped.
-/

set_option autoImplicit false

namespace HttpService

/-! ## Seconds -/

namespace Amount

theorem seconds_eq (n : ℕ) : (seconds n : ℚ) = n / 1000000000 := rfl

theorem seconds_zero : (seconds 0 : ℚ) = 0 := by
  rw [seconds_eq, Nat.cast_zero, zero_div]

theorem seconds_nonneg (n : ℕ) : 0 ≤ (seconds n : ℚ) := by
  rw [seconds_eq]
  positivity

theorem seconds_mono {m n : ℕ} (h : m ≤ n) : (seconds m : ℚ) ≤ seconds n := by
  rw [seconds_eq, seconds_eq]
  gcongr

theorem seconds_sub_add {m n k : ℕ} (hm : m ≤ n) (hn : n ≤ k) :
    (seconds (k - n) + seconds (n - m) : ℚ) = seconds (k - m) := by
  have h : k - m = (k - n) + (n - m) := by omega
  rw [h, seconds_eq, seconds_eq, seconds_eq, Nat.cast_add, add_div]

end Amount

open Amount (seconds seconds_zero seconds_nonneg seconds_mono seconds_sub_add)

/-! ## Buckets -/

namespace Bucket

variable {R rate capacity : ℚ} {b : Bucket ℚ}

theorem tokensAt_eq (rate capacity : ℚ) (b : Bucket ℚ) (now : ℕ) :
    b.tokensAt rate capacity now =
      min (b.tokens + seconds (now - b.refilled) * rate) capacity :=
  (min_def _ _).symm

theorem tokensAt_le (rate capacity : ℚ) (b : Bucket ℚ) (now : ℕ) :
    b.tokensAt rate capacity now ≤ capacity := by
  rw [tokensAt_eq]
  exact min_le_right _ _

theorem tokensAt_nonneg (hr : 0 ≤ rate) (hc : 0 ≤ capacity) (hb : 0 ≤ b.tokens) (now : ℕ) :
    0 ≤ b.tokensAt rate capacity now := by
  rw [tokensAt_eq]
  exact le_min (add_nonneg hb (mul_nonneg (seconds_nonneg _) hr)) hc

theorem tokensAt_mono_rate (h : rate ≤ R) (now : ℕ) :
    b.tokensAt rate capacity now ≤ b.tokensAt R capacity now := by
  rw [tokensAt_eq, tokensAt_eq]
  have hrefill := mul_le_mul_of_nonneg_left h (seconds_nonneg (now - b.refilled))
  exact min_le_min_right _ (by linarith)

/-- A bucket gains at most what flows in between. -/
theorem tokensAt_later (hr : 0 ≤ rate) {now later : ℕ} (hb : b.refilled ≤ now) (h : now ≤ later) :
    b.tokensAt rate capacity later ≤
      b.tokensAt rate capacity now + seconds (later - now) * rate := by
  have hflow := mul_nonneg (seconds_nonneg (later - now)) hr
  have hsplit : seconds (later - b.refilled) * rate =
      seconds (later - now) * rate + seconds (now - b.refilled) * rate := by
    rw [← seconds_sub_add hb h, add_mul]
  rw [tokensAt_eq, tokensAt_eq, hsplit, ← min_add_add_right]
  exact min_le_min (by linarith) (by linarith)

theorem tokensAt_self (h : b.tokens ≤ capacity) : b.tokensAt rate capacity b.refilled = b.tokens := by
  rw [tokensAt_eq, Nat.sub_self, seconds_zero, zero_mul, add_zero, min_eq_left h]

theorem tokensAt_full (hr : 0 ≤ rate) (now later : ℕ) :
    (full capacity now).tokensAt rate capacity later = capacity := by
  rw [tokensAt_eq]
  exact min_eq_right (le_add_of_nonneg_right (mul_nonneg (seconds_nonneg _) hr))

/-- A bucket that refills before it is dropped is full when it is stale. -/
theorem tokensAt_of_isStale (hr : 0 ≤ rate) (hc : capacity ≤ seconds staleAfter * rate)
    (hb : 0 ≤ b.tokens) {now later : ℕ} (hs : b.isStale now = true) (h : now ≤ later) :
    b.tokensAt rate capacity later = capacity := by
  have hidle : staleAfter ≤ later - b.refilled := by
    have := of_decide_eq_true hs
    omega
  have hflow := mul_le_mul_of_nonneg_right (seconds_mono hidle) hr
  rw [tokensAt_eq]
  exact min_eq_right (by linarith)

/-- A check takes one of the tokens, or says how long the next one takes. -/
theorem take_eq (rate capacity : ℚ) (b : Bucket ℚ) (now : ℕ) :
    b.take rate capacity now =
      if 1 ≤ b.tokensAt rate capacity now then
        (.ok (), ⟨b.tokensAt rate capacity now - 1, now⟩)
      else
        (.error ((1 - b.tokensAt rate capacity now) / rate), ⟨b.tokensAt rate capacity now, now⟩) :=
  rfl

theorem refilled_take (rate capacity : ℚ) (b : Bucket ℚ) (now : ℕ) :
    (b.take rate capacity now).2.refilled = now := by
  rw [take_eq]
  split <;> rfl

/-- What was there is what was taken and what is left. -/
theorem tokens_take (rate capacity : ℚ) (b : Bucket ℚ) (now : ℕ) :
    (b.take rate capacity now).2.tokens + (if (b.take rate capacity now).1.isOk then 1 else 0) =
      b.tokensAt rate capacity now := by
  rw [take_eq]
  split <;> simp [Except.isOk, Except.toBool]

theorem tokens_take_nonneg {now : ℕ} (h : 0 ≤ b.tokensAt rate capacity now) :
    0 ≤ (b.take rate capacity now).2.tokens := by
  rw [take_eq]
  split
  · rename_i hone
    exact sub_nonneg.2 hone
  · exact h

end Bucket

namespace Limiter

/-! ## Checks and their answers -/

/-- A check of a key at a time in nanoseconds. -/
structure Check where
  key : String
  now : ℕ

section
variable {α : Type} [Amount α]

/-- What a limiter answers to checks, one after another. -/
def answers (l : Limiter α) : List Check → List (Except α Unit)
  | [] => []
  | c :: run => (l.check c.key c.now).1 :: answers (l.check c.key c.now).2 run

/-- The limiter after checks. -/
def after (l : Limiter α) (run : List Check) : Limiter α :=
  run.foldl (fun l c => (l.check c.key c.now).2) l

theorem length_answers (l : Limiter α) (run : List Check) : (l.answers run).length = run.length := by
  induction run generalizing l with
  | nil => rfl
  | cons c run ih => rw [answers, List.length_cons, List.length_cons, ih]

theorem answers_append (l : Limiter α) (run more : List Check) :
    l.answers (run ++ more) = l.answers run ++ (l.after run).answers more := by
  induction run generalizing l with
  | nil => rfl
  | cons c run ih =>
    rw [List.cons_append, answers, ih, answers, List.cons_append]
    rfl

theorem rate_after (l : Limiter α) (run : List Check) : (l.after run).rate = l.rate := by
  induction run generalizing l with
  | nil => rfl
  | cons c run ih => exact ih (l.check c.key c.now).2

theorem burst_after (l : Limiter α) (run : List Check) : (l.after run).burst = l.burst := by
  induction run generalizing l with
  | nil => rfl
  | cons c run ih => exact ih (l.check c.key c.now).2

theorem checks_after (l : Limiter α) (run : List Check) :
    (l.after run).checks = l.checks + run.length := by
  induction run generalizing l with
  | nil => rfl
  | cons c run ih =>
    show (((l.check c.key c.now).2).after run).checks = _
    rw [ih, List.length_cons]
    show l.checks + 1 + run.length = _
    omega

end

/-! ## Levels -/

/-- What the bucket of a key holds at a time if it refills at the rate `R`; without a bucket it is full. -/
def held (R capacity : ℚ) (buckets : Assoc (Bucket ℚ)) (key : String) (t : ℕ) : ℚ :=
  ((Assoc.find? key buckets).getD (.full capacity t)).tokensAt R capacity t

/-- What the bucket of a key in a limiter holds at a time if it refills at the rate `R`. -/
def level (R : ℚ) (l : Limiter ℚ) (key : String) (t : ℕ) : ℚ :=
  held R l.burst l.buckets key t

/-- What holds of the buckets of a limiter after any checks at times up to `now`. -/
structure Sound (l : Limiter ℚ) (now : ℕ) : Prop where
  sorted : l.buckets.Sorted
  tokens : ∀ {key b}, Assoc.find? key l.buckets = some b → 0 ≤ b.tokens
  refilled : ∀ {key b}, Assoc.find? key l.buckets = some b → b.refilled ≤ now

variable {R : ℚ} {l : Limiter ℚ} {key other : String} {now t : ℕ}

theorem held_le (R capacity : ℚ) (buckets : Assoc (Bucket ℚ)) (key : String) (t : ℕ) :
    held R capacity buckets key t ≤ capacity :=
  Bucket.tokensAt_le ..

theorem held_of_none {capacity : ℚ} {buckets : Assoc (Bucket ℚ)} (hR : 0 ≤ R)
    (h : Assoc.find? key buckets = none) : held R capacity buckets key t = capacity := by
  rw [held, h]
  exact Bucket.tokensAt_full hR t t

theorem held_of_some {capacity : ℚ} {buckets : Assoc (Bucket ℚ)} {b : Bucket ℚ}
    (h : Assoc.find? key buckets = some b) :
    held R capacity buckets key t = b.tokensAt R capacity t := by
  rw [held, h]
  rfl

theorem held_mono_rate {rate : ℚ} (h : rate ≤ R) (capacity : ℚ) (buckets : Assoc (Bucket ℚ))
    (key : String) (t : ℕ) : held rate capacity buckets key t ≤ held R capacity buckets key t :=
  Bucket.tokensAt_mono_rate h t

theorem sound_new (rate : ℚ) (burst now : ℕ) : (new rate burst).Sound now :=
  ⟨.nil, nofun, nofun⟩

theorem Sound.mono (h : l.Sound now) (ht : now ≤ t) : l.Sound t :=
  ⟨h.sorted, h.tokens, fun hb => (h.refilled hb).trans ht⟩

theorem Sound.level_nonneg (h : l.Sound now) (hR : 0 ≤ R) (key : String) (t : ℕ) :
    0 ≤ l.level R key t := by
  have hcapacity : (0 : ℚ) ≤ l.burst := Nat.cast_nonneg _
  cases hb : Assoc.find? key l.buckets with
  | none => rw [level, held_of_none hR hb]; exact hcapacity
  | some b => rw [level, held_of_some hb]; exact Bucket.tokensAt_nonneg hR hcapacity (h.tokens hb) t

/-- Between two times a level rises by at most what flows in. -/
theorem Sound.level_later (h : l.Sound now) (hR : 0 ≤ R) (key : String) (ht : now ≤ t) :
    l.level R key t ≤ l.level R key now + seconds (t - now) * R := by
  cases hb : Assoc.find? key l.buckets with
  | none =>
    rw [level, level, held_of_none hR hb, held_of_none hR hb]
    exact le_add_of_nonneg_right (mul_nonneg (seconds_nonneg _) hR)
  | some b =>
    rw [level, level, held_of_some hb, held_of_some hb]
    exact Bucket.tokensAt_later hR (h.refilled hb) ht

/-! ## One check -/

/-- The bucket that a check takes from. -/
def bucketFor (l : Limiter ℚ) (key : String) (now : ℕ) : Bucket ℚ :=
  (Assoc.find? key (l.kept now)).getD (.full l.burst now)

theorem check_eq (l : Limiter ℚ) (key : String) (now : ℕ) :
    l.check key now =
      (((l.bucketFor key now).take l.rate l.burst now).1,
        { l with
          buckets := Assoc.insert key ((l.bucketFor key now).take l.rate l.burst now).2 (l.kept now)
          checks := l.checks + 1 }) :=
  rfl

theorem find?_check (l : Limiter ℚ) (key other : String) (now : ℕ) :
    Assoc.find? other (l.check key now).2.buckets =
      if other = key then some ((l.bucketFor key now).take l.rate l.burst now).2
      else Assoc.find? other (l.kept now) :=
  Assoc.find?_insert key other _ _

theorem sorted_kept (h : l.buckets.Sorted) (now : ℕ) : (l.kept now).Sorted := by
  unfold kept
  split
  · exact h.filter _
  · exact h

theorem sorted_check (h : l.buckets.Sorted) (key : String) (now : ℕ) :
    (l.check key now).2.buckets.Sorted :=
  Assoc.sorted_insert (sorted_kept h now)

/-- A check looks at the buckets that are not stale, or at all of them. -/
theorem find?_kept (h : l.buckets.Sorted) (key : String) (now : ℕ) :
    Assoc.find? key (l.kept now) =
      if l.isCleanup then (Assoc.find? key l.buckets).filter (fun b => !b.isStale now)
      else Assoc.find? key l.buckets := by
  unfold kept
  split
  · exact Assoc.find?_filter h.nodup_keys (fun b => !b.isStale now) key
  · rfl

theorem of_find?_kept (h : l.buckets.Sorted) {b : Bucket ℚ}
    (hb : Assoc.find? key (l.kept now) = some b) : Assoc.find? key l.buckets = some b := by
  rw [find?_kept h] at hb
  split at hb
  · exact (Option.filter_eq_some_iff.1 hb).1
  · exact hb

/-- The dropping of stale buckets changes no level, if a bucket refills before it is dropped. -/
theorem Sound.held_kept {s : ℕ} (h : l.Sound s) (hR : 0 ≤ R)
    (hidle : (l.burst : ℚ) ≤ seconds Bucket.staleAfter * R) (key : String) (ht : now ≤ t) :
    held R l.burst (l.kept now) key t = l.level R key t := by
  rw [level, held, find?_kept h.sorted, held]
  split
  · cases hb : Assoc.find? key l.buckets with
    | none => rfl
    | some b =>
      rw [Option.filter_some]
      split
      · rfl
      · rename_i hstale
        have hfull := Bucket.tokensAt_of_isStale hR hidle (h.tokens hb) (by simpa using hstale) ht
        exact (Bucket.tokensAt_full hR t t).trans hfull.symm
  · rfl

/-- Of the checked key there is what a check took and what is left of it. -/
theorem level_check_self (R : ℚ) (l : Limiter ℚ) (key : String) (now : ℕ) :
    (l.check key now).2.level R key now + (if (l.check key now).1.isOk then 1 else 0) =
      held l.rate l.burst (l.kept now) key now := by
  let left := ((l.bucketFor key now).take l.rate l.burst now).2
  have htaken := Bucket.tokens_take l.rate l.burst (l.bucketFor key now) now
  have hleft : left.tokens ≤ l.burst := by
    have hle := Bucket.tokensAt_le l.rate l.burst (l.bucketFor key now) now
    have hone : (0 : ℚ) ≤ if ((l.bucketFor key now).take l.rate l.burst now).1.isOk then 1 else 0 := by
      split <;> norm_num
    show ((l.bucketFor key now).take l.rate l.burst now).2.tokens ≤ _
    linarith
  have hfind : Assoc.find? key (l.check key now).2.buckets = some left := by
    rw [find?_check, if_pos rfl]
  have hlevel : (l.check key now).2.level R key now = left.tokens := by
    have hnow : left.refilled = now := Bucket.refilled_take ..
    rw [level, held_of_some hfind]
    conv_lhs => rw [← hnow]
    exact Bucket.tokensAt_self hleft
  rw [hlevel]
  exact htaken

/-- A check of one key leaves the level of every other. -/
theorem Sound.level_check_of_ne {s : ℕ} (h : l.Sound s) (hR : 0 ≤ R)
    (hidle : (l.burst : ℚ) ≤ seconds Bucket.staleAfter * R) (hne : other ≠ key) (ht : now ≤ t) :
    (l.check key now).2.level R other t = l.level R other t := by
  rw [← h.held_kept hR hidle other ht, level, held, find?_check, if_neg hne]
  rfl

theorem Sound.check (h : l.Sound t) (hr : 0 ≤ l.rate) (key : String) (ht : now ≤ t) :
    (l.check key now).2.Sound t := by
  refine ⟨sorted_check h.sorted key now, fun {k b} hb => ?_, fun {k b} hb => ?_⟩
  · rw [find?_check] at hb
    split at hb
    · cases hb
      refine Bucket.tokens_take_nonneg (Bucket.tokensAt_nonneg hr (Nat.cast_nonneg _) ?_ now)
      unfold bucketFor
      cases hb : Assoc.find? key (l.kept now) with
      | none => exact Nat.cast_nonneg _
      | some b => exact h.tokens (of_find?_kept h.sorted hb)
    · exact h.tokens (of_find?_kept h.sorted hb)
  · rw [find?_check] at hb
    split at hb
    · cases hb
      rw [Bucket.refilled_take]
      exact ht
    · exact h.refilled (of_find?_kept h.sorted hb)

theorem Sound.after {run : List Check} (h : l.Sound t) (hr : 0 ≤ l.rate)
    (hrun : ∀ c ∈ run, c.now ≤ t) : (l.after run).Sound t := by
  induction run generalizing l with
  | nil => exact h
  | cons c run ih =>
    exact ih (h.check hr c.key (hrun c (.head _))) hr fun d hd => hrun d (.tail _ hd)

end Limiter

end HttpService
