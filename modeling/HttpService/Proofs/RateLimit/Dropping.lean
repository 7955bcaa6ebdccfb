import HttpService.Pipeline.Middleware
import HttpService.Proofs.RateLimit.Runs

/-!
# The dropping of buckets is not seen

The limiters of a site stand at positions; a middleware asks the one at its position, and so do its clones.
`limiter_as_own_buckets`: what a limiter of so many requests a minute answers to the checks of a key is what
one bucket would answer to these checks alone, if it were never dropped. So neither the dropping of buckets
nor the other keys can be seen, whatever the checks and whatever else the site is asked.

`StandsFor l key b now` is the invariant of such a run: from `now` on the bucket `b` and the limiter agree
on what there is for the key. Where the limiter holds no bucket of the key, `b` has to be full.
-/

set_option autoImplicit false

namespace HttpService

open Amount (seconds seconds_eq)

/-! ## Limiters of a site -/

/-- What a bucket answers to checks at times, one after another. -/
def Bucket.answers {α : Type} [Amount α] (rate capacity : α) :
    Bucket α → List ℕ → List (Except α Unit)
  | _, [] => []
  | b, now :: later =>
    (b.take rate capacity now).1 :: Bucket.answers rate capacity (b.take rate capacity now).2 later

namespace Limiter

/-- A check through a middleware with a position. -/
structure Ask extends Check where
  position : ℕ

section
variable {α : Type} [Amount α]

/-- Asks the limiter at a position; without one every check is admitted. -/
def ask (limiters : List (Limiter α)) (a : Ask) : Except α Unit × List (Limiter α) :=
  match limiters[a.position]? with
  | none => (.ok (), limiters)
  | some l => ((l.check a.key a.now).1, limiters.set a.position (l.check a.key a.now).2)

/-- What the limiters of a site answer, one after another. -/
def askAll (limiters : List (Limiter α)) : List Ask → List (Except α Unit)
  | [] => []
  | a :: asks => (ask limiters a).1 :: askAll (ask limiters a).2 asks

/-- Whether an ask is a check of a key at a position. -/
def Ask.IsOf (a : Ask) (position : ℕ) (key : String) : Prop :=
  a.position = position ∧ a.key = key

instance (a : Ask) (position : ℕ) (key : String) : Decidable (a.IsOf position key) :=
  inferInstanceAs (Decidable (_ ∧ _))

/-- The times at which a key is checked at a position. -/
def timesOf (asks : List Ask) (position : ℕ) (key : String) : List ℕ :=
  (asks.filter (·.IsOf position key)).map (·.now)

/-- What the checks of a key at a position are answered. -/
def answersOf (limiters : List (Limiter α)) (asks : List Ask) (position : ℕ) (key : String) :
    List (Except α Unit) :=
  ((asks.zip (askAll limiters asks)).filter (·.1.IsOf position key)).map (·.2)

end

/-- A middleware asks at the clock of the site. -/
theorem checkLimit_eq (position : ℕ) (key : String) (s : State) :
    let asked := ask s.site.limiters ⟨⟨key, s.site.clock⟩, position⟩
    Middleware.checkLimit position key s = (asked.1, { s with site.limiters := asked.2 }) := by
  cases h : s.site.limiters[position]? <;> simp [ask, Middleware.checkLimit, h]

/-! ## A bucket of one's own -/

/-- From a time on a bucket holds what the limiter holds for a key. -/
structure StandsFor (l : Limiter ℚ) (key : String) (b : Bucket ℚ) (now : ℕ) : Prop where
  sound : l.Sound now
  agree : ∀ t, now ≤ t → l.level l.rate key t = b.tokensAt l.rate l.burst t

section
variable {l : Limiter ℚ} {key other : String} {b : Bucket ℚ} {s now : ℕ}

theorem standsFor_new {rate : ℚ} (h0 : 0 ≤ rate) (burst now start : ℕ) (key : String) :
    (new rate burst).StandsFor key (.full burst start) now :=
  ⟨sound_new rate burst now, fun t _ =>
    (held_of_none h0 rfl).trans (Bucket.tokensAt_full h0 start t).symm⟩

/-- Checks of other keys pass a bucket by. -/
theorem StandsFor.check_other (h : l.StandsFor key b s) (h0 : 0 ≤ l.rate)
    (hidle : (l.burst : ℚ) ≤ seconds Bucket.staleAfter * l.rate) (hs : s ≤ now)
    (hne : key ≠ other) : (l.check other now).2.StandsFor key b now := by
  refine ⟨(h.sound.mono hs).check h0 other (le_refl now), fun t ht => ?_⟩
  show (l.check other now).2.level l.rate key t = _
  rw [h.sound.level_check_of_ne h0 hidle hne ht]
  exact h.agree t (hs.trans ht)

/-- A check of the key is answered alike, and leaves alike. -/
theorem StandsFor.check_self (h : l.StandsFor key b s) (h0 : 0 ≤ l.rate)
    (hidle : (l.burst : ℚ) ≤ seconds Bucket.staleAfter * l.rate) (hs : s ≤ now) :
    (l.check key now).1 = (b.take l.rate l.burst now).1 ∧
      (l.check key now).2.StandsFor key (b.take l.rate l.burst now).2 now := by
  have htokens : (l.bucketFor key now).tokensAt l.rate l.burst now =
      b.tokensAt l.rate l.burst now := by
    have hkept : (l.bucketFor key now).tokensAt l.rate l.burst now = l.level l.rate key now :=
      h.sound.held_kept h0 hidle key (le_refl now)
    rw [hkept, h.agree now hs]
  have htake : (l.bucketFor key now).take l.rate l.burst now = b.take l.rate l.burst now := by
    rw [Bucket.take_eq, Bucket.take_eq, htokens]
  refine ⟨congrArg Prod.fst htake, (h.sound.mono hs).check h0 key (le_refl now), fun t _ => ?_⟩
  have hfind : Assoc.find? key (l.check key now).2.buckets = some (b.take l.rate l.burst now).2 := by
    rw [find?_check, if_pos rfl, htake]
  exact held_of_some hfind

end

section
variable {limiters : List (Limiter ℚ)} {l : Limiter ℚ} {a : Ask} {asks : List Ask}
  {position : ℕ} {key : String}

theorem ask_of_position (h : limiters[position]? = some l) (ha : a.position = position) :
    (ask limiters a).1 = (l.check a.key a.now).1 ∧
      (ask limiters a).2[position]? = some (l.check a.key a.now).2 := by
  subst ha
  obtain ⟨hlt, _⟩ := List.getElem?_eq_some_iff.1 h
  have hask : ask limiters a =
      ((l.check a.key a.now).1, limiters.set a.position (l.check a.key a.now).2) := by
    rw [ask, h]
  rw [hask]
  exact ⟨rfl, List.getElem?_set_self hlt⟩

theorem ask_of_other (limiters : List (Limiter ℚ)) (ha : a.position ≠ position) :
    (ask limiters a).2[position]? = limiters[position]? := by
  unfold ask
  split
  · rfl
  · exact List.getElem?_set_ne ha

theorem answersOf_cons (limiters : List (Limiter ℚ)) (a : Ask) (asks : List Ask) (position : ℕ)
    (key : String) :
    answersOf limiters (a :: asks) position key =
      if a.IsOf position key then
        (ask limiters a).1 :: answersOf (ask limiters a).2 asks position key
      else answersOf (ask limiters a).2 asks position key := by
  rw [answersOf, askAll, List.zip_cons_cons, List.filter_cons]
  simp only [decide_eq_true_eq]
  split <;> rfl

theorem timesOf_cons (a : Ask) (asks : List Ask) (position : ℕ) (key : String) :
    timesOf (a :: asks) position key =
      if a.IsOf position key then a.now :: timesOf asks position key
      else timesOf asks position key := by
  rw [timesOf, List.filter_cons]
  simp only [decide_eq_true_eq]
  split <;> rfl

/-- In a run a bucket goes on standing for what the limiter holds. -/
theorem StandsFor.answersOf_eq {b : Bucket ℚ} {s : ℕ} (h : l.StandsFor key b s) (h0 : 0 ≤ l.rate)
    (hidle : (l.burst : ℚ) ≤ seconds Bucket.staleAfter * l.rate)
    (hl : limiters[position]? = some l) (hrun : asks.Pairwise fun a b => a.now ≤ b.now)
    (hfrom : ∀ a ∈ asks, s ≤ a.now) :
    answersOf limiters asks position key =
      b.answers l.rate l.burst (timesOf asks position key) := by
  induction asks generalizing limiters l b s with
  | nil => rfl
  | cons a asks ih =>
    obtain ⟨hfirst, hrest⟩ := List.pairwise_cons.1 hrun
    have hs : s ≤ a.now := hfrom a (.head _)
    rw [answersOf_cons, timesOf_cons]
    by_cases hp : a.position = position
    · obtain ⟨hanswer, hnext⟩ := ask_of_position hl hp
      by_cases hk : a.key = key
      · subst hk
        obtain ⟨hself, hstands⟩ := h.check_self h0 hidle hs
        have hof : a.IsOf position a.key := ⟨hp, rfl⟩
        rw [if_pos hof, if_pos hof, hanswer, hself, ih hstands h0 hidle hnext hrest hfirst]
        rfl
      · have hof : ¬ a.IsOf position key := fun ha => hk ha.2
        rw [if_neg hof, if_neg hof]
        have hstands := h.check_other h0 hidle hs (Ne.symm hk)
        have hanswers := ih hstands h0 hidle hnext hrest hfirst
        exact hanswers
    · have hof : ¬ a.IsOf position key := fun ha => hp ha.1
      rw [if_neg hof, if_neg hof]
      refine ih ?_ h0 hidle ((ask_of_other limiters hp).trans hl) hrest hfirst
      exact ⟨h.sound.mono hs, fun t ht => h.agree t (hs.trans ht)⟩

end

/-- At the rate of a minute a bucket refills ten times before it is dropped. -/
theorem perMinute_refills (requests : ℕ) :
    (requests : ℚ) ≤ seconds Bucket.staleAfter * Amount.perMinute requests := by
  have hrate : (Amount.perMinute requests : ℚ) = requests / (60 : ℕ) := rfl
  have hrequests : (0 : ℚ) ≤ requests := Nat.cast_nonneg _
  rw [hrate, seconds_eq, Bucket.staleAfter]
  norm_num
  linarith

/-- **Dropped buckets and other keys are not seen.** Take a site with a limiter of so many requests a minute
at some position, whatever its other limiters, and checks of any keys at any positions at times that do
not fall. What each key is answered at that position, waits included, is what a bucket of its own answers,
full at first, that is checked at these times only and never dropped. -/
theorem limiter_as_own_buckets (requests : ℕ) {limiters : List (Limiter ℚ)} {position : ℕ}
    (hl : limiters[position]? = some (.perMinute requests)) {asks : List Ask}
    (hrun : asks.Pairwise fun a b => a.now ≤ b.now) (key : String) (start : ℕ) :
    answersOf limiters asks position key =
      (Bucket.full (requests : ℚ) start).answers (Amount.perMinute requests : ℚ) (requests : ℚ)
        (timesOf asks position key) := by
  have h0 : (0 : ℚ) ≤ Amount.perMinute requests := div_nonneg (Nat.cast_nonneg _) (Nat.cast_nonneg _)
  exact (standsFor_new h0 requests 0 start key).answersOf_eq h0 (perMinute_refills requests) hl hrun
    fun _ _ => Nat.zero_le _

/-- The last check drops the bucket of the client, and is answered as if it had not. -/
theorem own_bucket_of_client :
    let limiters : List (Limiter ℚ) := [new 5 3, .perMinute 1]
    let asks (others : ℕ) : List Ask :=
      [⟨⟨"client", 0⟩, 1⟩, ⟨⟨"client", 0⟩, 0⟩, ⟨⟨"client", 0⟩, 1⟩] ++
        (List.replicate others ⟨⟨"other", 0⟩, 1⟩ ++ [⟨⟨"client", Bucket.staleAfter⟩, 1⟩])
    limiters[1]? = some (.perMinute 1) ∧ ((asks 998).Pairwise fun a b => a.now ≤ b.now) ∧
      answersOf limiters (asks 998) 1 "client" = [.ok (), .error 60, .ok ()] := by
  intro limiters asks
  have hrun (others : ℕ) : (asks others).Pairwise fun a b => a.now ≤ b.now := by
    simp [asks, List.pairwise_append, List.pairwise_replicate]
  have htimes (others : ℕ) : timesOf (asks others) 1 "client" = [0, 0, Bucket.staleAfter] := by
    simp [asks, timesOf, Ask.IsOf]
  refine ⟨rfl, hrun 998, ?_⟩
  rw [limiter_as_own_buckets 1 rfl (hrun 998) "client" 0, htimes 998]
  decide +kernel

end Limiter

end HttpService
