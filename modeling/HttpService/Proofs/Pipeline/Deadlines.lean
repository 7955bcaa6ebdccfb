import HttpService.Proofs.Metrics.Conservation

/-!
# Deadlines

A run is cut off by a deadline around it and by none other: a deadline inside is caught by the step that
set it. `Bounded.chain` says so of every chain around an endpoint, so that a run with no deadline around it
returns or panics.

A deadline that does not cut off a run does nothing to it. `Indifferent.chain`: without the deadline the
run is the same, but that the levels of the deadlines inside it are counted one less.
-/

set_option autoImplicit false

namespace HttpService

/-- Only a deadline around it cuts off `p`. -/
def Bounded (p : Step) : Prop :=
  ∀ ds s level, (p ds s).1 = .abandoned level → level < ds.length

namespace Bounded

variable {p q : Step}

theorem andThen (hp : Bounded p) (hq : Bounded q) : Bounded (p.andThen q) := by
  intro ds s level h
  have hs := hp ds s
  unfold Step.andThen at h
  rcases hrun : p ds s with ⟨_ | message | level', s'⟩ <;> rw [hrun] at h hs
  · exact hq ds s' level h
  · cases h
  · exact hs level h

theorem guarded (hp : Bounded p) : Bounded (Step.guarded p) := by
  intro ds s level h
  have hs := hp ds s
  unfold Step.guarded at h
  rcases hrun : p ds s with ⟨_ | message | level', s'⟩ <;> rw [hrun] at h hs
  · cases h
  · cases h
  · exact hs level h

/-- The deadline of the step itself is caught, so that only one around it is left. -/
theorem limited (limit : Duration) (hp : Bounded p) : Bounded (Step.limited limit p) := by
  intro ds s level h
  have hs := hp ((s.site.timer + limit.nanos) :: ds) s
  unfold Step.limited at h
  rcases hrun : p ((s.site.timer + limit.nanos) :: ds) s with ⟨_ | message | level', s'⟩ <;>
    rw [hrun] at h hs
  · cases h
  · cases h
  · dsimp only at h
    split at h <;> cases h
    have hlt := hs level rfl
    rw [List.length_cons] at hlt
    omega

theorem closing (returned stopped : State → State) (hp : Bounded p) :
    Bounded (p.closing returned stopped) := by
  intro ds s level h
  have hs := hp ds s
  unfold Step.closing at h
  rcases hrun : p ds s with ⟨_ | message | level', s'⟩ <;> rw [hrun] at h hs
  · cases h
  · cases h
  · exact hs level h

theorem layers : Step.Layers (fun _ => True) Bounded where
  skip _ _ _ h := by cases h
  update _ _ _ _ h := by cases h
  panic _ _ _ _ h := by cases h
  sleep nanos ds s := (Confined.sleep nanos ds s).2
  andThen := andThen
  quiet _ := trivial
  choose h ds s := h s ds s
  guarded := guarded
  limited limit := limited limit
  closing _ _ := closing _ _

theorem chain (ms : List Middleware) (e : Endpoint) : Bounded (Middleware.chain ms e.step) :=
  layers.chain (.inr fun _ => trivial) e

/-- Without a deadline around it a run is not cut off. -/
theorem not_abandoned (hp : Bounded p) (s : State) (level : Nat) : (p [] s).1 ≠ .abandoned level :=
  fun h => Nat.not_lt_zero level (hp [] s level h)

end Bounded

/-! ## Deadlines that do not pass -/

namespace Step

/-- The time `d` passes before `wake`, and no later than what passes first. -/
def Leads (wake d : Nat) (first : Option (Nat × Nat)) : Prop :=
  d < wake ∧ ∀ e level, first = some (e, level) → d ≤ e

theorem passed?_of_leads {wake d : Nat} {outer : List Nat} (h : Leads wake d (passed? wake outer)) :
    passed? wake (d :: outer) = some (d, outer.length) := by
  rw [passed?]
  cases hfirst : passed? wake outer with
  | none => exact if_pos h.1
  | some found => exact if_pos ⟨h.1, h.2 _ _ hfirst⟩

theorem passed?_of_not_leads {wake d : Nat} {outer : List Nat}
    (h : ¬ Leads wake d (passed? wake outer)) : passed? wake (d :: outer) = passed? wake outer := by
  rw [passed?]
  cases hfirst : passed? wake outer with
  | none =>
    refine if_neg fun hd => h ⟨hd, fun e level he => ?_⟩
    cases hfirst.symm.trans he
  | some found =>
    refine if_neg fun hd => h ⟨hd.1, fun e level he => ?_⟩
    cases hfirst.symm.trans he
    exact hd.2

/-- What passes first among deadlines, and what does once the one with `n` others around it is taken away:
the same, or something later where it was that one. -/
inductive Spared (n : Nat) : Option (Nat × Nat) → Option (Nat × Nat) → Prop
  | nothing : Spared n none none
  | other {e level : Nat} (ne : level ≠ n) :
      Spared n (some (e, level)) (some (e, if n < level then level - 1 else level))
  | own {e : Nat} {later : Option (Nat × Nat)} (le : ∀ e' level, later = some (e', level) → e ≤ e') :
      Spared n (some (e, n)) later

theorem Spared.leads {n wake d : Nat} {first later : Option (Nat × Nat)} (h : Spared n first later)
    (hd : Leads wake d first) : Leads wake d later := by
  refine ⟨hd.1, fun e' level' hlater => ?_⟩
  cases h with
  | nothing => cases hlater
  | other ne =>
    cases hlater
    exact hd.2 _ _ rfl
  | own le => exact Nat.le_trans (hd.2 _ _ rfl) (le _ _ hlater)

/-- One more deadline inside. -/
theorem Spared.cons {n wake d : Nat} {outer outer' : List Nat}
    (h : Spared n (passed? wake outer) (passed? wake outer'))
    (hlength : outer.length = outer'.length + 1) (hn : n ≤ outer'.length) :
    Spared n (passed? wake (d :: outer)) (passed? wake (d :: outer')) := by
  by_cases hd : Leads wake d (passed? wake outer)
  · rw [passed?_of_leads hd, passed?_of_leads (h.leads hd), hlength]
    have hne : outer'.length + 1 ≠ n := by omega
    have hinner := Spared.other (e := d) hne
    rwa [if_pos (by omega), Nat.add_sub_cancel] at hinner
  · rw [passed?_of_not_leads hd]
    by_cases hd' : Leads wake d (passed? wake outer')
    · rw [passed?_of_leads hd']
      generalize passed? wake outer = first at h hd
      generalize passed? wake outer' = later at h hd'
      cases h with
      | nothing => exact absurd ⟨hd'.1, nofun⟩ hd
      | other ne =>
        refine absurd ⟨hd'.1, fun e level he => ?_⟩ hd
        cases he
        exact hd'.2 _ _ rfl
      | @own e _ le =>
        -- Nothing but what was taken away passed before `d`.
        have hlt : e < d := by
          refine Nat.lt_of_not_le fun hle => hd ⟨hd'.1, fun e' level he => ?_⟩
          cases he
          exact hle
        refine .own fun e' level he => ?_
        cases he
        exact Nat.le_of_lt hlt
    · rwa [passed?_of_not_leads hd']

theorem spared_passed? (wake d : Nat) (inner outer : List Nat) :
    Spared outer.length (passed? wake (inner ++ d :: outer)) (passed? wake (inner ++ outer)) := by
  induction inner with
  | nil =>
    rw [List.nil_append, List.nil_append]
    by_cases hd : Leads wake d (passed? wake outer)
    · rw [passed?_of_leads hd]
      exact .own hd.2
    · rw [passed?_of_not_leads hd]
      cases houter : passed? wake outer with
      | none => exact .nothing
      | some found =>
        have hlt := Confined.level_lt_of_passed? houter
        have hkept := Spared.other (e := found.1) (Nat.ne_of_lt hlt)
        rwa [if_neg (by omega)] at hkept
  | cons d' inner ih =>
    refine ih.cons ?_ ?_ <;> simp only [List.length_append, List.length_cons] <;> omega

end Step

/-- The outcome once the deadline with `n` others around it is taken away. -/
def Outcome.without (n : Nat) : Outcome → Outcome
  | .abandoned level => .abandoned (if n < level then level - 1 else level)
  | o => o

/-- A deadline that does not cut off `p` does nothing to it. -/
def Indifferent (p : Step) : Prop :=
  ∀ (inner : List Nat) (d : Nat) (outer : List Nat) (s : State) ⦃o : Outcome⦄ ⦃s' : State⦄,
    p (inner ++ d :: outer) s = (o, s') → o ≠ .abandoned outer.length →
      p (inner ++ outer) s = (o.without outer.length, s')

namespace Indifferent

variable {p q : Step}

theorem update (f : State → State) : Indifferent (Step.update f) := by
  intro inner d outer s o s' h _
  cases h
  rfl

theorem andThen (hp : Indifferent p) (hq : Indifferent q) : Indifferent (p.andThen q) := by
  intro inner d outer s o s' h ho
  unfold Step.andThen at h ⊢
  rcases hrun : p (inner ++ d :: outer) s with ⟨_ | message | level, s₁⟩ <;> rw [hrun] at h
  · rw [hp inner d outer s hrun nofun]
    exact hq inner d outer s₁ h ho
  · cases h
    rw [hp inner d outer s hrun nofun]
    rfl
  · cases h
    rw [hp inner d outer s hrun ho]
    rfl

theorem sleep (nanos : Nat) : Indifferent (Step.sleep nanos) := by
  intro inner d outer s o s' h ho
  have hspared := Step.spared_passed? (s.site.timer + nanos) d inner outer
  unfold Step.sleep at h ⊢
  dsimp only at h ⊢
  generalize Step.passed? (s.site.timer + nanos) (inner ++ d :: outer) = first at h hspared
  generalize Step.passed? (s.site.timer + nanos) (inner ++ outer) = later at hspared
  cases hspared with
  | nothing =>
    cases h
    rfl
  | other ne =>
    cases h
    rfl
  | own le =>
    cases h
    exact absurd rfl ho

theorem guarded (hp : Indifferent p) : Indifferent (Step.guarded p) := by
  intro inner d outer s o s' h ho
  unfold Step.guarded at h ⊢
  rcases hrun : p (inner ++ d :: outer) s with ⟨_ | message | level, s₁⟩ <;> rw [hrun] at h
  · cases h
    rw [hp inner d outer s hrun nofun]
    rfl
  · cases h
    rw [hp inner d outer s hrun nofun]
    rfl
  · cases h
    rw [hp inner d outer s hrun ho]
    rfl

/-- The deadline of the step itself is one of those inside. -/
theorem limited (limit : Duration) (hp : Indifferent p) : Indifferent (Step.limited limit p) := by
  intro inner d outer s o s' h ho
  have hrest := hp ((s.site.timer + limit.nanos) :: inner) d outer s
  unfold Step.limited at h ⊢
  rw [← List.cons_append] at h ⊢
  rcases hrun : p ((s.site.timer + limit.nanos) :: inner ++ d :: outer) s with
    ⟨_ | message | level, s₁⟩ <;> rw [hrun] at h
  · cases h
    rw [hrest hrun nofun]
    rfl
  · cases h
    rw [hrest hrun nofun]
    rfl
  · have hlength : (inner ++ d :: outer).length = (inner ++ outer).length + 1 := by
      simp only [List.length_append, List.length_cons]
      omega
    have hinner : outer.length ≤ (inner ++ outer).length := by
      rw [List.length_append]
      omega
    by_cases hown : level = (inner ++ d :: outer).length
    · have hne : level ≠ outer.length := by omega
      rw [hrest hrun fun he => hne (Outcome.abandoned.inj he), Outcome.without,
        if_pos (by omega : outer.length < level)]
      dsimp only at h ⊢
      rw [if_pos hown] at h
      cases h
      rw [if_pos (by omega)]
      rfl
    · dsimp only at h
      rw [if_neg hown] at h
      cases h
      have hne : level ≠ outer.length := fun he => ho (he ▸ rfl)
      rw [hrest hrun ho, Outcome.without]
      dsimp only
      rw [if_neg]
      split <;> omega

theorem closing (returned stopped : State → State) (hp : Indifferent p) :
    Indifferent (p.closing returned stopped) := by
  intro inner d outer s o s' h ho
  unfold Step.closing at h ⊢
  rcases hrun : p (inner ++ d :: outer) s with ⟨_ | message | level, s₁⟩ <;> rw [hrun] at h
  · cases h
    rw [hp inner d outer s hrun nofun]
    rfl
  · cases h
    rw [hp inner d outer s hrun nofun]
    rfl
  · cases h
    rw [hp inner d outer s hrun ho]
    rfl

theorem layers : Step.Layers (fun _ => True) Indifferent where
  skip := update id
  update _ := update _
  panic message inner d outer s o s' h _ := by
    cases h
    rfl
  sleep := sleep
  andThen := andThen
  quiet _ := trivial
  choose h inner d outer s := h s inner d outer s
  guarded := guarded
  limited limit := limited limit
  closing _ _ := closing _ _

theorem chain (ms : List Middleware) (e : Endpoint) : Indifferent (Middleware.chain ms e.step) :=
  layers.chain (.inr fun _ => trivial) e

end Indifferent

end HttpService
