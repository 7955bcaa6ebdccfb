import HttpService.Proofs.Route.Table

/-!
# One pattern and its paths

A pattern that was read has a slash, or nothing, after each wild step (`separated_of_parse`). A path that
leads to it gives a value to each of its names and to no other (`param?_isSome_iff`), and the path with a
digit for each wild step leads to it (`find?_sample`).
-/

set_option autoImplicit false

namespace HttpService

namespace Pattern

/-- After each wild step stands a slash, or nothing. -/
def Separated : Pattern → Prop
  | [] => True
  | step :: steps =>
    (step.isWild = true → steps = [] ∨ steps.head? = some (.literal '/')) ∧ Separated steps

theorem readSteps_slash {b : Bool} {ms : List Mark} {p : Pattern}
    (h : readSteps (('/', b) :: ms) = .ok p) : p.head? = some (.literal '/') := by
  rw [readSteps] at h
  · obtain ⟨steps, _, rfl⟩ := map_eq_ok.1 h
    rfl
  · simp
  · simp

theorem readWild_after {ms after : List Mark} {step : PatternStep}
    (h : readWild ms = .ok (step, after)) : after = [] ∨ ∃ b rest, after = ('/', b) :: rest := by
  unfold readWild at h
  split at h
  · cases h
  · rename_i c _ ms'
    split at h
    · cases h
    · obtain ⟨⟨name, rest⟩, _, h⟩ := bind_eq_ok.1 h
      dsimp only at h
      split at h
      · cases h
      · cases rest with
        | nil =>
          cases h
          exact .inl rfl
        | cons mark rest =>
          obtain ⟨d, b⟩ := mark
          by_cases hd : d = '/'
          · subst hd
            cases h
            exact .inr ⟨b, rest, rfl⟩
          · simp [hd] at h
            cases h

theorem separated_of_readSteps {ms : List Mark} {p : Pattern} (h : readSteps ms = .ok p) :
    Separated p := by
  fun_induction readSteps ms generalizing p with
  | case1 =>
    cases h
    trivial
  | case2 => cases h
  | case3 rest e hwild => cases h
  | case4 rest step after hwild _ ih =>
    obtain ⟨steps, hsteps, rfl⟩ := map_eq_ok.1 h
    refine ⟨fun _ => ?_, ih hsteps⟩
    rcases readWild_after hwild with rfl | ⟨b, rest, rfl⟩
    · rw [readSteps] at hsteps
      exact .inl (Except.ok.inj hsteps).symm
    · exact .inr (readSteps_slash hsteps)
  | case5 c b rest _ _ ih =>
    obtain ⟨steps, hsteps, rfl⟩ := map_eq_ok.1 h
    exact ⟨nofun, ih hsteps⟩

theorem separated_of_parse {s : String} {p : Pattern} (h : parse s = .ok p) : Separated p :=
  separated_of_readSteps h

/-- The path in which each wild step takes a digit. -/
def sample (p : Pattern) : List Char :=
  p.map fun step =>
    match step with
    | .literal c => c
    | _ => '0'

end Pattern

namespace Matcher

section
variable {β : Type} {step : PatternStep} {steps p : Pattern} {b : β}

theorem follow_cons (f : PatternStep → Bool) :
    follow f [(step :: steps, b)] = if f step then [(steps, b)] else [] := by
  by_cases h : f step = true <;> simp [follow, h]

theorem names_cons :
    names (step :: steps) =
      (match step with
        | .literal _ => []
        | .parameter name | .rest name => [String.ofList name]) ++ names steps := by
  cases step <;> rfl

variable {taken : List (List Char)} {c : Char} {cs : List Char}

theorem search_nil (path : List Char) : search ([] : List (Pattern × β)) taken path = none := by
  rw [search.eq_def]
  rfl

theorem search_end : search [(([] : Pattern), b)] taken [] = some (b, taken) := by
  rw [search.eq_def]
  rfl

theorem search_stop : search [(step :: steps, b)] taken [] = none := by
  rw [search.eq_def]
  rfl

theorem search_done : search [(([] : Pattern), b)] taken (c :: cs) = none := by
  rw [search.eq_def]
  simp [follow, search_nil]

theorem search_literal (d : Char) :
    search [(.literal d :: steps, b)] taken (c :: cs) =
      if d = c then search [(steps, b)] taken cs else none := by
  rw [search.eq_def]
  by_cases hd : d = c
  · cases hsearch : search [(steps, b)] taken cs <;>
      simp [follow_cons, hd, hsearch, search_nil, isParameter, PatternStep.isWild, PatternStep.isRest]
  · simp [follow_cons, hd, search_nil, isParameter, PatternStep.isWild, PatternStep.isRest]

theorem drop_takeWhile (cs : List Char) (q : Char → Bool) :
    cs.drop (cs.takeWhile q).length = cs.dropWhile q := by
  induction cs with
  | nil => rfl
  | cons c cs ih => cases h : q c <;> simp [h, ih]

theorem search_parameter (name : List Char) :
    search [(.parameter name :: steps, b)] taken (c :: cs) =
      if c = '/' then none
      else search [(steps, b)] (taken ++ [c :: cs.takeWhile (· ≠ '/')]) (cs.dropWhile (· ≠ '/')) := by
  rw [search.eq_def]
  by_cases hc : c = '/'
  · simp [follow_cons, hc, search_nil, PatternStep.isRest]
  · simp [follow_cons, hc, search_nil, isParameter, PatternStep.isWild, PatternStep.isRest,
      drop_takeWhile]
    split <;> simp_all

theorem search_rest (name : List Char) :
    search [(.rest name :: steps, b)] taken (c :: cs) = some (b, taken ++ [c :: cs]) := by
  rw [search.eq_def]
  simp [follow_cons, search_nil, isParameter, PatternStep.isRest]

theorem eq_nil_of_restInside {name : List Char}
    (h : Pattern.restInside (.rest name :: steps) = false) : steps = [] := by
  simpa [Pattern.restInside, PatternStep.isRest] using (Bool.or_eq_false_iff.1 h).1

theorem restInside_tail (h : Pattern.restInside (step :: steps) = false) :
    Pattern.restInside steps = false :=
  (Bool.or_eq_false_iff.1 h).2

/-- A search along one pattern takes a value for each of its names. -/
theorem length_of_search {values : List (List Char)} {path : List Char} {b' : β}
    (hrest : p.restInside = false) (h : search [(p, b)] taken path = some (b', values)) :
    values.length = taken.length + (names p).length := by
  induction p generalizing taken path with
  | nil =>
    cases path with
    | nil =>
      rw [search_end] at h
      cases h
      rfl
    | cons c cs =>
      rw [search_done] at h
      cases h
  | cons step steps ih =>
    cases path with
    | nil =>
      rw [search_stop] at h
      cases h
    | cons c cs =>
      rw [names_cons]
      cases step with
      | literal d =>
        rw [search_literal] at h
        split at h
        · exact ih (restInside_tail hrest) h
        · cases h
      | parameter name =>
        rw [search_parameter] at h
        split at h
        · cases h
        · have := ih (restInside_tail hrest) h
          simp only [List.length_append, List.length_singleton] at this ⊢
          omega
      | rest name =>
        rw [search_rest] at h
        cases h
        rw [eq_nil_of_restInside hrest]
        simp [names]

theorem search_sample (hsep : Pattern.Separated p) (hrest : p.restInside = false) :
    search [(p, b)] taken p.sample = some (b, taken ++ List.replicate (names p).length ['0']) := by
  induction p generalizing taken with
  | nil => simpa [names, Pattern.sample] using search_end
  | cons step steps ih =>
    obtain ⟨hnext, htail⟩ := hsep
    have hsteps : search [(steps, b)] (taken ++ [['0']]) (Pattern.sample steps) =
        some (b, taken ++ [['0']] ++ List.replicate (names steps).length ['0']) :=
      ih htail (restInside_tail hrest)
    cases step with
    | literal c =>
      show search _ taken (c :: Pattern.sample steps) = _
      rw [search_literal, if_pos rfl]
      exact ih htail (restInside_tail hrest)
    | parameter name =>
      -- The digit is all of its segment, as the next step is a slash.
      have hsegment : (Pattern.sample steps).takeWhile (· ≠ '/') = [] ∧
          (Pattern.sample steps).dropWhile (· ≠ '/') = Pattern.sample steps := by
        rcases hnext rfl with rfl | hslash
        · exact ⟨rfl, rfl⟩
        · cases steps with
          | nil => cases hslash
          | cons next steps =>
            cases hslash
            exact ⟨rfl, rfl⟩
      show search _ taken ('0' :: Pattern.sample steps) = _
      rw [search_parameter, if_neg (by decide), hsegment.1, hsegment.2, hsteps, names_cons,
        List.append_assoc]
      rfl
    | rest name =>
      rw [eq_nil_of_restInside hrest]
      exact search_rest name

/-- The parameters that a path gives are those that the pattern names. -/
theorem lookup_isSome_iff {α : Type} {a a' : α} {path : String} {ps : PathParameters}
    (hrest : p.restInside = false) (h : Matcher.find? [(p, a)] path = some (a', ps)) (name : String) :
    (ps.lookup name).isSome = true ↔ name ∈ names p := by
  obtain ⟨⟨⟨q, a''⟩, values⟩, hsearch, hrow⟩ := Option.map_eq_some_iff.1 h
  cases hrow
  obtain ⟨r, hr⟩ := mem_of_search hsearch
  cases List.mem_singleton.1 hr
  have hlength : (names p).length = (values.map String.ofList).length := by
    rw [List.length_map, length_of_search hrest hsearch, List.length_nil, Nat.zero_add]
  have hnames : ((names p).zip (values.map String.ofList)).map (·.1) = names p :=
    List.map_fst_zip (Nat.le_of_eq hlength)
  rw [List.lookup_isSome_iff]
  conv => rhs; rw [← hnames, List.mem_map]
  exact exists_congr fun pair => and_congr_right fun _ => by rw [beq_iff_eq, eq_comm]

theorem find?_sample {α : Type} (hsep : Pattern.Separated p) (hrest : p.restInside = false) (a : α) :
    Matcher.find? [(p, a)] (String.ofList p.sample) =
      some (a, (names p).zip (List.replicate (names p).length "0")) := by
  unfold Matcher.find?
  rw [List.map_singleton, String.toList_ofList, search_sample hsep hrest, List.nil_append,
    Option.map_some]
  dsimp only
  rw [List.map_replicate]

theorem eq_of_lookup_sample {name raw : String}
    (h : ((names p).zip (List.replicate (names p).length "0")).lookup name = some raw) : raw = "0" := by
  obtain ⟨front, back, hsplit, _⟩ := List.lookup_eq_some_iff.1 h
  have hmem : (name, raw) ∈ (names p).zip (List.replicate (names p).length "0") := by simp [hsplit]
  exact List.eq_of_mem_replicate (List.of_mem_zip hmem).2

end

end Matcher

end HttpService
