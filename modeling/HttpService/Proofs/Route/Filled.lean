import HttpService.Proofs.Route.Lookup
import HttpService.Proofs.Route.Path

/-!
# Paths filled into patterns

`Filled p values path`: the path is the pattern with a value in the place of each wild step. Where such a
path leads to the pattern, whatever else the matcher holds, the parameters have these values, each as it
stands in the path (`parameters_of_filled`).
-/

set_option autoImplicit false

namespace HttpService

/-- A path with a segment for each parameter of a pattern, and with what is left for a rest. -/
inductive Pattern.Filled : Pattern → List (List Char) → List Char → Prop
  | done : Filled [] [] []
  | literal {c : Char} {steps : Pattern} {values : List (List Char)} {path : List Char}
      (more : Filled steps values path) : Filled (.literal c :: steps) values (c :: path)
  | parameter {name value : List Char} {steps : Pattern} {values : List (List Char)} {path : List Char}
      (segment : Path.IsSegment value) (more : Filled steps values path) :
    Filled (.parameter name :: steps) (value :: values) (value ++ path)
  | rest {name value : List Char} (given : value ≠ []) : Filled [.rest name] [value] value

namespace Matcher

section
variable {β : Type} {p : Pattern} {values taken : List (List Char)} {path : List Char} {b : β}

/-- After a wild step the path ends or goes on with a slash. -/
theorem head_of_filled (hnext : p = [] ∨ p.head? = some (.literal '/')) (h : p.Filled values path) :
    path = [] ∨ path.head? = some '/' := by
  rcases hnext with rfl | hslash
  · cases h
    exact .inl rfl
  · cases h <;> cases hslash
    exact .inr rfl

theorem takeWhile_segment {cs : List Char} (hcs : '/' ∉ cs) (hpath : path = [] ∨ path.head? = some '/') :
    (cs ++ path).takeWhile (· ≠ '/') = cs ∧ (cs ++ path).dropWhile (· ≠ '/') = path := by
  have hall : ∀ c ∈ cs, decide (c ≠ '/') = true :=
    fun c hc => decide_eq_true fun he => hcs (he ▸ hc)
  rw [List.takeWhile_append_of_pos hall, List.dropWhile_append_of_pos hall]
  rcases hpath with rfl | hslash
  · simp
  · cases path with
    | nil => cases hslash
    | cons c path =>
      cases hslash
      simp

/-- A search along a pattern takes the values that were filled in. -/
theorem search_filled (hsep : p.Separated) (h : p.Filled values path) :
    search [(p, b)] taken path = some (b, taken ++ values) := by
  induction h generalizing taken with
  | done => simpa using search_end
  | literal _ ih =>
    rw [search_literal, if_pos rfl]
    exact ih hsep.2
  | @parameter name value steps values path segment more ih =>
    obtain ⟨hne, hslash⟩ := segment
    cases value with
    | nil => exact absurd rfl hne
    | cons c cs =>
      rw [List.mem_cons, not_or] at hslash
      obtain ⟨htake, hdrop⟩ := takeWhile_segment hslash.2 (head_of_filled (hsep.1 rfl) more)
      rw [List.cons_append, search_parameter, if_neg (Ne.symm hslash.1), htake, hdrop, ih hsep.2,
        List.append_assoc]
      rfl
  | @rest name value given =>
    cases value with
    | nil => exact absurd rfl given
    | cons c cs => exact search_rest name

/-- A search goes along one of its rows. -/
theorem exists_row_of_search {rows : List (Pattern × β)} (h : search rows taken path = some (b, values)) :
    ∃ p, (p, b) ∈ rows ∧ search [(p, b)] taken path = some (b, values) := by
  -- The search goes on with what is left of the rows behind a step; the step is put back in front.
  fun_induction search rows taken path with
  | case1 => cases h
  | case2 rows taken hne =>
    obtain ⟨⟨p, b'⟩, hfind, hrow⟩ := Option.map_eq_some_iff.1 h
    cases hrow
    have hend : p.isEmpty = true := List.find?_some (p := fun row : Pattern × β => row.1.isEmpty) hfind
    exact ⟨p, List.mem_of_find?_eq_some hfind, List.isEmpty_iff.1 hend ▸ search_end⟩
  | case3 rows taken hne c cs found hliteral ih =>
    obtain ⟨p, hrow, hsearch⟩ := ih (hliteral.trans h)
    obtain ⟨step, hstep, hmem⟩ := exists_of_mem_follow hrow
    obtain rfl := of_decide_eq_true hstep
    exact ⟨_, hmem, by rw [search_literal, if_pos rfl, hsearch]⟩
  | case4 rows taken hne c cs hliteral segment viaParameter found hparameter _ ih =>
    have hsearch := hparameter.trans h
    unfold viaParameter at hsearch
    split at hsearch
    · cases hsearch
    · rename_i hc
      obtain ⟨p, hrow, hsearch⟩ := ih hsearch
      obtain ⟨step, hstep, hmem⟩ := exists_of_mem_follow hrow
      cases step with
      | parameter name =>
        refine ⟨_, hmem, ?_⟩
        rw [search_parameter, if_neg hc, ← drop_takeWhile]
        exact hsearch
      | literal => cases hstep
      | rest => cases hstep
  | case5 rows taken hne c cs hliteral segment viaParameter hparameter =>
    obtain ⟨⟨p, b'⟩, hhead, hrow⟩ := Option.map_eq_some_iff.1 h
    cases hrow
    obtain ⟨step, hstep, hmem⟩ := exists_of_mem_follow (List.mem_of_mem_head? hhead)
    cases step with
    | rest name => exact ⟨_, hmem, search_rest name⟩
    | literal => cases hstep
    | parameter => cases hstep

end

/-- The parameters of a path that leads to a pattern are the texts that were filled in. -/
theorem parameters_of_filled {α : Type} {m : Matcher α} {path : String} {p : Pattern}
    {ps : PathParameters} {values : List (List Char)} (h : m.select? path = some (p, ps))
    (hsep : p.Separated) (hfilled : p.Filled values path.toList) :
    ps = (names p).zip (values.map String.ofList) := by
  obtain ⟨⟨q, found⟩, hsearch, hq⟩ := Option.map_eq_some_iff.1 h
  cases hq
  obtain ⟨q, hrow, halong⟩ := exists_row_of_search hsearch
  obtain ⟨row, _, hsame⟩ := List.mem_map.1 hrow
  cases hsame
  cases halong.symm.trans (search_filled hsep hfilled)
  rfl

end Matcher

end HttpService
