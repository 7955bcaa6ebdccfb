import HttpService.Validation.Rule

/-!
# Lists of rules

A field tries its rules in the order in which they are listed, and the first that its value fails ends the
trial. `applyRules` is this loop as it adds to the failures of the fields before. `verdict_of_rule_list`: it
adds one failure or none, and which of the two depends on the set of the listed rules alone. Their order
decides only which rule a failure names.
-/

set_option autoImplicit false

namespace HttpService.Validation

/-! ## The loop -/

/-- A value fails a rule: the rule is known, its parameter can be used, and null answers to it. -/
def Fails (text : String) (v : Json) : Prop :=
  (Rule.parse text).check? v = some false ∧ (v.isNull = true → (Rule.parse text).name = "required")

/-- A value that says nothing is excused where it may be left out. -/
def Excused (rules : List String) (v : Json) : Prop :=
  hasValue v = false ∧ "omitempty" ∈ rules

instance (rules : List String) (v : Json) : Decidable (Excused rules v) :=
  inferInstanceAs (Decidable (_ ∧ _))

/-- Tries rules in order, with the failures so far. What has no name, `omitempty`, and of null all but
`required` is passed over, as is a rule that is unknown or has no usable parameter. -/
def tryRules (field : String) (v : Json) : List String → List RuleFailure → List RuleFailure
  | [], errors => errors
  | text :: rest, errors =>
    let r := Rule.parse text
    if r.name = "" ∨ r.name = "omitempty" then tryRules field v rest errors
    else if v.isNull = true ∧ r.name ≠ "required" then tryRules field v rest errors
    else
      match r.check? v with
      | none => tryRules field v rest errors
      | some true => tryRules field v rest errors
      | some false => errors ++ [⟨field, r.name, r.param, Kind.of v⟩]

/-- Adds what the rules of a field have against its value. -/
def applyRules (field : String) (rules : List String) (v : Json) (errors : List RuleFailure) :
    List RuleFailure :=
  if Excused rules v then errors else tryRules field v rules errors

section
variable {field : String} {rules : List String} {v : Json}

theorem fails_iff {text : String} : (Rule.parse text).fails v = true ↔ Fails text v := by
  unfold Fails
  generalize Rule.parse text = r
  have hknown : r.check? v = some false → r.name ≠ "" ∧ r.name ≠ "omitempty" := by
    intro h
    constructor <;>
    · intro hname
      simp [Rule.check?, hname] at h
  unfold Rule.fails
  simp only [Bool.and_eq_true, bne_iff_ne, beq_iff_eq, Bool.not_eq_true', Bool.and_eq_false_iff,
    bne_eq_false_iff_eq]
  constructor
  · rintro ⟨⟨_, hnull⟩, hcheck⟩
    exact ⟨hcheck, fun hn => hnull.resolve_left (by simp [hn])⟩
  · rintro ⟨hcheck, hnull⟩
    refine ⟨⟨hknown hcheck, ?_⟩, hcheck⟩
    cases hn : v.isNull with
    | true => exact .inr (hnull hn)
    | false => exact .inl rfl

/-- The loop adds the first rule that fails, and ends there. -/
theorem tryRules_eq (errors : List RuleFailure) :
    tryRules field v rules errors =
      errors ++ (((rules.map Rule.parse).find? (·.fails v)).map fun r =>
        ⟨field, r.name, r.param, Kind.of v⟩).toList := by
  induction rules with
  | nil => exact (List.append_nil _).symm
  | cons text rest ih =>
    rw [tryRules, List.map_cons, List.find?_cons]
    by_cases hfails : (Rule.parse text).fails v = true
    · obtain ⟨hcheck, hnull⟩ := fails_iff.1 hfails
      unfold Rule.fails at hfails
      simp only [Bool.and_eq_true, bne_iff_ne] at hfails
      obtain ⟨⟨⟨hname, homit⟩, _⟩, _⟩ := hfails
      have hnot : ¬ (v.isNull = true ∧ (Rule.parse text).name ≠ "required") :=
        fun h => h.2 (hnull h.1)
      simp only [hname, homit, or_self, if_false, hnot, hcheck, fails_iff.2 ⟨hcheck, hnull⟩]
      rfl
    · simp only [Bool.not_eq_true] at hfails
      simp only [hfails]
      split
      · exact ih
      · split
        · exact ih
        · next hnull =>
          split
          · exact ih
          · exact ih
          · next hcheck =>
            -- A rule that does not pass fails, as nothing else passes over it.
            refine absurd (fails_iff.2 ⟨hcheck, fun hn => ?_⟩) (Bool.eq_false_iff.1 hfails)
            exact Classical.byContradiction fun hne => hnull ⟨hn, hne⟩

theorem excused_iff : (!hasValue v && rules.contains "omitempty") = true ↔ Excused rules v := by
  rw [Bool.and_eq_true, Bool.not_eq_true', List.contains_iff_mem, Excused]

/-- The loop adds what `firstFailure` finds. -/
theorem applyRules_eq (errors : List RuleFailure) :
    applyRules field rules v errors = errors ++ (firstFailure field rules v).toList := by
  unfold applyRules firstFailure
  by_cases hexcused : Excused rules v
  · rw [if_pos hexcused, if_pos (excused_iff.2 hexcused)]
    exact (List.append_nil _).symm
  · rw [if_neg hexcused, if_neg fun h => hexcused (excused_iff.1 h)]
    exact tryRules_eq errors

/-! ## What the loop finds -/

/-- A failure is found where a rule fails and the value is not excused, and it is that of the first rule
that fails. -/
theorem firstFailure_eq_some_iff {e : RuleFailure} :
    firstFailure field rules v = some e ↔
      ¬ Excused rules v ∧ ∃ before text after, rules = before ++ text :: after ∧
        (∀ t ∈ before, ¬ Fails t v) ∧ Fails text v ∧
        e = ⟨field, (Rule.parse text).name, (Rule.parse text).param, Kind.of v⟩ := by
  unfold firstFailure
  by_cases hexcused : Excused rules v
  · rw [if_pos (excused_iff.2 hexcused)]
    exact ⟨nofun, fun h => absurd hexcused h.1⟩
  · rw [if_neg fun h => hexcused (excused_iff.1 h)]
    simp only [List.find?_map, Option.map_map, Option.map_eq_some_iff,
      List.find?_eq_some_iff_append, Function.comp_apply, fails_iff, hexcused, not_false_eq_true,
      true_and]
    constructor
    · rintro ⟨text, ⟨hfails, before, after, rfl, hbefore⟩, rfl⟩
      refine ⟨before, text, after, rfl, fun t ht hf => ?_, hfails, rfl⟩
      exact absurd (fails_iff.2 hf) (by simpa using hbefore t ht)
    · rintro ⟨before, text, after, rfl, hbefore, hfails, rfl⟩
      refine ⟨text, ⟨hfails, before, after, rfl, fun t ht => ?_⟩, rfl⟩
      simpa using fun hf => hbefore t ht (fails_iff.1 hf)

theorem firstFailure_isSome_iff_fails :
    (firstFailure field rules v).isSome = true ↔ ¬ Excused rules v ∧ ∃ t ∈ rules, Fails t v := by
  unfold firstFailure
  by_cases hexcused : Excused rules v
  · rw [if_pos (excused_iff.2 hexcused)]
    exact ⟨nofun, fun h => absurd hexcused h.1⟩
  · rw [if_neg fun h => hexcused (excused_iff.1 h), Option.isSome_map, List.find?_isSome]
    simp only [List.mem_map, hexcused, not_false_eq_true, true_and]
    constructor
    · rintro ⟨_, ⟨t, ht, rfl⟩, hfails⟩
      exact ⟨t, ht, fails_iff.1 hfails⟩
    · rintro ⟨t, ht, hfails⟩
      exact ⟨Rule.parse t, ⟨t, ht, rfl⟩, fails_iff.2 hfails⟩

end

/-- **The order of rules does not decide acceptance.** Whatever the value and the rules of its field:

* applying the rules adds one failure or none to those of the fields before;
* one is added where the value is not excused by `omitempty` and fails a rule, and it names the first
  listed rule that the value fails;
* lists with the same rules, in any order and each as often as one likes, accept the same values;
* null fails no rule but `required`;
* a further rule, wherever it is listed, refuses what was refused before, unless it is `omitempty`. -/
theorem verdict_of_rule_list (field : String) (v : Json) :
    (∀ rules errors,
      applyRules field rules v errors = errors ++ (firstFailure field rules v).toList) ∧
    (∀ rules e, firstFailure field rules v = some e ↔
      ¬ Excused rules v ∧ ∃ before text after, rules = before ++ text :: after ∧
        (∀ t ∈ before, ¬ Fails t v) ∧ Fails text v ∧
        e = ⟨field, (Rule.parse text).name, (Rule.parse text).param, Kind.of v⟩) ∧
    (∀ rules rules', (∀ t, t ∈ rules ↔ t ∈ rules') →
      (firstFailure field rules v).isSome = (firstFailure field rules' v).isSome) ∧
    (∀ rules e, v.isNull = true → firstFailure field rules v = some e → e.rule = "required") ∧
    ∀ before after new, new ≠ "omitempty" →
      (firstFailure field (before ++ after) v).isSome = true →
        (firstFailure field (before ++ new :: after) v).isSome = true := by
  refine ⟨fun rules errors => applyRules_eq errors, fun rules e => firstFailure_eq_some_iff,
    fun rules rules' hsame => ?_, fun rules e hnull he => ?_, fun before after new hnew h => ?_⟩
  · rw [Bool.eq_iff_iff, firstFailure_isSome_iff_fails, firstFailure_isSome_iff_fails]
    simp only [Excused, hsame]
  · obtain ⟨_, _, text, _, _, _, hfails, rfl⟩ := firstFailure_eq_some_iff.1 he
    exact hfails.2 hnull
  · rw [firstFailure_isSome_iff_fails] at h ⊢
    obtain ⟨hgiven, t, ht, hfails⟩ := h
    refine ⟨fun hexcused => hgiven ⟨hexcused.1, ?_⟩, t, ?_, hfails⟩
    · have hmem := hexcused.2
      simp only [List.mem_append, List.mem_cons, Ne.symm hnew, false_or] at hmem
      exact List.mem_append.2 hmem
    · rcases List.mem_append.1 ht with ht | ht
      · exact List.mem_append_left _ ht
      · exact List.mem_append_right _ (.tail _ ht)

/-- The same rules in another order and repeated, behind an unknown one: the text is refused by both lists,
for another rule. -/
theorem verdict_of_shuffled_rules :
    let rules := ["uuid5", "alpha", "numeric", "email"]
    let shuffled := ["email", "numeric", "uuid5", "email", "alpha"]
    (∀ t, t ∈ rules ↔ t ∈ shuffled) ∧
      firstFailure "code" rules (.str "7") = some ⟨"code", "alpha", "", .string⟩ ∧
      firstFailure "code" shuffled (.str "7") = some ⟨"code", "email", "", .string⟩ ∧
      (firstFailure "code" rules (.str "7")).isSome =
        (firstFailure "code" shuffled (.str "7")).isSome := by
  intro rules shuffled
  have hsame : ∀ t, t ∈ rules ↔ t ∈ shuffled := by
    intro t
    simp only [rules, shuffled, List.mem_cons, List.not_mem_nil, or_false]
    grind
  obtain ⟨_, _, hset, _⟩ := verdict_of_rule_list "code" (.str "7")
  exact ⟨hsame, by decide +kernel, by decide +kernel, hset rules shuffled hsame⟩

end HttpService.Validation
