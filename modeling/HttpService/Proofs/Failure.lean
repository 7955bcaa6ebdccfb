import HttpService.Failure

/-!
# Chains of causes

A failure stands at the head of a chain of reports and foreign errors of any length.
`code_and_text_of_chain` says what the chain amounts to: its code is the first one that a link carries
itself, however many layers are put around it, and its text is made of the reports before the first
foreign error.
-/

set_option autoImplicit false

namespace HttpService

namespace Cause

/-! ## Codes -/

theorem codeOf_eq {chain : List Cause} (h : chain ≠ []) :
    codeOf chain = (chain.findSome? ownCode?).getD .internalError := by
  cases chain with
  | nil => exact absurd rfl h
  | cons link rest => rfl

/-- Links that carry no code do not count. -/
theorem codeOf_append {links chain : List Cause} (hlinks : ∀ l ∈ links, l.ownCode? = none)
    (h : chain ≠ []) : codeOf (links ++ chain) = codeOf chain := by
  have hnone : links.findSome? ownCode? = none := List.findSome?_eq_none_iff.2 hlinks
  rw [codeOf_eq (List.append_ne_nil_of_right_ne_nil links h), codeOf_eq h, List.findSome?_append,
    hnone, Option.none_or]

/-- The code of a chain is the first own code along it, or the internal error. -/
theorem codeOf_cases {chain : List Cause} (h : chain ≠ []) :
    (∃ before link after, chain = before ++ link :: after ∧
      (∀ l ∈ before, l.ownCode? = none) ∧ link.ownCode? = some (codeOf chain)) ∨
    (∀ l ∈ chain, l.ownCode? = none) ∧ codeOf chain = .internalError := by
  rw [codeOf_eq h]
  cases hfind : chain.findSome? ownCode? with
  | none => exact .inr ⟨List.findSome?_eq_none_iff.1 hfind, rfl⟩
  | some code =>
    obtain ⟨before, link, after, rfl, hlink, hbefore⟩ := List.findSome?_eq_some_iff.1 hfind
    exact .inl ⟨before, link, after, rfl, hbefore, hlink⟩

/-! ## Layers -/

/-- A chain with a layer around it for each message, the first one outermost. -/
def wrapped (messages : List String) (chain : List Cause) : List Cause :=
  messages.foldr (fun message chain => (Failure.wrap chain message).chain) chain

theorem wrapped_eq (messages : List String) (chain : List Cause) :
    wrapped messages chain =
      messages.map (fun message => .report ⟨none, message, none, none⟩) ++ chain := by
  induction messages with
  | nil => rfl
  | cons message messages ih => exact congrArg (List.cons _) ih

theorem codeOf_wrapped (messages : List String) {chain : List Cause} (h : chain ≠ []) :
    codeOf (wrapped messages chain) = codeOf chain := by
  rw [wrapped_eq]
  refine codeOf_append (fun l hl => ?_) h
  obtain ⟨message, _, rfl⟩ := List.mem_map.1 hl
  rfl

/-! ## Texts -/

theorem display_report (r : Report) {rest : List Cause} (h : rest ≠ []) :
    display (.report r :: rest) =
      if r.message = "" then display rest else r.message ++ ": " ++ display rest := by
  cases rest with
  | nil => exact absurd rfl h
  | cons link rest => rfl

/-- The messages of reports that have a cause: an empty one is left out. -/
def shown (reports : List Report) : List String :=
  (reports.map (·.message)).filter (· ≠ "")

/-- Reports put their messages before the text of their cause. -/
theorem display_append (reports : List Report) {rest : List Cause} (h : rest ≠ []) :
    display (reports.map .report ++ rest) = ": ".intercalate (shown reports ++ [display rest]) := by
  induction reports with
  | nil => exact String.intercalate_singleton.symm
  | cons r reports ih =>
    rw [List.map_cons, List.cons_append,
      display_report r (List.append_ne_nil_of_right_ne_nil _ h), ih]
    by_cases hm : r.message = ""
    · simp [shown, hm]
    · have hshown : shown (r :: reports) = r.message :: shown reports := by simp [shown, hm]
      rw [if_neg hm, hshown, List.cons_append,
        String.intercalate_cons_of_ne_nil (List.append_ne_nil_of_right_ne_nil _ (by simp))]

/-- A chain consists of reports up to a last one, or of reports up to a foreign error. -/
theorem reports_then {chain : List Cause} (h : chain ≠ []) :
    (∃ (reports : List Report) (last : Report), chain = reports.map .report ++ [.report last]) ∨
    ∃ (reports : List Report) (message : String) (rest : List Cause),
      chain = reports.map .report ++ .foreign message :: rest := by
  induction chain with
  | nil => exact absurd rfl h
  | cons link rest ih =>
    cases link with
    | foreign message => exact .inr ⟨[], message, rest, rfl⟩
    | report r =>
      cases rest with
      | nil => exact .inl ⟨[], r, rfl⟩
      | cons next rest =>
        rcases ih (List.cons_ne_nil next rest) with
          ⟨reports, last, he⟩ | ⟨reports, message, rest', he⟩
        · exact .inl ⟨r :: reports, last, by rw [he]; rfl⟩
        · exact .inr ⟨r :: reports, message, rest', by rw [he]; rfl⟩

/-! ## Chains of failures -/

/-- A failure asks its causes where it has no code of its own, as the walk along its chain does. -/
theorem code_eq_codeOf (f : Failure) : f.code = codeOf f.chain := by
  obtain ⟨⟨code, message, detail, status⟩, causes⟩ := f
  cases code with
  | some c => rfl
  | none =>
    cases causes with
    | nil => rfl
    | cons link rest => rfl

/-- **Codes and texts of chains.** The code of a failure is that of its chain, which is the first own code
met along it, or the internal error if no link has one. Layers put around a chain leave its code as it
is, a layer with a code of its own gives it that one, and no error at all is a success. The text of a
chain joins the messages of the reports before its last report, or before its first foreign error, with
the empty ones left out, and ends with the message of that last report or foreign error. -/
theorem code_and_text_of_chain {chain : List Cause} (h : chain ≠ []) :
    (∀ f : Failure, f.chain = chain → f.code = codeOf chain ∧ f.display = display chain) ∧
    ((∃ before link after, chain = before ++ link :: after ∧
        (∀ l ∈ before, l.ownCode? = none) ∧ link.ownCode? = some (codeOf chain)) ∨
      (∀ l ∈ chain, l.ownCode? = none) ∧ codeOf chain = .internalError) ∧
    (∀ message messages, (Failure.wrap (wrapped messages chain) message).code = codeOf chain) ∧
    (∀ code message, (Failure.wrapCode code chain message).code = code) ∧
    codeOf [] = .ok ∧
    ((∃ (reports : List Report) (last : Report), chain = reports.map .report ++ [.report last] ∧
        display chain =
          ": ".intercalate ((reports.map (·.message)).filter (· ≠ "") ++ [last.message])) ∨
      ∃ (reports : List Report) (message : String) (rest : List Cause),
        chain = reports.map .report ++ .foreign message :: rest ∧
        display chain = ": ".intercalate ((reports.map (·.message)).filter (· ≠ "") ++ [message])) := by
  refine ⟨?_, codeOf_cases h, fun message messages => ?_, fun code message => rfl, rfl, ?_⟩
  · rintro f rfl
    exact ⟨code_eq_codeOf f, rfl⟩
  · rw [code_eq_codeOf]
    exact codeOf_wrapped (message :: messages) h
  · rcases reports_then h with ⟨reports, last, rfl⟩ | ⟨reports, message, rest, rfl⟩
    · exact .inl ⟨reports, last, rfl, display_append reports (List.cons_ne_nil _ _)⟩
    · exact .inr ⟨reports, message, rest, rfl, display_append reports (List.cons_ne_nil _ _)⟩

/-- A foreign error ends the text of a chain, and the code is found behind it. -/
theorem code_behind_foreign_error :
    let chain : List Cause :=
      [.report ⟨none, "", none, none⟩, .report ⟨none, "loading order", none, none⟩,
        .foreign "row is gone", .report ⟨some .notFound, "no such row", none, none⟩]
    chain ≠ [] ∧ (Failure.wrap (wrapped ["handling", ""] chain) "request").code = .notFound ∧
      (Failure.wrapCode .forbidden chain "hidden").code = .forbidden ∧
      display chain = "loading order: row is gone" := by
  intro chain
  have hne : chain ≠ [] := List.cons_ne_nil _ _
  obtain ⟨_, _, hwrap, hcode, _⟩ := code_and_text_of_chain hne
  exact ⟨hne, hwrap "request" ["handling", ""], hcode .forbidden "hidden", rfl⟩

end Cause

end HttpService
