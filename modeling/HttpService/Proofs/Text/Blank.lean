import HttpService.Text.Blank
import Mathlib.Data.List.TakeWhile
import Mathlib.Tactic.Common

/-!
# Blanks around a text

Trimming drops blanks at both ends (`exists_trimBy`), whichever stand there (`trimBy_append`), and
nothing of a text that neither starts nor ends with one (`trimBy_eq_self`). Digits are no blanks.
-/

set_option autoImplicit false

namespace HttpService.Text

section
variable {p : Char → Bool} {cs : List Char}

theorem dropWhile_eq_self (h : ∀ c ∈ cs.head?, p c = false) : cs.dropWhile p = cs := by
  cases cs with
  | nil => rfl
  | cons c cs => rw [List.dropWhile_cons_of_neg (by simp [h c rfl])]

theorem trimBy_eq_self (hhead : ∀ c ∈ cs.head?, p c = false)
    (hlast : ∀ c ∈ cs.getLast?, p c = false) : trimBy p cs = cs := by
  have hreverse : ∀ c ∈ cs.reverse.head?, p c = false := by rwa [List.head?_reverse]
  rw [trimBy, dropWhile_eq_self hhead, dropWhile_eq_self hreverse, List.reverse_reverse]

theorem exists_trimBy (p : Char → Bool) (cs : List Char) :
    ∃ before after, cs = before ++ trimBy p cs ++ after ∧ ∀ c ∈ before ++ after, p c = true := by
  obtain ⟨ds, hds⟩ : ∃ ds, (cs.dropWhile p).reverse = ds := ⟨_, rfl⟩
  refine ⟨cs.takeWhile p, (ds.takeWhile p).reverse, ?_, ?_⟩
  · have hend : trimBy p cs ++ (ds.takeWhile p).reverse = cs.dropWhile p := by
      rw [trimBy, hds, ← List.reverse_append, List.takeWhile_append_dropWhile, ← hds,
        List.reverse_reverse]
    rw [List.append_assoc, hend, List.takeWhile_append_dropWhile]
  · intro c hc
    rcases List.mem_append.1 hc with hc | hc
    · exact List.mem_takeWhile_imp hc
    · exact List.mem_takeWhile_imp (List.mem_reverse.1 hc)

theorem trimBy_append {before after : List Char} (h : ∀ c ∈ before ++ after, p c = true) :
    trimBy p (before ++ cs ++ after) = trimBy p cs := by
  have hbefore : ∀ c ∈ before, p c = true := fun c hc => h c (List.mem_append_left _ hc)
  have hafter : ∀ c ∈ after, p c = true := fun c hc => h c (List.mem_append_right _ hc)
  have hreverse : ∀ c ∈ after.reverse, p c = true := fun c hc => hafter c (List.mem_reverse.1 hc)
  rw [trimBy, trimBy, List.append_assoc, List.dropWhile_append_of_pos hbefore, List.dropWhile_append]
  split
  · rename_i hempty
    rw [List.isEmpty_iff.1 hempty, List.dropWhile_eq_nil_iff.2 hafter]
  · rw [List.reverse_append, List.dropWhile_append_of_pos hreverse]

theorem trimBy_trimBy (p : Char → Bool) (cs : List Char) : trimBy p (trimBy p cs) = trimBy p cs := by
  obtain ⟨before, after, hsplit, hedges⟩ := exists_trimBy p cs
  calc trimBy p (trimBy p cs) = trimBy p (before ++ trimBy p cs ++ after) := (trimBy_append hedges).symm
    _ = trimBy p cs := by rw [← hsplit]

end

theorem isBlank_of_isDigit {c : Char} (h : c.isDigit = true) : isBlank c = false := by
  simp only [Char.isDigit, Bool.and_eq_true, decide_eq_true_eq, UInt32.le_iff_toNat_le] at h
  have hlow : 48 ≤ c.toNat := h.1
  have hhigh : c.toNat ≤ 57 := h.2
  simp only [isBlank, Bool.or_eq_false_iff, Bool.and_eq_false_iff, decide_eq_false_iff_not,
    beq_eq_false_iff_ne]
  omega

/-- Trimming leaves a text without blanks. -/
theorem trim_eq_self {s : String} (h : ∀ c ∈ s.toList, isBlank c = false) : trim s = s := by
  have hhead : ∀ c ∈ s.toList.head?, isBlank c = false := fun c hc => h c (List.mem_of_mem_head? hc)
  have hlast : ∀ c ∈ s.toList.getLast?, isBlank c = false := fun c hc => h c (List.mem_of_getLast? hc)
  rw [trim, trimBy_eq_self hhead hlast, String.ofList_toList]

end HttpService.Text
