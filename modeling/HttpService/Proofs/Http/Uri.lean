import HttpService.Http.Uri

/-!
# Targets that are paths

A target that starts with a slash is a path, with or without a query after it.
-/

set_option autoImplicit false

namespace HttpService

namespace Text

variable {sep : Char} {front : List Char}

theorem cutChars_append (h : sep ∉ front) (back : List Char) :
    cutChars sep (front ++ sep :: back) = some (front, back) := by
  induction front with
  | nil => rw [List.nil_append, cutChars, if_pos rfl]
  | cons c front ih =>
    rw [List.mem_cons, not_or] at h
    rw [List.cons_append, cutChars, if_neg (Ne.symm h.1), ih h.2]
    rfl

theorem cutChars_of_not_mem (h : sep ∉ front) : cutChars sep front = none := by
  induction front with
  | nil => rfl
  | cons c front ih =>
    rw [List.mem_cons, not_or] at h
    rw [cutChars, if_neg (Ne.symm h.1), ih h.2]
    rfl

end Text

namespace Uri

/-- A character that can stand in the path of a target: neither a space nor a control character, nor one
that starts the query or the fragment, nor one that is always escaped. -/
def isPathChar (c : Char) : Bool :=
  0x20 < c.toNat && c.toNat != 0x7F && !(['#', '<', '>', '?', '\x60'].contains c)

theorem ne_of_isPathChar {c d : Char} (hc : isPathChar c = true) (hd : isPathChar d = false) : c ≠ d :=
  fun he => by rw [he, hd] at hc; cases hc

section
variable {cs : List Char} (hroot : cs.head? = some '/') (hcs : ∀ c ∈ cs, isPathChar c = true)
include hcs

theorem takeWhile_eq_self {tail : List Char} (htail : '#' ∉ tail) :
    (cs ++ tail).takeWhile (· ≠ '#') = cs ++ tail := by
  have hall : ∀ c ∈ cs ++ tail, decide (c ≠ '#') = true := by
    intro c hc
    rcases List.mem_append.1 hc with hc | hc
    · exact decide_eq_true (ne_of_isPathChar (hcs c hc) (by decide))
    · exact decide_eq_true fun he => htail (he ▸ hc)
  rw [← List.append_nil (cs ++ tail), List.takeWhile_append_of_pos hall]
  rfl

theorem not_mem_path : '?' ∉ cs := fun h => ne_of_isPathChar (hcs '?' h) (by decide) rfl

include hroot

theorem parse_ofPath (tail : List Char) :
    parse (String.ofList (cs ++ tail)) = ofPath none none (cs ++ tail) := by
  cases cs with
  | nil => cases hroot
  | cons c cs =>
    obtain rfl : c = '/' := Option.some.inj hroot
    rw [parse, String.toList_ofList]
    rfl

theorem parse_path : parse (String.ofList cs) = ⟨none, none, String.ofList cs, none⟩ := by
  have hwhole := takeWhile_eq_self hcs List.not_mem_nil
  have hparse := parse_ofPath hroot hcs []
  rw [List.append_nil] at hwhole hparse
  rw [hparse, ofPath, hwhole, Text.cutChars_of_not_mem (not_mem_path hcs)]

theorem parse_path_query {query : List Char} (hquery : '#' ∉ query) :
    parse (String.ofList (cs ++ '?' :: query)) =
      ⟨none, none, String.ofList cs, some (String.ofList query)⟩ := by
  have htail : '#' ∉ '?' :: query := by simp [hquery]
  rw [parse_ofPath hroot hcs, ofPath, takeWhile_eq_self hcs htail, Text.cutChars_append (not_mem_path hcs)]

end

/-- The path that is written. -/
theorem path_eq {cs : List Char} (hcs : cs ≠ []) (query : Option String) :
    path ⟨none, none, String.ofList cs, query⟩ = String.ofList cs :=
  if_neg fun he => hcs (String.ofList_eq_empty_iff.1 he)

end Uri

end HttpService
