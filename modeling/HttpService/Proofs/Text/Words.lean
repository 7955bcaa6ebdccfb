import HttpService.Text.Split
import HttpService.Text.Words
import Mathlib

/-!
# Words in one pass

The words of an identifier are found by runs of letters and digits and then by the case in each run.
`render_eq` gives the text that is made of them by one pass over the characters, in which `startsWord` tells
where a word starts inside a run. It is for names of underscores and of characters whose case is that of
ASCII, or which have none (`PlainCase`).
-/

set_option autoImplicit false

namespace HttpService.Text

/-! ## Characters -/

/-- Letters and digits whose case changes as in ASCII, if it changes. -/
structure PlainCase (c : Char) : Prop where
  isAlphanumeric : isAlphanumeric c = true
  isLower : isLower c = c.isLower
  isUpper : isUpper c = c.isUpper
  toLower : toLower c = [c.toLower]
  toUpper : toUpper c = [c.toUpper]

theorem plainCase_of_isAlphanum {c : Char} (h : c.isAlphanum = true) : PlainCase c := by
  have hascii : c.toNat < 0x80 := by
    simp only [Char.isAlphanum, Char.isAlpha, Char.isUpper, Char.isLower, Char.isDigit, Bool.or_eq_true,
      Bool.and_eq_true, decide_eq_true_eq, UInt32.le_iff_toNat_le, ge_iff_le] at h
    have hcode : c.toNat = c.val.toNat := rfl
    have hZ : 'Z'.val.toNat = 90 := rfl
    have hz : 'z'.val.toNat = 122 := rfl
    have h9 : '9'.val.toNat = 57 := rfl
    omega
  constructor
  · rw [Text.isAlphanumeric, if_pos hascii, h]
  · rw [Text.isLower, if_pos hascii]
  · rw [Text.isUpper, if_pos hascii]
  · rw [Text.toLower, if_pos hascii]
  · rw [Text.toUpper, if_pos hascii]

/-- Just the capitals have another form in lower case. -/
theorem toLower_eq_self_iff (c : Char) : c.toLower = c ↔ c.isUpper = false := by
  constructor
  · intro h
    rw [← h]
    exact Char.isUpper_toLower_eq_false c
  · exact fun h => Char.toLower_eq_of_not_isUpper (by rw [h]; decide)

/-- Just the lower-case letters have another form in upper case. -/
theorem toUpper_eq_self_iff (c : Char) : c.toUpper = c ↔ c.isLower = false := by
  constructor
  · intro h
    rw [← h]
    exact Char.isLower_toUpper_eq_false c
  · exact fun h => Char.toUpper_eq_of_not_isLower (by rw [h]; decide)

/-- No letter becomes a character that is none. -/
theorem toLower_ne {c d : Char} (hd : d.isAlpha = false) (h : c ≠ d) : c.toLower ≠ d := by
  intro hc
  have halpha : c.isAlpha = false := by rw [← Char.isAlpha_toLower_eq_isAlpha, hc, hd]
  rw [Char.isAlpha, Bool.or_eq_false_iff] at halpha
  exact h ((toLower_eq_self_iff c).2 halpha.1 ▸ hc)

theorem toUpper_ne {c d : Char} (hd : d.isAlpha = false) (h : c ≠ d) : c.toUpper ≠ d := by
  intro hc
  have halpha : c.isAlpha = false := by rw [← Char.isAlpha_toUpper_eq_isAlpha, hc, hd]
  rw [Char.isAlpha, Bool.or_eq_false_iff] at halpha
  exact h ((toUpper_eq_self_iff c).2 halpha.2 ▸ hc)

namespace PlainCase

variable {c : Char}

theorem ne {d : Char} (h : PlainCase c) (hd : Text.isAlphanumeric d = false) : c ≠ d := by
  rintro rfl
  rw [h.isAlphanumeric] at hd
  cases hd

theorem ne_sigma (h : PlainCase c) : c ≠ 'Σ' := by
  rintro rfl
  have hupper := h.isUpper
  have hsigma : Text.isUpper 'Σ' = true := by decide
  rw [hsigma] at hupper
  cases hupper

theorem not_isLower (h : PlainCase c) (hupper : Text.isUpper c = true) : Text.isLower c = false := by
  rw [h.isUpper] at hupper
  rw [h.isLower, Bool.eq_false_iff]
  exact Char.not_isLower_of_isUpper hupper

end PlainCase

/-! ## Case of texts -/

theorem lowerWord_eq {w : List Char} (h : ∀ c ∈ w, PlainCase c) : lowerWord w = w.map Char.toLower := by
  induction w with
  | nil => rfl
  | cons c w ih =>
    obtain ⟨hc, hw⟩ := List.forall_mem_cons.1 h
    cases w with
    | nil => rw [lowerWord, if_neg hc.ne_sigma, hc.toLower, List.map_singleton]
    | cons d w =>
      rw [lowerWord, ih hw, hc.toLower, List.map_cons]
      · rfl
      · nofun

theorem upperWord_eq {w : List Char} (h : ∀ c ∈ w, PlainCase c) : upperWord w = w.map Char.toUpper := by
  induction w with
  | nil => rfl
  | cons c w ih =>
    obtain ⟨hc, hw⟩ := List.forall_mem_cons.1 h
    rw [List.map_cons, ← ih hw, upperWord, List.flatMap_cons, hc.toUpper]
    rfl

/-- A name of such characters and of underscores; so is every identifier in ASCII. -/
def PlainName (cs : List Char) : Prop :=
  ∀ c ∈ cs, c = '_' ∨ PlainCase c

theorem plainName_of_ascii {cs : List Char} (h : cs.all (fun c => c == '_' || c.isAlphanum) = true) :
    PlainName cs := by
  intro c hc
  have hone := List.all_eq_true.1 h c hc
  rw [Bool.or_eq_true, beq_iff_eq] at hone
  exact hone.imp_right plainCase_of_isAlphanum

theorem toLower_of_plainName {c : Char} (h : c = '_' ∨ PlainCase c) :
    c ≠ 'Σ' ∧ toLower c = [c.toLower] := by
  rcases h with rfl | h
  · exact ⟨by decide, by decide⟩
  · exact ⟨h.ne_sigma, h.toLower⟩

theorem toList_lowercase {name : String} (h : PlainName name.toList) :
    (lowercase name).toList = name.toList.map Char.toLower := by
  have hfrom (before : List Char) {cs : List Char} (h : PlainName cs) :
      lowerFrom before cs = cs.map Char.toLower := by
    induction cs generalizing before with
    | nil => rfl
    | cons c cs ih =>
      obtain ⟨hc, hcs⟩ := List.forall_mem_cons.1 h
      obtain ⟨hsigma, hlower⟩ := toLower_of_plainName hc
      rw [lowerFrom, if_neg hsigma, hlower, ih _ hcs]
      rfl
  rw [lowercase, String.toList_ofList, hfrom [] h]

theorem toList_uppercase {name : String} (h : PlainName name.toList) :
    (uppercase name).toList = name.toList.map Char.toUpper := by
  rw [uppercase, String.toList_ofList, List.map_eq_flatMap]
  refine List.flatMap_congr fun c hc => ?_
  rcases h c hc with rfl | hc
  · decide
  · exact hc.toUpper

/-! ## Words of a run -/

/-- Whether a character starts a word inside a run: a capital behind a lower-case letter, or behind another
capital and in front of a lower-case letter. Characters without case between them count for nothing. -/
def startsWord (before : LetterCase) (c : Char) (rest : List Char) : Bool :=
  isUpper c && (before == .lower || before == .upper && rest.head?.any isLower)

/-- The words of a run, character by character; `word` holds what is read of the first one. -/
def wordsBy (before : LetterCase) (word : List Char) : List Char → List (List Char)
  | [] => [word]
  | c :: cs =>
    if startsWord before c cs then word :: wordsBy (before.next c) [c] cs
    else wordsBy (before.next c) (word ++ [c]) cs

theorem next_of_isUpper {c : Char} (hc : PlainCase c) (h : isUpper c = true) (before : LetterCase) :
    before.next c = .upper := by
  rw [LetterCase.next, hc.not_isLower h, if_neg Bool.false_ne_true, if_pos h]

theorem next_of_isLower {c : Char} (h : isLower c = true) (before : LetterCase) : before.next c = .lower :=
  if_pos h

theorem startsWord_unknown (c : Char) (rest : List Char) : startsWord .unknown c rest = false := by
  simp [startsWord]

theorem startsWord_of_not_isUpper {c : Char} (h : isUpper c = false) (before : LetterCase)
    (rest : List Char) : startsWord before c rest = false := by
  simp [startsWord, h]

/-- Before a lower-case letter the case of the letters read counts for nothing. -/
theorem wordsBy_of_isLower {c : Char} (hc : PlainCase c) (h : isLower c = true)
    (before after : LetterCase) (word cs : List Char) :
    wordsBy before word (c :: cs) = wordsBy after word (c :: cs) := by
  have hupper : isUpper c = false := by
    rw [Bool.eq_false_iff]
    intro hupper
    rw [hc.not_isLower hupper] at h
    cases h
  simp [wordsBy, startsWord, hupper, next_of_isLower h]

/-- The words are found by looking at the character behind each one, or before it. -/
theorem wordsOfRun_eq (before : LetterCase) (word : List Char) {c : Char} {cs : List Char}
    (hplain : ∀ d ∈ c :: cs, PlainCase d) (h : before = .lower → isUpper c = false) :
    wordsOfRun before word (c :: cs) = wordsBy before word (c :: cs) := by
  induction cs generalizing before word c with
  | nil =>
    have hstays : startsWord before c [] = false := by
      cases before <;> simp [startsWord, h]
    rw [wordsOfRun, wordsBy, hstays, if_neg Bool.false_ne_true, wordsBy]
  | cons d rest ih =>
    have hrest : ∀ e ∈ d :: rest, PlainCase e := fun e he => hplain e (.tail _ he)
    have hplain_d : PlainCase d := hrest d (.head _)
    have hfresh : wordsOfRun .unknown [] (d :: rest) = wordsBy (.next .unknown d) [d] rest := by
      rw [ih .unknown [] hrest nofun, wordsBy, startsWord_unknown, if_neg Bool.false_ne_true, List.nil_append]
    rw [wordsOfRun, wordsBy]
    split
    · -- Here `d` starts a word, so that the case before it counts for nothing.
      rename_i hbehind
      obtain ⟨hlower, hd⟩ := (Bool.and_eq_true ..).mp hbehind
      have hc : isUpper c = false := by
        rw [Bool.eq_false_iff]
        intro hc
        rw [next_of_isUpper (hplain c (.head _)) hc] at hlower
        cases of_decide_eq_true hlower
      have hnext (before : LetterCase) : before.next d = .upper := next_of_isUpper hplain_d hd before
      have hstarts : startsWord .lower d rest = true := by simp [startsWord, hd]
      rw [startsWord_of_not_isUpper hc, if_neg Bool.false_ne_true, of_decide_eq_true hlower, wordsBy, hstarts,
        if_pos rfl, hfresh, hnext, hnext]
    · rename_i hbehind
      split
      · -- Here `c` starts a word, and the character behind it tells the case.
        rename_i hbefore
        simp only [Bool.and_eq_true, decide_eq_true_eq] at hbefore
        obtain ⟨⟨rfl, hc⟩, hd⟩ := hbefore
        have hstarts : startsWord .upper c (d :: rest) = true := by simp [startsWord, hc, hd]
        rw [hstarts, if_pos rfl, ih .unknown [c] hrest nofun, wordsBy_of_isLower hplain_d hd]
      · rename_i hbefore
        have hstays : startsWord before c (d :: rest) = false := by
          cases before <;> simp_all [startsWord]
        rw [hstays, if_neg Bool.false_ne_true]
        exact ih _ _ hrest (by simpa using hbehind)

theorem mem_of_mem_wordsBy {before : LetterCase} {word cs w : List Char}
    (h : w ∈ wordsBy before word cs) : ∀ c ∈ w, c ∈ word ∨ c ∈ cs := by
  induction cs generalizing before word with
  | nil =>
    rw [List.mem_singleton.1 h]
    exact fun c hc => .inl hc
  | cons d cs ih =>
    rw [wordsBy] at h
    intro c hc
    split at h
    · rcases List.mem_cons.1 h with rfl | h
      · exact .inl hc
      · exact .inr (List.mem_cons.2 ((ih h c hc).imp_left List.mem_singleton.1))
    · rcases ih h c hc with hfront | hrest
      · exact (List.mem_append.1 hfront).imp_right fun hd => List.mem_cons.2 (.inl (List.mem_singleton.1 hd))
      · exact .inr (.tail _ hrest)

/-! ## Runs of a name -/

/-- The runs of letters and digits are the pieces between underscores that are not empty. -/
theorem runsOf_eq {cs : List Char} (h : PlainName cs) (run : List Char) :
    runsOf run cs =
      match splitChars '_' cs with
      | [] => []
      | piece :: pieces => ((run ++ piece) :: pieces).filter (· ≠ []) := by
  induction cs generalizing run with
  | nil => cases run <;> simp [runsOf, splitChars]
  | cons c cs ih =>
    obtain ⟨hc, hcs⟩ := List.forall_mem_cons.1 h
    obtain ⟨piece, pieces, hsplit⟩ := List.exists_cons_of_ne_nil (splitChars_ne_nil '_' cs)
    have hrest := ih hcs
    rw [hsplit] at hrest
    rw [runsOf, splitChars, hsplit]
    by_cases hline : c = '_'
    · subst hline
      have hnone : isAlphanumeric '_' = false := by decide
      rw [hnone, if_neg Bool.false_ne_true, if_pos rfl, hrest]
      cases run <;> simp
    · have hplain : PlainCase c := hc.resolve_left hline
      rw [hplain.isAlphanumeric, if_pos rfl, if_neg hline, hrest]
      simp

theorem flatMap_filter_ne_nil {β : Type} {f : List Char → List β} (h : f [] = [])
    (pieces : List (List Char)) : (pieces.filter (· ≠ [])).flatMap f = pieces.flatMap f := by
  induction pieces with
  | nil => rfl
  | cons piece pieces ih => cases piece <;> simp_all

theorem caseWords_eq {name : String} (h : PlainName name.toList) :
    caseWords name = (splitChars '_' name.toList).flatMap (wordsOfRun .unknown []) := by
  obtain ⟨piece, pieces, hsplit⟩ := List.exists_cons_of_ne_nil (splitChars_ne_nil '_' name.toList)
  rw [caseWords, runsOf_eq h, hsplit]
  exact flatMap_filter_ne_nil rfl _

theorem plainCase_of_splitChars {cs piece : List Char} (h : PlainName cs)
    (hpiece : piece ∈ splitChars '_' cs) : ∀ c ∈ piece, PlainCase c := by
  induction cs generalizing piece with
  | nil =>
    rw [List.mem_singleton.1 hpiece]
    exact nofun
  | cons c cs ih =>
    obtain ⟨hc, hcs⟩ := List.forall_mem_cons.1 h
    obtain ⟨front, pieces, hsplit⟩ := List.exists_cons_of_ne_nil (splitChars_ne_nil '_' cs)
    rw [splitChars, hsplit] at hpiece
    rw [hsplit] at ih
    split at hpiece
    · rcases List.mem_cons.1 hpiece with rfl | hpiece
      · exact nofun
      · exact ih hcs hpiece
    · rename_i hline
      rcases List.mem_cons.1 hpiece with rfl | hpiece
      · exact List.forall_mem_cons.2 ⟨hc.resolve_left hline, ih hcs (.head _)⟩
      · exact ih hcs (.tail _ hpiece)

theorem plainCase_of_caseWords {name : String} (h : PlainName name.toList) {w : List Char}
    (hw : w ∈ caseWords name) : ∀ c ∈ w, PlainCase c := by
  rw [caseWords_eq h] at hw
  obtain ⟨piece, hpiece, hword⟩ := List.mem_flatMap.1 hw
  have hplain := plainCase_of_splitChars h hpiece
  cases piece with
  | nil => cases hword
  | cons c piece =>
    rw [wordsOfRun_eq .unknown [] hplain nofun] at hword
    exact fun d hd => hplain d ((mem_of_mem_wordsBy hword d hd).resolve_left List.not_mem_nil)

/-- The end of a piece looks to `startsWord` as the underscore behind it. -/
theorem startsWord_piece {cs piece : List Char} {pieces : List (List Char)}
    (hsplit : splitChars '_' cs = piece :: pieces) (before : LetterCase) (c : Char) :
    startsWord before c piece = startsWord before c cs := by
  have hhead : piece.head?.any isLower = cs.head?.any isLower := by
    cases cs with
    | nil =>
      cases hsplit
      rfl
    | cons d cs =>
      obtain ⟨front, more, hcs⟩ := List.exists_cons_of_ne_nil (splitChars_ne_nil '_' cs)
      rw [splitChars, hcs] at hsplit
      split at hsplit
      · rename_i hline
        cases hsplit
        subst hline
        exact (by decide : false = isLower '_')
      · cases hsplit
        rfl
  rw [startsWord, startsWord, hhead]

/-! ## One pass -/

/-- How the characters of words are written, and what between the words. -/
structure Look where
  /-- Between words. -/
  between : List Char
  /-- The first character of the first word. -/
  first : Char → Char
  /-- The first character of another word. -/
  start : Char → Char
  /-- Any other character. -/
  inner : Char → Char

/-- Where a character stands: before all words, between two of them, or in a run whose last letter had a
case. -/
inductive Place
  | first
  | between
  | inside (before : LetterCase)
  deriving DecidableEq

namespace Place

/-- The place behind an underscore. -/
def behind : Place → Place
  | first => first
  | between => between
  | inside _ => between

end Place

namespace Look

variable (look : Look)

def word (head : Char → Char) : List Char → List Char
  | [] => []
  | c :: cs => head c :: cs.map look.inner

/-- Words behind another one. -/
def others (words : List (List Char)) : List Char :=
  words.flatMap fun w => look.between ++ look.word look.start w

def words : List (List Char) → List Char
  | [] => []
  | w :: ws => look.word look.first w ++ look.others ws

/-- The words of a name, written in one pass. -/
def render : Place → List Char → List Char
  | _, [] => []
  | place, c :: cs =>
    if c = '_' then render place.behind cs
    else
      match place with
      | .first => look.first c :: render (.inside (.next .unknown c)) cs
      | .between => look.between ++ look.start c :: render (.inside (.next .unknown c)) cs
      | .inside before =>
        (if startsWord before c cs then look.between ++ [look.start c] else [look.inner c]) ++
          render (.inside (before.next c)) cs

/-- What is written of a run behind its first character. -/
def tail : LetterCase → List Char → List Char
  | _, [] => []
  | before, c :: cs =>
    (if startsWord before c cs then look.between ++ [look.start c] else [look.inner c]) ++
      tail (before.next c) cs

theorem exists_wordsBy (before : LetterCase) (w cs : List Char) :
    ∃ front ws, wordsBy before w cs = (w ++ front) :: ws ∧
      look.tail before cs = front.map look.inner ++ look.others ws := by
  induction cs generalizing before w with
  | nil => exact ⟨[], [], by rw [wordsBy, List.append_nil], rfl⟩
  | cons c cs ih =>
    rw [wordsBy, tail]
    split
    · obtain ⟨front, ws, hwords, htail⟩ := ih (before.next c) [c]
      refine ⟨[], _, by rw [List.append_nil], ?_⟩
      rw [hwords, htail]
      simp [others, word]
    · obtain ⟨front, ws, hwords, htail⟩ := ih (before.next c) (w ++ [c])
      refine ⟨c :: front, ws, by rw [hwords, List.append_assoc, List.singleton_append], ?_⟩
      rw [htail]
      simp

/-- The words of a run, whatever is written before them. -/
theorem exists_wordsOfRun {c : Char} {cs : List Char} (h : ∀ d ∈ c :: cs, PlainCase d) :
    ∃ front ws, wordsOfRun .unknown [] (c :: cs) = (c :: front) :: ws ∧
      look.tail (.next .unknown c) cs = front.map look.inner ++ look.others ws := by
  rw [wordsOfRun_eq .unknown [] h nofun, wordsBy, startsWord_unknown, if_neg Bool.false_ne_true]
  exact look.exists_wordsBy _ [c] cs

/-- From every place on the pass writes the words of the pieces that are left. -/
theorem render_pieces {cs piece : List Char} {pieces : List (List Char)} (h : PlainName cs)
    (hsplit : splitChars '_' cs = piece :: pieces) :
    (∀ before, look.render (.inside before) cs =
        look.tail before piece ++ look.others (pieces.flatMap (wordsOfRun .unknown []))) ∧
      look.render .between cs = look.others ((piece :: pieces).flatMap (wordsOfRun .unknown [])) ∧
      look.render .first cs = look.words ((piece :: pieces).flatMap (wordsOfRun .unknown [])) := by
  induction cs generalizing piece pieces with
  | nil =>
    cases hsplit
    exact ⟨fun _ => rfl, rfl, rfl⟩
  | cons c cs ih =>
    have hplain : ∀ d ∈ piece, PlainCase d := plainCase_of_splitChars h (by rw [hsplit]; exact .head _)
    have hcs : PlainName cs := fun d hd => h d (.tail _ hd)
    obtain ⟨front, more, hrest⟩ := List.exists_cons_of_ne_nil (splitChars_ne_nil '_' cs)
    obtain ⟨hinside, hbetween, hfirst⟩ := ih hcs hrest
    rw [splitChars, hrest] at hsplit
    split at hsplit
    · rename_i hline
      cases hsplit
      simp only [render, if_pos hline]
      exact ⟨fun _ => hbetween, hbetween, hfirst⟩
    · rename_i hline
      cases hsplit
      obtain ⟨w, ws, hwords, htail⟩ := look.exists_wordsOfRun hplain
      simp only [render, if_neg hline, tail, startsWord_piece hrest, hinside, List.flatMap_cons, hwords,
        htail]
      refine ⟨fun before => by simp, ?_, ?_⟩
      · simp [others, word]
      · simp [words, others, word]

/-- Underscores at the front are passed over, and then a word starts. -/
theorem render_cases {cs : List Char} (h : PlainName cs) :
    look.render .first cs = [] ∧ look.render .between cs = [] ∨
      ∃ c rest, PlainCase c ∧ look.render .first cs = look.first c :: rest ∧
        look.render .between cs = look.between ++ look.start c :: rest := by
  induction cs with
  | nil => exact .inl ⟨rfl, rfl⟩
  | cons c cs ih =>
    obtain ⟨hc, hcs⟩ := List.forall_mem_cons.1 h
    by_cases hline : c = '_'
    · simp only [render, if_pos hline]
      exact ih hcs
    · simp only [render, if_neg hline]
      exact .inr ⟨c, _, hc.resolve_left hline, rfl, rfl⟩

/-- One pass writes the words of a name. -/
theorem render_eq {name : String} (h : PlainName name.toList) :
    look.words (caseWords name) = look.render .first name.toList := by
  obtain ⟨piece, pieces, hsplit⟩ := List.exists_cons_of_ne_nil (splitChars_ne_nil '_' name.toList)
  rw [caseWords_eq h, hsplit, (look.render_pieces h hsplit).2.2]

end Look

end HttpService.Text
