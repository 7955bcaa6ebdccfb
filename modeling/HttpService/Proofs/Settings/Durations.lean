import HttpService.Proofs.Basic
import HttpService.Proofs.Decimal.Nearest
import HttpService.Proofs.Settings.Layering
import HttpService.Proofs.Text.Blank

/-!
# Durations that are too long

A duration is written as a number in a unit (`Duration.Written`) and is none from `2 ^ 64` seconds on. The
number is rounded when it is read and once more when it is brought to seconds, so that the least number that
is too long depends on the unit (`TimeUnit.Overflows`). A number that is infinite as a double is malformed
instead. Only an entry that gives such a duration to a setting is refused as too long, and a list of entries
if that is the first refused one; all else is answered by settings or by an invalid entry
(`tooLong_iff_overlong`).
-/

set_option autoImplicit false

namespace HttpService

open Decimal

namespace Duration

/-! ## Numbers of seconds -/

/-- What is rounded to `2 ^ 64` seconds or more is no duration. The doubles below are `2 ^ 11` apart. -/
theorem ofSeconds?_eq_none_iff {x : Float} {q : ℚ} (h : Rounded q x) :
    ofSeconds? x = none ↔ 2 ^ 64 - 2 ^ 10 ≤ q := by
  have hlimit : Holds 18446744073709551616.0 ((2 ^ 64 : ℕ) : ℚ) := holds_of_isNatural (by decide +kernel)
  have hnone : ofSeconds? x = none ↔ x.isNaN ∨ x < 0.0 ∨ 18446744073709551616.0 ≤ x := by
    unfold ofSeconds?
    split
    · exact iff_of_true rfl ‹_›
    · exact iff_of_false (Option.some_ne_none _) ‹_›
  rw [hnone]
  cases h with
  | @finite m t rounds holds _ =>
    have hvalue : (((2 ^ 64 : ℕ) : ℚ)) = (2 ^ 53 : ℕ) * 2 ^ (11 : ℤ) := by norm_num
    simp only [holds.not_isNaN, holds.not_negative, false_or, Bool.false_eq_true]
    rw [hlimit.le_iff holds, hvalue, rounds.le_iff (by norm_num) le_rfl (by norm_num),
      reaches_iff_of_even (by decide)]
    constructor <;> intro h <;> norm_num at h ⊢ <;> linarith
  | infinite large unpacked =>
    refine iff_of_true (.inr (.inr (hlimit.le_infinite unpacked))) ?_
    exact le_trans (by norm_num) large.two_pow_le

end Duration

/-! ## Units -/

/-- The units of durations. -/
inductive TimeUnit
  | millis | seconds | minutes | hours

namespace TimeUnit

/-- A unit is written by a name; seconds need none. -/
def Names : TimeUnit → String → Prop
  | millis, name => name = "ms"
  | seconds, name => name = "" ∨ name = "s"
  | minutes, name => name = "m"
  | hours, name => name = "h"

/-- A number of units in seconds. -/
def inSeconds (x : Float) : TimeUnit → Float
  | millis => x / 1000.0
  | seconds => x
  | minutes => x * 60.0
  | hours => x * 3600.0

theorem inSeconds?_eq {x : Float} {name : String} {u : TimeUnit} (h : u.Names name) :
    Duration.inSeconds? x name = some (u.inSeconds x) := by
  cases u with
  | seconds => rcases h with rfl | rfl <;> rfl
  | millis | minutes | hours =>
    cases h
    rfl

theorem names_of_inSeconds? {x y : Float} {name : String} (h : Duration.inSeconds? x name = some y) :
    ∃ u : TimeUnit, u.Names name := by
  unfold Duration.inSeconds? at h
  split at h
  · exact ⟨millis, ‹_›⟩
  split at h
  · exact ⟨seconds, ‹_›⟩
  split at h
  · exact ⟨minutes, ‹_›⟩
  split at h
  · exact ⟨hours, ‹_›⟩
  · cases h

/-- A number of units is too long for a duration. The bounds lie halfway below the least double that gives
`2 ^ 64` seconds; a double with an even mantissa takes the middle, one with an odd mantissa does not. -/
def Overflows : TimeUnit → ℚ → Prop
  | millis, q => 1000 * 2 ^ 64 - 2 ^ 20 ≤ q
  | seconds, q => 2 ^ 64 - 2 ^ 10 ≤ q
  | minutes, q => 307445734561825824 < q
  | hours, q => 5124095576030430 + 1 / 2 < q

theorem overflows_of_tooLarge {q : ℚ} (h : TooLarge q) (u : TimeUnit) : u.Overflows q := by
  have h := h.two_pow_le
  cases u with
  | millis | seconds => exact le_trans (by norm_num) h
  | minutes | hours => exact lt_of_lt_of_le (by norm_num) h

/-- The number is rounded when it is read, and once more when it is brought to seconds. -/
theorem ofSeconds?_inSeconds {q : ℚ} {m : ℕ} {t : ℤ} {x : Float} (rounds : Rounds q m t)
    (holds : Holds x (m * 2 ^ t)) (fits : ¬ TooLarge q) (u : TimeUnit) :
    Duration.ofSeconds? (u.inSeconds x) = none ↔ u.Overflows q := by
  have hbound {c : ℚ} {n : ℕ} {s : ℤ} (hn : 2 ^ 52 < n) (hn' : n ≤ 2 ^ 53) (hs : -1074 ≤ s)
      (hlower : (n - 1) * 2 ^ s < c) (hupper : c ≤ n * 2 ^ s) : c ≤ m * 2 ^ t ↔ Reaches n s q :=
    (rounds.le_iff_of_gap hn hlower hupper).trans (rounds.le_iff hn hn' hs)
  cases u with
  | seconds => exact Duration.ofSeconds?_eq_none_iff (.finite rounds holds fits)
  | millis =>
    have h1000 : Holds 1000.0 ((1000 : ℕ) : ℚ) := holds_of_isNatural (by decide +kernel)
    have hreaches : (2 ^ 64 - 2 ^ 10) * ((1000 : ℕ) : ℚ) ≤ m * 2 ^ t ↔ Reaches (1000 * 2 ^ 43) 21 q :=
      hbound (by norm_num) (by norm_num) (by norm_num) (by norm_num) (by norm_num)
    rw [inSeconds, Duration.ofSeconds?_eq_none_iff (holds.div h1000 (by norm_num)),
      le_div_iff₀ (by norm_num), hreaches, reaches_iff_of_even (by decide), Overflows]
    constructor <;> intro h <;> norm_num at h ⊢ <;> linarith
  | minutes =>
    have h60 : Holds 60.0 ((60 : ℕ) : ℚ) := holds_of_isNatural (by decide +kernel)
    have hreaches : (2 ^ 64 - 2 ^ 10) / ((60 : ℕ) : ℚ) ≤ m * 2 ^ t ↔ Reaches 4803839602528529 6 q :=
      hbound (by norm_num) (by norm_num) (by norm_num) (by norm_num) (by norm_num)
    rw [inSeconds, Duration.ofSeconds?_eq_none_iff (holds.mul h60 (by norm_num)),
      ← div_le_iff₀ (by norm_num), hreaches, reaches_iff_of_odd (by decide), Overflows]
    constructor <;> intro h <;> norm_num at h ⊢ <;> linarith
  | hours =>
    have h3600 : Holds 3600.0 ((3600 : ℕ) : ℚ) := holds_of_isNatural (by decide +kernel)
    have hreaches : (2 ^ 64 - 2 ^ 10) / ((3600 : ℕ) : ℚ) ≤ m * 2 ^ t ↔ Reaches 5124095576030431 0 q :=
      hbound (by norm_num) (by norm_num) (by norm_num) (by norm_num) (by norm_num)
    rw [inSeconds, Duration.ofSeconds?_eq_none_iff (holds.mul h3600 (by norm_num)),
      ← div_le_iff₀ (by norm_num), hreaches, reaches_iff_of_odd (by decide), Overflows]
    constructor <;> intro h <;> norm_num at h ⊢ <;> linarith

end TimeUnit

/-! ## Texts -/

namespace Duration

/-- Digits and the point. -/
def isNumeric (c : Char) : Bool := c.isDigit || c == '.'

theorem isBlank_of_isNumeric {c : Char} (h : isNumeric c = true) : Text.isBlank c = false := by
  rcases Bool.or_eq_true_iff.1 h with h | h
  · exact Text.isBlank_of_isDigit h
  · rw [eq_of_beq h]
    decide

theorem isNumeric_of_isBlank {c : Char} (h : Text.isBlank c = true) : isNumeric c = false :=
  Bool.eq_false_iff.2 fun hnumeric => Bool.false_ne_true ((isBlank_of_isNumeric hnumeric).symm.trans h)

/-- A text is a numeral and the name of a unit, with blanks around them. -/
inductive Written (q : ℚ) (u : TimeUnit) (text : String) : Prop
  | intro {before number between after : List Char} {name : String}
    (split : text.toList = before ++ number ++ between ++ name.toList ++ after)
    (numeral : Numeral number q) (named : u.Names name)
    (blank : ∀ c ∈ before ++ between ++ after, Text.isBlank c = true) : Written q u text

/-- A text gives a number of units that is too long, though not infinite as a double. -/
def Overlong (text : String) : Prop :=
  ∃ q u, Written q u text ∧ u.Overflows q ∧ q < 2 ^ 1024 - 2 ^ 970

theorem numeral_isNumeric {cs : List Char} {q : ℚ} (h : Numeral cs q) :
    ∀ c ∈ cs, isNumeric c = true := by
  cases h with
  | whole digits => exact fun c hc => Bool.or_eq_true_iff.2 (.inl (digits c hc))
  | point digits =>
    intro c hc
    refine Bool.or_eq_true_iff.2 ?_
    rcases List.mem_append.1 hc with hc | hc
    · exact .inl (digits c (List.mem_append_left _ hc))
    rcases List.mem_cons.1 hc with rfl | hc
    · exact .inr rfl
    · exact .inl (digits c (List.mem_append_right _ hc))

theorem numeral_ne_nil {cs : List Char} {q : ℚ} (h : Numeral cs q) : cs ≠ [] := by
  cases h with
  | whole _ some => exact some
  | point => simp

/-- Names of units have neither digits nor blanks. -/
theorem names_chars {u : TimeUnit} {name : String} (h : u.Names name) :
    ∀ c ∈ name.toList, isNumeric c = false ∧ Text.isBlank c = false := by
  have hall : (name.toList.all fun c => !isNumeric c && !Text.isBlank c) = true := by
    cases u with
    | seconds => rcases h with rfl | rfl <;> decide +kernel
    | millis | minutes | hours =>
      cases h
      decide +kernel
  simpa using hall

/-- Where the numeral of a written duration ends, and what is left as its unit. -/
theorem Written.exists_rest {q : ℚ} {u : TimeUnit} {text : String} (h : Written q u text) :
    ∃ number rest, Text.trimBy Text.isBlank text.toList = number ++ rest ∧ Numeral number q ∧
      (∀ c ∈ rest.head?, isNumeric c = false) ∧ u.Names (Text.trim (String.ofList rest)) := by
  obtain @⟨before, number, between, after, name, split, numeral, named, blank⟩ := h
  have hbetween : ∀ c ∈ between, Text.isBlank c = true := fun c hc => blank c (by simp [hc])
  have hname : ∀ c ∈ name.toList, Text.isBlank c = false := fun c hc => (names_chars named c hc).2
  have hhead : ∀ c ∈ number.head?, Text.isBlank c = false := fun c hc =>
    isBlank_of_isNumeric (numeral_isNumeric numeral c (List.mem_of_mem_head? hc))
  have hnumber := numeral_ne_nil numeral
  rcases eq_or_ne name.toList [] with hnil | hsome
  · -- The blanks behind the numeral stand at the end.
    have hedges : ∀ c ∈ before ++ (between ++ after), Text.isBlank c = true := by
      rwa [← List.append_assoc]
    have hlast : ∀ c ∈ number.getLast?, Text.isBlank c = false := fun c hc =>
      isBlank_of_isNumeric (numeral_isNumeric numeral c (List.mem_of_getLast? hc))
    refine ⟨number, [], ?_, numeral, by simp, ?_⟩
    · rw [split, hnil, List.append_nil, List.append_assoc, Text.trimBy_append hedges,
        Text.trimBy_eq_self hhead hlast, List.append_nil]
    · rw [String.toList_eq_nil_iff.1 hnil] at named
      exact named
  · have hedges : ∀ c ∈ before ++ after, Text.isBlank c = true := fun c hc =>
      blank c (by rcases List.mem_append.1 hc with hc | hc <;> simp [hc])
    refine ⟨number, between ++ name.toList, ?_, numeral, ?_, ?_⟩
    · have hassoc : text.toList = before ++ (number ++ (between ++ name.toList)) ++ after := by
        rw [split]
        simp only [List.append_assoc]
      rw [hassoc, Text.trimBy_append hedges]
      refine Text.trimBy_eq_self ?_ ?_
      · rwa [List.head?_append_of_ne_nil _ hnumber]
      · intro c hc
        rw [← List.append_assoc, List.getLast?_append_of_ne_nil _ hsome] at hc
        exact hname c (List.mem_of_getLast? hc)
    · intro c hc
      rcases List.mem_append.1 (List.mem_of_mem_head? hc) with hc | hc
      · exact isNumeric_of_isBlank (hbetween c hc)
      · exact (names_chars named c hc).1
    · have hedges : ∀ c ∈ between ++ [], Text.isBlank c = true := by rwa [List.append_nil]
      have htrim : Text.trim (String.ofList (between ++ name.toList)) = name := by
        rw [Text.trim, String.toList_ofList, ← List.append_nil (between ++ name.toList),
          Text.trimBy_append hedges]
        exact Text.trim_eq_self hname
      rwa [htrim]

/-- What a numeral and the text behind it are read to. -/
def answer (number rest : List Char) : Except Fault Duration :=
  match magnitude? number with
  | none => .error .malformed
  | some x =>
    if x.isInf then .error .malformed
    else
      match inSeconds? x (Text.trim (String.ofList rest)) with
      | none => .error .malformed
      | some seconds =>
        match ofSeconds? seconds with
        | none => .error .tooLong
        | some d => .ok d

theorem parse_eq_answer (text : String) :
    parse text = answer ((Text.trimBy Text.isBlank text.toList).takeWhile isNumeric)
      ((Text.trimBy Text.isBlank text.toList).dropWhile isNumeric) := by
  have hnumeric : (fun c : Char => c.isDigit || c == '.') = isNumeric := rfl
  cases hread : magnitude? ((Text.trimBy Text.isBlank text.toList).takeWhile isNumeric) with
  | none => simp only [parse, hnumeric, answer, hread]
  | some x =>
    cases hseconds : inSeconds? x (Text.trim (String.ofList
        ((Text.trimBy Text.isBlank text.toList).dropWhile isNumeric))) with
    | none => simp only [parse, hnumeric, answer, hread, hseconds]
    | some y =>
      cases hduration : ofSeconds? y with
      | none => simp only [parse, hnumeric, answer, hread, hseconds, hduration]
      | some d => simp only [parse, hnumeric, answer, hread, hseconds, hduration]

theorem Written.parse_eq {q : ℚ} {u : TimeUnit} {text : String} (h : Written q u text) :
    ∃ x, Rounded q x ∧ parse text = if x.isInf then .error .malformed else
      match ofSeconds? (u.inSeconds x) with
      | none => .error .tooLong
      | some d => .ok d := by
  obtain ⟨number, rest, hsplit, numeral, hrest, named⟩ := h.exists_rest
  obtain ⟨x, hread, rounded⟩ := numeral.read
  have hnumber := numeral_isNumeric numeral
  have htake : (number ++ rest).takeWhile isNumeric = number := by
    have hnone : rest.takeWhile isNumeric = [] := by
      cases rest with
      | nil => rfl
      | cons c rest => exact List.takeWhile_cons_of_neg (by simp [hrest c rfl])
    rw [List.takeWhile_append_of_pos hnumber, hnone, List.append_nil]
  have hdrop : (number ++ rest).dropWhile isNumeric = rest := by
    rw [List.dropWhile_append_of_pos hnumber, Text.dropWhile_eq_self hrest]
  refine ⟨x, rounded, ?_⟩
  rw [parse_eq_answer, hsplit, htake, hdrop, answer]
  simp only [hread, TimeUnit.inSeconds?_eq named]

/-- A written duration is read, unless it is too long. -/
theorem Written.parse_iff {q : ℚ} {u : TimeUnit} {text : String} (h : Written q u text) :
    (parse text = .error .tooLong ↔ u.Overflows q ∧ ¬ TooLarge q) ∧
      ((∃ d, parse text = .ok d) ↔ ¬ u.Overflows q) := by
  obtain ⟨x, rounded, hparse⟩ := h.parse_eq
  rw [hparse]
  cases rounded with
  | infinite large unpacked =>
    rw [if_pos (isInf_of_infinite unpacked)]
    have hover := TimeUnit.overflows_of_tooLarge large u
    simp [large, hover]
  | finite rounds holds fits =>
    have hover := TimeUnit.ofSeconds?_inSeconds rounds holds fits u
    rw [if_neg (Bool.eq_false_iff.1 holds.not_isInf), ← hover]
    cases ofSeconds? (u.inSeconds x) <;> simp [fits]

/-- Only written durations are read. -/
theorem exists_written {text : String} (h : parse text ≠ .error .malformed) :
    ∃ q u, Written q u text := by
  obtain ⟨before, after, htext, hedges⟩ := Text.exists_trimBy Text.isBlank text.toList
  rw [parse_eq_answer] at h
  generalize Text.trimBy Text.isBlank text.toList = cs at h htext
  obtain ⟨number, hnumber⟩ : ∃ number, cs.takeWhile isNumeric = number := ⟨_, rfl⟩
  obtain ⟨rest, hrest⟩ : ∃ rest, cs.dropWhile isNumeric = rest := ⟨_, rfl⟩
  have hcs : number ++ rest = cs := by rw [← hnumber, ← hrest, List.takeWhile_append_dropWhile]
  rw [hnumber, hrest, answer] at h
  cases hread : magnitude? number with
  | none => simp [hread] at h
  | some x =>
    have hnumeric : ∀ c ∈ number, c.isDigit = true ∨ c = '.' := by
      intro c hc
      have hc : isNumeric c = true := List.mem_takeWhile_imp (hnumber ▸ hc)
      simpa [isNumeric] using hc
    obtain ⟨q, numeral⟩ := exists_numeral hnumeric hread
    obtain ⟨between, behind, hsplit, hblank⟩ := Text.exists_trimBy Text.isBlank rest
    obtain ⟨name, hname⟩ : ∃ name, Text.trim (String.ofList rest) = name := ⟨_, rfl⟩
    have hunit : name.toList = Text.trimBy Text.isBlank rest := by
      rw [← hname, Text.trim, String.toList_ofList, String.toList_ofList]
    rw [hname] at h
    cases hseconds : inSeconds? x name with
    | none => simp [hread, hseconds] at h
    | some y =>
      obtain ⟨u, named⟩ := TimeUnit.names_of_inSeconds? hseconds
      have hall : text.toList = before ++ number ++ between ++ name.toList ++ (behind ++ after) := by
        rw [htext, ← hcs, hunit]
        conv_lhs => rw [hsplit]
        simp only [List.append_assoc]
      refine ⟨q, u, .intro hall numeral named fun c hc => ?_⟩
      simp only [List.mem_append] at hc
      rcases hc with (hc | hc) | hc | hc
      · exact hedges c (List.mem_append_left _ hc)
      · exact hblank c (List.mem_append_left _ hc)
      · exact hblank c (List.mem_append_right _ hc)
      · exact hedges c (List.mem_append_right _ hc)

theorem parse_eq_tooLong_iff (text : String) : parse text = .error .tooLong ↔ Overlong text := by
  simp only [Overlong, ← not_le, ← tooLarge_iff]
  constructor
  · intro h
    obtain ⟨q, u, hwritten⟩ := @exists_written text (by simp [h])
    exact ⟨q, u, hwritten, hwritten.parse_iff.1.1 h⟩
  · rintro ⟨q, u, hwritten, hover⟩
    exact hwritten.parse_iff.1.2 hover

theorem parse_eq_ok_iff (text : String) :
    (∃ d, parse text = .ok d) ↔ ∃ q u, Written q u text ∧ ¬ TimeUnit.Overflows u q := by
  constructor
  · rintro ⟨d, h⟩
    obtain ⟨q, u, hwritten⟩ := @exists_written text (by simp [h])
    exact ⟨q, u, hwritten, hwritten.parse_iff.2.1 ⟨d, h⟩⟩
  · rintro ⟨q, u, hwritten, hfits⟩
    exact hwritten.parse_iff.2.2 hfits

/-- Blanks around a text do not count. -/
theorem parse_trim (text : String) : parse (Text.trim text) = parse text := by
  rw [parse_eq_answer, parse_eq_answer, Text.trim, String.toList_ofList, Text.trimBy_trimBy]

end Duration

/-! ## Entries -/

namespace Settings

/-- The settings that are durations. -/
def Key.isTime : Key → Bool
  | .readTimeout | .writeTimeout | .idleTimeout | .gracefulTimeout | .gracefulWaitTime => true
  | _ => false

/-- An entry gives a duration that is too long. -/
def Overlong (e : String × String) : Prop :=
  ∃ k : Key, k.isTime = true ∧ k.isNamedBy e.1 = true ∧ Duration.Overlong e.2

theorem duration_eq_tooLong_iff (raw : String) :
    duration (Text.trim raw) = .error .tooLong ↔ Duration.Overlong raw := by
  rw [← Duration.parse_eq_tooLong_iff, duration, Duration.parse_trim]
  rcases Duration.parse raw with (_ | _) | d <;> simp

theorem valid_ne_tooLong {α : Type} (x : Option α) : valid x ≠ .error .tooLong := by
  cases x <;> simp [valid]

theorem Key.read_eq_tooLong_iff (k : Key) (raw : String) :
    k.read raw = .error .tooLong ↔ k.isTime = true ∧ Duration.Overlong raw := by
  cases k <;> simp [read, isTime, map_eq_error, duration_eq_tooLong_iff, valid_ne_tooLong]

theorem isRefused_tooLong_iff (e : String × String) : isRefused .tooLong e = true ↔ Overlong e := by
  simp only [isRefused_iff, Key.read_eq_tooLong_iff, Overlong]
  exact ⟨fun ⟨k, hkey, htime, hlong⟩ => ⟨k, htime, hkey, hlong⟩,
    fun ⟨k, htime, hkey, hlong⟩ => ⟨k, hkey, htime, hlong⟩⟩

theorem fits_iff (e : String × String) : Fits e ↔ ¬ Overlong e := by
  rw [← isRefused_tooLong_iff, Fits, Bool.not_eq_true]

theorem overlong_iff {k : Key} {key : String} (hkey : k.isNamedBy key = true) (value : String) :
    Overlong (key, value) ↔ k.read value = .error .tooLong := by
  rw [k.read_eq_tooLong_iff]
  constructor
  · rintro ⟨k', htime, hkey', hlong⟩
    cases Key.eq_of_isNamedBy hkey hkey'
    exact ⟨htime, hlong⟩
  · rintro ⟨htime, hlong⟩
    exact ⟨k, htime, hkey, hlong⟩

theorem set_eq_tooLong_iff (s : Settings) (key value : String) :
    s.set key value = .error .tooLong ↔ Overlong (key, value) := by
  have happlied := applied_update key value s
  rw [set]
  generalize update key value s = out at happlied
  cases happlied with
  | ignored hkey =>
    constructor
    · intro h
      cases h
    · rintro ⟨k, _, hnamed, _⟩
      exact absurd ((hkey k).symm.trans hnamed) Bool.false_ne_true
  | refused k r hkey hread =>
    rw [overlong_iff hkey, hread]
    cases r <;> simp [Refusal.error]
  | changed k v s' hkey hread hchanged =>
    rw [overlong_iff hkey, hread]
    simp

theorem set_error {s : Settings} {key value : String} {e : EntryError}
    (h : s.set key value = .error e) : e = .tooLong ∨ e = .config (.invalid key value) := by
  have happlied := applied_update key value s
  rw [set] at h
  generalize update key value s = out at happlied h
  cases happlied with
  | ignored hkey => cases h
  | refused k r hkey hread =>
    cases h
    cases r
    · exact .inr rfl
    · exact .inl rfl
  | changed k v s' hkey hread hchanged => cases h

theorem Layered.ne_tooLong {s : Settings} {entries : List (String × String)}
    {r : Except EntryError Settings} (h : Layered s entries r) : r ≠ .error .tooLong := by
  rintro rfl
  rw [Layered] at h
  split at h
  · cases h
  · obtain ⟨_, ⟨⟩, _⟩ := h

/-- The first refused entry is too long. -/
def FirstOverlong (entries : List (String × String)) : Prop :=
  ∃ before e after, entries = before ++ e :: after ∧
    (∀ e' ∈ before, isInvalid e' = false ∧ ¬ Overlong e') ∧ Overlong e

theorem merge_eq_tooLong_iff (s : Settings) (entries : List (String × String)) :
    (s.merge entries).1 = .error .tooLong ↔ FirstOverlong entries := by
  constructor
  · intro h
    cases hfind : entries.find? (isRefused .tooLong) with
    | none =>
      have hfit : ∀ e ∈ entries, Fits e := fun e he =>
        Bool.eq_false_iff.2 (List.find?_eq_none.1 hfind e he)
      exact absurd h (layered_merge s entries hfit).1.ne_tooLong
    | some e =>
      obtain ⟨hlong, before, after, hsplit, hbefore⟩ := List.find?_eq_some_iff_append.1 hfind
      have hfit : ∀ e ∈ before, Fits e := by simpa [Fits] using hbefore
      have hlayered := (layered_merge s before hfit).1
      rw [hsplit, merge_append] at h
      rcases hresult : s.merge before with ⟨e' | s', events⟩
      · rw [hresult] at h hlayered
        exact absurd h hlayered.ne_tooLong
      · rw [hresult] at hlayered
        have hvalid : ∀ e ∈ before, isInvalid e = false := by
          intro e he
          refine Bool.eq_false_iff.2 fun hinvalid => ?_
          obtain ⟨_, ⟨⟩⟩ := hlayered.error_iff.2 ⟨e, he, hinvalid⟩
        exact ⟨before, e, after, hsplit, fun e he => ⟨hvalid e he, (fits_iff e).1 (hfit e he)⟩,
          (isRefused_tooLong_iff e).1 hlong⟩
  · rintro ⟨before, ⟨key, value⟩, after, rfl, hbefore, hlong⟩
    have hlayered := (layered_merge s before fun e he => (fits_iff e).2 (hbefore e he).2).1
    rw [merge_append]
    rcases hresult : s.merge before with ⟨e' | s', events⟩
    · rw [hresult] at hlayered
      obtain ⟨e, he, hinvalid⟩ := hlayered.error_iff.1 ⟨e', rfl⟩
      exact absurd hinvalid (Bool.eq_false_iff.1 (hbefore e he).1)
    · show (s'.merge ((key, value) :: after)).1 = .error .tooLong
      rw [merge, (set_eq_tooLong_iff s' key value).2 hlong]

theorem merge_error {s : Settings} {entries : List (String × String)} {e : EntryError}
    (h : (s.merge entries).1 = .error e) :
    e = .tooLong ∨ ∃ key value, (key, value) ∈ entries ∧ e = .config (.invalid key value) := by
  induction entries generalizing s with
  | nil => cases h
  | cons entry entries ih =>
    obtain ⟨key, value⟩ := entry
    rw [merge] at h
    cases hset : s.set key value with
    | error e' =>
      rw [hset] at h
      cases h
      exact (set_error hset).imp_right fun h => ⟨key, value, .head _, h⟩
    | ok out =>
      rw [hset] at h
      refine (ih h).imp_right ?_
      rintro ⟨key', value', hmem, rfl⟩
      exact ⟨key', value', .tail _ hmem, rfl⟩

/-- How a list of entries is answered: too long just if the first refused entry is, and otherwise by
settings or by an entry that is invalid. -/
structure Answered (entries : List (String × String)) (r : Except EntryError Settings) : Prop where
  tooLong_iff : r = .error .tooLong ↔ FirstOverlong entries
  error : ∀ e, r = .error e →
    e = .tooLong ∨ ∃ key value, (key, value) ∈ entries ∧ e = .config (.invalid key value)

theorem answered_merge (s : Settings) (entries : List (String × String)) :
    Answered entries (s.merge entries).1 :=
  ⟨merge_eq_tooLong_iff s entries, fun _ => merge_error⟩

/-- **Durations that are too long.** A text is refused as too long just if it gives too many units, and is
read just if it gives fewer. A call for one entry is refused as too long just if the entry gives such a
text to a setting that is a duration; all its other errors show the entry as invalid. Lists of entries,
given for a run or found in an environment, are answered alike up to the first refused one. -/
theorem tooLong_iff_overlong (s : Settings) :
    (∀ text, (Duration.parse text = .error .tooLong ↔ Duration.Overlong text) ∧
      ((∃ d, Duration.parse text = .ok d) ↔
        ∃ q u, Duration.Written q u text ∧ ¬ TimeUnit.Overflows u q)) ∧
    (∀ key value, (s.set key value = .error .tooLong ↔ Overlong (key, value)) ∧
      ∀ e, s.set key value = .error e → e = .tooLong ∨ e = .config (.invalid key value)) ∧
    ∀ entries, Answered entries (s.merge entries).1 ∧ Answered entries (ofEntries entries).1 ∧
      ∀ env, Answered (entriesOf env ++ entries) (load env entries).1 := by
  refine ⟨fun text => ⟨Duration.parse_eq_tooLong_iff text, Duration.parse_eq_ok_iff text⟩,
    fun key value => ⟨set_eq_tooLong_iff s key value, fun _ => set_error⟩,
    fun entries => ⟨answered_merge s entries, answered_merge default entries, fun env => ?_⟩⟩
  rw [load_eq]
  exact answered_merge default _

/-- The least whole number of seconds that is too long, and the greatest that is not. -/
theorem tooLong_from_boundary :
    (ofEntries [("name", "shop"), ("Read_Timeout", " 18446744073709550592 s")]).1 = .error .tooLong ∧
      ∃ d, Duration.parse "18446744073709550591" = .ok d := by
  obtain ⟨hparse, _, hentries⟩ := tooLong_iff_overlong default
  constructor
  · have hvalue : ofDigits "18446744073709550592".toList = 18446744073709550592 := by decide +kernel
    have hsmall : ¬ TooLarge (ofDigits "18446744073709550592".toList : ℕ) := by
      intro h
      have h := h.two_pow_le
      rw [hvalue] at h
      norm_num at h
    have hover : TimeUnit.seconds.Overflows (ofDigits "18446744073709550592".toList : ℕ) := by
      rw [TimeUnit.Overflows, hvalue]
      norm_num
    have hwritten : Duration.Written (ofDigits "18446744073709550592".toList : ℕ) .seconds
        " 18446744073709550592 s" :=
      @Duration.Written.intro _ _ _ [' '] "18446744073709550592".toList [' '] [] "s" (by decide +kernel)
        (.whole (List.all_eq_true.1 (by decide +kernel)) (by decide +kernel)) (.inr rfl)
        (List.all_eq_true.1 (by decide +kernel))
    have hlong : Duration.Overlong " 18446744073709550592 s" :=
      ⟨_, .seconds, hwritten, hover, not_le.1 fun h => hsmall ((tooLarge_iff _).2 h)⟩
    refine (hentries _).2.1.tooLong_iff.2 ⟨[("name", "shop")], _, [], rfl, ?_,
      .readTimeout, rfl, by decide +kernel, hlong⟩
    intro e he
    obtain rfl := List.mem_singleton.1 he
    exact ⟨by decide +kernel, (fits_iff _).1 (by decide +kernel)⟩
  · have hvalue : ofDigits "18446744073709550591".toList = 18446744073709550591 := by decide +kernel
    have hwritten : Duration.Written (ofDigits "18446744073709550591".toList : ℕ) .seconds
        "18446744073709550591" :=
      @Duration.Written.intro _ _ _ [] "18446744073709550591".toList [] [] "" (by decide +kernel)
        (.whole (List.all_eq_true.1 (by decide +kernel)) (by decide +kernel)) (.inl rfl)
        (List.all_eq_true.1 (by decide +kernel))
    refine (hparse _).2.2 ⟨_, .seconds, hwritten, ?_⟩
    rw [TimeUnit.Overflows, hvalue]
    norm_num

theorem twenty_nines_too_long :
    Duration.parse "99999999999999999999" = .error .tooLong ∧
      default.set "readTimeout" "99999999999999999999" = .error .tooLong ∧
      (ofEntries [("readTimeout", "99999999999999999999")]).1 = .error .tooLong := by
  have hparse : Duration.parse "99999999999999999999" = .error .tooLong := by decide +kernel
  have hset : default.set "readTimeout" "99999999999999999999" = .error .tooLong :=
    (set_eq_tooLong_iff _ _ _).2
      ⟨.readTimeout, rfl, by decide +kernel, (Duration.parse_eq_tooLong_iff _).1 hparse⟩
  refine ⟨hparse, hset, ?_⟩
  rw [ofEntries, merge, hset]

end Settings

end HttpService
