import HttpService.Proofs.Http.Form

/-!
# Percent-encoded texts

`PercentEncodes w t`: of the bytes of `t` some are written in `w` as themselves and the others as a percent
sign with two hexadecimal digits. There is more than one such form; a form reads each of them as `t`
(`readPair_encodes`), and the written form is the text itself just if there is no percent sign in it
(`PercentEncodes.eq_iff`).
-/

set_option autoImplicit false

namespace HttpService

/-- Bytes that may be written as themselves: letters, digits and marks that separate nothing. -/
def isUnreserved (b : UInt8) : Bool :=
  Form.isPlain b || [0x21, 0x27, 0x28, 0x29, 0x7E].contains b

/-- The value of a byte that is a hexadecimal digit. -/
def hexByte? (b : UInt8) : Option Nat :=
  Text.hexValue? (Char.ofNat b.toNat)

/-- Written bytes and the bytes that they stand for. -/
inductive Escapes : Bytes → Bytes → Prop
  | nil : Escapes [] []
  | plain {b : UInt8} {ws bs : Bytes} (unreserved : isUnreserved b = true) (rest : Escapes ws bs) :
    Escapes (b :: ws) (b :: bs)
  | escape {high low : UInt8} {m n : Nat} {ws bs : Bytes} (first : hexByte? high = some m)
      (second : hexByte? low = some n) (rest : Escapes ws bs) :
    Escapes (0x25 :: high :: low :: ws) (UInt8.ofNat (m * 16 + n) :: bs)

/-- `w` is a percent-encoded form of `t`. -/
def PercentEncodes (w t : String) : Prop :=
  Escapes (Text.encode w) (Text.encode t)

namespace Escapes

variable {ws bs : Bytes}

theorem ne_of_isUnreserved {b x : UInt8} (hb : isUnreserved b = true) (hx : isUnreserved x = false) :
    b ≠ x :=
  fun he => by rw [he, hx] at hb; cases hb

theorem unescape_eq (h : Escapes ws bs) : Form.unescape ws = bs := by
  induction h with
  | nil => rfl
  | plain unreserved _ ih =>
    have hplus := ne_of_isUnreserved (x := 0x2B) unreserved (by decide)
    have hpercent := ne_of_isUnreserved (x := 0x25) unreserved (by decide)
    rw [Form.unescape_of_ne hplus hpercent, ih]
  | escape first second _ ih =>
    unfold hexByte? at first second
    rw [Form.unescape, first, second]
    dsimp only
    rw [ih]

/-- A byte that must be escaped, and is not used to escape another, is not written. -/
theorem not_mem {sep : UInt8} (hreserved : isUnreserved sep = false) (hpercent : sep ≠ 0x25)
    (hdigit : hexByte? sep = none) (h : Escapes ws bs) : sep ∉ ws := by
  have hne {b : UInt8} {n : Nat} (hb : hexByte? b = some n) : sep ≠ b := fun he => by
    rw [← he, hdigit] at hb
    cases hb
  induction h with
  | nil => exact List.not_mem_nil
  | plain unreserved _ ih => simp [ih, Ne.symm (ne_of_isUnreserved unreserved hreserved)]
  | escape first second _ ih => simp [ih, hpercent, hne first, hne second]

/-- An escape makes the written form longer. -/
theorem eq_or_length_lt (h : Escapes ws bs) :
    (0x25 ∉ ws ∧ ws = bs) ∨ (0x25 ∈ ws ∧ bs.length < ws.length) := by
  induction h with
  | nil => exact .inl ⟨List.not_mem_nil, rfl⟩
  | plain unreserved _ ih =>
    have hpercent := ne_of_isUnreserved (x := 0x25) unreserved (by decide)
    rcases ih with ⟨hnone, rfl⟩ | ⟨hsome, hlt⟩
    · exact .inl ⟨by simp [hnone, Ne.symm hpercent], rfl⟩
    · exact .inr ⟨.tail _ hsome, Nat.succ_lt_succ hlt⟩
  | escape _ _ _ ih =>
    refine .inr ⟨.head _, ?_⟩
    rcases ih with ⟨_, rfl⟩ | ⟨_, hlt⟩
    · simp
    · simp only [List.length_cons]
      omega

end Escapes

namespace PercentEncodes

variable {w t : String}

theorem decodeText_eq (h : PercentEncodes w t) : Form.decodeText (Text.encode w) = t := by
  rw [Form.decodeText, h.unescape_eq, Text.decodeLossy_encode]

theorem eq_iff (h : PercentEncodes w t) : w = t ↔ 0x25 ∉ Text.encode w := by
  rcases h.eq_or_length_lt with ⟨hnone, heq⟩ | ⟨hsome, hlt⟩
  · refine iff_of_true ?_ hnone
    rw [← Text.decodeLossy_encode w, heq, Text.decodeLossy_encode]
  · refine iff_of_false (fun he => ?_) (not_not_intro hsome)
    rw [he] at hlt
    exact Nat.lt_irrefl _ hlt

end PercentEncodes

namespace Form

variable {w t w' name : String}

/-- A written pair is read as its name and value. -/
theorem readPair_encodes (hname : PercentEncodes w' name) (h : PercentEncodes w t) :
    readPair (Text.encode (w' ++ "=" ++ w)) = (name, t) := by
  have hequals : 0x3D ∉ Text.encode w' := hname.not_mem (by decide) (by decide) (by decide)
  rw [encode_equals, readPair_append hequals, hname.decodeText_eq, h.decodeText_eq]

/-- The first pair of a query with a name has a text for its value, name and value percent-encoded. -/
def GivesFirst (query name t : String) : Prop :=
  ∃ before after w' w, splitBytes 0x26 (Text.encode query) =
      before ++ Text.encode (w' ++ "=" ++ w) :: after ∧
    (∀ piece ∈ before, (readPair piece).1 ≠ name) ∧ PercentEncodes w' name ∧ PercentEncodes w t

/-- The pairs with the name start with the text. -/
theorem GivesFirst.filter_decode {query : String} (h : GivesFirst query name t) :
    ∃ others, ((decode (Text.encode query)).filter (·.1 = name)) = (name, t) :: others := by
  obtain ⟨before, after, w', w, hsplit, hbefore, hname, hvalue⟩ := h
  have hpair := readPair_encodes hname hvalue
  have hpiece : Text.encode (w' ++ "=" ++ w) ≠ [] := by
    rw [encode_equals]
    exact List.append_ne_nil_of_right_ne_nil _ (List.cons_ne_nil _ _)
  have hskipped : ((before.filter (· ≠ [])).map readPair).filter (·.1 = name) = [] := by
    refine List.filter_eq_nil_iff.2 fun pair hpair => ?_
    obtain ⟨piece, hmem, rfl⟩ := List.mem_map.1 hpair
    simpa using hbefore piece (List.mem_filter.1 hmem).1
  have hdecode : decode (Text.encode query) =
      ((splitBytes 0x26 (Text.encode query)).filter (· ≠ [])).map readPair := rfl
  rw [hdecode, hsplit, List.filter_append, List.map_append, List.filter_append, hskipped,
    List.filter_cons_of_pos (by simp [hpiece]), List.map_cons, hpair, List.nil_append,
    List.filter_cons_of_pos (by simp)]
  exact ⟨_, rfl⟩

end Form

end HttpService
