import HttpService.Proofs.Tag.Grammar
import HttpService.Proofs.Text.Utf8
import HttpService.Tag.Scanner

/-!
# Tags are scanned within their bounds

The scan of the bytes of a tag never cuts outside it or through a character, and gives the items that are
read from its characters. The invariant is `At`: a position stands at a character, or at the end.

* `utf8EncodeChar_cases`: a character beyond ASCII starts with a byte that goes on with none, and bytes that
  go on with it follow; so no space, quote, colon or backslash is among them;
* `At.skip`, `At.closing`: spaces, keys and values are passed by whole characters, also where the byte behind
  a backslash is the first of several;
* `At.step?`, `At.scanFrom`: one item, and all of them;
* `parse_local`: so no cut is refused, and items are read alike whatever follows them.
-/

set_option autoImplicit false

namespace HttpService.Tag.Scanner

/-- The bytes of characters. -/
def bytesOf (cs : List Char) : Bytes :=
  cs.flatMap String.utf8EncodeChar

@[simp]
theorem bytesOf_nil : bytesOf [] = [] := rfl

theorem bytesOf_cons (c : Char) (cs : List Char) :
    bytesOf (c :: cs) = String.utf8EncodeChar c ++ bytesOf cs :=
  List.flatMap_cons

theorem bytesOf_append (cs ds : List Char) : bytesOf (cs ++ ds) = bytesOf cs ++ bytesOf ds :=
  List.flatMap_append

theorem decode?_bytesOf (cs : List Char) : Text.decode? (bytesOf cs) = some (String.ofList cs) := by
  rw [bytesOf, ← Text.encode_ofList, Text.decode?_encode]

/-! ## The bytes of one character -/

/-- The bytes of a character: its code, or a byte that goes on with no character and then some that do. -/
inductive Shape (c : Char) : Bytes → Prop
  | ascii : c.toNat < 0x80 → Shape c [UInt8.ofNat c.toNat]
  | high {b : UInt8} {more : Bytes} :
      0x80 ≤ c.toNat → 0xC0 ≤ b → (∀ m ∈ more, goesOn m = true) → Shape c (b :: more)

theorem goesOn_ofNat {n : ℕ} (h : n < 0x40) : goesOn (UInt8.ofNat (n + 0x80)) = true := by
  interval_cases n <;> rfl

theorem le_ofNat {n low : ℕ} (hlow : low ≤ n) (hhigh : n < 0x100) : UInt8.ofNat low ≤ UInt8.ofNat n := by
  rw [UInt8.le_iff_toNat_le, UInt8.toNat_ofNat_of_lt' (show n < 256 from hhigh),
    UInt8.toNat_ofNat_of_lt' (show low < 256 by omega)]
  exact hlow

theorem shape_utf8EncodeChar (c : Char) : Shape c (String.utf8EncodeChar c) := by
  by_cases hascii : c.toNat < 0x80
  · rw [Text.utf8EncodeChar_ascii hascii]
    exact .ascii hascii
  · have hhigh : 0x80 ≤ c.toNat := Nat.le_of_not_lt hascii
    have hlast (n : ℕ) : goesOn (UInt8.ofNat (n % 64 + 0x80)) = true :=
      goesOn_ofNat (Nat.mod_lt n (by decide))
    have hfirst {n : ℕ} (hlow : 0xC0 ≤ n) (hbound : n < 0x100) : 0xC0 ≤ UInt8.ofNat n :=
      le_ofNat hlow hbound
    unfold String.utf8EncodeChar
    dsimp only
    split
    · rename_i hle
      exact absurd (Nat.lt_succ_of_le hle) hascii
    · split
      · refine .high hhigh (hfirst (by omega) (by omega)) ?_
        simp only [List.forall_mem_cons, hlast, List.not_mem_nil, false_imp_iff, implies_true, and_true]
      · split
        all_goals
          refine .high hhigh (hfirst (by omega) (by omega)) ?_
          simp only [List.forall_mem_cons, hlast, List.not_mem_nil, false_imp_iff, implies_true, and_true]

theorem high_of_goesOn {b : UInt8} (h : goesOn b = true) : 0x80 ≤ b :=
  of_decide_eq_true (Bool.and_eq_true .. ▸ h).1

theorem high_of_first {b : UInt8} (h : 0xC0 ≤ b) : 0x80 ≤ b :=
  UInt8.le_trans (by decide) h

/-- No character starts with a byte that goes on with one. -/
theorem not_goesOn_first {c : Char} {b : UInt8} {more : Bytes} (h : Shape c (b :: more)) :
    goesOn b = false := by
  cases h with
  | ascii hc =>
    have hlow : ∀ n < 0x80, goesOn (UInt8.ofNat n) = false := by decide
    exact hlow _ hc
  | high _ hb _ => rw [goesOn, decide_eq_false (UInt8.not_lt.2 hb), Bool.and_false]

theorem exists_utf8EncodeChar (c : Char) : ∃ b more, String.utf8EncodeChar c = b :: more := by
  cases h : String.utf8EncodeChar c with
  | nil =>
    have hshape := shape_utf8EncodeChar c
    rw [h] at hshape
    cases hshape
  | cons b more => exact ⟨b, more, rfl⟩

theorem bytesOf_eq_nil_iff (cs : List Char) : bytesOf cs = [] ↔ cs = [] := by
  cases cs with
  | nil => simp
  | cons c cs =>
    obtain ⟨b, more, hc⟩ := exists_utf8EncodeChar c
    simp [bytesOf_cons, hc]

/-- Only characters of ASCII start with bytes of ASCII. -/
theorem eq_of_shape {c d : Char} {more : Bytes} (hd : d.toNat < 0x80)
    (h : Shape c (UInt8.ofNat d.toNat :: more)) : c = d := by
  have hlow {n : ℕ} (hn : n < 0x80) : (UInt8.ofNat n).toNat = n :=
    UInt8.toNat_ofNat_of_lt' (Nat.lt_trans hn (by decide))
  generalize hb : UInt8.ofNat d.toNat = b at h
  cases h with
  | ascii hc =>
    have hcode := congrArg UInt8.toNat hb
    rw [hlow hd, hlow hc] at hcode
    exact Char.toNat_inj.1 hcode.symm
  | high _ hfirst _ =>
    rw [← hb, UInt8.le_iff_toNat_le, hlow hd] at hfirst
    exact absurd (Nat.le_trans (by decide : 0x80 ≤ (0xC0 : UInt8).toNat) hfirst) (Nat.not_le.2 hd)

theorem opensValue_eq (bytes : Bytes) (pos : ℕ) :
    opensValue bytes pos = true ↔ bytes[pos]? = some 0x3A ∧ bytes[pos + 1]? = some 0x22 := by
  unfold opensValue
  split
  · rename_i hlt
    have hpos : pos < bytes.length := Nat.lt_of_succ_lt hlt
    rw [List.getElem?_eq_getElem hlt, List.getElem?_eq_getElem hpos]
    simp
  · rename_i hge
    rw [List.getElem?_eq_none (Nat.le_of_not_lt hge)]
    simp

theorem step?_of_length_le {bytes : Bytes} {start : ℕ} (h : bytes.length ≤ start) :
    step? bytes start = some .stop := by
  have hskip : skip isKeyByte bytes start = start := by rw [skip, dif_neg (Nat.not_lt.2 h)]
  rw [step?, hskip, keyStep?, decide_eq_true rfl, Bool.true_or, if_pos rfl]

theorem scanFrom_stop {bytes : Bytes} {pos : ℕ} (h : step? bytes (skip isSpace bytes pos) = some .stop) :
    scanFrom bytes pos = some [] := by
  rw [scanFrom]
  split
  · rfl
  · split <;> simp_all

theorem scanFrom_item {bytes : Bytes} {pos next : ℕ} {i : Item}
    (h : step? bytes (skip isSpace bytes pos) = some (.item i next)) :
    scanFrom bytes pos = (scanFrom bytes next).map (i :: ·) := by
  rw [scanFrom]
  split
  · rename_i hend
    cases (step?_of_length_le hend).symm.trans h
  · split <;> simp_all

/-! ## Positions between characters -/

/-- The characters from a position on. -/
structure At (bytes : Bytes) (pos : ℕ) (cs : List Char) : Prop where
  le : pos ≤ bytes.length
  drop : bytes.drop pos = bytesOf cs

namespace At

variable {bytes : Bytes} {pos : ℕ} {cs front rest : List Char}

theorem length (h : At bytes pos cs) : bytes.length = pos + (bytesOf cs).length := by
  have hdrop := congrArg List.length h.drop
  rw [List.length_drop] at hdrop
  have := h.le
  omega

theorem advance (h : At bytes pos (front ++ rest)) : At bytes (pos + (bytesOf front).length) rest where
  le := by
    rw [h.length, bytesOf_append, List.length_append]
    omega
  drop := by rw [← List.drop_drop, h.drop, bytesOf_append, List.drop_left]

theorem next {c : Char} (h : At bytes pos (c :: rest)) :
    At bytes (pos + (String.utf8EncodeChar c).length) rest := by
  have hnext := @advance _ _ [c] rest h
  rwa [bytesOf_cons, bytesOf_nil, List.append_nil] at hnext

theorem next_ascii {c : Char} (h : At bytes pos (c :: rest)) (hc : c.toNat < 0x80) :
    At bytes (pos + 1) rest := by
  have hnext := h.next
  rwa [Text.utf8EncodeChar_ascii hc] at hnext

/-- The byte of a position at a character is the first one of the character. -/
theorem getElem?_eq (h : At bytes pos cs) : bytes[pos]? = (bytesOf cs).head? := by
  rw [← h.drop, List.head?_drop]

theorem isBorder (h : At bytes pos cs) : isBorder bytes pos = true := by
  unfold Scanner.isBorder
  split
  · rename_i hlt
    have hbyte := h.getElem?_eq
    rw [List.getElem?_eq_getElem hlt] at hbyte
    cases cs with
    | nil => cases hbyte
    | cons c cs =>
      obtain ⟨b, more, hc⟩ := exists_utf8EncodeChar c
      rw [bytesOf_cons, hc, List.cons_append, List.head?_cons, Option.some.injEq] at hbyte
      rw [hbyte, not_goesOn_first (hc ▸ shape_utf8EncodeChar c), Bool.not_false]
  · have := h.le
    simp
    omega

/-- A cut between characters gives those between. -/
theorem cut?_eq (h : At bytes pos (front ++ rest)) :
    cut? bytes pos (pos + (bytesOf front).length) = some (String.ofList front) := by
  have hcut : (bytes.drop pos).take (pos + (bytesOf front).length - pos) = bytesOf front := by
    rw [Nat.add_sub_cancel_left, h.drop, bytesOf_append, List.take_left]
  rw [cut?, if_pos ⟨Nat.le_add_right .., h.isBorder, h.advance.isBorder⟩, hcut, decode?_bytesOf]

end At

/-! ## Passing over characters -/

theorem skip_eq (test : UInt8 → Bool) (bytes : Bytes) (pos : ℕ) :
    skip test bytes pos = pos + ((bytes.drop pos).takeWhile test).length := by
  fun_induction skip test bytes pos with
  | case1 pos hlt htest ih =>
    rw [ih, List.drop_eq_getElem_cons hlt, List.takeWhile_cons_of_pos htest, List.length_cons]
    omega
  | case2 pos hlt htest =>
    rw [List.drop_eq_getElem_cons hlt, List.takeWhile_cons_of_neg htest, List.length_nil, Nat.add_zero]
  | case3 pos hge =>
    rw [List.drop_eq_nil_of_le (Nat.le_of_not_lt hge), List.takeWhile_nil, List.length_nil, Nat.add_zero]

/-- A test of bytes that tells of the bytes of characters what another one tells of the characters. -/
structure Agrees (test : UInt8 → Bool) (p : Char → Bool) : Prop where
  ascii : ∀ n < 0x80, test (UInt8.ofNat n) = p (Char.ofNat n)
  high : ∀ (c : Char) (b : UInt8), 0x80 ≤ c.toNat → 0x80 ≤ b → test b = p c

theorem agrees_isSpace : Agrees isSpace (· = ' ') where
  ascii := by decide
  high c b hc hb := by
    have hchar : c ≠ ' ' := by
      rintro rfl
      exact absurd hc (by decide)
    have hbyte : isSpace b = false := by
      refine beq_eq_false_iff_ne.2 ?_
      rintro rfl
      exact absurd hb (by decide)
    rw [hbyte, decide_eq_false hchar]

theorem agrees_isKeyByte : Agrees isKeyByte isKeyChar where
  ascii := by decide
  high c b hc hb := by
    have hchar : KeyChar c := by
      have hne {d : Char} (hd : d.toNat < 0x80) : c ≠ d := by
        rintro rfl
        omega
      exact ⟨by omega, hne (by decide), hne (by decide), hne (by decide), by omega⟩
    have hne {d : UInt8} (hd : d < 0x80) : b ≠ d := by
      rintro rfl
      exact UInt8.not_lt.2 hb hd
    have hlow : (0x20 : UInt8) < b := UInt8.lt_of_lt_of_le (by decide) hb
    rw [(isKeyChar_iff c).2 hchar]
    simp [isKeyByte, hlow, hne]

namespace Agrees

variable {test : UInt8 → Bool} {p : Char → Bool}

theorem all_eq (h : Agrees test p) {c : Char} {b : UInt8} {more : Bytes} (hshape : Shape c (b :: more)) :
    ∀ x ∈ b :: more, test x = p c := by
  cases hshape with
  | ascii hc =>
    have hsame := h.ascii c.toNat hc
    rw [Char.ofNat_toNat] at hsame
    exact List.forall_mem_singleton.2 hsame
  | high hc hb hmore =>
    exact List.forall_mem_cons.2
      ⟨h.high c b hc (high_of_first hb), fun m hm => h.high c m hc (high_of_goesOn (hmore m hm))⟩

theorem takeWhile_bytesOf (h : Agrees test p) (cs : List Char) :
    (bytesOf cs).takeWhile test = bytesOf (cs.takeWhile p) := by
  induction cs with
  | nil => rfl
  | cons c cs ih =>
    obtain ⟨b, more, hc⟩ := exists_utf8EncodeChar c
    have hall := h.all_eq (hc ▸ shape_utf8EncodeChar c)
    rw [bytesOf_cons, hc]
    cases hp : p c with
    | true =>
      rw [List.takeWhile_cons_of_pos hp, bytesOf_cons, hc,
        List.takeWhile_append_of_pos fun x hx => (hall x hx).trans hp, ih]
    | false =>
      have hfirst : ¬ test b = true := by simp [hall b (.head _), hp]
      rw [List.takeWhile_cons_of_neg (by simp [hp]), List.cons_append, List.takeWhile_cons_of_neg hfirst,
        bytesOf_nil]

end Agrees

theorem At.skip {test : UInt8 → Bool} {p : Char → Bool} (hagrees : Agrees test p) {bytes : Bytes}
    {pos : ℕ} {cs : List Char} (h : At bytes pos cs) :
    skip test bytes pos = pos + (bytesOf (cs.takeWhile p)).length ∧
      At bytes (skip test bytes pos) (cs.dropWhile p) := by
  have hskip : Scanner.skip test bytes pos = pos + (bytesOf (cs.takeWhile p)).length := by
    rw [skip_eq, h.drop, hagrees.takeWhile_bytesOf]
  refine ⟨hskip, ?_⟩
  rw [hskip]
  exact advance (by rwa [List.takeWhile_append_dropWhile])

/-! ## Values -/

/-- Bytes that neither close a value nor escape what follows. -/
def IsPlain (b : UInt8) : Prop :=
  b ≠ 0x22 ∧ b ≠ 0x5C

theorem isPlain_of_high {b : UInt8} (h : 0x80 ≤ b) : IsPlain b := by
  constructor <;> (rintro rfl; exact absurd h (by decide))

theorem isPlain_of_shape {c : Char} {bytes : Bytes} (hc : IsInner c) (h : Shape c bytes) :
    ∀ b ∈ bytes, IsPlain b := by
  cases h with
  | ascii hlow =>
    have hmark : ∀ n < 0x80, UInt8.ofNat n = 0x22 → n = '"'.toNat := by decide
    have hslash : ∀ n < 0x80, UInt8.ofNat n = 0x5C → n = '\\'.toNat := by decide
    exact List.forall_mem_singleton.2
      ⟨fun h => hc.1 (Char.toNat_inj.1 (hmark _ hlow h)),
        fun h => hc.2 (Char.toNat_inj.1 (hslash _ hlow h))⟩
  | high _ hb hmore =>
    exact List.forall_mem_cons.2
      ⟨isPlain_of_high (high_of_first hb), fun m hm => isPlain_of_high (high_of_goesOn (hmore m hm))⟩

/-- Bytes that do neither are passed over. -/
theorem closing_plain {bytes : Bytes} {pos : ℕ} {front rest : Bytes} (h : bytes.drop pos = front ++ rest)
    (hfront : ∀ b ∈ front, IsPlain b) : closing bytes pos = closing bytes (pos + front.length) := by
  induction front generalizing pos with
  | nil => rfl
  | cons b front ih =>
    obtain ⟨hb, hrest⟩ := List.forall_mem_cons.1 hfront
    have hlt : pos < bytes.length := by
      have := congrArg List.length h
      simp at this
      omega
    rw [List.drop_eq_getElem_cons hlt, List.cons_append, List.cons.injEq] at h
    rw [closing, dif_pos hlt, h.1, if_neg hb.1, if_neg hb.2, ih h.2 hrest, List.length_cons]
    congr 1
    omega

namespace At

variable {bytes : Bytes} {pos : ℕ} {cs rest : List Char}

theorem getElem_eq {c : Char} (h : At bytes pos (c :: rest)) (hc : c.toNat < 0x80) :
    ∃ hlt : pos < bytes.length, bytes[pos] = UInt8.ofNat c.toNat := by
  have hbyte := h.getElem?_eq
  rw [bytesOf_cons, Text.utf8EncodeChar_ascii hc, List.singleton_append, List.head?_cons] at hbyte
  exact List.getElem?_eq_some_iff.1 hbyte

theorem closing_quote (h : At bytes pos ('"' :: rest)) : Scanner.closing bytes pos = pos := by
  obtain ⟨hlt, hbyte⟩ := h.getElem_eq (by decide)
  have hquote : bytes[pos] = 0x22 := hbyte
  rw [Scanner.closing, dif_pos hlt, if_pos hquote]

theorem closing_slash (h : At bytes pos ('\\' :: rest)) :
    Scanner.closing bytes pos = Scanner.closing bytes (pos + 2) := by
  obtain ⟨hlt, hbyte⟩ := h.getElem_eq (by decide)
  have hslash : bytes[pos] = 0x5C := hbyte
  conv_lhs => rw [Scanner.closing, dif_pos hlt, hslash, if_neg (by decide), if_pos rfl]

theorem closing_inner {c : Char} (h : At bytes pos (c :: rest)) (hc : IsInner c) :
    Scanner.closing bytes pos = Scanner.closing bytes (pos + (String.utf8EncodeChar c).length) :=
  closing_plain h.drop (isPlain_of_shape hc (shape_utf8EncodeChar c))

/-- The byte behind a backslash is passed over unread, and so are those that go on with it. -/
theorem closing_escape {c : Char} (h : At bytes pos ('\\' :: c :: rest)) :
    Scanner.closing bytes pos = Scanner.closing bytes (pos + 1 + (String.utf8EncodeChar c).length) := by
  have hnext := h.next_ascii (by decide)
  obtain ⟨b, more, hc⟩ := exists_utf8EncodeChar c
  have hmore : ∀ m ∈ more, IsPlain m := by
    have hshape := shape_utf8EncodeChar c
    rw [hc] at hshape
    cases hshape with
    | ascii => exact nofun
    | high _ _ hmore => exact fun m hm => isPlain_of_high (high_of_goesOn (hmore m hm))
  have hdrop : bytes.drop (pos + 2) = more ++ bytesOf rest := by
    have hbytes := hnext.drop
    rw [bytesOf_cons, hc] at hbytes
    rw [← List.drop_drop (i := 1), hbytes]
    rfl
  rw [h.closing_slash, closing_plain hdrop hmore, hc, List.length_cons]
  congr 1
  omega

/-- The scan of a value ends at the quote that closes it, or behind the end of the text if none does. -/
theorem closing (h : At bytes pos cs) :
    match closeQuote? cs with
    | some (raw, _) => Scanner.closing bytes pos = pos + (bytesOf raw).length
    | none => bytes.length ≤ Scanner.closing bytes pos := by
  fun_induction closeQuote? cs generalizing pos with
  | case1 =>
    have hlength := h.length
    have hle := le_closing bytes pos
    rw [bytesOf_nil, List.length_nil] at hlength
    show bytes.length ≤ Scanner.closing bytes pos
    omega
  | case2 rest => exact h.closing_quote
  | case3 =>
    have hlength := h.length
    have hle := le_closing bytes (pos + 2)
    show bytes.length ≤ Scanner.closing bytes pos
    rw [h.closing_slash]
    have hone : (bytesOf ['\\']).length = 1 := by rfl
    omega
  | case4 c rest ih =>
    have hrest := ih (h.next_ascii (by decide)).next
    rw [← h.closing_escape] at hrest
    cases hclose : closeQuote? rest with
    | none => simpa [hclose] using hrest
    | some p =>
      have hone : (String.utf8EncodeChar '\\').length = 1 := by rfl
      simp only [hclose, Option.map_some, bytesOf_cons, List.length_append, hone] at hrest ⊢
      omega
  | case5 c rest hquote hend hslash ih =>
    have hinner : IsInner c := ⟨hquote, ne_backslash hend hslash⟩
    have hrest := ih h.next
    rw [← h.closing_inner hinner] at hrest
    cases hclose : closeQuote? rest with
    | none => simpa [hclose] using hrest
    | some p =>
      simp only [hclose, Option.map_some, bytesOf_cons, List.length_append] at hrest ⊢
      omega

/-! ## Items -/

theorem getElem?_iff {d : Char} (h : At bytes pos cs) (hd : d.toNat < 0x80) :
    bytes[pos]? = some (UInt8.ofNat d.toNat) ↔ ∃ rest, cs = d :: rest := by
  rw [h.getElem?_eq]
  constructor
  · intro hbyte
    cases cs with
    | nil => cases hbyte
    | cons c cs =>
      obtain ⟨b, more, hc⟩ := exists_utf8EncodeChar c
      rw [bytesOf_cons, hc, List.cons_append, List.head?_cons, Option.some.injEq] at hbyte
      exact ⟨cs, congrArg (· :: cs) (eq_of_shape hd (hbyte ▸ hc ▸ shape_utf8EncodeChar c))⟩
  · rintro ⟨rest, rfl⟩
    rw [bytesOf_cons, Text.utf8EncodeChar_ascii hd]
    rfl

theorem opensValue_iff (h : At bytes pos cs) :
    opensValue bytes pos = true ↔ ∃ rest, cs = ':' :: '"' :: rest := by
  rw [opensValue_eq]
  constructor
  · rintro ⟨hcolon, hquote⟩
    obtain ⟨cs, rfl⟩ := (h.getElem?_iff (d := ':') (by decide)).1 hcolon
    obtain ⟨rest, rfl⟩ := ((h.next_ascii (by decide)).getElem?_iff (d := '"') (by decide)).1 hquote
    exact ⟨rest, rfl⟩
  · rintro ⟨rest, rfl⟩
    exact ⟨(h.getElem?_iff (d := ':') (by decide)).2 ⟨_, rfl⟩,
      ((h.next_ascii (by decide)).getElem?_iff (d := '"') (by decide)).2 ⟨_, rfl⟩⟩

end At

theorem item?_eq_none {cs : List Char}
    (h : cs.takeWhile isKeyChar = [] ∨ ¬ ∃ rest, cs.dropWhile isKeyChar = ':' :: '"' :: rest) :
    item? cs = none := by
  unfold item?
  split
  · rfl
  · rename_i rest hdrop hne
    exact absurd h (not_or.2 ⟨hne, not_not.2 ⟨rest, hdrop⟩⟩)
  · rfl

theorem item?_eq {cs rest : List Char} (hne : cs.takeWhile isKeyChar ≠ [])
    (hdrop : cs.dropWhile isKeyChar = ':' :: '"' :: rest) :
    item? cs =
      match closeQuote? rest with
      | none => none
      | some (raw, after) =>
        (unquote? raw).map fun value =>
          ((String.ofList (cs.takeWhile isKeyChar), String.ofList value), after) := by
  obtain ⟨c, key, hkey⟩ := List.exists_cons_of_ne_nil hne
  rw [item?, hdrop, hkey]
  rfl

/-- A step reads what is read from characters, and goes on where they do. -/
def Reads (bytes : Bytes) (step : Option Step) : Option (Item × List Char) → Prop
  | some (i, after) => ∃ next, step = some (.item i next) ∧ At bytes next after
  | none => step = some .stop

namespace At

variable {bytes : Bytes} {pos : ℕ} {cs rest : List Char}

theorem valueStep? (key : String) (h : At bytes pos cs) :
    Reads bytes (Scanner.valueStep? bytes key pos (Scanner.closing bytes pos))
      (match closeQuote? cs with
        | none => none
        | some (raw, after) => (unquote? raw).map fun value => ((key, String.ofList value), after)) := by
  have hclosing := h.closing
  unfold Scanner.valueStep?
  cases hclose : closeQuote? cs with
  | none =>
    rw [hclose] at hclosing
    exact if_pos hclosing
  | some p =>
    obtain ⟨raw, after⟩ := p
    rw [hclose] at hclosing
    obtain ⟨rfl, -⟩ := closeQuote?_eq_some_iff.1 hclose
    have hquote := h.advance
    have hlt : ¬ bytes.length ≤ pos + (bytesOf raw).length := Nat.not_le.2 (hquote.getElem_eq (by decide)).1
    rw [hclosing, if_neg hlt, h.cut?_eq]
    simp only [Option.map_some, String.toList_ofList]
    cases unquote? raw with
    | none => rfl
    | some value => exact ⟨_, rfl, hquote.next_ascii (by decide)⟩

/-- What stands at a position is read as the characters from there on are. -/
theorem step? (h : At bytes pos cs) : Reads bytes (Scanner.step? bytes pos) (item? cs) := by
  obtain ⟨hcolon, hrest⟩ := h.skip agrees_isKeyByte
  have hkey : At bytes pos (cs.takeWhile isKeyChar ++ cs.dropWhile isKeyChar) := by
    rwa [List.takeWhile_append_dropWhile]
  have hempty : Scanner.skip isKeyByte bytes pos = pos ↔ cs.takeWhile isKeyChar = [] := by
    rw [hcolon, Nat.add_eq_left, List.length_eq_zero_iff, bytesOf_eq_nil_iff]
  rw [Scanner.step?, keyStep?]
  split
  · rename_i hstop
    rw [Bool.or_eq_true, decide_eq_true_eq, hempty, Bool.not_eq_true', Bool.eq_false_iff, ne_eq,
      hrest.opensValue_iff] at hstop
    rw [item?_eq_none hstop]
    rfl
  · rename_i hgo
    rw [Bool.or_eq_true, decide_eq_true_eq, hempty, Bool.not_eq_true', Bool.eq_false_iff, ne_eq,
      hrest.opensValue_iff, not_or, not_not] at hgo
    obtain ⟨hne, rest, hdrop⟩ := hgo
    have hcut := hkey.cut?_eq
    rw [← hcolon] at hcut
    rw [hdrop] at hrest
    rw [item?_eq hne hdrop, hcut]
    exact ((hrest.next_ascii (by decide)).next_ascii (by decide)).valueStep? _

/-- The items from a position on are those of the characters from there on. -/
theorem scanFrom (h : At bytes pos cs) : Scanner.scanFrom bytes pos = some (items cs) := by
  fun_induction items cs generalizing pos with
  | case1 cs hnone =>
    have hstep := (h.skip agrees_isSpace).2.step?
    rw [hnone] at hstep
    exact scanFrom_stop hstep
  | case2 cs i after hsome ih =>
    have hstep := (h.skip agrees_isSpace).2.step?
    rw [hsome] at hstep
    obtain ⟨next, hnext, hafter⟩ := hstep
    rw [scanFrom_item hnext, ih hafter, Option.map_some]

end At

/-- No cut of a scan is refused, and it reads what is read from the characters. -/
theorem scan_eq (tag : String) : scan tag = some (parse tag) := by
  have hstart : At (Text.encode tag) 0 tag.toList := ⟨Nat.zero_le _, Text.encode_eq tag⟩
  exact hstart.scanFrom

end HttpService.Tag.Scanner

namespace HttpService

/-! ## Tags one behind the other -/

namespace Tag

/-- The whole tag is a sequence of items with spaces around them. -/
def Consumed (tag : String) : Prop :=
  ∃ read, Form.tolerated.Items tag.toList read

theorem parse_empty : parse "" = [] := Derive.items_nil

theorem parse_of_items {tag : String} {read : List Item} (h : Form.tolerated.Items tag.toList read) :
    parse tag = read := by
  have hread := (items_append h []).1
  rwa [List.append_nil, Derive.items_nil, List.append_nil] at hread

theorem Consumed.parse_append {front : String} (h : Consumed front) (rest : String) :
    parse (front ++ " " ++ rest) = parse front ++ parse rest := by
  obtain ⟨read, hread⟩ := h
  have hspace : (front ++ " " ++ rest).toList = front.toList ++ ' ' :: rest.toList := by simp
  rw [parse_of_items hread, parse, hspace, (items_append hread _).1, Derive.items_space]
  rfl

end Tag

namespace Derive.Tags

theorem ofAttributes_eq_ok_iff {attrs : List Attribute} {tag : String} :
    ofAttributes attrs = .ok tag ↔
      ∃ tags, (attrs.filter (·.path = ["tag"])).mapM (fun a => read a.arguments) = .ok tags ∧
        text tags = tag := by
  unfold ofAttributes
  cases (attrs.filter (·.path = ["tag"])).mapM (fun a => read a.arguments) with
  | error e => exact ⟨nofun, fun ⟨_, h, _⟩ => nomatch h⟩
  | ok tags =>
    exact ⟨fun h => ⟨tags, rfl, Except.ok.inj h⟩, fun ⟨_, h, ht⟩ => by cases h; exact congrArg _ ht⟩

theorem parse_text_append {tags : List Tags} (h : Tag.Consumed (text tags)) (more : List Tags) :
    Tag.parse (text (tags ++ more)) = Tag.parse (text tags) ++ Tag.parse (text more) := by
  have hsplit := h.parse_append (text more)
  unfold text Text.join at *
  rw [List.flatMap_append]
  by_cases hfront : tags.flatMap items = []
  · rw [hfront, String.intercalate_nil, Tag.parse_empty, List.nil_append, List.nil_append]
  · by_cases hmore : more.flatMap items = []
    · rw [hmore, String.intercalate_nil, Tag.parse_empty, List.append_nil, List.append_nil]
    · rw [String.intercalate_append_of_ne_nil hfront hmore, hsplit]

theorem ofAttributes_append {earlier later : List Attribute} {front rest : String}
    (hfront : ofAttributes earlier = .ok front) (hrest : ofAttributes later = .ok rest)
    (h : Tag.Consumed front) :
    ∃ tag, ofAttributes (earlier ++ later) = .ok tag ∧
      Tag.parse tag = Tag.parse front ++ Tag.parse rest := by
  obtain ⟨tags, htags, rfl⟩ := ofAttributes_eq_ok_iff.1 hfront
  obtain ⟨more, hmore, rfl⟩ := ofAttributes_eq_ok_iff.1 hrest
  refine ⟨text (tags ++ more), ofAttributes_eq_ok_iff.2 ⟨tags ++ more, ?_, rfl⟩,
    parse_text_append h more⟩
  rw [List.filter_append, List.mapM_append, htags, hmore]
  rfl

end Derive.Tags

namespace Tag

/-- **Tags are scanned within their bounds, and item by item.** For every text the scan ends, no cut of it is
refused, and it gives the items that are read from the characters. Behind a tag that is consumed as a whole
any text can follow: the items of both are read. So what a later attribute holds changes nothing of the items
of the earlier ones. -/
theorem parse_local :
    (∀ tag, Scanner.scan tag = some (parse tag)) ∧
      (∀ front rest, Consumed front → parse (front ++ " " ++ rest) = parse front ++ parse rest) ∧
      ∀ earlier later front rest, Derive.Tags.ofAttributes earlier = .ok front →
        Derive.Tags.ofAttributes later = .ok rest → Consumed front →
        ∃ tag, Derive.Tags.ofAttributes (earlier ++ later) = .ok tag ∧
          parse tag = parse front ++ parse rest :=
  ⟨Scanner.scan_eq, fun _ rest h => h.parse_append rest,
    fun _ _ _ _ hfront hrest h => Derive.Tags.ofAttributes_append hfront hrest h⟩

/-- The attribute `tag(path = "/a")`. -/
def pathAttribute : Derive.Attribute :=
  ⟨["tag"], .list [.word "path", .mark "=", .literal "\"/a\"" (some "/a")]⟩

/-- An attribute with a raw text that stops behind a backslash and a character of two bytes. -/
def brokenAttribute : Derive.Attribute :=
  ⟨["tag"], .list [.literal "r#\"dc:\"\\é\"#" (some "dc:\"\\é")]⟩

theorem parse_behind_broken_attribute :
    ∃ tag, Derive.Tags.ofAttributes ([pathAttribute] ++ [brokenAttribute]) = .ok tag ∧
      parse tag = [("path", "/a")] ∧ Scanner.scan tag = some [("path", "/a")] := by
  have hitems : Form.tolerated.Items "path:\"/a\"".toList [("path", "/a")] :=
    .plain "path".toList "/a".toList (by decide) (by decide) (by decide) .nil
  have hbroken : parse "dc:\"\\é" = [] := by
    rw [parse, items]
    rfl
  obtain ⟨hscan, -, hattributes⟩ := parse_local
  obtain ⟨tag, htag, hparse⟩ := hattributes [pathAttribute] [brokenAttribute] "path:\"/a\"" "dc:\"\\é"
    rfl rfl ⟨_, hitems⟩
  rw [parse_of_items hitems, hbroken, List.append_nil] at hparse
  exact ⟨tag, htag, hparse, (hscan tag).trans (congrArg some hparse)⟩

end Tag

end HttpService
