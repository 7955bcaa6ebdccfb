import HttpService.Derive.Reflection
import HttpService.Proofs.Basic
import HttpService.Shape

/-!
# Tags read back

The derivation writes the pairs of the `tag` attributes of a field as items `key:"value"`, and the
reading of tags gives the pairs back:

* `closeQuote?_escaped`, `unquote?_escaped`: the quote after an escaped value is the first one that no
  backslash precedes, and the escaped value means the value;
* `TagPair.items_item`: one item is read back, whatever follows it, and `parse_join` by induction all of
  them;
* `rawPieces_listed`, `TagList.read_tokens`: the tokens of an attribute are cut into its pairs again;
* `reflected_tag_reads_back`: a field whose `tag` attributes hold pairs is reflected with a tag that is
  read as these pairs in order, and both look-ups find the first value of a key.
-/

set_option autoImplicit false

namespace HttpService

theorem Text.replaceFrom_singleton (p : Char) (new cs : List Char) :
    Text.replaceFrom [p] new 0 cs = cs.flatMap fun c => if c = p then new else [c] := by
  induction cs with
  | nil => rfl
  | cons c cs ih =>
    rw [Text.replaceFrom, List.flatMap_cons, List.length_singleton, ih]
    by_cases h : c = p
    · rw [if_pos h, if_pos (by simp [h])]
    · rw [if_neg h, if_neg (by simpa using Ne.symm h)]
      rfl

/-! ## Values -/

namespace Tag

/-- How a character of a value is written. -/
def escapeChar (c : Char) : List Char :=
  if c = '\\' ∨ c = '"' then ['\\', c] else [c]

/-- How a value is written between its quotes. -/
def escaped (value : List Char) : List Char :=
  value.flatMap escapeChar

theorem escaped_cons (c : Char) (value : List Char) :
    escaped (c :: value) = escapeChar c ++ escaped value :=
  List.flatMap_cons

theorem closeQuote?_escapeChar (c : Char) (rest : List Char) :
    closeQuote? (escapeChar c ++ rest) =
      (closeQuote? rest).map fun (raw, after) => (escapeChar c ++ raw, after) := by
  unfold escapeChar
  split
  · rfl
  · rename_i h
    obtain ⟨hslash, hquote⟩ := not_or.1 h
    rw [List.singleton_append, closeQuote?]
    · rfl
    · exact hquote
    · exact fun h _ => hslash h
    · exact fun _ _ h _ => hslash h

/-- The quote after an escaped value closes it. -/
theorem closeQuote?_escaped (value rest : List Char) :
    closeQuote? (escaped value ++ '"' :: rest) = some (escaped value, rest) := by
  induction value with
  | nil => rfl
  | cons c value ih =>
    rw [escaped_cons, List.append_assoc, closeQuote?_escapeChar, ih]
    rfl

theorem unquote?_escapeChar (c : Char) (rest : List Char) :
    unquote? (escapeChar c ++ rest) = (unquote? rest).map (c :: ·) := by
  unfold escapeChar
  split
  · rename_i h
    rcases h with rfl | rfl <;> cases hrest : unquote? rest <;> simp [unquote?, unquote?.letter?, hrest]
  · rename_i h
    have hslash := (not_or.1 h).1
    rw [List.singleton_append, unquote?] <;> simp [hslash]

theorem unquote?_escaped (value : List Char) : unquote? (escaped value) = some value := by
  induction value with
  | nil => rfl
  | cons c value ih => rw [escaped_cons, unquote?_escapeChar, ih, Option.map_some]

end Tag

namespace Derive

theorem Tags.toList_escape (value : String) :
    (Tags.escape value).toList = Tag.escaped value.toList := by
  have hslash (s : String) : (Text.replace s "\\" "\\\\").toList =
      s.toList.flatMap fun c => if c = '\\' then ['\\', '\\'] else [c] :=
    (String.toList_ofList).trans (Text.replaceFrom_singleton ..)
  have hquote (s : String) : (Text.replace s "\"" "\\\"").toList =
      s.toList.flatMap fun c => if c = '"' then ['\\', '"'] else [c] :=
    (String.toList_ofList).trans (Text.replaceFrom_singleton ..)
  rw [Tags.escape, hquote, hslash, List.flatMap_assoc]
  refine congrArg value.toList.flatMap (funext fun c => ?_)
  by_cases h₁ : c = '\\'
  · subst h₁
    rfl
  · by_cases h₂ : c = '"'
    · subst h₂
      rfl
    · simp [Tag.escapeChar, h₁, h₂]

/-! ## Pairs in attributes -/

/-- Characters of a word: ASCII letters and digits, the underscore, and any character beyond ASCII, also
where that could not stand in an identifier. -/
def isNameChar (c : Char) : Bool :=
  c.isAlphanum || c = '_' || 0x80 ≤ c.toNat

/-- A pair as a `tag` attribute holds it. -/
structure TagPair where
  key : String
  value : String
  /-- Whether the key has the mark of a raw word. -/
  isRaw : Bool
  /-- How the literal of the value is written. -/
  source : String
  key_ne_empty : key ≠ ""
  isNameChar_key : key.toList.all isNameChar = true

namespace TagPair

variable (p : TagPair)

/-- The word of the key. -/
def word : String :=
  if p.isRaw then "r#" ++ p.key else p.key

/-- The pair as it is read, with its key as it is written. -/
def spelled : Tag.Item :=
  (p.word, p.value)

def tokens : List Token :=
  [.word p.word, .mark "=", .literal p.source (some p.value)]

/-- The pair that is meant. -/
def item : Tag.Item :=
  (p.key, p.value)

end TagPair

/-- The arguments of a `tag` attribute that holds pairs, with a comma after the last pair or without. -/
structure TagList where
  pairs : List TagPair
  trailing : Bool

namespace TagList

variable (l : TagList)

def tokens : List Token :=
  listed (l.pairs.map TagPair.tokens) ++ if l.trailing ∧ l.pairs ≠ [] then [.mark ","] else []

def toAttribute : Attribute :=
  ⟨["tag"], .list l.tokens⟩

end TagList

/-- The pairs that attributes mean together. -/
def tagItems (lists : List TagList) : List Tag.Item :=
  (lists.flatMap TagList.pairs).map TagPair.item

/-- The text that is made of them. -/
def tagText (lists : List TagList) : String :=
  Text.join " " ((lists.flatMap TagList.pairs).map fun p => Tags.item p.spelled)

/-! ## Items -/

theorem isKeyChar_of_isNameChar {c : Char} (h : isNameChar c = true) : Tag.isKeyChar c = true := by
  have hne {d : Char} (hd : isNameChar d = false) : c ≠ d := fun he => by rw [he, hd] at h; cases h
  have hspace : 32 < c.toNat := by
    have hlow : ∀ n < 33, isNameChar (Char.ofNat n) = false := by decide
    exact Nat.lt_of_not_le fun hle =>
      hne (hlow c.toNat (Nat.lt_succ_of_le hle)) (Char.ofNat_toNat c).symm
  have hdel : c.toNat ≠ 0x7F := fun he =>
    hne (d := Char.ofNat 0x7F) (by decide) (he ▸ (Char.ofNat_toNat c).symm)
  simp only [Tag.isKeyChar, Bool.and_eq_true, decide_eq_true_eq, bne_iff_ne]
  exact ⟨⟨⟨hspace, hne (by decide)⟩, hne (by decide)⟩, hdel⟩

namespace TagPair

variable (p : TagPair)

theorem isNameChar_of_mem_key {c : Char} (h : c ∈ p.key.toList) : isNameChar c = true :=
  List.all_eq_true.1 p.isNameChar_key c h

theorem hash_not_mem_key : '#' ∉ p.key.toList :=
  fun h => absurd (p.isNameChar_of_mem_key h) (by decide)

theorem exists_key_eq : ∃ c cs, p.key.toList = c :: cs := by
  cases h : p.key.toList with
  | nil => exact absurd (String.toList_eq_nil_iff.1 h) p.key_ne_empty
  | cons c cs => exact ⟨c, cs, rfl⟩

theorem plainKey_word : Tags.plainKey p.word = p.key := by
  rw [Tags.plainKey, Text.dropFront?, word]
  split
  · simp only [String.toList_append]
    exact String.ofList_toList
  · have hfront : "r#".toList.isPrefixOf p.key.toList = false := by
      rw [Bool.eq_false_iff, ne_eq, List.isPrefixOf_iff_prefix]
      exact fun h => p.hash_not_mem_key (h.subset (by decide))
    rw [hfront]
    rfl

theorem toList_item (rest : List Char) :
    (Tags.item p.spelled).toList ++ rest =
      p.key.toList ++ ':' :: '"' :: (Tag.escaped p.value.toList ++ '"' :: rest) := by
  simp [Tags.item, spelled, plainKey_word, Tags.toList_escape]

theorem item?_item (rest : List Char) :
    Tag.item? ((Tags.item p.spelled).toList ++ rest) = some (p.item, rest) := by
  have hkey : ∀ c ∈ p.key.toList, Tag.isKeyChar c = true :=
    fun c hc => isKeyChar_of_isNameChar (p.isNameChar_of_mem_key hc)
  obtain ⟨c, cs, hcs⟩ := p.exists_key_eq
  rw [toList_item, Tag.item?, List.takeWhile_append_of_pos hkey, List.dropWhile_append_of_pos hkey,
    List.takeWhile_cons_of_neg (by decide), List.dropWhile_cons_of_neg (by decide), List.append_nil,
    hcs]
  simp only [Tag.closeQuote?_escaped, Tag.unquote?_escaped, Option.map_some]
  rw [← hcs, String.ofList_toList, String.ofList_toList]
  rfl

theorem items_item (rest : List Char) :
    Tag.items ((Tags.item p.spelled).toList ++ rest) = p.item :: Tag.items rest := by
  have hspace : ((Tags.item p.spelled).toList ++ rest).dropWhile (· = ' ') =
      (Tags.item p.spelled).toList ++ rest := by
    obtain ⟨c, cs, hcs⟩ := p.exists_key_eq
    rw [toList_item, hcs]
    refine List.dropWhile_cons_of_neg fun hc => ?_
    have hname : isNameChar c = true := p.isNameChar_of_mem_key (hcs ▸ .head _)
    rw [of_decide_eq_true hc] at hname
    exact absurd hname (by decide)
  rw [Tag.items, hspace, item?_item]

end TagPair

theorem items_space (rest : List Char) : Tag.items (' ' :: rest) = Tag.items rest := by
  rw [Tag.items, Tag.items, List.dropWhile_cons_of_pos (by decide)]

theorem items_nil : Tag.items [] = [] := by
  rw [Tag.items]
  rfl

/-- The items of pairs, joined by spaces, are read as the pairs. -/
theorem parse_join (pairs : List TagPair) :
    Tag.parse (Text.join " " (pairs.map fun p => Tags.item p.spelled)) =
      pairs.map TagPair.item := by
  rw [Tag.parse]
  induction pairs with
  | nil => exact items_nil
  | cons p rest ih =>
    cases rest with
    | nil =>
      have hitem := p.items_item []
      rw [List.append_nil, items_nil] at hitem
      rw [List.map_singleton, Text.join, String.intercalate_singleton, hitem, List.map_singleton]
    | cons q rest =>
      rw [List.map_cons, List.map_cons, Text.join, String.intercalate_cons_cons, String.toList_append,
        String.toList_append, List.append_assoc, p.items_item, List.map_cons, ← ih]
      exact congrArg _ (items_space _)

/-! ## Attributes -/

/-- Tokens among which nothing separates or nests. -/
def Plain (ts : List Token) : Prop :=
  ∀ t ∈ ts, t ≠ .mark "," ∧ t.opens = false ∧ t.closes = false

theorem splitAt_append {ts : List Token} (h : Plain ts) (piece rest : List Token) :
    Token.splitAt "," Token.opens Token.closes 0 piece (ts ++ rest) =
      Token.splitAt "," Token.opens Token.closes 0 (piece ++ ts) rest := by
  induction ts generalizing piece with
  | nil => rw [List.nil_append, List.append_nil]
  | cons t ts ih =>
    obtain ⟨⟨hsep, hopens, hcloses⟩, hts⟩ := List.forall_mem_cons.1 h
    rw [List.cons_append, Token.splitAt, if_neg (fun he => hsep he.2), hopens, hcloses]
    simp only [Bool.false_eq_true, if_false]
    rw [ih hts, List.append_assoc, List.singleton_append]

theorem rawPieces_append {ts : List Token} (h : Plain ts) (rest : List Token) :
    Attribute.rawPieces (ts ++ .mark "," :: rest) = ts :: Attribute.rawPieces rest := by
  rw [Attribute.rawPieces, splitAt_append h, Token.splitAt, if_pos ⟨rfl, rfl⟩]
  rfl

theorem rawPieces_of_plain {ts : List Token} (h : Plain ts) : Attribute.rawPieces ts = [ts] := by
  have hsplit := splitAt_append h [] []
  rwa [List.append_nil, List.nil_append] at hsplit

theorem TagPair.plain_tokens (p : TagPair) : Plain p.tokens := by
  simp [Plain, tokens, Token.opens, Token.closes]

theorem rawPieces_listed (p : TagPair) (pairs : List TagPair) (trailing : Bool) :
    Attribute.rawPieces (listed ((p :: pairs).map TagPair.tokens) ++
        if trailing then [.mark ","] else []) =
      (p :: pairs).map TagPair.tokens ++ if trailing then [[]] else [] := by
  induction pairs generalizing p with
  | nil =>
    have hlisted : listed ([p].map TagPair.tokens) = p.tokens := List.append_nil _
    cases trailing with
    | false =>
      rw [hlisted, if_neg Bool.false_ne_true, if_neg Bool.false_ne_true, List.append_nil,
        rawPieces_of_plain p.plain_tokens]
      rfl
    | true =>
      rw [hlisted, if_pos rfl, if_pos rfl, rawPieces_append p.plain_tokens]
      rfl
  | cons q rest ih =>
    have hlisted : listed ((p :: q :: rest).map TagPair.tokens) =
        p.tokens ++ .mark "," :: listed ((q :: rest).map TagPair.tokens) := rfl
    rw [hlisted, List.append_assoc, List.cons_append, rawPieces_append p.plain_tokens, ih]
    rfl

/-- The tokens of an attribute are cut into its pairs again; a comma after the last one leaves an empty
piece, and so does an attribute without pairs. -/
theorem TagList.rawPieces_tokens (l : TagList) :
    Attribute.rawPieces l.tokens =
      l.pairs.map TagPair.tokens ++ if l.trailing ∨ l.pairs = [] then [[]] else [] := by
  rw [tokens]
  cases hpairs : l.pairs with
  | nil => simp [listed, Attribute.rawPieces, Token.splitAt]
  | cons p pairs => simpa using rawPieces_listed p pairs l.trailing

theorem TagPair.readPair_tokens (p : TagPair) (last : Bool) :
    Tags.readPair last p.tokens = .ok p.spelled :=
  rfl

theorem readPairs_tokens (pairs : List TagPair) {rest : List (List Token)}
    (hrest : rest = [[]] ∨ rest = []) :
    Tags.readPairs (pairs.map TagPair.tokens ++ rest) = .ok (pairs.map TagPair.spelled) := by
  induction pairs with
  | nil => rcases hrest with rfl | rfl <;> rfl
  | cons p pairs ih =>
    rw [List.map_cons, List.cons_append, Tags.readPairs, p.readPair_tokens, ih]
    · rfl
    · nofun

theorem TagList.read_tokens (l : TagList) :
    Tags.read (.list l.tokens) = .ok (.pairs (l.pairs.map TagPair.spelled)) := by
  have hread : Tags.read (.list l.tokens) =
      (Tags.readPairs (Attribute.rawPieces l.tokens)).map .pairs := by
    rw [tokens]
    cases l.pairs with
    | nil =>
      rw [if_neg fun h => h.2 rfl]
      rfl
    | cons p pairs => cases pairs <;> rfl
  rw [hread, l.rawPieces_tokens, readPairs_tokens l.pairs (by split <;> simp)]
  rfl

theorem ofAttributes_tagLists {attrs : List Attribute} {lists : List TagList}
    (h : attrs.filter (·.path = ["tag"]) = lists.map TagList.toAttribute) :
    Tags.ofAttributes attrs = .ok (tagText lists) := by
  have hread : (lists.map TagList.toAttribute).mapM (fun a => Tags.read a.arguments) =
      .ok (lists.map fun l => .pairs (l.pairs.map TagPair.spelled)) := by
    clear h
    induction lists with
    | nil => rfl
    | cons l lists ih =>
      rw [List.map_cons, List.mapM_cons, ih, TagList.toAttribute, l.read_tokens]
      rfl
  rw [Tags.ofAttributes, h, hread]
  show Except.ok _ = _
  rw [tagText, Tags.text, List.flatMap_map, List.map_flatMap]
  simp only [Tags.items, List.map_map]
  rfl

end Derive

/-! ## Fields -/

theorem Tag.find?_toMap (tag key : String) : Assoc.find? key (toMap tag) = lookup tag key := by
  rw [toMap, Assoc.find?_foldl_insertNew]
  rfl

theorem Family.find?_metadata {F : Family} {s : Shape} {id : StructId} {m : Field}
    (hs : s.struct? = some id) (hm : (F.get id).marker? = some m) (key : String) :
    Assoc.find? key (F.metadata s) = Tag.lookup m.tag key := by
  rw [metadata, hs]
  simp only [hm, Tag.find?_toMap]

namespace Derive.FieldDecl

/-- A field whose `tag` attributes hold pairs, however the pairs are split over them and whatever other
attributes stand between, is reflected with a tag that is read as these pairs in order; a look-up in the
tag and one in the metadata of a struct that the field marks find the first value of a key. -/
theorem reflected_tag_reads_back (f : FieldDecl) (style : Option Casing) (lists : List TagList)
    (h : f.attributes.filter (·.path = ["tag"]) = lists.map TagList.toAttribute) :
    ∃ r, f.reflect style = .ok r ∧
      Tag.parse r.tag = tagItems lists ∧
      ∀ key, Tag.lookup r.tag key = (tagItems lists).lookup key ∧
        ∀ (F : Family) (s : Shape) (id : StructId) (m : Field),
          s.struct? = some id → (F.get id).marker? = some m → m.tag = r.tag →
          Assoc.find? key (F.metadata s) = (tagItems lists).lookup key := by
  have hparse : Tag.parse (tagText lists) = tagItems lists := parse_join _
  have hlookup (key : String) : Tag.lookup (tagText lists) key = (tagItems lists).lookup key := by
    rw [Tag.lookup, hparse, Assoc.find?_eq_lookup]
  have hreflect : ∃ r, f.reflect style = .ok r ∧ r.tag = tagText lists := by
    rw [reflect, ofAttributes_tagLists h]
    exact ⟨_, rfl, rfl⟩
  obtain ⟨r, hr, htext⟩ := hreflect
  rw [← htext] at hparse hlookup
  refine ⟨r, hr, hparse, fun key => ⟨hlookup key, ?_⟩⟩
  intro F s id m hs hm htag
  rw [Family.find?_metadata hs hm, htag]
  exact hlookup key

/-- A raw key with a comma at the end, and then two pairs, the second under the same key. -/
def markedTwice : List TagList :=
  [⟨[⟨"type", "say \"hi\" \\", true, "r#\"say \"hi\" \\\"#", by decide, by decide⟩], true⟩,
    ⟨[⟨"имя", "é\n", false, "\"é\\n\"", by decide, by decide⟩,
      ⟨"type", "later", false, "\"later\"", by decide, by decide⟩], false⟩]

/-- The attributes of a marker that is documented too. -/
def documented : List Attribute :=
  ⟨["doc"], .value [.ofText "Greets."]⟩ :: markedTwice.map TagList.toAttribute

theorem reflected_tag_with_raw_key :
    ∃ r, reflect none ⟨"meta", "Meta", documented⟩ = .ok r ∧
      Tag.parse r.tag = [("type", "say \"hi\" \\"), ("имя", "é\n"), ("type", "later")] ∧
      Tag.lookup r.tag "type" = some "say \"hi\" \\" ∧
      Assoc.find? "type" (Family.metadata ⟨[⟨"Hello", [⟨"meta", "meta", r.tag, "", false, .marker⟩]⟩]⟩
        (.struct 0)) = some "say \"hi\" \\" := by
  obtain ⟨r, hr, hparse, hlookup⟩ :=
    reflected_tag_reads_back ⟨"meta", "Meta", documented⟩ none markedTwice (by decide)
  obtain ⟨hfirst, hmetadata⟩ := hlookup "type"
  exact ⟨r, hr, hparse, hfirst, hmetadata _ _ 0 _ rfl rfl rfl⟩

end Derive.FieldDecl

end HttpService
