import HttpService.Derive.Reflection
import HttpService.Proofs.Text.Words

/-!
# Names on the wire

Serialised data has the names of its members by a rule of its own, which goes character by character
(`published`); the reflection restyles the words of a name (`Casing.rename`). The two give the same name just
if the words start where the rule sees them start (`rename_eq_iff`): where it writes a separator
(`separated`), or where it keeps a capital (`humped`).
-/

set_option autoImplicit false

namespace HttpService

open Text (Look Place PlainCase PlainName LetterCase startsWord)

namespace Casing

/-! ## The published rule -/

/-- The letter behind an underscore becomes a capital, and the underscore goes. -/
def pascalField (capital : Bool) : List Char → List Char
  | [] => []
  | c :: cs =>
    if c = '_' then pascalField true cs
    else (if capital then c.toUpper else c) :: pascalField false cs

/-- Every capital but one at the front gets an underscore. -/
def snakeVariant (inner : Bool) : List Char → List Char
  | [] => []
  | c :: cs => (if inner && Text.isUpper c then ['_'] else []) ++ c.toLower :: snakeVariant true cs

def withHyphens (cs : List Char) : List Char :=
  cs.map fun c => if c = '_' then '-' else c

/-- The name of a field in serialised data. -/
def publishedField (cs : List Char) : Casing → List Char
  | .lower | .snake => cs
  | .upper | .screamingSnake => cs.map Char.toUpper
  | .pascal => pascalField true cs
  | .camel => (pascalField true cs).modifyHead Char.toLower
  | .kebab => withHyphens cs
  | .screamingKebab => withHyphens (cs.map Char.toUpper)

/-- The name of a variant in serialised data. -/
def publishedVariant (cs : List Char) : Casing → List Char
  | .pascal => cs
  | .camel => cs.modifyHead Char.toLower
  | .lower => cs.map Char.toLower
  | .upper => cs.map Char.toUpper
  | .snake => snakeVariant false cs
  | .screamingSnake => (snakeVariant false cs).map Char.toUpper
  | .kebab => withHyphens (snakeVariant false cs)
  | .screamingKebab => withHyphens ((snakeVariant false cs).map Char.toUpper)

/-- The name of a member in serialised data. -/
def published (style : Casing) (member : Member) (name : String) : String :=
  String.ofList <| match member with
    | .field => style.publishedField name.toList
    | .variant => style.publishedVariant name.toList

/-! ## Names for which the rules agree -/

/-- Words start behind each underscore and at each marked character, and nowhere else; the name does not start
or end with an underscore, nor does it have two together. -/
def separated (mark : Char → Bool) : Place → List Char → Bool
  | .between, [] => false
  | _, [] => true
  | .first, c :: cs => c != '_' && separated mark (.inside (.next .unknown c)) cs
  | .between, c :: cs => c != '_' && !mark c && separated mark (.inside (.next .unknown c)) cs
  | .inside before, c :: cs =>
    if c = '_' then separated mark .between cs
    else (startsWord before c cs == mark c) && separated mark (.inside (before.next c)) cs

/-- Words start at each capital. -/
def humped : Place → List Char → Bool
  | _, [] => true
  | place, c :: cs =>
    if c = '_' then humped place.behind cs
    else
      match place with
      | .inside before => (!Text.isUpper c || startsWord before c cs) && humped (.inside (before.next c)) cs
      | _ => humped (.inside (.next .unknown c)) cs

def hasCapital (cs : List Char) : Bool :=
  cs.any Text.isUpper

/-- The fields whose names agree in a style. -/
def regularField (cs : List Char) : Casing → Bool
  | .upper | .snake => true
  | .lower => !hasCapital cs
  | .pascal | .camel => humped .first cs
  | .screamingSnake | .screamingKebab => separated (fun _ => false) .first cs
  | .kebab => separated (fun _ => false) .first cs && !hasCapital cs

/-- The variants whose names agree in a style. -/
def regularVariant (cs : List Char) : Casing → Bool
  | .lower | .upper => true
  | .pascal => !cs.contains '_' && !cs.head?.any Text.isLower && humped .first cs
  | .camel => !cs.contains '_' && humped .first cs
  | .snake | .screamingSnake | .kebab | .screamingKebab => separated Text.isUpper .first cs

def regular (style : Casing) (member : Member) (name : String) : Bool :=
  match member with
  | .field => style.regularField name.toList
  | .variant => style.regularVariant name.toList

/-! ## Styles with separators -/

/-- Words in one case with a separator between them. -/
@[simps]
def separatedLook (sep : Char) (h : Char → Char) : Look where
  between := [sep]
  first := h
  start := h
  inner := h

/-- The rule of the styles with separators: one for each underscore and, inside, one before each marked
character. -/
def separatedRule (sep : Char) (mark : Char → Bool) (u : Char → Char) (inner : Bool) :
    List Char → List Char
  | [] => []
  | c :: cs =>
    (if inner && mark c then [sep] else []) ++
      (if c = '_' then sep else u c) :: separatedRule sep mark u true cs

/-- What the rule has written where a word starts, ends or goes on. -/
def separatedAt (sep : Char) (mark : Char → Bool) (u : Char → Char) : Place → List Char → List Char
  | .first, cs => separatedRule sep mark u false cs
  | .between, cs => sep :: separatedRule sep mark u true cs
  | .inside _, cs => separatedRule sep mark u true cs

section

variable {sep : Char} {mark : Char → Bool} {h u : Char → Char}

/-- The two ways agree from a place on just if words start where the rule writes separators, and letters are
written alike. -/
theorem render_eq_separatedAt (hmark : mark '_' = false)
    (hh : ∀ c, PlainCase c → h c ≠ sep) (hu : ∀ c, PlainCase c → u c ≠ sep) {cs : List Char}
    (hplain : PlainName cs) (place : Place) :
    (separatedLook sep h).render place cs = separatedAt sep mark u place cs ↔
      separated mark place cs = true ∧ ∀ c ∈ cs, c ≠ '_' → h c = u c := by
  induction cs generalizing place with
  | nil => cases place <;> simp [Look.render, separatedAt, separatedRule, separated]
  | cons c cs ih =>
    obtain ⟨hc, hcs⟩ := List.forall_mem_cons.1 hplain
    have hfront := (separatedLook sep h).render_cases hcs
    by_cases hline : c = '_'
    · subst hline
      cases place with
      | first =>
        -- The rule starts with a separator, the words with a letter.
        rcases hfront with ⟨hfirst, -⟩ | ⟨d, rest, hd, hfirst, -⟩
        · simp [Look.render, Place.behind, separatedAt, separatedRule, separated, hfirst]
        · simp [Look.render, Place.behind, separatedAt, separatedRule, separated, hfirst, hh d hd]
      | between =>
        -- The rule writes a second separator, the words go on with a letter.
        rcases hfront with ⟨-, hbetween⟩ | ⟨d, rest, hd, -, hbetween⟩
        · simp [Look.render, Place.behind, separatedAt, separatedRule, separated, hmark, hbetween]
        · simp [Look.render, Place.behind, separatedAt, separatedRule, separated, hmark, hbetween, hh d hd]
      | inside before =>
        have hbetween := ih hcs .between
        simpa [Look.render, Place.behind, separatedAt, separatedRule, separated, hmark] using hbetween
    · have hchar := hc.resolve_left hline
      have hinside (before : LetterCase) :
          (separatedLook sep h).render (.inside before) cs = separatedRule sep mark u true cs ↔
            separated mark (.inside before) cs = true ∧ ∀ d ∈ cs, ¬ d = '_' → h d = u d := ih hcs _
      cases place with
      | first =>
        simp [Look.render, separatedAt, separatedRule, separated, hline, hinside, and_left_comm]
      | between =>
        cases hm : mark c <;>
          simp [Look.render, separatedAt, separatedRule, separated, hline, hinside, hm, hh c hchar,
            and_left_comm]
      | inside before =>
        -- Where just one of the two writes a separator, the other writes a letter.
        cases hs : startsWord before c cs <;> cases hm : mark c <;>
          simp [Look.render, separatedAt, separatedRule, separated, hline, hinside, hs, hm, hh c hchar,
            (hu c hchar).symm, and_left_comm]

end

/-- A separator that is rewritten, and letters that are. -/
theorem map_separatedRule {sep sep' : Char} {u u' f : Char → Char} (mark : Char → Bool)
    (hsep : f sep = sep') (hu : ∀ c, c ≠ '_' → f (u c) = u' c) (inner : Bool) (cs : List Char) :
    (separatedRule sep mark u inner cs).map f = separatedRule sep' mark u' inner cs := by
  induction cs generalizing inner with
  | nil => rfl
  | cons c cs ih =>
    have hc : f (if c = '_' then sep else u c) = if c = '_' then sep' else u' c := by
      split
      · exact hsep
      · exact hu c ‹_›
    rw [separatedRule, List.map_append, List.map_cons, ih, hc, separatedRule]
    split <;> simp [hsep]

theorem eq_separatedRule (inner : Bool) (cs : List Char) :
    cs = separatedRule '_' (fun _ => false) id inner cs := by
  induction cs generalizing inner with
  | nil => rfl
  | cons c cs ih =>
    rw [separatedRule, ← ih]
    by_cases hline : c = '_' <;> simp [hline]

theorem snakeVariant_eq (inner : Bool) (cs : List Char) :
    snakeVariant inner cs = separatedRule '_' Text.isUpper Char.toLower inner cs := by
  induction cs generalizing inner with
  | nil => rfl
  | cons c cs ih =>
    have hc : c.toLower = if c = '_' then '_' else c.toLower := by
      split
      · rename_i hline
        rw [hline]
        rfl
      · rfl
    rw [snakeVariant, ih, separatedRule, ← hc]

theorem toLower_ne_of_plain {c : Char} (hc : c.isAlpha = false) (hplain : Text.isAlphanumeric c = false)
    (d : Char) (hd : PlainCase d) : d.toLower ≠ c :=
  Text.toLower_ne hc (hd.ne hplain)

theorem toUpper_ne_of_plain {c : Char} (hc : c.isAlpha = false) (hplain : Text.isAlphanumeric c = false)
    (d : Char) (hd : PlainCase d) : d.toUpper ≠ c :=
  Text.toUpper_ne hc (hd.ne hplain)

theorem map_toUpper_eq (cs : List Char) :
    cs.map Char.toUpper = separatedRule '_' (fun _ => false) Char.toUpper false cs := by
  conv_lhs => rw [eq_separatedRule false cs]
  exact map_separatedRule _ rfl (fun _ _ => rfl) false cs

theorem upperSnakeVariant_eq (cs : List Char) :
    (snakeVariant false cs).map Char.toUpper = separatedRule '_' Text.isUpper Char.toUpper false cs := by
  rw [snakeVariant_eq]
  exact map_separatedRule _ rfl (fun c _ => Char.toUpper_toLower_eq_toUpper c) false cs

theorem withHyphens_separatedRule (mark : Char → Bool) {u : Char → Char}
    (hu : ∀ c, c ≠ '_' → u c ≠ '_') (cs : List Char) :
    withHyphens (separatedRule '_' mark u false cs) = separatedRule '-' mark u false cs :=
  map_separatedRule mark rfl (fun c hc => if_neg (hu c hc)) false cs

theorem withHyphens_eq (cs : List Char) :
    withHyphens cs = separatedRule '-' (fun _ => false) id false cs := by
  conv_lhs => rw [eq_separatedRule false cs]
  exact withHyphens_separatedRule _ (fun _ => id) cs

/-! ## Styles with capitals -/

/-- Words with a capital at the front, and the first one as a style has it. -/
@[simps]
def humpedLook (onFirst : Char → Char) : Look where
  between := []
  first c := onFirst c.toUpper
  start := Char.toUpper
  inner := Char.toLower

/-- What the rule has written from a place on. -/
def humpedAt (onFirst : Char → Char) : Place → List Char → List Char
  | .first, cs => (pascalField true cs).modifyHead onFirst
  | .between, cs => pascalField true cs
  | .inside _, cs => pascalField false cs

/-- A character inside a run is kept by the words just if it is no capital or starts a word. -/
theorem inner_eq_iff {c : Char} (hc : PlainCase c) (before : LetterCase) (cs : List Char) :
    (if startsWord before c cs then c.toUpper else c.toLower) = c ↔
      (!Text.isUpper c || startsWord before c cs) = true := by
  split
  · rename_i hstarts
    have hupper : c.isUpper = true := by
      rw [← hc.isUpper]
      exact (Bool.and_eq_true .. ▸ hstarts : _ ∧ _).1
    rw [hstarts, Bool.or_true, Text.toUpper_eq_self_iff]
    exact iff_of_true (Bool.eq_false_iff.2 (Char.not_isLower_of_isUpper hupper)) rfl
  · rename_i hstays
    rw [Text.toLower_eq_self_iff, ← hc.isUpper, Bool.eq_false_iff.2 hstays, Bool.or_false, Bool.not_eq_true']

/-- The two ways agree from a place on just if words start at each capital. -/
theorem render_eq_humpedAt (onFirst : Char → Char) {cs : List Char} (hplain : PlainName cs) (place : Place) :
    (humpedLook onFirst).render place cs = humpedAt onFirst place cs ↔ humped place cs = true := by
  induction cs generalizing place with
  | nil => cases place <;> simp [Look.render, humpedAt, pascalField, humped]
  | cons c cs ih =>
    obtain ⟨hc, hcs⟩ := List.forall_mem_cons.1 hplain
    by_cases hline : c = '_'
    · subst hline
      have hrest := ih hcs place.behind
      cases place <;> simpa [Look.render, Place.behind, humpedAt, pascalField, humped] using hrest
    · have hchar := hc.resolve_left hline
      have hinside (before : LetterCase) :
          (humpedLook onFirst).render (.inside before) cs = pascalField false cs ↔
            humped (.inside before) cs = true := ih hcs _
      cases place with
      | first => simp [Look.render, humpedAt, pascalField, humped, hline, hinside]
      | between => simp [Look.render, humpedAt, pascalField, humped, hline, hinside]
      | inside before =>
        have hletter := inner_eq_iff hchar before cs
        simp only [Look.render, if_neg hline, humpedAt, pascalField, humped]
        cases hs : startsWord before c cs <;>
          simp_all

/-! ## Words of a style -/

theorem intercalate_cons {α : Type} (sep x : List α) (xs : List (List α)) :
    List.intercalate sep (x :: xs) = x ++ xs.flatMap (sep ++ ·) := by
  induction xs generalizing x with
  | nil => simp
  | cons y xs ih =>
    rw [List.intercalate_cons_cons, ih, List.flatMap_cons, List.append_assoc, List.append_assoc]

theorem toList_join {look : Look} {sep : String} (hsep : sep.toList = look.between)
    (hstart : look.first = look.start) {f : List Char → List Char} {ws : List (List Char)}
    (hf : ∀ w ∈ ws, f w = look.word look.start w) :
    (Text.join sep (ws.map fun w => String.ofList (f w))).toList = look.words ws := by
  have hmap : (ws.map fun w => String.ofList (f w)).map String.toList = ws.map (look.word look.start) := by
    rw [List.map_map]
    exact List.map_congr_left fun w hw => (String.toList_ofList).trans (hf w hw)
  rw [Text.join, String.toList_intercalate, hmap, hsep]
  cases ws with
  | nil => rfl
  | cons w ws =>
    rw [List.map_cons, intercalate_cons, List.flatMap_map, Look.words, hstart]
    rfl

theorem capitalWord_eq (onFirst : Char → Char) {w : List Char} (h : ∀ c ∈ w, PlainCase c) :
    Text.capitalWord w = (humpedLook onFirst).word Char.toUpper w := by
  cases w with
  | nil => rfl
  | cons c w =>
    obtain ⟨hc, hw⟩ := List.forall_mem_cons.1 h
    rw [Text.capitalWord, hc.toUpper, Text.lowerWord_eq hw]
    rfl

theorem separatedWord_eq (sep : Char) (h : Char → Char) (w : List Char) :
    (separatedLook sep h).word h w = w.map h := by
  cases w <;> rfl

section

variable {name : String} (hname : PlainName name.toList)

include hname

theorem toList_separated (sep : String) {c : Char} (hsep : sep.toList = [c]) {h : Char → Char}
    {f : List Char → List Char} (hf : ∀ w, (∀ c ∈ w, PlainCase c) → f w = w.map h) :
    (joined name sep f).toList = (separatedLook c h).render .first name.toList := by
  rw [joined, ← Look.render_eq _ hname]
  refine toList_join hsep rfl fun w hw => ?_
  rw [hf w (Text.plainCase_of_caseWords hname hw)]
  exact (separatedWord_eq c h w).symm

theorem toList_pascal :
    (joined name "" Text.capitalWord).toList = (humpedLook id).render .first name.toList := by
  rw [joined, ← Look.render_eq _ hname]
  exact toList_join rfl rfl fun w hw => capitalWord_eq id (Text.plainCase_of_caseWords hname hw)

theorem camelWords_eq :
    camelWords (Text.caseWords name) = (humpedLook Char.toLower).render .first name.toList := by
  rw [← Look.render_eq _ hname]
  have hplain := fun w => Text.plainCase_of_caseWords (w := w) hname
  cases hwords : Text.caseWords name with
  | nil => rfl
  | cons w ws =>
    rw [hwords] at hplain
    have hfirst : Text.lowerWord w = (humpedLook Char.toLower).word (humpedLook Char.toLower).first w := by
      have hw := hplain w (.head _)
      cases w with
      | nil => rfl
      | cons c w =>
        rw [Text.lowerWord_eq hw, Look.word, humpedLook_first, Char.toLower_toUpper_eq_toLower]
        rfl
    have hothers : ws.flatMap Text.capitalWord = (humpedLook Char.toLower).others ws :=
      List.flatMap_congr fun v hv => capitalWord_eq _ (hplain v (.tail _ hv))
    rw [camelWords, hfirst, hothers, Look.words]

end

/-! ## Agreement -/

/-- Words without a separator have as many characters as the name has besides underscores. -/
theorem length_render_humpedLook (onFirst : Char → Char) (place : Place) (cs : List Char) :
    ((humpedLook onFirst).render place cs).length = (cs.filter (· ≠ '_')).length := by
  induction cs generalizing place with
  | nil => rfl
  | cons c cs ih =>
    by_cases hline : c = '_'
    · simp [Look.render, hline, ih]
    · cases place <;> simp [Look.render, hline, ih]
      split <;> exact Nat.add_comm _ _

theorem pascalField_of_not_mem {cs : List Char} (h : '_' ∉ cs) : pascalField false cs = cs := by
  induction cs with
  | nil => rfl
  | cons c cs ih =>
    rw [List.mem_cons, not_or] at h
    rw [pascalField, if_neg (Ne.symm h.1), ih h.2]
    rfl

/-- A variant without underscores keeps the letters behind the first one. -/
theorem render_variant_iff (onFirst : Char → Char) {cs : List Char} (hplain : PlainName cs)
    (kept : Char → Char) :
    (humpedLook onFirst).render .first cs = cs.modifyHead kept ↔
      '_' ∉ cs ∧ (∀ c ∈ cs.head?, onFirst c.toUpper = kept c) ∧ humped .first cs = true := by
  by_cases hline : '_' ∈ cs
  · have hshort : (cs.filter (· ≠ '_')).length < cs.length :=
      List.length_filter_lt_length_iff_exists.2 ⟨'_', hline, by simp⟩
    refine iff_of_false (fun h => ?_) fun h => h.1 hline
    have hlength := congrArg List.length h
    rw [length_render_humpedLook, List.length_modifyHead] at hlength
    omega
  · cases cs with
    | nil => simp [Look.render, humped]
    | cons c cs =>
      rw [List.mem_cons, not_or] at hline
      have hcs : PlainName cs := fun d hd => hplain d (.tail _ hd)
      have hinside := render_eq_humpedAt onFirst hcs (.inside (.next .unknown c))
      rw [humpedAt, pascalField_of_not_mem hline.2] at hinside
      simp [Look.render, humped, Ne.symm hline.1, hline.1, hline.2, hinside]

section

variable {name : String} (hname : PlainName name.toList)

include hname

/-- What the two ways agree on in the styles with a separator. -/
theorem separated_iff {sep : String} {c : Char} (hsep : sep.toList = [c]) {h u : Char → Char}
    {mark : Char → Bool} (hmark : mark '_' = false) {f : List Char → List Char}
    (hf : ∀ w, (∀ c ∈ w, PlainCase c) → f w = w.map h) (hline : h '_' = u '_')
    (hh : ∀ d, PlainCase d → h d ≠ c) (hu : ∀ d, PlainCase d → u d ≠ c) :
    (joined name sep f).toList = separatedRule c mark u false name.toList ↔
      separated mark .first name.toList = true ∧ ∀ d ∈ name.toList, h d = u d := by
  have hsame : (∀ d ∈ name.toList, d ≠ '_' → h d = u d) ↔ ∀ d ∈ name.toList, h d = u d := by
    refine forall₂_congr fun d _ => ⟨fun hd => ?_, fun hd _ => hd⟩
    by_cases hd' : d = '_'
    · rw [hd', hline]
    · exact hd hd'
  rw [toList_separated hname sep hsep hf, ← hsame]
  exact render_eq_separatedAt hmark hh hu hname .first

theorem separated_iff_of_same {sep : String} {c : Char} (hsep : sep.toList = [c]) {h : Char → Char}
    {mark : Char → Bool} (hmark : mark '_' = false) {f : List Char → List Char}
    (hf : ∀ w, (∀ c ∈ w, PlainCase c) → f w = w.map h) (hh : ∀ d, PlainCase d → h d ≠ c) :
    (joined name sep f).toList = separatedRule c mark h false name.toList ↔
      separated mark .first name.toList = true := by
  rw [separated_iff hname hsep hmark hf rfl hh hh, and_iff_left fun _ _ => rfl]

theorem not_hasCapital_iff : (!hasCapital name.toList) = true ↔ ∀ d ∈ name.toList, d.toLower = d := by
  rw [hasCapital, Bool.not_eq_true', List.any_eq_false]
  refine forall₂_congr fun d hd => ?_
  rcases hname d hd with rfl | hplain
  · decide
  · rw [Text.toLower_eq_self_iff, ← hplain.isUpper, Bool.not_eq_true]

theorem not_lower_head_iff :
    (!name.toList.head?.any Text.isLower) = true ↔ ∀ c ∈ name.toList.head?, c.toUpper = c := by
  cases hcs : name.toList with
  | nil => simp
  | cons c cs =>
    have hlower : Text.isLower c = c.isLower := by
      rcases hname c (by rw [hcs]; exact .head _) with rfl | hplain
      · decide
      · exact hplain.isLower
    simp [hlower, Text.toUpper_eq_self_iff]

theorem rename_field_iff (style : Casing) :
    style.rename .field name = style.published .field name ↔ style.regular .field name = true := by
  rw [← String.toList_inj, published, String.toList_ofList]
  cases style with
  | lower =>
    have hkept : name.toList.map Char.toLower = name.toList ↔ ∀ d ∈ name.toList, d.toLower = d := by
      conv_lhs => rhs; rw [← List.map_id name.toList]
      exact List.map_inj_left
    rw [rename, Text.toList_lowercase hname, publishedField, hkept, ← not_hasCapital_iff hname]
    rfl
  | upper =>
    rw [rename, Text.toList_uppercase hname]
    exact iff_of_true rfl rfl
  | pascal =>
    rw [rename, toList_pascal hname]
    have h := render_eq_humpedAt id hname .first
    rwa [humpedAt, List.modifyHead_id] at h
  | camel =>
    rw [rename, String.toList_ofList, camelWords_eq hname]
    exact render_eq_humpedAt Char.toLower hname .first
  | snake => exact iff_of_true rfl rfl
  | screamingSnake =>
    rw [rename, publishedField, map_toUpper_eq]
    exact separated_iff_of_same hname rfl rfl (fun _ => Text.upperWord_eq) (toUpper_ne_of_plain rfl rfl)
  | kebab =>
    rw [rename, publishedField, withHyphens_eq, regular, regularField, Bool.and_eq_true,
      not_hasCapital_iff hname]
    exact separated_iff hname rfl rfl (fun _ => Text.lowerWord_eq) rfl (toLower_ne_of_plain rfl rfl)
      fun d hd => hd.ne rfl
  | screamingKebab =>
    rw [rename, publishedField, map_toUpper_eq,
      withHyphens_separatedRule _ fun c hc => Text.toUpper_ne rfl hc]
    exact separated_iff_of_same hname rfl rfl (fun _ => Text.upperWord_eq) (toUpper_ne_of_plain rfl rfl)

theorem rename_variant_iff (style : Casing) :
    style.rename .variant name = style.published .variant name ↔ style.regular .variant name = true := by
  rw [← String.toList_inj, published, String.toList_ofList]
  cases style with
  | lower =>
    rw [rename, Text.toList_lowercase hname]
    exact iff_of_true rfl rfl
  | upper =>
    rw [rename, Text.toList_uppercase hname]
    exact iff_of_true rfl rfl
  | pascal =>
    have hkept := render_variant_iff id hname id
    rw [List.modifyHead_id] at hkept
    rw [rename, toList_pascal hname, publishedVariant, regular, regularVariant, Bool.and_eq_true,
      Bool.and_eq_true, not_lower_head_iff hname, and_assoc, Bool.not_eq_true', ← Bool.not_eq_true,
      List.contains_iff_mem]
    exact hkept
  | camel =>
    have hkept := render_variant_iff Char.toLower hname Char.toLower
    rw [and_iff_right fun c _ => Char.toLower_toUpper_eq_toLower c] at hkept
    rw [rename, String.toList_ofList, camelWords_eq hname, publishedVariant, regular, regularVariant,
      Bool.and_eq_true, Bool.not_eq_true', ← Bool.not_eq_true, List.contains_iff_mem]
    exact hkept
  | snake =>
    rw [rename, publishedVariant, snakeVariant_eq]
    exact separated_iff_of_same hname rfl rfl (fun _ => Text.lowerWord_eq) (toLower_ne_of_plain rfl rfl)
  | screamingSnake =>
    rw [rename, publishedVariant, upperSnakeVariant_eq]
    exact separated_iff_of_same hname rfl rfl (fun _ => Text.upperWord_eq) (toUpper_ne_of_plain rfl rfl)
  | kebab =>
    rw [rename, publishedVariant, snakeVariant_eq,
      withHyphens_separatedRule _ fun c hc => Text.toLower_ne rfl hc]
    exact separated_iff_of_same hname rfl rfl (fun _ => Text.lowerWord_eq) (toLower_ne_of_plain rfl rfl)
  | screamingKebab =>
    rw [rename, publishedVariant, upperSnakeVariant_eq,
      withHyphens_separatedRule _ fun c hc => Text.toUpper_ne rfl hc]
    exact separated_iff_of_same hname rfl rfl (fun _ => Text.upperWord_eq) (toUpper_ne_of_plain rfl rfl)

end

/-- A restyled name is the published one just if the name is regular for the style. -/
theorem rename_eq_iff {name : String} (hname : PlainName name.toList) (style : Casing) (member : Member) :
    style.rename member name = style.published member name ↔ style.regular member name = true := by
  cases member with
  | field => exact rename_field_iff hname style
  | variant => exact rename_variant_iff hname style

end Casing

namespace Derive

/-! ## Reflected names -/

/-- A member to which its attributes give no name is shown under its published name just if its own name is
regular for the style. -/
def Matches (style : Casing) (member : Member) (name : String) (attributes : List Attribute)
    (shown : String) : Prop :=
  (WireName.ofAttributes attributes).rename = none → PlainName name.toList →
    (shown = style.published member name ↔ style.regular member name = true)

theorem matches_wireName (style : Casing) (member : Member) (name : String) (attributes : List Attribute) :
    Matches style member name attributes
      (wireName (some style) member name (WireName.ofAttributes attributes)) := by
  intro hrename hname
  rw [wireName, hrename, Option.getD_none]
  exact Casing.rename_eq_iff hname style member

theorem reflect_matches (style : Casing) {f : FieldDecl} {tag : String}
    (htag : Tags.ofAttributes f.attributes = .ok tag) :
    ∃ shown, f.reflect (some style) = .ok shown ∧
      Matches style .field (Tags.plainKey f.name) f.attributes shown.key := by
  rw [FieldDecl.reflect, htag]
  exact ⟨_, rfl, matches_wireName style .field _ _⟩

theorem fields_match (style : Casing) {fields : List FieldDecl}
    (htags : ∀ f ∈ fields, ∃ tag, Tags.ofAttributes f.attributes = .ok tag) :
    ∃ shown, fields.mapM (·.reflect (some style)) = .ok shown ∧
      List.Forall₂ (fun f r => Matches style .field (Tags.plainKey f.name) f.attributes r.key) fields
        shown := by
  induction fields with
  | nil => exact ⟨[], rfl, .nil⟩
  | cons f fields ih =>
    obtain ⟨⟨tag, htag⟩, hrest⟩ := List.forall_mem_cons.1 htags
    obtain ⟨first, hfirst, hmatches⟩ := reflect_matches style htag
    obtain ⟨shown, hshown, hall⟩ := ih hrest
    refine ⟨first :: shown, ?_, .cons hmatches hall⟩
    rw [List.mapM_cons, hfirst, hshown]
    rfl

theorem variantNames_cons (style : Option Casing) {v : VariantDecl} {variants : List VariantDecl}
    {names : List String} (hunit : v.holds = false) (hnames : variantNames style variants = .ok names) :
    variantNames style (v :: variants) =
      .ok (if (WireName.ofAttributes v.attributes).skip then names
        else wireName style .variant v.name (WireName.ofAttributes v.attributes) :: names) := by
  rw [variantNames, hunit, hnames]
  rfl

theorem derive_of_shape {d : Declaration} {shape : ReflectedShape} (h : d.shape = .ok shape) :
    ∃ r, d.derive = .ok r ∧ r.shape = shape := by
  rw [Declaration.derive, h]
  exact ⟨_, rfl, rfl⟩

theorem variants_match (style : Casing) {variants : List VariantDecl}
    (hunits : ∀ v ∈ variants, v.holds = false) :
    ∃ names, variantNames (some style) variants = .ok names ∧
      List.Forall₂ (fun v name => Matches style .variant v.name v.attributes name)
        (variants.filter fun v => !(WireName.ofAttributes v.attributes).skip) names := by
  induction variants with
  | nil => exact ⟨[], rfl, .nil⟩
  | cons v variants ih =>
    obtain ⟨hunit, hrest⟩ := List.forall_mem_cons.1 hunits
    obtain ⟨names, hnames, hall⟩ := ih hrest
    rw [variantNames_cons (some style) hunit hnames]
    cases hskip : (WireName.ofAttributes v.attributes).skip with
    | true =>
      rw [List.filter_cons_of_neg (by simp [hskip]), if_pos rfl]
      exact ⟨names, rfl, hall⟩
    | false =>
      rw [List.filter_cons_of_pos (by simp [hskip]), if_neg Bool.false_ne_true]
      exact ⟨_, rfl, .cons (matches_wireName style .variant _ _) hall⟩

/-- **Reflected names and serialised names.** A type with a case style whose fields have readable tags, or
whose variants hold no values, is reflected. Each of its fields, named without the mark of a raw word, and
each of its variants that is not skipped is shown under the name that serialised data has for it just if its
name is regular for the style. Members that are given a name, and names with letters whose case is not that
of ASCII, are left out. -/
theorem reflected_names_match (d : Declaration) (style : Casing) (hstyle : d.style = some style) :
    (∀ fields, d.body = .fields fields →
      (∀ f ∈ fields, ∃ tag, Tags.ofAttributes f.attributes = .ok tag) →
      ∃ r shown, d.derive = .ok r ∧ r.shape = .struct d.name shown ∧
        List.Forall₂ (fun f r => Matches style .field (Tags.plainKey f.name) f.attributes r.key) fields
          shown) ∧
    ∀ variants, d.body = .variants variants → (∀ v ∈ variants, v.holds = false) →
      ∃ r names, d.derive = .ok r ∧ r.shape = .enum names ∧
        List.Forall₂ (fun v name => Matches style .variant v.name v.attributes name)
          (variants.filter fun v => !(WireName.ofAttributes v.attributes).skip) names := by
  constructor
  · intro fields hbody htags
    obtain ⟨shown, hshown, hall⟩ := fields_match style htags
    have hshape : d.shape = .ok (.struct d.name shown) := by
      rw [Declaration.shape, hbody, hstyle]
      simp only [hshown]
      rfl
    obtain ⟨r, hr, hrshape⟩ := derive_of_shape hshape
    exact ⟨r, shown, hr, hrshape, hall⟩
  · intro variants hbody hunits
    obtain ⟨names, hnames, hall⟩ := variants_match style hunits
    have hshape : d.shape = .ok (.enum names) := by
      rw [Declaration.shape, hbody, hstyle]
      simp only [hnames]
      rfl
    obtain ⟨r, hr, hrshape⟩ := derive_of_shape hshape
    exact ⟨r, names, hr, hrshape, hall⟩

/-- The attribute `serde(rename_all = "..")`. -/
def renameAll (style : String) : Attribute :=
  ⟨["serde"], .list [.word "rename_all", .mark "=", .ofText style]⟩

/-- A field with an underscore, and one whose name is a raw word. -/
def account : Declaration :=
  ⟨"Account", {}, [renameAll "camelCase"],
    .fields [⟨"user_id", "u64", []⟩, ⟨"r#type", "String", []⟩]⟩

/-- Variants of several words, the second one skipped. -/
def status : Declaration :=
  ⟨"Status", {}, [renameAll "snake_case"],
    .variants [⟨"OnHold", "", []⟩, ⟨"Gone", "", [⟨["serde"], .list [.word "skip"]⟩]⟩,
      ⟨"MovedTo2Nd", "", []⟩]⟩

theorem regular_names_shown :
    (∃ r shown, account.derive = .ok r ∧ r.shape = .struct "Account" shown ∧
      shown.map (·.key) = ["userId", "type"]) ∧
    ∃ r, status.derive = .ok r ∧ r.shape = .enum ["on_hold", "moved_to2_nd"] := by
  have hplain (name : String) (h : name.toList.all (fun c => c == '_' || c.isAlphanum) = true) :
      PlainName name.toList := Text.plainName_of_ascii h
  constructor
  · obtain ⟨r, shown, hr, hshape, hall⟩ := (reflected_names_match account .camel (by decide)).1 _ rfl
      (List.forall_mem_cons.2 ⟨⟨"", rfl⟩, List.forall_mem_singleton.2 ⟨"", rfl⟩⟩)
    refine ⟨r, shown, hr, hshape, ?_⟩
    cases hall with
    | cons hid hrest =>
      cases hrest with
      | cons htype hrest =>
        cases hrest
        have hidKey := (hid rfl (hplain "user_id" (by decide))).2 (by decide)
        have htypeKey := (htype rfl (hplain "type" (by decide))).2 (by decide)
        rw [List.map_cons, List.map_singleton, hidKey, htypeKey]
        decide
  · obtain ⟨r, names, hr, hshape, hall⟩ :=
      (reflected_names_match status .snake (by decide)).2 _ rfl (by decide)
    refine ⟨r, hr, ?_⟩
    have hkept : List.Forall₂
        (fun (v : VariantDecl) name => Matches .snake .variant v.name v.attributes name)
        [⟨"OnHold", "", []⟩, ⟨"MovedTo2Nd", "", []⟩] names := hall
    cases hkept with
    | cons hhold hrest =>
      cases hrest with
      | cons hmoved hrest =>
        cases hrest
        rw [hshape, (hhold rfl (hplain "OnHold" (by decide))).2 (by decide),
          (hmoved rfl (hplain "MovedTo2Nd" (by decide))).2 (by decide)]
        decide

/-- A type of one member without attributes. -/
def single (style : String) (body : Body) : Declaration :=
  ⟨"Item", {}, [renameAll style], body⟩

/-- The capitals of an acronym are one word, and the published name has them apart; an underscore at the front
of a field goes, and the published name keeps it, as it keeps a capital in the lower style. -/
theorem acronym_not_published :
    (∃ r, (single "snake_case" (.variants [⟨"HTTPServer", "", []⟩])).derive = .ok r ∧
      r.shape = .enum ["http_server"] ∧
      Casing.published .snake .variant "HTTPServer" = "h_t_t_p_server") ∧
    (∃ r, (single "SCREAMING_SNAKE_CASE" (.fields [⟨"_id", "u64", []⟩])).derive = .ok r ∧
      r.shape = .struct "Item" [⟨"_id", "ID", "", "", false, "u64"⟩] ∧
      Casing.published .screamingSnake .field "_id" = "_ID") ∧
    ∃ r, (single "lowercase" (.fields [⟨"userID", "u64", []⟩])).derive = .ok r ∧
      r.shape = .struct "Item" [⟨"userID", "userid", "", "", false, "u64"⟩] ∧
      Casing.published .lower .field "userID" = "userID" := by
  refine ⟨⟨_, rfl, ?_, ?_⟩, ⟨_, rfl, ?_, ?_⟩, ⟨_, rfl, ?_, ?_⟩⟩
  all_goals decide

end Derive

end HttpService
