import HttpService.Route.Path
import Mathlib.Data.List.Forall2

/-!
# Normal paths and documented paths

A path is written from its segments, and its segments are read back (`segments_ofSegments`), so that
writing it a second time changes nothing (`normalise_normalise`), two paths are written alike just if they
have the same segments (`normalise_eq_iff`), and a joined path has the segments of its parts
(`segments_join`). Its documented form does not tell every
path from every other: `documented_eq_iff` says that it leaves open how a parameter was written, and
whether it was one.
-/

set_option autoImplicit false

namespace HttpService

namespace Text

variable {sep : Char}

theorem not_mem_of_mem_splitChars {cs piece : List Char} (h : piece ∈ splitChars sep cs) :
    sep ∉ piece := by
  induction cs generalizing piece with
  | nil =>
    rw [List.mem_singleton.1 h]
    exact List.not_mem_nil
  | cons c cs ih =>
    rw [splitChars] at h
    split at h
    · rcases List.mem_cons.1 h with rfl | h
      · exact List.not_mem_nil
      · exact ih h
    · rename_i hc
      split at h
      · rw [List.mem_singleton.1 h, List.mem_singleton]
        exact Ne.symm hc
      · rename_i first rest hsplit
        rcases List.mem_cons.1 h with rfl | h
        · have hfirst : sep ∉ first := ih (hsplit ▸ .head _)
          simp [hfirst, Ne.symm hc]
        · exact ih (hsplit ▸ .tail _ h)

/-- What stands before the first separator belongs to the first piece. -/
theorem splitChars_append {front cs piece : List Char} {pieces : List (List Char)}
    (hfront : sep ∉ front) (h : splitChars sep cs = piece :: pieces) :
    splitChars sep (front ++ cs) = (front ++ piece) :: pieces := by
  induction front with
  | nil => exact h
  | cons c front ih =>
    rw [List.mem_cons, not_or] at hfront
    rw [List.cons_append, splitChars, if_neg (Ne.symm hfront.1), ih hfront.2]
    rfl

theorem splitChars_append_sep (front back : List Char) :
    splitChars sep (front ++ sep :: back) = splitChars sep front ++ splitChars sep back := by
  induction front with
  | nil => simp [splitChars]
  | cons c front ih =>
    rw [List.cons_append, splitChars, splitChars, ih]
    split
    · rfl
    · obtain ⟨piece, pieces, hsplit⟩ := List.exists_cons_of_ne_nil (splitChars_ne_nil sep front)
      rw [hsplit]
      rfl

/-- A separator that nothing or another separator follows leaves an empty piece. -/
theorem nil_mem_splitChars (front : List Char) {back : List Char} {pieces : List (List Char)}
    (h : splitChars sep back = [] :: pieces) : [] ∈ (splitChars sep (front ++ sep :: back)).tail := by
  obtain ⟨first, rest, hfront⟩ := List.exists_cons_of_ne_nil (splitChars_ne_nil sep front)
  rw [splitChars_append_sep, hfront, h, List.cons_append, List.tail_cons]
  exact List.mem_append_right _ (.head _)

/-- What was joined is split into its pieces again. -/
theorem splitChars_intercalate {pieces : List (List Char)} (hne : pieces ≠ [])
    (h : ∀ piece ∈ pieces, sep ∉ piece) : splitChars sep (List.intercalate [sep] pieces) = pieces := by
  induction pieces with
  | nil => exact absurd rfl hne
  | cons piece rest ih =>
    cases rest with
    | nil =>
      rw [List.intercalate_singleton, ← List.append_nil piece,
        splitChars_append (h piece (.head _)) rfl]
    | cons next rest =>
      have hrest := ih (List.cons_ne_nil _ _) fun p hp => h p (.tail _ hp)
      rw [List.intercalate_cons_cons, List.append_assoc, List.singleton_append]
      have hsplit :
          splitChars sep (sep :: List.intercalate [sep] (next :: rest)) = [] :: next :: rest := by
        rw [splitChars, if_pos rfl, hrest]
      rw [splitChars_append (h piece (.head _)) hsplit, List.append_nil]

end Text

namespace Path

/-- What stands between slashes: not empty, and without a slash. -/
def IsSegment (segment : List Char) : Prop :=
  segment ≠ [] ∧ '/' ∉ segment

theorem isSegment_of_mem_segments {cs segment : List Char} (h : segment ∈ segments cs) :
    IsSegment segment := by
  obtain ⟨hmem, hne⟩ := List.mem_filter.1 h
  exact ⟨of_decide_eq_true hne, Text.not_mem_of_mem_splitChars hmem⟩

/-- The pieces of slashed segments: the segments, after what stands before the first slash. -/
theorem splitChars_slashed {segs : List (List Char)} (h : ∀ s ∈ segs, IsSegment s) :
    Text.splitChars '/' (segs.flatMap ('/' :: ·)) = [] :: segs := by
  induction segs with
  | nil => rfl
  | cons s segs ih =>
    have hrest := ih fun t ht => h t (.tail _ ht)
    rw [List.flatMap_cons, List.cons_append, Text.splitChars, if_pos rfl,
      Text.splitChars_append (h s (.head _)).2 hrest, List.append_nil]

theorem segments_ofSegments {segs : List (List Char)} (h : ∀ s ∈ segs, IsSegment s) :
    segments (ofSegments segs) = segs := by
  cases segs with
  | nil => rfl
  | cons s ss =>
    show segments ((s :: ss).flatMap ('/' :: ·)) = s :: ss
    rw [segments, splitChars_slashed h, List.filter_cons_of_neg (by simp)]
    exact List.filter_eq_self.2 fun t ht => decide_eq_true (h t ht).1

theorem segments_normalise (path : String) :
    segments (normalise path).toList = segments path.toList := by
  rw [normalise, String.toList_ofList, segments_ofSegments fun _ => isSegment_of_mem_segments]

/-- The written form says of a path just its segments. -/
theorem normalise_eq_iff {p q : String} :
    normalise p = normalise q ↔ segments p.toList = segments q.toList := by
  refine ⟨fun h => ?_, fun h => by rw [normalise, h, normalise]⟩
  rw [← segments_normalise p, h, segments_normalise]

theorem normalise_normalise (path : String) : normalise (normalise path) = normalise path :=
  normalise_eq_iff.2 (segments_normalise path)

/-- A written path: a slash starts it, none follows another, and none ends it unless it is the root. -/
structure IsWritten (path : String) : Prop where
  starts : path.toList.head? = some '/'
  apart : ¬ ['/', '/'] <:+: path.toList
  ends : path ≠ "/" → path.toList.getLast? ≠ some '/'

theorem isWritten_normalise (path : String) : IsWritten (normalise path) := by
  have hsegs : ∀ s ∈ segments path.toList, IsSegment s := fun _ => isSegment_of_mem_segments
  have hchars : (normalise path).toList = ofSegments (segments path.toList) := String.toList_ofList
  cases hcases : segments path.toList with
  | nil =>
    have hroot : normalise path = "/" := by
      rw [normalise, hcases]
      rfl
    rw [hroot]
    exact ⟨rfl, by decide, fun h => absurd rfl h⟩
  | cons s segs =>
    rw [hcases] at hsegs hchars
    have hsplit : Text.splitChars '/' (normalise path).toList = [] :: s :: segs :=
      hchars ▸ splitChars_slashed hsegs
    have hfull (front : List Char) {back : List Char}
        (hback : ∃ pieces, Text.splitChars '/' back = [] :: pieces) :
        (normalise path).toList ≠ front ++ '/' :: back := fun he => by
      obtain ⟨pieces, hpieces⟩ := hback
      have hnil := Text.nil_mem_splitChars front hpieces
      rw [← he, hsplit] at hnil
      exact (hsegs [] hnil).1 rfl
    refine ⟨by rw [hchars]; rfl, fun ⟨front, back, he⟩ => ?_, fun _ hlast => ?_⟩
    · have hback : Text.splitChars '/' ('/' :: back) = [] :: Text.splitChars '/' back := if_pos rfl
      refine hfull front ⟨_, hback⟩ ?_
      rw [← he, List.append_assoc]
      rfl
    · obtain ⟨front, he⟩ := List.getLast?_eq_some_iff.1 hlast
      exact hfull front ⟨[], rfl⟩ he

theorem segments_append (front back : List Char) :
    segments (front ++ '/' :: back) = segments front ++ segments back := by
  rw [segments, Text.splitChars_append_sep, List.filter_append]
  rfl

theorem segments_slash (a b : String) :
    segments (a ++ "/" ++ b).toList = segments a.toList ++ segments b.toList := by
  rw [String.toList_append, String.toList_append, List.append_assoc]
  exact segments_append _ _

theorem segments_join (paths : List String) :
    segments (Text.join "/" paths).toList = paths.flatMap fun path => segments path.toList := by
  induction paths with
  | nil => rfl
  | cons path rest ih =>
    cases rest with
    | nil => rw [Text.join, String.intercalate_singleton, List.flatMap_singleton]
    | cons next rest =>
      rw [Text.join, String.intercalate_cons_cons, segments_slash, List.flatMap_cons, ← ih]
      rfl

/-- What the matcher reads of a written path starts with a slash. -/
theorem pattern_of_normal {path : String} (h : normalise path = path) :
    ∃ cs, (pattern path).toList = '/' :: cs := by
  have hchars : ∃ cs, path.toList = '/' :: cs := by
    rw [← h, normalise, String.toList_ofList]
    cases segments path.toList with
    | nil => exact ⟨[], rfl⟩
    | cons s segs => exact ⟨s ++ segs.flatMap ('/' :: ·), rfl⟩
  obtain ⟨cs, hcs⟩ := hchars
  obtain ⟨piece, pieces, hsplit⟩ := List.exists_cons_of_ne_nil (Text.splitChars_ne_nil '/' cs)
  rw [pattern, hcs, Text.splitChars, if_pos rfl, hsplit, List.map_cons, List.map_cons, Text.join,
    String.intercalate_cons_cons, String.toList_append, String.toList_append]
  exact ⟨_, rfl⟩

/-! ## Documented forms -/

/-- A name in braces. -/
def braced (name : List Char) : List Char :=
  '\x7b' :: name ++ ['\x7d']

/-- The segments that are documented as a name in braces: a parameter, a rest, and the braces
themselves. -/
def namings (name : List Char) : List (List Char) :=
  [':' :: name, '*' :: name, braced name]

/-- Segments with one documented form: equal ones, and all that are documented as one name. -/
inductive AlikeSegment : List Char → List Char → Prop
  | refl (segment : List Char) : AlikeSegment segment segment
  | named (name : List Char) {a b : List Char} (ha : a ∈ namings name) (hb : b ∈ namings name) :
      AlikeSegment a b

/-- Paths that differ at most in how names are written in their segments. -/
def Alike (p q : String) : Prop :=
  List.Forall₂ AlikeSegment (Text.splitChars '/' p.toList) (Text.splitChars '/' q.toList)

/-- The documented form of a segment. -/
def shown (segment : List Char) : List Char :=
  match segment with
  | ':' :: name => braced name
  | '*' :: name => braced name
  | _ => segment

theorem toList_documented (path : String) : (documented path).toList =
    List.intercalate ['/'] ((Text.splitChars '/' path.toList).map shown) := by
  rw [documented, Text.join, String.toList_intercalate, List.map_map]
  refine congrArg (List.intercalate ['/']) (List.map_congr_left fun segment _ => ?_)
  unfold Function.comp parameter? shown
  split <;> simp [braced, String.toList_append]

theorem braced_mem_namings (name : List Char) : braced name ∈ namings name := by
  simp [namings]

theorem shown_of_naming {segment name : List Char} (h : segment ∈ namings name) :
    shown segment = braced name := by
  simp only [namings, List.mem_cons, List.not_mem_nil, or_false] at h
  rcases h with rfl | rfl | rfl <;> rfl

theorem shown_cases (segment : List Char) :
    (∃ name, segment ∈ namings name) ∨ shown segment = segment := by
  unfold shown
  split
  · exact .inl ⟨_, .head _⟩
  · exact .inl ⟨_, .tail _ (.head _)⟩
  · exact .inr rfl

theorem slash_not_mem_shown {segment : List Char} (h : '/' ∉ segment) : '/' ∉ shown segment := by
  unfold shown
  split <;> simp_all [braced]

theorem braced_inj {a b : List Char} (h : braced a = braced b) : a = b :=
  List.append_cancel_right (List.cons.inj h).2

theorem shown_eq_iff {a b : List Char} : shown a = shown b ↔ AlikeSegment a b := by
  constructor
  · intro h
    rcases shown_cases a with ⟨name, ha⟩ | ha <;> rcases shown_cases b with ⟨name', hb⟩ | hb
    · rw [shown_of_naming ha, shown_of_naming hb] at h
      exact .named name ha (braced_inj h ▸ hb)
    · rw [shown_of_naming ha, hb] at h
      exact .named name ha (h ▸ braced_mem_namings name)
    · rw [ha, shown_of_naming hb] at h
      exact .named name' (h ▸ braced_mem_namings name') hb
    · rw [ha, hb] at h
      exact h ▸ .refl a
  · intro h
    cases h with
    | refl => rfl
    | named name ha hb => rw [shown_of_naming ha, shown_of_naming hb]

/-- The documented form says of a path just what alike paths have in common. -/
theorem documented_eq_iff {p q : String} : documented p = documented q ↔ Alike p q := by
  have hsplit (path : String) : Text.splitChars '/' (documented path).toList =
      (Text.splitChars '/' path.toList).map shown := by
    rw [toList_documented]
    refine Text.splitChars_intercalate (by simp [Text.splitChars_ne_nil]) fun piece hpiece => ?_
    obtain ⟨segment, hsegment, rfl⟩ := List.mem_map.1 hpiece
    exact slash_not_mem_shown (Text.not_mem_of_mem_splitChars hsegment)
  have hshown : documented p = documented q ↔
      (Text.splitChars '/' p.toList).map shown = (Text.splitChars '/' q.toList).map shown := by
    refine ⟨fun h => by rw [← hsplit, ← hsplit, h], fun h => ?_⟩
    rw [← String.toList_inj, toList_documented, toList_documented, h]
  rw [hshown, Alike, ← List.forall₂_eq_eq_eq, List.forall₂_map_left_iff, List.forall₂_map_right_iff]
  simp only [shown_eq_iff]

instance (p q : String) : Decidable (Alike p q) :=
  decidable_of_iff _ documented_eq_iff

end Path

end HttpService
