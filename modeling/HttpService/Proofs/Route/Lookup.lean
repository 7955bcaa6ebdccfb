import HttpService.Binding.Bind
import HttpService.Proofs.Route.Matching

/-!
# Looking up a route

`select?` is the pattern that a path leads to, whatever stands under the patterns. A table built by
insertions keeps, for each pattern that a method accepted, the one entry that was put under it
(`holdsAt_insertAll`, `eq_of_holdsAt`), and a look-up finds the entry of the pattern that the method, or
`GET` for `HEAD`, selects (`lookup_of_selects`). `lookup_trichotomy` says what a look-up answers in every
case, and that neither the order of the methods nor the choice between `HEAD` and `GET` matters where it
should not.
-/

set_option autoImplicit false

namespace HttpService

namespace Matcher

variable {α β γ : Type}

/-- The pattern that a path leads to, with the parameters that the pattern names. -/
def select? (m : Matcher α) (path : String) : Option (Pattern × PathParameters) :=
  (search (m.map fun row => (row.1, row.1)) [] path.toList).map fun (p, values) =>
    (p, (names p).zip (values.map String.ofList))

/-! ## What a path leads to does not depend on what stands there -/

theorem follow_map (q : PatternStep → Bool) (f : β → γ) (rows : List (Pattern × β)) :
    follow q (rows.map fun row => (row.1, f row.2)) =
      (follow q rows).map fun row => (row.1, f row.2) := by
  induction rows with
  | nil => rfl
  | cons row rows ih =>
    obtain ⟨left, b⟩ := row
    unfold follow at ih ⊢
    cases left with
    | nil => simpa using ih
    | cons step steps => by_cases h : q step = true <;> simpa [h] using ih

theorem search_map (f : β → γ) (rows : List (Pattern × β)) (taken : List (List Char))
    (path : List Char) :
    search (rows.map fun row => (row.1, f row.2)) taken path =
      (search rows taken path).map fun found => (f found.1, found.2) := by
  fun_induction search rows taken path with
  | case1 rows taken path hempty =>
    rw [List.isEmpty_iff.1 hempty, search.eq_def]
    rfl
  | case2 rows taken hne =>
    rw [search.eq_def]
    simp [hne, List.find?_map, Function.comp_def]
  | case3 rows taken hne c cs found hliteral ih =>
    rw [search.eq_def]
    simp only [follow_map, ih, hliteral]
    simp [hne]
  | case4 rows taken hne c cs hliteral segment viaParameter found hparameter ih₁ ih₂ =>
    rw [search.eq_def]
    by_cases hslash : c = '/'
    · simp [viaParameter, hslash] at hparameter
    · simp only [viaParameter, hslash, dite_false] at hparameter
      simp only [follow_map, ih₁, ih₂, hliteral, hparameter, hslash, segment]
      simp [hne]
  | case5 rows taken hne c cs hliteral segment viaParameter hparameter ih₁ ih₂ =>
    rw [search.eq_def]
    by_cases hslash : c = '/'
    · subst hslash
      simp only [follow_map, ih₁, hliteral]
      simp [hne, Function.comp_def]
    · simp only [viaParameter, hslash, dite_false] at hparameter
      simp only [follow_map, ih₁, ih₂, hliteral, hparameter, hslash, segment]
      simp [hne, Function.comp_def]

theorem select?_eq (m : Matcher α) (path : String) :
    m.select? path = (search (m.map fun row => (row.1, row)) [] path.toList).map fun found =>
      (found.1.1, (names found.1.1).zip (found.2.map String.ofList)) := by
  have hrows : (m.map fun row => (row.1, row.1)) =
      (m.map fun row => (row.1, row)).map fun row => (row.1, row.2.1) := by
    rw [List.map_map]
    rfl
  rw [select?, hrows, search_map (fun row : Pattern × α => row.1), Option.map_map]
  rfl

theorem find?_eq_none_iff {m : Matcher α} {path : String} :
    m.find? path = none ↔ m.select? path = none := by
  rw [select?_eq, find?, Option.map_eq_none_iff, Option.map_eq_none_iff]

/-- A path leads to the row of the pattern that it selects. -/
theorem exists_find? {m : Matcher α} {path : String} {p : Pattern} {ps : PathParameters}
    (h : m.select? path = some (p, ps)) : ∃ a, (p, a) ∈ m ∧ m.find? path = some (a, ps) := by
  rw [select?_eq] at h
  obtain ⟨⟨⟨q, a⟩, values⟩, hsearch, hfound⟩ := Option.map_eq_some_iff.1 h
  cases hfound
  obtain ⟨_, hmem⟩ := mem_of_search hsearch
  obtain ⟨row, hrow, heq⟩ := List.mem_map.1 hmem
  cases heq
  exact ⟨a, hrow, by rw [find?, hsearch]; rfl⟩

/-! ## Patterns of one matcher differ -/

theorem mem_follow {q : PatternStep → Bool} {rows : List (Pattern × β)} {step : PatternStep}
    {steps : Pattern} {b : β} (hq : q step = true) (h : (step :: steps, b) ∈ rows) :
    (steps, b) ∈ follow q rows :=
  List.mem_filterMap.2 ⟨_, h, by simp [hq]⟩

theorem mem_of_countStep {steps : List PatternStep} {seen : List PatternStep × Option PatternStep}
    {step : PatternStep} (h : (steps.foldl countStep seen).2 = some step) :
    step ∈ steps ∨ seen.2 = some step := by
  induction steps generalizing seen with
  | nil => exact .inr h
  | cons s steps ih =>
    rcases ih h with h | h
    · exact .inl (.tail _ h)
    · unfold countStep at h
      dsimp only at h
      split at h
      · cases h
        exact .inl (.head _)
      · exact .inr h

/-- The favourite step is the next one of a pattern. -/
theorem exists_of_favourite {rows : List (Pattern × β)} {step : PatternStep}
    (h : favourite rows = some step) : ∃ steps b, (step :: steps, b) ∈ rows := by
  have hhead : step ∈ rows.filterMap (·.1.head?) := by
    unfold favourite at h
    dsimp only at h
    split at h
    · rename_i seen best hfold
      cases h
      rcases mem_of_countStep (congrArg Prod.snd hfold) with hmem | hstart
      · exact (List.mem_filter.1 hmem).1
      · cases hstart
    · exact List.mem_of_mem_head? h
  obtain ⟨⟨left, b⟩, hrow, hleft⟩ := List.mem_filterMap.1 hhead
  cases left with
  | nil => cases hleft
  | cons s steps =>
    cases hleft
    exact ⟨steps, b, hrow⟩

theorem exists_leading {depth : Nat} {rows : List (Pattern × Pattern)} (h : rows ≠ []) :
    ∃ other, leading depth rows = some other := by
  induction depth generalizing rows with
  | zero =>
    cases rows with
    | nil => exact absurd rfl h
    | cons row rows => exact ⟨_, rfl⟩
  | succ depth ih =>
    rw [leading]
    split
    · cases rows with
      | nil => exact absurd rfl h
      | cons row rows => exact ⟨_, rfl⟩
    · rename_i step hstep
      obtain ⟨steps, b, hrow⟩ := exists_of_favourite hstep
      exact ih (List.ne_nil_of_mem (mem_follow (by simp) hrow))

/-- A pattern competes with itself. -/
theorem exists_conflict? {rows : List (Pattern × Pattern)} {p q : Pattern} (h : (p, q) ∈ rows) :
    ∃ other, conflict? rows p = some other := by
  induction p generalizing rows with
  | nil =>
    have hfind : (rows.find? (·.1.isEmpty)).isSome = true := List.find?_isSome.2 ⟨_, h, rfl⟩
    obtain ⟨row, hrow⟩ := Option.isSome_iff_exists.1 hfind
    exact ⟨row.2, by rw [conflict?, hrow]; rfl⟩
  | cons step steps ih =>
    cases step with
    | literal c => exact ih (mem_follow (by simp) h)
    | parameter name =>
      rw [conflict?]
      split
      · exact ⟨_, rfl⟩
      · exact ih (mem_follow rfl h)
    | rest name => exact exists_leading (List.ne_nil_of_mem (mem_follow rfl h))

/-- No two rows have one pattern. -/
def Distinct (m : Matcher α) : Prop :=
  (m.map (·.1)).Nodup

theorem distinct_insert {m m' : Matcher α} {p : Pattern} {a : α} (hm : m.Distinct)
    (h : m.insert p a = .ok m') : m'.Distinct := by
  have hfree : conflict? (m.map fun row => (row.1, row.1)) p = none := by
    unfold insert at h
    split at h
    · cases h
    · assumption
  rw [eq_of_insert h, Distinct, List.map_append]
  refine List.nodup_append.2 ⟨hm, by simp, fun q hq other hother heq => ?_⟩
  obtain ⟨row, hrow, rfl⟩ := List.mem_map.1 hq
  have hp : row.1 = p := heq.trans (List.mem_singleton.1 hother)
  obtain ⟨other, hconflict⟩ := exists_conflict? (q := p)
    (List.mem_map.2 ⟨row, hrow, by rw [hp]⟩ : (p, p) ∈ m.map fun row => (row.1, row.1))
  cases hfree.symm.trans hconflict

theorem Distinct.eq_of_mem {m : Matcher α} (h : m.Distinct) {p : Pattern} {a b : α}
    (ha : (p, a) ∈ m) (hb : (p, b) ∈ m) : a = b := by
  have hnames : (m.filterMap fun row => some row.1).Nodup := by
    rw [List.filterMap_eq_map']
    exact h
  cases eq_of_nodup_filterMap hnames ha hb rfl rfl
  rfl

end Matcher

namespace RouteTable

variable {α : Type} {t t' : RouteTable α} {method path : String}

/-! ## Tables built by insertions -/

/-- What is inserted: an entry under a method and a route path. -/
structure Insertion (α : Type) where
  method : String
  path : String
  entry : α

/-- The table after insertions, of which some may be refused. -/
def insertAll (t : RouteTable α) (inserts : List (Insertion α)) : RouteTable α :=
  inserts.foldl (fun t i => (t.insert i.method i.path i.entry).2) t

/-- An insertion that was not refused put the entry under the pattern of its path. -/
inductive Puts : RouteTable α → List (Insertion α) → String → Pattern → α → Prop
  | here {t : RouteTable α} {i : Insertion α} {inserts : List (Insertion α)} {p : Pattern}
      (accepted : (t.insert i.method i.path i.entry).1 = .ok ())
      (read : Pattern.parse (Path.pattern i.path) = .ok p) :
      Puts t (i :: inserts) i.method p i.entry
  | later {t : RouteTable α} {i : Insertion α} {inserts : List (Insertion α)} {method : String}
      {p : Pattern} {e : α} (h : Puts (t.insert i.method i.path i.entry).2 inserts method p e) :
      Puts t (i :: inserts) method p e

/-- What every insertion keeps, also a refused one. -/
structure Sound (t : RouteTable α) : Prop where
  inRange : t.InRange
  distinct : ∀ method, (t.matcher method).Distinct
  methods : (t.matchers.map (·.1)).Nodup

theorem sound_empty : ({} : RouteTable α).Sound :=
  ⟨inRange_empty, fun _ => List.nodup_nil, List.nodup_nil⟩

theorem map_fst_update (m : Matcher Nat) (matchers : List (String × Matcher Nat)) :
    (update method m matchers).map (·.1) =
      if method ∈ matchers.map (·.1) then matchers.map (·.1) else matchers.map (·.1) ++ [method] := by
  induction matchers with
  | nil => rfl
  | cons row rest ih =>
    obtain ⟨name, old⟩ := row
    rw [update]
    by_cases h : name = method
    · simp [h]
    · rw [if_neg h, List.map_cons, ih]
      by_cases hrest : method ∈ rest.map (·.1) <;> simp [hrest, Ne.symm h]

theorem nodup_update {matchers : List (String × Matcher Nat)} (h : (matchers.map (·.1)).Nodup)
    (m : Matcher Nat) : ((update method m matchers).map (·.1)).Nodup := by
  rw [map_fst_update]
  split
  · exact h
  · rename_i hnew
    exact List.nodup_append.2 ⟨h, by simp, fun a ha b hb => by
      rw [List.mem_singleton.1 hb]
      exact fun he => hnew (he ▸ ha)⟩

theorem sound_insert (h : t.Sound) (method path : String) (e : α) :
    (t.insert method path e).2.Sound := by
  refine ⟨inRange_insert h.inRange method path e, fun name => ?_, ?_⟩
  · rcases insert_cases t method path e with ⟨p, _, hrow, hinsert⟩ | ⟨f, hinsert⟩
    · rw [hinsert, matcher_update]
      split
      · exact Matcher.distinct_insert (h.distinct method) hrow
      · exact h.distinct name
    · rw [hinsert, matcher_update]
      split
      · exact h.distinct method
      · exact h.distinct name
  · rcases insert_cases t method path e with ⟨p, _, _, hinsert⟩ | ⟨f, hinsert⟩ <;>
      rw [hinsert] <;> exact nodup_update h.methods _

theorem sound_insertAll (h : t.Sound) (inserts : List (Insertion α)) : (t.insertAll inserts).Sound := by
  induction inserts generalizing t with
  | nil => exact h
  | cons i inserts ih => exact ih (sound_insert h _ _ _)

/-- The rows of a table are those it had and those that insertions put there. -/
theorem holdsAt_insertAll (h : t.Sound) (inserts : List (Insertion α)) (p : Pattern) (e : α) :
    (t.insertAll inserts).HoldsAt method p e ↔
      t.HoldsAt method p e ∨ Puts t inserts method p e := by
  induction inserts generalizing t with
  | nil => exact ⟨.inl, fun h => h.resolve_right nofun⟩
  | cons i inserts ih =>
    show ((t.insert i.method i.path i.entry).2.insertAll inserts).HoldsAt method p e ↔ _
    rw [ih (sound_insert h _ _ _), holdsAt_insert h.inRange, or_assoc]
    refine or_congr_right ⟨?_, ?_⟩
    · rintro (⟨accepted, read, rfl, rfl⟩ | hlater)
      · exact .here accepted read
      · exact .later hlater
    · rintro (⟨accepted, read⟩ | hlater)
      · exact .inl ⟨accepted, read, rfl, rfl⟩
      · exact .inr hlater

theorem eq_of_holdsAt (h : t.Sound) {p : Pattern} {e e' : α} (he : t.HoldsAt method p e)
    (he' : t.HoldsAt method p e') : e = e' := by
  obtain ⟨place, hrow, hplace⟩ := he
  obtain ⟨place', hrow', hplace'⟩ := he'
  rw [(h.distinct method).eq_of_mem hrow hrow'] at hplace
  exact Option.some.inj (hplace.symm.trans hplace')

/-! ## What a look-up answers -/

/-- The pattern that the matcher of a method selects for a path, with the parameters it names. -/
def selects (t : RouteTable α) (method path : String) : Option (Pattern × PathParameters) :=
  (t.matcher method).select? path

theorem lookup_of_selects (h : t.Sound) {name : String} {p : Pattern} {ps : PathParameters}
    (hselects : t.selects name path = some (p, ps))
    (hfind : t.find? method path = (t.matcher name).find? path) :
    ∃ e, t.HoldsAt name p e ∧ t.lookup method path = .found e ps := by
  obtain ⟨place, hrow, hplace⟩ := Matcher.exists_find? hselects
  have hlt := h.inRange name p place hrow
  refine ⟨t.entries[place], ⟨place, hrow, List.getElem?_eq_getElem hlt⟩, ?_⟩
  rw [lookup, hfind, hplace]
  simp [List.getElem?_eq_getElem hlt]

theorem find?_of_own {p : Pattern} {ps : PathParameters} (h : t.selects method path = some (p, ps)) :
    t.find? method path = (t.matcher method).find? path := by
  obtain ⟨place, _, hplace⟩ := Matcher.exists_find? h
  rw [find?, hplace]

theorem find?_of_none (h : t.selects method path = none) :
    t.find? method path = if method = "HEAD" then (t.matcher "GET").find? path else none := by
  rw [find?, Matcher.find?_eq_none_iff.2 h]

/-- What `HEAD` falls back on. -/
def viaGet (t : RouteTable α) (method path : String) : Option (Pattern × PathParameters) :=
  if method = "HEAD" then t.selects "GET" path else none

theorem find?_of_viaGet {p : Pattern} {ps : PathParameters} (hown : t.selects method path = none)
    (h : t.viaGet method path = some (p, ps)) :
    t.selects "GET" path = some (p, ps) ∧ t.find? method path = (t.matcher "GET").find? path := by
  unfold viaGet at h
  split at h
  · rename_i hhead
    exact ⟨h, by rw [find?_of_none hown, if_pos hhead]⟩
  · cases h

theorem find?_eq_none (hown : t.selects method path = none) (h : t.viaGet method path = none) :
    t.find? method path = none := by
  rw [find?_of_none hown]
  unfold viaGet at h
  split
  · rename_i hhead
    rw [if_pos hhead] at h
    exact Matcher.find?_eq_none_iff.2 h
  · rfl

theorem matcher_of_mem (h : t.Sound) {name : String} {m : Matcher Nat} (hm : (name, m) ∈ t.matchers) :
    t.matcher name = m := by
  rw [matcher, (lookup_eq_some_iff_mem h.methods).2 hm]
  rfl

theorem mem_matchers (h : t.Sound) {name : String} (hselects : t.selects name path ≠ none) :
    (name, t.matcher name) ∈ t.matchers := by
  rw [← lookup_eq_some_iff_mem h.methods]
  cases hlookup : t.matchers.lookup name with
  | some m => rw [matcher, hlookup]; rfl
  | none =>
    refine absurd ?_ hselects
    rw [selects, matcher, hlookup]
    exact Matcher.find?_eq_none_iff.1 (by simp [Matcher.find?, Matcher.search_nil])

theorem elsewhere_iff (h : t.Sound) :
    t.elsewhere method path = true ↔ ∃ other, other ≠ method ∧ t.selects other path ≠ none := by
  unfold elsewhere
  rw [List.any_eq_true]
  constructor
  · rintro ⟨⟨other, m⟩, hrow, hfound⟩
    obtain ⟨hother, hpath⟩ := (Bool.and_eq_true _ _).mp hfound
    refine ⟨other, of_decide_eq_true hother, fun hnone => ?_⟩
    rw [selects, matcher_of_mem h hrow] at hnone
    rw [Matcher.find?_eq_none_iff.2 hnone] at hpath
    cases hpath
  · rintro ⟨other, hother, hselects⟩
    refine ⟨_, mem_matchers h hselects, (Bool.and_eq_true _ _).mpr ⟨decide_eq_true hother, ?_⟩⟩
    rw [Option.isSome_iff_ne_none]
    exact fun hnone => hselects (Matcher.find?_eq_none_iff.1 hnone)

/-- An entry is found, or neither the method nor what it falls back on selects a pattern. -/
theorem lookup_cases (h : t.Sound) (method path : String) :
    (∃ e ps, t.lookup method path = .found e ps) ∧
      ¬ (t.selects method path = none ∧ t.viaGet method path = none) ∨
    (t.selects method path = none ∧ t.viaGet method path = none) ∧
      t.lookup method path = if t.elsewhere method path then .methodNotAllowed else .notFound := by
  cases hown : t.selects method path with
  | some found =>
    obtain ⟨e, _, hlookup⟩ := lookup_of_selects h hown (find?_of_own hown)
    exact .inl ⟨⟨e, found.2, hlookup⟩, fun hnone => nomatch hnone.1⟩
  | none =>
    cases hget : t.viaGet method path with
    | some found =>
      obtain ⟨hselects, hfind⟩ := find?_of_viaGet hown hget
      obtain ⟨e, _, hlookup⟩ := lookup_of_selects h hselects hfind
      exact .inl ⟨⟨e, found.2, hlookup⟩, fun hnone => nomatch hnone.2⟩
    | none => exact .inr ⟨⟨rfl, rfl⟩, by rw [lookup, find?_eq_none hown hget]⟩

theorem lookup_eq_methodNotAllowed_iff (h : t.Sound) :
    t.lookup method path = .methodNotAllowed ↔ t.selects method path = none ∧
      t.viaGet method path = none ∧ ∃ other, other ≠ method ∧ t.selects other path ≠ none := by
  rw [← elsewhere_iff h, ← and_assoc]
  rcases lookup_cases h method path with ⟨⟨e, ps, hlookup⟩, hsome⟩ | ⟨hnone, hlookup⟩
  · rw [hlookup]
    exact iff_of_false nofun fun hright => hsome hright.1
  · rw [hlookup, and_iff_right hnone]
    split <;> simp_all

theorem lookup_eq_notFound_iff (h : t.Sound) :
    t.lookup method path = .notFound ↔ t.selects method path = none ∧
      t.viaGet method path = none ∧ ∀ other, other ≠ method → t.selects other path = none := by
  have hothers : (∀ other, other ≠ method → t.selects other path = none) ↔
      ¬ t.elsewhere method path = true := by
    rw [elsewhere_iff h]
    simp
  rw [hothers, ← and_assoc]
  rcases lookup_cases h method path with ⟨⟨e, ps, hlookup⟩, hsome⟩ | ⟨hnone, hlookup⟩
  · rw [hlookup]
    exact iff_of_false nofun fun hright => hsome hright.1
  · rw [hlookup, and_iff_right hnone]
    split <;> simp_all

/-- The order in which the methods came does not matter. -/
theorem lookup_perm (h : t.Sound) (hperm : t'.matchers.Perm t.matchers)
    (hentries : t'.entries = t.entries) (method path : String) :
    t'.lookup method path = t.lookup method path := by
  have hmethods : (t'.matchers.map (·.1)).Nodup := (hperm.map _).nodup_iff.2 h.methods
  have hmatcher (name : String) : t'.matcher name = t.matcher name := by
    have hlookup : t'.matchers.lookup name = t.matchers.lookup name := by
      refine Option.ext fun m => ?_
      rw [lookup_eq_some_iff_mem hmethods, lookup_eq_some_iff_mem h.methods, hperm.mem_iff]
    rw [matcher, matcher, hlookup]
  have helsewhere : t'.elsewhere method path = t.elsewhere method path := hperm.any_eq
  unfold lookup find?
  rw [hmatcher, hmatcher, hentries, helsewhere]

/-- Where `HEAD` has no pattern of its own, it is answered as `GET` is. -/
theorem lookup_head (h : t.Sound) (hnone : t.selects "HEAD" path = none) :
    t.lookup "HEAD" path = t.lookup "GET" path := by
  have hfind : t.find? "HEAD" path = t.find? "GET" path := by
    rw [find?_of_none hnone, if_pos rfl, find?]
    split
    · assumption
    · rename_i hget
      exact hget
  unfold lookup
  rw [hfind]
  split
  · rfl
  · rename_i hget
    -- Neither of the two has the path, so the others decide for both.
    have hget : t.selects "GET" path = none := by
      rw [selects, ← Matcher.find?_eq_none_iff]
      unfold find? at hget
      split at hget
      · cases hget
      · assumption
    have helsewhere : t.elsewhere "HEAD" path = t.elsewhere "GET" path := by
      rw [Bool.eq_iff_iff, elsewhere_iff h, elsewhere_iff h]
      refine exists_congr fun other => and_congr_left fun hother => ?_
      have hhead : other ≠ "HEAD" := fun he => hother (he ▸ hnone)
      have hother : other ≠ "GET" := fun he => hother (he ▸ hget)
      exact iff_of_true hhead hother
    rw [helsewhere]

end RouteTable

/-- Both methods carry their fields in the query, so the request means the same. -/
theorem value_head (F : Family) (s : Shape) (r : Request) :
    Gather.value F s { r with method := "HEAD" } = Gather.value F s { r with method := "GET" } := by
  have hreads : Gather.readsQuery "HEAD" = true ∧ Gather.readsQuery "GET" = true := by decide
  have hpath : Gather.fromPath { r with method := "HEAD" } =
      Gather.fromPath { r with method := "GET" } := by
    funext members f
    simp only [Gather.fromPath, Request.param?]
  simp only [Gather.value, Gather.members, Gather.found, hreads.1, hreads.2, hpath, if_true]

open RouteTable

/-- **What a look-up answers.** Take the table that any insertions lead to, refused ones included, any method
and any path. The patterns of a method are those that were put there, each for one entry. The look-up

* never leads to a place without an entry;
* finds the entry put under the pattern that the method itself selects, with the parameters of the path;
* for `HEAD`, where it selects none, finds the entry put under the pattern that `GET` selects;
* else answers that the method is not allowed just if some other method selects a pattern, and that nothing
  is found just if no other method does.

The answer does not depend on the order of the methods. Where `HEAD` selects nothing, it is answered as
`GET` is, with the same entry and parameters, and what is bound from a request is the same for both. -/
theorem lookup_trichotomy {α : Type} (inserts : List (RouteTable.Insertion α)) (method path : String) :
    let t := ({} : RouteTable α).insertAll inserts
    (∀ name p, p ∈ (t.matcher name).map (·.1) ↔ ∃ e, Puts {} inserts name p e) ∧
    (∀ name p e e', Puts {} inserts name p e → Puts {} inserts name p e' → e = e') ∧
    (∀ place, t.lookup method path ≠ .missing place) ∧
    (∀ p ps, t.selects method path = some (p, ps) →
      ∃ e, Puts {} inserts method p e ∧ t.lookup method path = .found e ps) ∧
    (∀ p ps, t.selects method path = none → t.viaGet method path = some (p, ps) →
      ∃ e, Puts {} inserts "GET" p e ∧ t.lookup method path = .found e ps) ∧
    (t.lookup method path = .methodNotAllowed ↔ t.selects method path = none ∧
      t.viaGet method path = none ∧ ∃ other, other ≠ method ∧ t.selects other path ≠ none) ∧
    (t.lookup method path = .notFound ↔ t.selects method path = none ∧
      t.viaGet method path = none ∧ ∀ other, other ≠ method → t.selects other path = none) ∧
    (∀ t' : RouteTable α, t'.matchers.Perm t.matchers → t'.entries = t.entries →
      t'.lookup method path = t.lookup method path) ∧
    (t.selects "HEAD" path = none → t.lookup "HEAD" path = t.lookup "GET" path) ∧
    ∀ (F : Family) (s : Shape) {β : Type} (decode : Json → Except DecodeError β) (r : Request),
      bind F s decode { r with method := "HEAD" } = bind F s decode { r with method := "GET" } := by
  intro t
  have hsound : t.Sound := sound_insertAll sound_empty inserts
  have hrows {name : String} {p : Pattern} {e : α} :
      t.HoldsAt name p e ↔ Puts {} inserts name p e :=
    (holdsAt_insertAll sound_empty inserts p e).trans
      ⟨fun h => h.resolve_left (not_holdsAt_empty name p e), .inr⟩
  have hown (p : Pattern) (ps : PathParameters) (h : t.selects method path = some (p, ps)) :
      ∃ e, Puts {} inserts method p e ∧ t.lookup method path = .found e ps := by
    obtain ⟨e, he, hlookup⟩ := lookup_of_selects hsound h (find?_of_own h)
    exact ⟨e, hrows.1 he, hlookup⟩
  have hget (p : Pattern) (ps : PathParameters) (hnone : t.selects method path = none)
      (h : t.viaGet method path = some (p, ps)) :
      ∃ e, Puts {} inserts "GET" p e ∧ t.lookup method path = .found e ps := by
    obtain ⟨hselects, hfind⟩ := find?_of_viaGet hnone h
    obtain ⟨e, he, hlookup⟩ := lookup_of_selects hsound hselects hfind
    exact ⟨e, hrows.1 he, hlookup⟩
  refine ⟨fun name p => ⟨fun hp => ?_, fun ⟨e, he⟩ => ?_⟩, fun name p e e' he he' => ?_,
    lookup_ne_missing hsound.inRange, hown, hget, lookup_eq_methodNotAllowed_iff hsound,
    lookup_eq_notFound_iff hsound, fun t' hperm hentries => lookup_perm hsound hperm hentries method path,
    lookup_head hsound, fun F s β decode r => ?_⟩
  · obtain ⟨⟨q, place⟩, hrow, rfl⟩ := List.mem_map.1 hp
    have hlt := hsound.inRange name q place hrow
    exact ⟨t.entries[place], hrows.1 ⟨place, hrow, List.getElem?_eq_getElem hlt⟩⟩
  · obtain ⟨place, hrow, _⟩ := hrows.2 he
    exact List.mem_map.2 ⟨_, hrow, rfl⟩
  · exact eq_of_holdsAt hsound (hrows.2 he) (hrows.2 he')
  · rw [bind, bind, value_head]

/-- The second insertion competes with the first and takes no place, so the third one gets the second
place; `HEAD` has no pattern and is led to the entry of `GET`. -/
theorem lookup_after_refusal :
    let inserts : List (RouteTable.Insertion String) :=
      [⟨"GET", "/u/:id", "user"⟩, ⟨"GET", "/u/:name", "other"⟩, ⟨"POST", "/new", "create"⟩]
    let t := ({} : RouteTable String).insertAll inserts
    t.selects "HEAD" "/u/7" = none ∧
      t.viaGet "HEAD" "/u/7" =
        some ([.literal '/', .literal 'u', .literal '/', .parameter ['i', 'd']], [("id", "7")]) ∧
      t.lookup "HEAD" "/u/7" = .found "user" [("id", "7")] ∧
      t.lookup "HEAD" "/u/7" = t.lookup "GET" "/u/7" ∧
      t.lookup "HEAD" "/new" = .methodNotAllowed := by
  intro inserts t
  have hnone : t.selects "HEAD" "/u/7" = none := by decide +kernel
  have hget : t.viaGet "HEAD" "/u/7" =
      some ([.literal '/', .literal 'u', .literal '/', .parameter ['i', 'd']], [("id", "7")]) := by
    decide +kernel
  have hnew : t.selects "HEAD" "/new" = none ∧ t.viaGet "HEAD" "/new" = none ∧
      t.selects "POST" "/new" ≠ none := by
    decide +kernel
  obtain ⟨_, hunique, _, _, hfallback, _, _, _, hhead, _⟩ :=
    lookup_trichotomy inserts "HEAD" "/u/7"
  obtain ⟨_, _, _, _, _, hallowed, _⟩ := lookup_trichotomy inserts "HEAD" "/new"
  obtain ⟨e, he, hlookup⟩ := hfallback _ _ hnone hget
  have hread : Pattern.parse (Path.pattern "/u/:id") =
      .ok [.literal '/', .literal 'u', .literal '/', .parameter ['i', 'd']] :=
    eq_ok_of_toOption (by decide +kernel)
  have huser : e = "user" :=
    hunique "GET" _ _ _ he (.here (eq_ok_of_toOption (by decide +kernel)) hread)
  exact ⟨hnone, hget, huser ▸ hlookup, hhead hnone,
    hallowed.2 ⟨hnew.1, hnew.2.1, "POST", by decide, hnew.2.2⟩⟩

end HttpService
