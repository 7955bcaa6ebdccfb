import HttpService.Proofs.Basic
import HttpService.Route.Table

/-!
# The rows of a route table

An insertion adds one row under one method and leaves the others (`holdsAt_insert`), and what a look-up
finds stands in a row (`holds_of_lookup`). Rows lead to places that entries have, whatever was inserted or
refused (`inRange_insert`), so that no look-up leads to a place without an entry (`lookup_ne_missing`).
-/

set_option autoImplicit false

namespace HttpService

namespace Matcher

variable {α β : Type}

theorem exists_of_mem_follow {p : PatternStep → Bool} {rows : List (Pattern × β)} {steps : Pattern}
    {b : β} (h : (steps, b) ∈ follow p rows) : ∃ step, p step = true ∧ (step :: steps, b) ∈ rows := by
  obtain ⟨⟨pattern, b'⟩, hmem, hrow⟩ := List.mem_filterMap.1 h
  cases pattern with
  | nil => cases hrow
  | cons step steps =>
    dsimp only at hrow
    split at hrow <;> cases hrow
    exact ⟨step, ‹_›, hmem⟩

theorem mem_of_mem_follow {p : PatternStep → Bool} {rows : List (Pattern × β)} {b : β}
    (h : ∃ left, (left, b) ∈ follow p rows) : ∃ pattern, (pattern, b) ∈ rows := by
  obtain ⟨left, h⟩ := h
  obtain ⟨step, _, hmem⟩ := exists_of_mem_follow h
  exact ⟨_, hmem⟩

/-- A search ends in one of the rows it starts from. -/
theorem mem_of_search {rows : List (Pattern × β)} {taken : List (List Char)} {path : List Char}
    {b : β} {values : List (List Char)} (h : search rows taken path = some (b, values)) :
    ∃ p, (p, b) ∈ rows := by
  fun_induction search rows taken path with
  | case1 => cases h
  | case2 rows taken hne =>
    obtain ⟨⟨p, b'⟩, hfind, hrow⟩ := Option.map_eq_some_iff.1 h
    cases hrow
    exact ⟨p, List.mem_of_find?_eq_some hfind⟩
  | case3 rows taken hne c cs found hliteral ih =>
    exact mem_of_mem_follow (ih (hliteral.trans h))
  | case4 rows taken hne c cs hliteral segment viaParameter found hparameter _ ih =>
    have hsearch := hparameter.trans h
    unfold viaParameter at hsearch
    split at hsearch
    · cases hsearch
    · exact mem_of_mem_follow (ih hsearch)
  | case5 rows taken hne c cs hliteral segment viaParameter hparameter =>
    obtain ⟨⟨p, b'⟩, hhead, hrow⟩ := Option.map_eq_some_iff.1 h
    cases hrow
    exact mem_of_mem_follow ⟨p, List.mem_of_mem_head? hhead⟩

theorem eq_of_insert {m m' : Matcher α} {p : Pattern} {a : α} (h : m.insert p a = .ok m') :
    m' = m ++ [(p, a)] := by
  unfold insert at h
  split at h
  · cases h
  · split at h <;> cases h
    rfl

theorem mem_of_find? {m : Matcher α} {path : String} {a : α} {ps : PathParameters}
    (h : m.find? path = some (a, ps)) : ∃ p, (p, a) ∈ m := by
  obtain ⟨⟨⟨p, a'⟩, values⟩, hsearch, hrow⟩ := Option.map_eq_some_iff.1 h
  cases hrow
  obtain ⟨p', hmem⟩ := mem_of_search hsearch
  obtain ⟨⟨q, a''⟩, hm, heq⟩ := List.mem_map.1 hmem
  cases heq
  exact ⟨p, hm⟩

end Matcher

namespace RouteTable

variable {α : Type} {t t' : RouteTable α} {method path : String} {e : α}

/-- A row of the method leads from the pattern to the entry. -/
def HoldsAt (t : RouteTable α) (method : String) (p : Pattern) (e : α) : Prop :=
  ∃ place, (p, place) ∈ t.matcher method ∧ t.entries[place]? = some e

/-- The entry stands in a row of the method. -/
def Holds (t : RouteTable α) (method : String) (e : α) : Prop :=
  ∃ p, t.HoldsAt method p e

/-- Every row leads to a place that an entry has. -/
def InRange (t : RouteTable α) : Prop :=
  ∀ method p place, (p, place) ∈ t.matcher method → place < t.entries.length

theorem lookup_update (m : Matcher Nat) (matchers : List (String × Matcher Nat)) (name : String) :
    (update method m matchers).lookup name = if name = method then some m else matchers.lookup name := by
  induction matchers with
  | nil =>
    rw [update, List.lookup_cons]
    by_cases h : name = method <;> simp [h, beq_false_of_ne]
  | cons row rest ih =>
    obtain ⟨first, old⟩ := row
    rw [update]
    split
    · rename_i hfirst
      subst hfirst
      by_cases h : name = first <;> simp [List.lookup_cons, h, beq_false_of_ne]
    · rename_i hfirst
      rw [List.lookup_cons, List.lookup_cons]
      by_cases h : name = first
      · have hne : first ≠ method := hfirst
        simp [h, hne]
      · simpa [beq_false_of_ne h] using ih

theorem matcher_update (m : Matcher Nat) (entries : List α) (name : String) :
    (⟨update method m t.matchers, entries⟩ : RouteTable α).matcher name =
      if name = method then m else t.matcher name := by
  unfold matcher
  rw [lookup_update]
  split <;> rfl

theorem not_holdsAt_empty (method : String) (p : Pattern) (e : α) :
    ¬ ({} : RouteTable α).HoldsAt method p e :=
  fun ⟨_, h, _⟩ => List.not_mem_nil h

/-- What an insertion comes to: a row that leads to the new entry, or a refusal that leaves every matcher
and the entries as they were. -/
theorem insert_cases (t : RouteTable α) (method path : String) (e : α) :
    (∃ p, Pattern.parse (Path.pattern path) = .ok p ∧
      (t.matcher method).insert p t.entries.length =
        .ok (t.matcher method ++ [(p, t.entries.length)]) ∧
      t.insert method path e = (.ok (),
        ⟨update method (t.matcher method ++ [(p, t.entries.length)]) t.matchers, t.entries ++ [e]⟩)) ∨
    ∃ f, t.insert method path e =
      (.error f, { t with matchers := update method (t.matcher method) t.matchers }) := by
  unfold insert
  dsimp only
  split
  · rename_i m hm
    obtain ⟨p, hp, hinsert⟩ := bind_eq_ok.1 hm
    have hrows := Matcher.eq_of_insert hinsert
    exact .inl ⟨p, hp, hrows ▸ hinsert, by rw [hrows]⟩
  · exact .inr ⟨_, rfl⟩

theorem inRange_empty : ({} : RouteTable α).InRange :=
  fun _ _ _ h => absurd h List.not_mem_nil

/-- A refused insertion keeps every row, and one that is accepted gives the new row the new place. -/
theorem inRange_insert (hrange : t.InRange) (method path : String) (e : α) :
    (t.insert method path e).2.InRange := by
  intro name p place hrow
  rcases insert_cases t method path e with ⟨q, _, _, hinsert⟩ | ⟨f, hinsert⟩
  · rw [hinsert] at hrow ⊢
    rw [matcher_update] at hrow
    have hold (h : (p, place) ∈ t.matcher name) : place < (t.entries ++ [e]).length := by
      have := hrange name p place h
      simp only [List.length_append]
      omega
    split at hrow
    · rename_i hname
      subst hname
      rcases List.mem_append.1 hrow with hrow | hrow
      · exact hold hrow
      · cases List.mem_singleton.1 hrow
        simp
    · exact hold hrow
  · rw [hinsert] at hrow ⊢
    rw [matcher_update] at hrow
    split at hrow
    · rename_i hname
      subst hname
      exact hrange name p place hrow
    · exact hrange name p place hrow

theorem holdsAt_insert (hrange : t.InRange) (method path : String) (e : α) (name : String)
    (q : Pattern) (e' : α) :
    (t.insert method path e).2.HoldsAt name q e' ↔ t.HoldsAt name q e' ∨
      (t.insert method path e).1 = .ok () ∧ Pattern.parse (Path.pattern path) = .ok q ∧
        name = method ∧ e' = e := by
  rcases insert_cases t method path e with ⟨p, hp, _, hinsert⟩ | ⟨f, hinsert⟩
  · rw [hinsert, hp]
    have hold {place : Nat} (hrow : (q, place) ∈ t.matcher name) :
        (t.entries ++ [e])[place]? = t.entries[place]? :=
      List.getElem?_append_left (hrange name q place hrow)
    unfold HoldsAt
    rw [matcher_update]
    constructor
    · rintro ⟨place, hrow, hplace⟩
      split at hrow
      · rename_i hname
        subst hname
        rcases List.mem_append.1 hrow with hrow | hrow
        · exact .inl ⟨place, hrow, hold hrow ▸ hplace⟩
        · cases List.mem_singleton.1 hrow
          simp at hplace
          exact .inr ⟨rfl, rfl, rfl, hplace.symm⟩
      · exact .inl ⟨place, hrow, hold hrow ▸ hplace⟩
    · rintro (⟨place, hrow, hplace⟩ | ⟨_, hq, rfl, rfl⟩)
      · refine ⟨place, ?_, (hold hrow).trans hplace⟩
        split
        · rename_i hname
          exact List.mem_append_left _ (hname ▸ hrow)
        · exact hrow
      · cases hq
        exact ⟨t.entries.length, by simp, by simp⟩
  · rw [hinsert]
    unfold HoldsAt
    rw [matcher_update]
    simp only [reduceCtorEq, false_and, or_false]
    split
    · rename_i hname
      rw [hname]
    · rfl

theorem holds_insert (hrange : t.InRange) (h : t.insert method path e = (.ok (), t')) (name : String)
    (e' : α) : t'.Holds name e' ↔ t.Holds name e' ∨ (name = method ∧ e' = e) := by
  have hrows (q : Pattern) := holdsAt_insert hrange method path e name q e'
  rw [h] at hrows
  have hparse : ∃ p, Pattern.parse (Path.pattern path) = .ok p := by
    rcases insert_cases t method path e with ⟨p, hp, _⟩ | ⟨f, hinsert⟩
    · exact ⟨p, hp⟩
    · cases hinsert.symm.trans h
  unfold Holds
  rw [exists_congr hrows, exists_or, exists_and_left, exists_and_right]
  simp [hparse]

/-- The place that a request is led to stands in a row of its method, or of `GET`. -/
theorem mem_of_find? {place : Nat} {ps : PathParameters}
    (h : t.find? method path = some (place, ps)) :
    ∃ p, (p, place) ∈ t.matcher method ∨ (p, place) ∈ t.matcher "GET" := by
  unfold find? at h
  split at h
  · rename_i found hfound
    cases h
    obtain ⟨p, hp⟩ := Matcher.mem_of_find? hfound
    exact ⟨p, .inl hp⟩
  · split at h
    · obtain ⟨p, hp⟩ := Matcher.mem_of_find? h
      exact ⟨p, .inr hp⟩
    · cases h

theorem lt_of_find? (hrange : t.InRange) {place : Nat} {ps : PathParameters}
    (h : t.find? method path = some (place, ps)) : place < t.entries.length := by
  obtain ⟨p, hp | hp⟩ := mem_of_find? h
  · exact hrange method p place hp
  · exact hrange "GET" p place hp

/-- What a request is led to stands in a row of its method, or of `GET`. -/
theorem holds_of_lookup {ps : PathParameters} (h : t.lookup method path = .found e ps) :
    t.Holds method e ∨ t.Holds "GET" e := by
  unfold lookup at h
  split at h
  · rename_i place parameters hfind
    split at h
    · rename_i entry hplace
      cases h
      obtain ⟨p, hp | hp⟩ := mem_of_find? hfind
      · exact .inl ⟨p, place, hp, hplace⟩
      · exact .inr ⟨p, place, hp, hplace⟩
    · cases h
  · split at h <;> cases h

/-- No look-up leads to a place that no entry has. -/
theorem lookup_ne_missing (hrange : t.InRange) (place : Nat) : t.lookup method path ≠ .missing place := by
  unfold lookup
  split
  · rename_i found ps hfind
    rw [List.getElem?_eq_getElem (lt_of_find? hrange hfind)]
    nofun
  · split <;> nofun

end RouteTable

end HttpService
