import HttpService.Route.Registry

/-!
# What a registry holds

`get?_putAll`: of routes registered in order, the last one with a method and a path is found under them.
No two routes of a registry built so have one key (`distinct_putAll`), so it holds the routes that are
found, and no others (`mem_iff_get?`). Its keys are those registered, each once, in the order in which
they came first (`map_key_putAll`), and each route that was not new has led to a warning
(`length_registerAll`).
-/

set_option autoImplicit false

namespace HttpService.Registry

variable {M E : Type} {reg : Registry M E} {q r : Route M E}

/-- Whether a route answers the requests with a method and a path. -/
def answers (method path : String) (r : Route M E) : Bool :=
  r.method == method && r.path == path

/-- The method and the path of a route. -/
def key (r : Route M E) : String × String :=
  (r.method, r.path)

/-- Routes registered one after another. -/
def putAll (reg : Registry M E) (routes : List (Route M E)) : Registry M E :=
  routes.foldl (fun reg r => reg.put r) reg

/-- No two routes answer the same requests. -/
def Distinct (reg : Registry M E) : Prop :=
  reg.Pairwise fun a b => sameKey a.toRouteDoc b.toRouteDoc = false

theorem sameKey_iff {a b : RouteDoc} :
    sameKey a b = true ↔ a.method = b.method ∧ a.path = b.path := by
  simp [sameKey]

/-- Routes with one key answer the same requests. -/
theorem answers_congr (h : sameKey r.toRouteDoc q.toRouteDoc = true) (method path : String) :
    answers method path r = answers method path q := by
  obtain ⟨hm, hp⟩ := sameKey_iff.1 h
  rw [answers, answers, hm, hp]

theorem answers_self : answers r.method r.path r = true := by
  simp [answers]

theorem putAll_append (xs ys : List (Route M E)) :
    reg.putAll (xs ++ ys) = (reg.putAll xs).putAll ys :=
  List.foldl_append

theorem registerAll_fst (routes : List (Route M E)) :
    (reg.registerAll routes).1 = reg.putAll routes := by
  induction routes generalizing reg with
  | nil => rfl
  | cons q qs ih => exact ih

/-! ## Finding a route -/

theorem get?_put (method path : String) :
    get? (reg.put q) method path =
      if answers method path q then some q else get? reg method path := by
  induction reg with
  | nil =>
    show List.find? (answers method path) [q] = if _ then _ else none
    rw [List.find?_cons]
    cases answers method path q <;> rfl
  | cons a rest ih =>
    rw [put]
    split
    · rename_i hkey
      show List.find? (answers method path) (q :: rest) = _
      rw [List.find?_cons]
      split
      · rename_i hq
        rw [if_pos hq]
      · rename_i hq
        have ha : answers method path a = false := (answers_congr hkey _ _).trans hq
        show _ = if _ then _ else List.find? (answers method path) (a :: rest)
        rw [if_neg (by simp [hq]), List.find?_cons, ha]
    · rename_i hkey
      show List.find? (answers method path) (a :: put q rest) =
        if _ then _ else List.find? (answers method path) (a :: rest)
      rw [List.find?_cons, List.find?_cons]
      cases ha : answers method path a with
      | false => exact ih
      | true =>
        -- What answers like `a` has its key, which the new route has not.
        have hq : answers method path q = false := by
          simp only [answers, sameKey, Bool.and_eq_true, beq_iff_eq] at ha hkey
          refine Bool.eq_false_iff.2 fun h => hkey ?_
          simp only [answers, Bool.and_eq_true, beq_iff_eq] at h
          exact ⟨ha.1.trans h.1.symm, ha.2.trans h.2.symm⟩
        simp [hq]

/-- The last route registered under a method and a path is found, or the one that was there. -/
theorem get?_putAll (routes : List (Route M E)) (method path : String) :
    get? (reg.putAll routes) method path =
      (routes.reverse.find? (answers method path)).or (get? reg method path) := by
  induction routes generalizing reg with
  | nil => rfl
  | cons q qs ih =>
    show get? ((reg.put q).putAll qs) method path = _
    rw [ih, get?_put, List.reverse_cons, List.find?_append, Option.or_assoc, List.find?_cons]
    cases answers method path q <;> rfl

/-! ## Distinct keys -/

theorem of_mem_put (h : r ∈ reg.put q) : r = q ∨ r ∈ reg := by
  induction reg with
  | nil => exact .inl (List.mem_singleton.1 h)
  | cons b rest ih =>
    rw [put] at h
    split at h
    · rcases List.mem_cons.1 h with rfl | h
      · exact .inl rfl
      · exact .inr (.tail _ h)
    · rcases List.mem_cons.1 h with rfl | h
      · exact .inr (.head _)
      · rcases ih h with rfl | h
        · exact .inl rfl
        · exact .inr (.tail _ h)

theorem of_mem_putAll {routes : List (Route M E)} (h : r ∈ reg.putAll routes) :
    r ∈ routes ∨ r ∈ reg := by
  induction routes generalizing reg with
  | nil => exact .inr h
  | cons q qs ih =>
    rcases ih h with h | h
    · exact .inl (.tail _ h)
    · rcases of_mem_put h with rfl | h
      · exact .inl (.head _)
      · exact .inr h

theorem distinct_put (h : Distinct reg) : Distinct (reg.put q) := by
  induction reg with
  | nil => exact List.pairwise_singleton _ _
  | cons a rest ih =>
    obtain ⟨ha, hrest⟩ := List.pairwise_cons.1 h
    rw [put]
    split
    · rename_i hkey
      refine List.pairwise_cons.2 ⟨fun b hb => ?_, hrest⟩
      rw [← ha b hb]
      exact (answers_congr (r := a) hkey b.method b.path).symm
    · rename_i hkey
      refine List.pairwise_cons.2 ⟨fun b hb => ?_, ih hrest⟩
      rcases of_mem_put hb with rfl | hb
      · exact Bool.eq_false_iff.2 hkey
      · exact ha b hb

theorem distinct_putAll (h : Distinct reg) (routes : List (Route M E)) :
    Distinct (reg.putAll routes) := by
  induction routes generalizing reg with
  | nil => exact h
  | cons q qs ih => exact ih (distinct_put h)

/-- A registry holds just what is found in it. -/
theorem mem_iff_get? (h : Distinct reg) : r ∈ reg ↔ get? reg r.method r.path = some r := by
  constructor
  · intro hr
    induction reg with
    | nil => cases hr
    | cons a rest ih =>
      obtain ⟨ha, hrest⟩ := List.pairwise_cons.1 h
      show List.find? (answers r.method r.path) (a :: rest) = some r
      rcases List.mem_cons.1 hr with rfl | hr
      · rw [List.find?_cons, answers_self]
      · have hne : answers r.method r.path a = false := ha r hr
        rw [List.find?_cons, hne]
        exact ih hrest hr
  · exact List.mem_of_find?_eq_some

theorem exists_mem_putAll {routes : List (Route M E)} (h : r ∈ routes) :
    ∃ r' ∈ reg.putAll routes, sameKey r'.toRouteDoc r.toRouteDoc = true := by
  have hfound : (routes.reverse.find? (answers r.method r.path)).isSome = true := by
    rw [List.find?_isSome]
    exact ⟨r, List.mem_reverse.2 h, answers_self⟩
  obtain ⟨r', hr'⟩ := Option.isSome_iff_exists.1 hfound
  have hget : get? (reg.putAll routes) r.method r.path = some r' := by
    rw [get?_putAll, hr']
    rfl
  have hkey : answers r.method r.path r' = true := List.find?_some hr'
  exact ⟨r', List.mem_of_find?_eq_some hget, hkey⟩

/-! ## The order of the keys -/

theorem map_key_put : (reg.put q).map key =
    if key q ∈ reg.map key then reg.map key else reg.map key ++ [key q] := by
  induction reg with
  | nil => rfl
  | cons a rest ih =>
    have hkey : sameKey a.toRouteDoc q.toRouteDoc = true ↔ key a = key q := by
      rw [sameKey_iff, key, key, Prod.mk.injEq]
    rw [put]
    by_cases h : key a = key q
    · rw [if_pos (hkey.2 h)]
      simp [h]
    · rw [if_neg fun hsame => h (hkey.1 hsame), List.map_cons, ih]
      by_cases hrest : key q ∈ rest.map key <;> simp [hrest, Ne.symm h]

/-- Registered keys come after those that are there, each once. -/
theorem map_key_putAll (routes : List (Route M E)) : (reg.putAll routes).map key =
    reg.map key ++ ((routes.map key).filter (· ∉ reg.map key)).eraseDups := by
  induction routes generalizing reg with
  | nil => simp [putAll]
  | cons q qs ih =>
    show ((reg.put q).putAll qs).map key = _
    rw [ih, map_key_put, List.map_cons, List.filter_cons]
    by_cases h : key q ∈ reg.map key
    · simp only [h, not_true_eq_false, decide_false, if_true, Bool.false_eq_true, if_false]
    · have hnew : (qs.map key).filter (· ∉ reg.map key ++ [key q]) =
          ((qs.map key).filter (· ∉ reg.map key)).filter fun k => !k == key q := by
        rw [List.filter_filter]
        refine List.filter_congr fun k _ => ?_
        by_cases hk : k = key q <;> simp [hk]
      simp only [h, not_false_eq_true, decide_true, if_true, if_false]
      rw [List.eraseDups_cons, hnew, List.append_assoc]
      rfl

/-! ## Warnings about replaced routes -/

/-- A route is new, or leads to one warning. -/
theorem length_register : (reg.register q).2.length + (reg.register q).1.length = reg.length + 1 := by
  induction reg with
  | nil => rfl
  | cons a rest ih =>
    unfold register get? at ih ⊢
    rw [put, List.find?_cons]
    by_cases h : sameKey a.toRouteDoc q.toRouteDoc = true
    · have ha : (a.method == q.method && a.path == q.path) = true := h
      rw [ha, if_pos h]
      exact Nat.add_comm 1 _
    · have ha : (a.method == q.method && a.path == q.path) = false := Bool.eq_false_iff.2 h
      rw [ha, if_neg h, List.length_cons, List.length_cons, ← ih]
      exact (Nat.add_assoc _ _ 1).symm

theorem length_registerAll (routes : List (Route M E)) :
    (reg.registerAll routes).2.length + (reg.putAll routes).length = reg.length + routes.length := by
  induction routes generalizing reg with
  | nil => exact Nat.zero_add _
  | cons q qs ih =>
    have hfirst : (reg.register q).2.length + (reg.register q).1.length = reg.length + 1 :=
      length_register
    have hrest := @ih (reg.register q).1
    show ((reg.register q).2 ++ ((reg.register q).1.registerAll qs).2).length +
      ((reg.register q).1.putAll qs).length = _
    rw [List.length_append, List.length_cons]
    omega

theorem message_of_mem_registerAll {routes : List (Route M E)} {e : Event}
    (h : e ∈ (reg.registerAll routes).2) : e.message = "duplicate route replaced" := by
  induction routes generalizing reg with
  | nil => cases h
  | cons q qs ih =>
    rcases List.mem_append.1 h with h | h
    · obtain ⟨old, _, rfl⟩ := Option.map_eq_some_iff.1 (Option.mem_toList.1 h)
      rfl
    · exact ih h

/-- Routes registered between others may take their places, but add nothing else. -/
theorem mem_putAll_without {xs ys zs : List (Route M E)}
    (h : r ∈ putAll [] (xs ++ ys ++ zs)) : r ∈ ys ∨ r ∈ putAll [] (xs ++ zs) := by
  have hget := (mem_iff_get? (distinct_putAll .nil _)).1 h
  rw [get?_putAll, List.reverse_append, List.reverse_append, List.find?_append,
    List.find?_append] at hget
  cases hy : ys.reverse.find? (answers r.method r.path) with
  | none =>
    refine .inr ((mem_iff_get? (distinct_putAll .nil _)).2 ?_)
    rw [hy, Option.none_or] at hget
    rw [get?_putAll, List.reverse_append, List.find?_append]
    exact hget
  | some y =>
    cases hz : zs.reverse.find? (answers r.method r.path) with
    | none =>
      rw [hy, hz] at hget
      cases hget
      exact .inl (List.mem_reverse.1 (List.mem_of_find?_eq_some hy))
    | some z =>
      rw [hz] at hget
      cases hget
      refine .inr ((mem_iff_get? (distinct_putAll .nil _)).2 ?_)
      rw [get?_putAll, List.reverse_append, List.find?_append, hz]
      rfl

end HttpService.Registry
