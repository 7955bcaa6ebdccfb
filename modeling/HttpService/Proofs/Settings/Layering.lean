import HttpService.Settings.Basic

/-!
# Layers of settings

Settings are made of defaults, the entries of an environment and the entries given for a run. `Layered` says
what a list of entries makes of settings: the first invalid entry is reported, and without one every
setting has the value of the last entry that names it. `settings_layering` says that all ways to load
settings are layered so, and what a single call does to the settings it works on.
-/

set_option autoImplicit false

namespace HttpService.Settings

/-! ## Values -/

/-- The value of one setting. -/
inductive Setting
  | text (v : String)
  | locale (v : Locale)
  | duration (v : Duration)
  | number (v : Nat)
  | switch (v : Bool)
  deriving DecidableEq

/-- The value of the setting that a key stands for. -/
def get (s : Settings) : Key → Setting
  | .address => .text s.address
  | .name => .text s.name
  | .locale => .locale s.locale
  | .readTimeout => .duration s.readTimeout
  | .writeTimeout => .duration s.writeTimeout
  | .idleTimeout => .duration s.idleTimeout
  | .maxHeaderBytes => .number s.maxHeaderBytes
  | .healthCheck => .switch s.healthCheck
  | .tlsEnable => .switch s.tls.enable
  | .tlsCertFile => .text s.tls.certFile
  | .tlsKeyFile => .text s.tls.keyFile
  | .gracefulTimeout => .duration s.gracefulTimeout
  | .gracefulWaitTime => .duration s.gracefulWaitTime
  | .openapiPath => .text s.openapiPath
  | .swaggerPath => .text s.swaggerPath
  | .swaggerTemplate => .text s.swaggerTemplate
  | .metricsPath => .text s.metricsPath

theorem ext_get {s s' : Settings} (h : ∀ k, s.get k = s'.get k) : s = s' := by
  obtain ⟨_, _, _, _, _, _, _, _, ⟨_, _, _⟩, _, _, _, _, _, _⟩ := s
  obtain ⟨_, _, _, _, _, _, _, _, ⟨_, _, _⟩, _, _, _, _, _, _⟩ := s'
  cases h .address
  cases h .name
  cases h .locale
  cases h .readTimeout
  cases h .writeTimeout
  cases h .idleTimeout
  cases h .maxHeaderBytes
  cases h .healthCheck
  cases h .tlsEnable
  cases h .tlsCertFile
  cases h .tlsKeyFile
  cases h .gracefulTimeout
  cases h .gracefulWaitTime
  cases h .openapiPath
  cases h .swaggerPath
  cases h .swaggerTemplate
  cases h .metricsPath
  rfl

/-- What a text gives a setting, whatever it was before. -/
def Key.read (raw : String) : Key → Except Refusal Setting
  | .address => .ok (.text (normaliseAddress (Text.trim raw)))
  | .name => .ok (.text (Text.trim raw))
  | .locale => (valid (Locale.parse? (Text.trim raw))).map .locale
  | .readTimeout => (Settings.duration (Text.trim raw)).map .duration
  | .writeTimeout => (Settings.duration (Text.trim raw)).map .duration
  | .idleTimeout => (Settings.duration (Text.trim raw)).map .duration
  | .maxHeaderBytes => (valid (Decimal.unsigned? 64 (Text.trim raw))).map .number
  | .healthCheck => (valid (switch? (Text.trim raw))).map .switch
  | .tlsEnable => (valid (switch? (Text.trim raw))).map .switch
  | .tlsCertFile => .ok (.text (Text.trim raw))
  | .tlsKeyFile => .ok (.text (Text.trim raw))
  | .gracefulTimeout => (Settings.duration (Text.trim raw)).map .duration
  | .gracefulWaitTime => (Settings.duration (Text.trim raw)).map .duration
  | .openapiPath => .ok (.text (Text.trim raw))
  | .swaggerPath => .ok (.text (Text.trim raw))
  | .swaggerTemplate => .ok (.text raw)
  | .metricsPath => .ok (.text (Text.trim raw))

/-! ## Names -/

/-- Whether a key names a setting: `_`, `-` and case do not count. -/
def Key.isNamedBy (k : Key) (key : String) : Bool :=
  (key.toList.filter fun c => c != '_' && c != '-').flatMap Text.toLower = k.text.toList

theorem Key.isNamedBy_iff {k : Key} {key : String} :
    k.isNamedBy key = true ↔ ofText? key = some k := by
  have hnamed : k.isNamedBy key = true ↔ k.text = normaliseKey key := by
    rw [isNamedBy, decide_eq_true_iff, normaliseKey, eq_comm, ← String.ofList_inj,
      String.ofList_toList]
  rw [hnamed]
  constructor
  · intro h
    rw [ofText?, ← h]
    cases k <;> rfl
  · intro h
    simpa using List.find?_some h

theorem Key.eq_of_isNamedBy {k k' : Key} {key : String} (h : k.isNamedBy key = true)
    (h' : k'.isNamedBy key = true) : k = k' :=
  Option.some.inj ((isNamedBy_iff.1 h).symm.trans (isNamedBy_iff.1 h'))

/-! ## Single entries -/

theorem store_eq {α : Type} (read : Except Refusal α) (put : Settings → α → Settings)
    (s : Settings) :
    store read put s = match read with
      | .ok v => .ok () (put s v)
      | .error r => .error r s := by
  cases read <;> rfl

/-- One setting got a value, the others are as before. -/
structure ChangedAt (k : Key) (v : Setting) (s s' : Settings) : Prop where
  here : s'.get k = v
  elsewhere : ∀ k', k' ≠ k → s'.get k' = s.get k'

/-- The computation puts what was read in the place of a setting, or leaves all as it is. -/
def Assigns (k : Key) (assign : EStateM Refusal Settings Unit) (read : Except Refusal Setting) :
    Prop :=
  ∀ s : Settings, match read with
    | .ok v => ∃ s', assign s = .ok () s' ∧ ChangedAt k v s s'
    | .error r => assign s = .error r s

theorem Assigns.store {α : Type} {k : Key} {read : Except Refusal α} {put : Settings → α → Settings}
    (value : α → Setting)
    (hput : ∀ s v, (put s v).get k = value v ∧ ∀ k', k' ≠ k → (put s v).get k' = s.get k') :
    Assigns k (store read put) (read.map value) := by
  intro s
  rw [store_eq]
  cases read with
  | ok v => exact ⟨put s v, rfl, (hput s v).1, (hput s v).2⟩
  | error r => rfl

theorem Key.assigns (k : Key) (raw : String) : Assigns k (k.assign raw) (k.read raw) := by
  cases k <;> rw [assign, read]
  case' locale => refine Assigns.store Setting.locale ?_
  case' maxHeaderBytes => refine Assigns.store Setting.number ?_
  case' healthCheck | tlsEnable => refine Assigns.store Setting.switch ?_
  case' readTimeout | writeTimeout | idleTimeout | gracefulTimeout | gracefulWaitTime =>
    refine Assigns.store Setting.duration ?_
  case' address | name | tlsCertFile | tlsKeyFile | openapiPath | swaggerPath | swaggerTemplate |
      metricsPath =>
    refine Assigns.store Setting.text ?_
  all_goals
    intro s v
    refine ⟨rfl, fun k' h => ?_⟩
    cases k' <;> first | rfl | exact absurd rfl h

/-- What a call for one entry can do to the settings it works on. -/
inductive Applied (key value : String) (s : Settings) :
    EStateM.Result EntryError Settings (List Event) → Prop
  /-- It warns about a key that names no setting. -/
  | ignored (hkey : ∀ k : Key, k.isNamedBy key = false) :
    Applied key value s (.ok [unknownKey key] s)
  /-- It is refused and changes nothing. -/
  | refused (k : Key) (r : Refusal) (hkey : k.isNamedBy key = true) (hread : k.read value = .error r) :
    Applied key value s (.error (r.error key value) s)
  /-- It changes the setting that the key names. -/
  | changed (k : Key) (v : Setting) (s' : Settings) (hkey : k.isNamedBy key = true)
    (hread : k.read value = .ok v) (hchanged : ChangedAt k v s s') :
    Applied key value s (.ok [] s')

theorem applied_update (key value : String) (s : Settings) :
    Applied key value s (update key value s) := by
  cases hkey : Key.ofText? key with
  | none =>
    have hnone : ∀ k : Key, k.isNamedBy key = false := by
      intro k
      refine Bool.eq_false_iff.2 fun h => ?_
      rw [Key.isNamedBy_iff, hkey] at h
      cases h
    rw [update, hkey]
    exact .ignored hnone
  | some k =>
    have hnamed := Key.isNamedBy_iff.2 hkey
    have hassigns := k.assigns value s
    cases hread : k.read value with
    | error r =>
      rw [hread] at hassigns
      have hupdate : update key value s = .error (r.error key value) s := by
        simp only [update, hkey, bind, EStateM.bind, EStateM.adaptExcept, hassigns]
      rw [hupdate]
      exact .refused k r hnamed hread
    | ok v =>
      rw [hread] at hassigns
      obtain ⟨s', hassign, hchanged⟩ := hassigns
      have hupdate : update key value s = .ok [] s' := by
        simp only [update, hkey, bind, EStateM.bind, EStateM.adaptExcept, hassign]
        rfl
      rw [hupdate]
      exact .changed k v s' hnamed hread hchanged

/-! ## Lists of entries -/

/-- An entry whose key names a setting that refuses its value. -/
def isRefused (r : Refusal) (e : String × String) : Bool :=
  Key.all.any fun k => k.isNamedBy e.1 &&
    match k.read e.2 with
    | .ok _ => false
    | .error r' => r' = r

def isInvalid (e : String × String) : Bool :=
  isRefused .invalid e

/-- The entry gives no length of time beyond all bounds. -/
def Fits (e : String × String) : Prop :=
  isRefused .tooLong e = false

instance : DecidablePred Fits := fun e => inferInstanceAs (Decidable (isRefused .tooLong e = false))

/-- An entry whose key names no setting. -/
def isUnknown (e : String × String) : Bool :=
  Key.all.all fun k => !k.isNamedBy e.1

/-- The entries that name a setting. -/
def naming (k : Key) (entries : List (String × String)) : List (String × String) :=
  entries.filter fun e => k.isNamedBy e.1

/-- What a setting becomes: what the last entry that names it gives, or what it was before. -/
def layered (s : Settings) (entries : List (String × String)) (k : Key) : Except Refusal Setting :=
  match (naming k entries).getLast? with
  | some (_, raw) => k.read raw
  | none => .ok (s.get k)

/-- What a list of entries makes of settings. -/
def Layered (s : Settings) (entries : List (String × String)) (r : Except EntryError Settings) :
    Prop :=
  match entries.find? isInvalid with
  | some (key, value) => r = .error (.config (.invalid key value))
  | none => ∃ s', r = .ok s' ∧ ∀ k, layered s entries k = .ok (s'.get k)

/-- The warnings of a list of entries: one for each unknown key before the first invalid entry. -/
def warnings (entries : List (String × String)) : List Event :=
  ((entries.takeWhile (!isInvalid ·)).filter isUnknown).map fun e => unknownKey e.1

theorem Key.mem_all (k : Key) : k ∈ Key.all := by
  cases k <;> decide

theorem isRefused_iff {r : Refusal} {e : String × String} :
    isRefused r e = true ↔ ∃ k : Key, k.isNamedBy e.1 = true ∧ k.read e.2 = .error r := by
  have hread (k : Key) :
      (match k.read e.2 with
        | .ok _ => false
        | .error r' => decide (r' = r)) = true ↔ k.read e.2 = .error r := by
    cases k.read e.2 <;> simp
  simp only [isRefused, List.any_eq_true, Bool.and_eq_true, hread]
  exact ⟨fun ⟨k, _, h⟩ => ⟨k, h⟩, fun ⟨k, h⟩ => ⟨k, k.mem_all, h⟩⟩

theorem isUnknown_iff {e : String × String} :
    isUnknown e = true ↔ ∀ k : Key, k.isNamedBy e.1 = false := by
  simp only [isUnknown, List.all_eq_true, Bool.not_eq_true']
  exact ⟨fun h k => h k k.mem_all, fun h k _ => h k⟩

theorem isInvalid_eq_false {key value : String} {k : Key} {v : Setting}
    (hkey : k.isNamedBy key = true) (hread : k.read value = .ok v) :
    isInvalid (key, value) = false := by
  refine Bool.eq_false_iff.2 fun h => ?_
  obtain ⟨k', hkey', hread'⟩ := isRefused_iff.1 h
  cases Key.eq_of_isNamedBy hkey hkey'
  cases hread.symm.trans hread'

theorem isInvalid_eq_false_of_unknown {e : String × String} (h : isUnknown e = true) :
    isInvalid e = false := by
  refine Bool.eq_false_iff.2 fun hinvalid => ?_
  obtain ⟨k, hkey, _⟩ := isRefused_iff.1 hinvalid
  exact Bool.false_ne_true ((isUnknown_iff.1 h k).symm.trans hkey)

theorem naming_cons_of_ne {key : String} {k : Key} (h : k.isNamedBy key = false) (value : String)
    (entries : List (String × String)) : naming k ((key, value) :: entries) = naming k entries :=
  List.filter_cons_of_neg (by simp [h])

theorem layered_cons_of_ne {s s' : Settings} {key : String} {k : Key}
    (h : k.isNamedBy key = false) (hget : s'.get k = s.get k) (value : String)
    (entries : List (String × String)) :
    layered s ((key, value) :: entries) k = layered s' entries k := by
  rw [layered, layered, naming_cons_of_ne h, hget]

/-- An entry that changed a setting is one layer of it. -/
theorem layered_cons {s s' : Settings} {key value : String} {k : Key} {v : Setting}
    (hkey : k.isNamedBy key = true) (hread : k.read value = .ok v) (hchanged : ChangedAt k v s s')
    (entries : List (String × String)) (k' : Key) :
    layered s ((key, value) :: entries) k' = layered s' entries k' := by
  by_cases h : k' = k
  · subst h
    have hnaming : naming k' ((key, value) :: entries) = (key, value) :: naming k' entries :=
      List.filter_cons_of_pos hkey
    rw [layered, layered, hnaming, List.getLast?_cons]
    cases (naming k' entries).getLast? with
    | none => exact hread.trans (congrArg Except.ok hchanged.here.symm)
    | some e => rfl
  · have hne : k'.isNamedBy key = false :=
      Bool.eq_false_iff.2 fun hkey' => h (Key.eq_of_isNamedBy hkey' hkey)
    exact layered_cons_of_ne hne (hchanged.elsewhere k' h) value entries

theorem Layered.cons {s s' : Settings} {e : String × String} {entries : List (String × String)}
    {r : Except EntryError Settings} (hvalid : isInvalid e = false)
    (hstep : ∀ k, layered s (e :: entries) k = layered s' entries k) (h : Layered s' entries r) :
    Layered s (e :: entries) r := by
  rw [Layered] at h ⊢
  rw [List.find?_cons_of_neg (by simp [hvalid])]
  simpa only [hstep] using h

theorem Layered.invalid {s : Settings} {key value : String} {entries : List (String × String)}
    (h : isInvalid (key, value) = true) :
    Layered s ((key, value) :: entries) (.error (.config (.invalid key value))) := by
  rw [Layered, List.find?_cons_of_pos h]

theorem warnings_cons {e : String × String} (h : isInvalid e = false)
    (entries : List (String × String)) :
    warnings (e :: entries) =
      (if isUnknown e then [unknownKey e.1] else []) ++ warnings entries := by
  rw [warnings, warnings, List.takeWhile_cons_of_pos (by simp [h]), List.filter_cons]
  split <;> rfl

theorem warnings_invalid {e : String × String} (h : isInvalid e = true)
    (entries : List (String × String)) : warnings (e :: entries) = [] := by
  rw [warnings, List.takeWhile_cons_of_neg (by simp [h])]
  rfl

theorem merge_cons (s : Settings) (key value : String) (entries : List (String × String)) :
    s.merge ((key, value) :: entries) = match update key value s with
      | .ok events s' => ((s'.merge entries).1, events ++ (s'.merge entries).2)
      | .error e _ => (.error e, []) := by
  rw [merge, set]
  cases update key value s <;> rfl

/-- Every list of entries is layered on the settings, and warns about its unknown keys. -/
theorem layered_merge (s : Settings) (entries : List (String × String))
    (hfit : ∀ e ∈ entries, Fits e) :
    Layered s entries (s.merge entries).1 ∧ (s.merge entries).2 = warnings entries := by
  induction entries generalizing s with
  | nil => exact ⟨⟨s, rfl, fun k => rfl⟩, rfl⟩
  | cons e entries ih =>
    obtain ⟨key, value⟩ := e
    have hfit' := fun e he => hfit e (List.mem_cons_of_mem _ he)
    have happlied := applied_update key value s
    rw [merge_cons]
    generalize update key value s = out at happlied
    cases happlied with
    | ignored hkey =>
      have hunknown : isUnknown (key, value) = true := isUnknown_iff.2 hkey
      have hvalid := isInvalid_eq_false_of_unknown hunknown
      obtain ⟨hlayered, hwarn⟩ := ih s hfit'
      refine ⟨hlayered.cons hvalid fun k => layered_cons_of_ne (hkey k) rfl value entries, ?_⟩
      rw [warnings_cons hvalid, if_pos hunknown, ← hwarn]
    | refused k r hkey hread =>
      cases r with
      | invalid =>
        have hinvalid : isInvalid (key, value) = true := isRefused_iff.2 ⟨k, hkey, hread⟩
        exact ⟨Layered.invalid hinvalid, (warnings_invalid hinvalid entries).symm⟩
      | tooLong =>
        have hlong : isRefused .tooLong (key, value) = true := isRefused_iff.2 ⟨k, hkey, hread⟩
        exact absurd hlong (Bool.eq_false_iff.1 (hfit (key, value) List.mem_cons_self))
    | changed k v s' hkey hread hchanged =>
      have hvalid := isInvalid_eq_false hkey hread
      have hknown : ¬isUnknown (key, value) = true := fun h =>
        Bool.false_ne_true ((isUnknown_iff.1 h k).symm.trans hkey)
      obtain ⟨hlayered, hwarn⟩ := ih s' hfit'
      refine ⟨hlayered.cons hvalid (layered_cons hkey hread hchanged entries), ?_⟩
      rw [warnings_cons hvalid, if_neg hknown, ← hwarn]

/-! ## Loading -/

theorem merge_append (s : Settings) (entries more : List (String × String)) :
    s.merge (entries ++ more) = match s.merge entries with
      | (.error e, events) => (.error e, events)
      | (.ok s, events) => ((s.merge more).1, events ++ (s.merge more).2) := by
  induction entries generalizing s with
  | nil => rfl
  | cons e entries ih =>
    obtain ⟨key, value⟩ := e
    rw [List.cons_append, merge_cons, merge_cons]
    cases update key value s with
    | error e _ => rfl
    | ok events s' =>
      simp only [ih]
      rcases s'.merge entries with ⟨e | s'', events'⟩
      · rfl
      · simp only [List.append_assoc]

/-- An environment and explicit entries are one list of entries. -/
theorem load_eq (env : Environment) (overrides : List (String × String)) :
    load env overrides = default.merge (entriesOf env ++ overrides) := by
  refine Eq.trans ?_ (merge_append default (entriesOf env) overrides).symm
  unfold load
  rcases default.merge (entriesOf env) with ⟨e | s, events⟩ <;> rfl

/-! ## Order -/

theorem mem_of_naming {entries entries' : List (String × String)}
    (h : ∀ k, naming k entries' = naming k entries) {e : String × String} (he : e ∈ entries')
    {k : Key} (hkey : k.isNamedBy e.1 = true) : e ∈ entries := by
  have hmem : e ∈ naming k entries' := List.mem_filter.2 ⟨he, hkey⟩
  rw [h] at hmem
  exact (List.mem_filter.1 hmem).1

theorem refused_of_naming {r : Refusal} {entries entries' : List (String × String)}
    (h : ∀ k, naming k entries' = naming k entries) (hr : ∃ e ∈ entries', isRefused r e = true) :
    ∃ e ∈ entries, isRefused r e = true := by
  obtain ⟨e, he, hr⟩ := hr
  obtain ⟨k, hkey, _⟩ := isRefused_iff.1 hr
  exact ⟨e, mem_of_naming h he hkey, hr⟩

theorem fits_of_naming {entries entries' : List (String × String)}
    (h : ∀ k, naming k entries' = naming k entries) (hfit : ∀ e ∈ entries, Fits e) :
    ∀ e ∈ entries', Fits e := by
  intro e he
  refine Bool.eq_false_iff.2 fun hlong => ?_
  obtain ⟨e', he', hlong'⟩ := refused_of_naming h ⟨e, he, hlong⟩
  exact Bool.eq_false_iff.1 (hfit e' he') hlong'

theorem Layered.error_iff {s : Settings} {entries : List (String × String)}
    {r : Except EntryError Settings} (h : Layered s entries r) :
    (∃ e, r = .error e) ↔ ∃ e ∈ entries, isInvalid e = true := by
  rw [Layered] at h
  split at h
  · next key value hfind =>
    exact ⟨fun _ => ⟨_, List.mem_of_find?_eq_some hfind, List.find?_some hfind⟩, fun _ => ⟨_, h⟩⟩
  · next hfind =>
    obtain ⟨s', rfl, _⟩ := h
    constructor
    · rintro ⟨_, ⟨⟩⟩
    · rintro ⟨e, he, hinvalid⟩
      exact absurd hinvalid (List.find?_eq_none.1 hfind e he)

theorem Layered.get {s s' : Settings} {entries : List (String × String)}
    (h : Layered s entries (.ok s')) (k : Key) : layered s entries k = .ok (s'.get k) := by
  rw [Layered] at h
  split at h
  · cases h
  · obtain ⟨_, ⟨⟩, hget⟩ := h
    exact hget k

/-- Only the order of the entries of one setting counts. -/
theorem Layered.toOption_eq {s : Settings} {entries entries' : List (String × String)}
    {r r' : Except EntryError Settings} (hnaming : ∀ k, naming k entries' = naming k entries)
    (h : Layered s entries r) (h' : Layered s entries' r') : r'.toOption = r.toOption := by
  have hfails : (∃ e, r' = .error e) ↔ ∃ e, r = .error e := by
    rw [h.error_iff, h'.error_iff]
    exact ⟨refused_of_naming hnaming, refused_of_naming fun k => (hnaming k).symm⟩
  cases r with
  | error e =>
    obtain ⟨e', rfl⟩ := hfails.2 ⟨e, rfl⟩
    rfl
  | ok out =>
    cases r' with
    | error e' =>
      obtain ⟨_, ⟨⟩⟩ := hfails.1 ⟨e', rfl⟩
    | ok out' =>
      have hlayered (k : Key) : layered s entries' k = layered s entries k := by
        rw [layered, layered, hnaming]
      have hget (k : Key) : out'.get k = out.get k :=
        Except.ok.inj ((h'.get k).symm.trans ((hlayered k).trans (h.get k)))
      exact congrArg some (ext_get hget)

/-! ## Layers -/

/-- What comes of applying entries to settings, in order. -/
structure Loads (s : Settings) (entries : List (String × String))
    (out : Except EntryError Settings × List Event) : Prop where
  layered : Layered s entries out.1
  fails_iff : (∃ e, out.1 = .error e) ↔ ∃ e ∈ entries, isInvalid e = true
  warns : out.2 = warnings entries

theorem loads_merge (s : Settings) {entries : List (String × String)}
    (hfit : ∀ e ∈ entries, Fits e) : Loads s entries (s.merge entries) :=
  have h := layered_merge s entries hfit
  ⟨h.1, h.1.error_iff, h.2⟩

/-- Settings are layered: what is loaded has, for each setting, the value of the last entry that names it,
and what it was before if none does. Loading fails if and only if an entry is invalid, and then reports the
first such entry as it was written. Entries of different settings may stand in any order. A single call is
refused and changes nothing, or warns and changes nothing, or changes the setting its key names. -/
theorem settings_layering (s : Settings) (env : Environment) (overrides : List (String × String))
    (hfit : ∀ e ∈ entriesOf env ++ overrides, Fits e) :
    Loads default (entriesOf env ++ overrides) (load env overrides) ∧
    Loads default overrides (ofEntries overrides) ∧
    Loads s overrides (s.merge overrides) ∧
    (∀ env' overrides',
      (∀ k, naming k (entriesOf env' ++ overrides') = naming k (entriesOf env ++ overrides)) →
        (load env' overrides').1.toOption = (load env overrides).1.toOption) ∧
    (∀ overrides', (∀ k, naming k overrides' = naming k overrides) →
      (s.merge overrides').1.toOption = (s.merge overrides).1.toOption) ∧
    ∀ key value, Applied key value s (update key value s) := by
  have hfit' : ∀ e ∈ overrides, Fits e := fun e he => hfit e (List.mem_append_right _ he)
  have hmerge := loads_merge s hfit'
  have hload : Loads default (entriesOf env ++ overrides) (load env overrides) :=
    load_eq env overrides ▸ loads_merge default hfit
  refine ⟨hload, loads_merge default hfit', hmerge, ?_, ?_, fun key value => applied_update key value s⟩
  · intro env' overrides' hnaming
    have hload' := loads_merge default (fits_of_naming hnaming hfit)
    rw [← load_eq] at hload'
    exact Layered.toOption_eq hnaming hload.layered hload'.layered
  · intro overrides' hnaming
    have hmerge' := loads_merge s (fits_of_naming hnaming hfit')
    exact Layered.toOption_eq hnaming hmerge.layered hmerge'.layered

theorem settings_layering_two_layers :
    (∀ e ∈ entriesOf [("MALTOSE_SERVER_NAME", "shop"), ("PATH", "/bin"),
        ("MALTOSE_SERVER_HEALTH-CHECK", "off")] ++
        [("Max_Header_Bytes", " 2048 "), ("colour", "red"), ("na-me", "late")], Fits e) ∧
    ∃ s', load [("MALTOSE_SERVER_NAME", "shop"), ("PATH", "/bin"),
        ("MALTOSE_SERVER_HEALTH-CHECK", "off")]
        [("Max_Header_Bytes", " 2048 "), ("colour", "red"), ("na-me", "late")] =
        (.ok s', [unknownKey "colour"]) ∧
      s'.get .name = .text "late" ∧ s'.get .healthCheck = .switch false ∧
      s'.get .maxHeaderBytes = .number 2048 ∧ s'.get .locale = .locale .en := by
  have hfit : ∀ e ∈ entriesOf [("MALTOSE_SERVER_NAME", "shop"), ("PATH", "/bin"),
      ("MALTOSE_SERVER_HEALTH-CHECK", "off")] ++
      [("Max_Header_Bytes", " 2048 "), ("colour", "red"), ("na-me", "late")], Fits e := by
    decide +kernel
  refine ⟨hfit, ?_⟩
  obtain ⟨⟨hlayered, _, hwarn⟩, _⟩ := settings_layering default _ _ hfit
  rw [Layered, show List.find? isInvalid _ = none by decide +kernel] at hlayered
  obtain ⟨s', hload, hget⟩ := hlayered
  refine ⟨s', Prod.ext hload (hwarn.trans ?_), ?_, ?_, ?_, ?_⟩
  · rfl
  · exact Except.ok.inj ((hget .name).symm.trans rfl)
  · exact Except.ok.inj ((hget .healthCheck).symm.trans rfl)
  · exact Except.ok.inj ((hget .maxHeaderBytes).symm.trans rfl)
  · exact Except.ok.inj ((hget .locale).symm.trans rfl)

end HttpService.Settings
