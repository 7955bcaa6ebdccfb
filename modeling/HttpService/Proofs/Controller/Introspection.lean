import HttpService.Controller.Basic
import HttpService.Derive.Endpoints
import HttpService.Proofs.Route.Path
import Mathlib.Data.List.Forall2

/-!
# Introspection conserves methods

A method of a controller is looked at twice: when its endpoint is declared, and when a route is made of
the endpoint. `introspection_conserves_methods`: each method with a receiver has one endpoint, which is
bindable just if the method has the form of an endpoint; each endpoint has one route or one warning, both
in order; and every route has a method in capitals, a normal path, and the name of its handler.

For each of the two there is a reading of what it decides that does not follow the order of its checks
(`Signature.IsEndpoint`, `ControllerMethod.isRoutable`), and one lemma that it decides just that
(`Signature.declares_endpoint`, `isRouteOf_of_ok` with `isWarningAbout_of_error`).
-/

set_option autoImplicit false

namespace HttpService

/-! ## Verbs -/

section
variable {c : Char}

theorem isLower_iff : c.isLower = true ↔ 97 ≤ c.toNat ∧ c.toNat ≤ 122 := by
  show (decide (c.val ≥ 'a'.val) && decide (c.val ≤ 'z'.val)) = true ↔ _
  rw [Bool.and_eq_true, decide_eq_true_eq, decide_eq_true_eq]
  exact Iff.rfl

theorem isUpper_iff : c.isUpper = true ↔ 65 ≤ c.toNat ∧ c.toNat ≤ 90 := by
  show decide (c.val ≥ 'A'.val ∧ c.val ≤ 'Z'.val) = true ↔ _
  rw [decide_eq_true_eq]
  exact Iff.rfl

theorem isAlphanum_of_case (h : c.isUpper = true ∨ c.isLower = true) : c.isAlphanum = true := by
  show ((c.isUpper || c.isLower) || c.isDigit) = true
  rcases h with h | h <;> simp [h]

theorem toNat_toUpper (h : c.isLower = true) : c.toUpper.toNat = c.toNat - 32 := by
  obtain ⟨ha, hz⟩ := isLower_iff.1 h
  have hbounds : 'a'.val ≤ c.val ∧ c.val ≤ 'z'.val := ⟨ha, hz⟩
  unfold Char.toUpper
  rw [dif_pos hbounds]
  have hd : ('A'.val - 'a'.val).toNat = 2 ^ 32 - 32 := rfl
  have hc : c.val.toNat = c.toNat := rfl
  show (c.val + ('A'.val - 'a'.val)).toNat = c.toNat - 32
  rw [UInt32.toNat_add, hd, hc]
  omega

theorem toUpper_of_not_lower (h : c.isLower = false) : c.toUpper = c := by
  unfold Char.toUpper
  refine dif_neg fun hc => ?_
  have hlower : c.isLower = true := isLower_iff.2 hc
  rw [h] at hlower
  cases hlower

theorem isUpper_toUpper (h : c.isLower = true) : c.toUpper.isUpper = true := by
  obtain ⟨ha, hz⟩ := isLower_iff.1 h
  rw [isUpper_iff, toNat_toUpper h]
  omega

theorem isLower_toUpper (c : Char) : c.toUpper.isLower = false := by
  cases h : c.isLower with
  | true =>
    obtain ⟨ha, hz⟩ := isLower_iff.1 h
    refine Bool.eq_false_iff.2 fun hupper => ?_
    rw [isLower_iff, toNat_toUpper h] at hupper
    omega
  | false => rw [toUpper_of_not_lower h, h]

theorem isTokenChar_toUpper (c : Char) :
    MediaType.isTokenChar c.toUpper = MediaType.isTokenChar c := by
  cases h : c.isLower with
  | true =>
    simp [MediaType.isTokenChar, isAlphanum_of_case (.inr h),
      isAlphanum_of_case (.inl (isUpper_toUpper h))]
  | false => rw [toUpper_of_not_lower h]

end

/-- Whether a text names a method: a token, whatever its case and the blanks around it. -/
def isVerb (verb : String) : Bool :=
  let token := (Text.trim verb).toList
  token ≠ [] && token.all MediaType.isTokenChar

/-- A method as it stands in a request: a token in capitals. -/
def IsMethodToken (method : String) : Prop :=
  method ≠ "" ∧ ∀ c ∈ method.toList, MediaType.isTokenChar c = true ∧ c.isLower = false

theorem httpMethod?_eq_some {verb method : String} :
    httpMethod? verb = some method ↔
      isVerb verb = true ∧ method = String.ofList ((Text.trim verb).toList.map Char.toUpper) := by
  have hall : ((Text.trim verb).toList.map Char.toUpper).all MediaType.isTokenChar =
      (Text.trim verb).toList.all MediaType.isTokenChar := by
    simp only [List.all_map, Function.comp_def, isTokenChar_toUpper]
  simp only [httpMethod?, isVerb, hall, ne_eq, List.map_eq_nil_iff, Bool.and_eq_true,
    decide_eq_true_eq, Option.ite_none_right_eq_some, Option.some.injEq]
  exact and_congr_right fun _ => eq_comm

theorem isMethodToken_of_isVerb {verb : String} (h : isVerb verb = true) :
    IsMethodToken (String.ofList ((Text.trim verb).toList.map Char.toUpper)) := by
  simp only [isVerb, Bool.and_eq_true, decide_eq_true_eq, List.all_eq_true] at h
  refine ⟨fun hempty => h.1 ?_, fun c hc => ?_⟩
  · have hnil := congrArg String.toList hempty
    rw [String.toList_ofList] at hnil
    exact List.map_eq_nil_iff.1 hnil
  · rw [String.toList_ofList] at hc
    obtain ⟨d, hd, rfl⟩ := List.mem_map.1 hc
    exact ⟨(isTokenChar_toUpper d).trans (h.2 d hd), isLower_toUpper d⟩

/-! ## Declared endpoints -/

namespace Derive

namespace Signature

/-- What a method needs to be an endpoint: it is async, not generic, takes `&self`, one parameter by
shared reference and one by value, and its result is a path that ends in `Result`. -/
structure IsEndpoint (s : Signature) : Prop where
  isAsync : s.isAsync = true
  plain : s.isGeneric = false
  receiver : s.receiver? = some .shared
  parameters : ∃ context request, s.parameters = [context, request] ∧
    TypeForm.ofText context = .shared ∧
    TypeForm.ofText request ≠ .shared ∧ TypeForm.ofText request ≠ .exclusive
  result : s.result.map TypeForm.ofText = some (.path "Result")

end Signature

/-- Whether a reason against a method applies to it. -/
def Rejection.Applies (s : Signature) : Rejection → Prop
  | sync => s.isAsync = false
  | generic => s.isGeneric = true
  | receiver => s.receiver? ≠ some .shared
  | arity => s.parameters.length ≠ 2
  | context => ∃ context ∈ s.parameters.head?, TypeForm.ofText context ≠ .shared
  | request => ∃ request ∈ s.parameters.getLast?,
      TypeForm.ofText request = .shared ∨ TypeForm.ofText request = .exclusive
  | result => s.result.map TypeForm.ofText ≠ some (.path "Result")

namespace Signature

variable {s : Signature}

theorem IsEndpoint.not_applies (h : s.IsEndpoint) (why : Rejection) : ¬ why.Applies s := by
  obtain ⟨context, request, hp, hc, hshared, hexclusive⟩ := h.parameters
  intro ha
  cases why with
  | sync => simp [Rejection.Applies, h.isAsync] at ha
  | generic => simp [Rejection.Applies, h.plain] at ha
  | receiver => exact ha h.receiver
  | arity => simp [Rejection.Applies, hp] at ha
  | context => simp [Rejection.Applies, hp, hc] at ha
  | request => simp [Rejection.Applies, hp, hshared, hexclusive] at ha
  | result => exact ha h.result

/-- The endpoint that stands for a method: bindable for an endpoint, and else rejected for a reason that
applies. -/
inductive Declares (s : Signature) : DeclaredEndpoint → Prop
  | bindable (h : s.IsEndpoint) (request : String) : Declares s (.bindable s.name request)
  | rejected {why : Rejection} (h : ¬ s.IsEndpoint) (applies : why.Applies s) :
    Declares s (.rejected s.name why)

theorem Declares.of_applies (why : Rejection) (h : why.Applies s) :
    s.Declares (.rejected s.name why) :=
  .rejected (fun he => he.not_applies why h) h

theorem declares_endpoint {receiver : Receiver} (hr : s.receiver? = some receiver) :
    s.Declares (s.endpoint receiver) := by
  unfold endpoint
  split
  · rename_i h
    exact .of_applies .sync (by simpa [Rejection.Applies] using h)
  split
  · rename_i h
    exact .of_applies .generic h
  split
  · rename_i h
    exact .of_applies .receiver (by simpa [Rejection.Applies, hr] using h)
  split
  · rename_i context request hp
    dsimp only
    split
    · rename_i h
      exact .of_applies .context (by simpa [Rejection.Applies, hp] using h)
    split
    · rename_i h
      exact .of_applies .request (by simpa [Rejection.Applies, hp] using h)
    split
    · rename_i h
      exact .of_applies .result (by simpa [Rejection.Applies, returnsResult] using h)
    · rename_i hasync hgeneric hreceiver _ hcontext hrequest hresult
      refine .bindable ⟨by simpa using hasync, by simpa using hgeneric, by simp_all,
        ⟨context, request, hp, by simpa using hcontext, by simpa using hrequest⟩, ?_⟩ _
      simpa [returnsResult] using hresult
  · rename_i hp
    refine .of_applies .arity fun hlength => ?_
    obtain ⟨context, request, h⟩ := List.length_eq_two.1 hlength
    exact hp context request h

end Signature

/-- One endpoint for each method with a receiver, in the order written. -/
theorem MethodBlock.forall₂_endpoints {b : MethodBlock} {ds : List DeclaredEndpoint}
    (h : b.endpoints = .ok ds) :
    List.Forall₂ Signature.Declares (b.methods.filter (·.receiver?.isSome)) ds := by
  have hds : ds = b.methods.filterMap Signature.endpoint? := by
    unfold endpoints at h
    dsimp only at h
    split at h <;> [cases h; split at h <;> [cases h; split at h <;> cases h]]
    rfl
  rw [hds]
  induction b.methods with
  | nil => exact .nil
  | cons s ss ih =>
    cases hr : s.receiver? with
    | none => simpa [hr, Signature.endpoint?] using ih
    | some receiver => simpa [hr, Signature.endpoint?] using ⟨s.declares_endpoint hr, ih⟩

end Derive

/-! ## Routes and warnings -/

section
variable {M E : Type} {F : Family} {controller group : String} {mw : List M}
  {m : ControllerMethod E}

/-- A method that a controller offers for a declared endpoint; its types are known there. -/
inductive Realises : Derive.DeclaredEndpoint → ControllerMethod E → Prop
  | bindable (name text : String) (request response : TypeInfo) (endpoint : E) :
    Realises (.bindable name text) (.bindable name request response endpoint)
  | rejected (name : String) (why : Derive.Rejection) :
    Realises (.rejected name why) (.rejected name why.reason)

/-- Whether a method has a route: it can be bound, and its request names a path and a verb. -/
def ControllerMethod.isRoutable (F : Family) : ControllerMethod E → Bool
  | .rejected .. => false
  | .bindable _ request .. =>
    let meta' := F.metadata request.shape
    meta'.contains "path" && (meta'.find? "method").any isVerb

/-- What holds of the route of a method. -/
structure IsRouteOf (controller : String) (mw : List M) (m : ControllerMethod E)
    (r : Route M E) : Prop where
  handler : r.handler = controller ++ "." ++ m.name
  request : m.request? = some r.request
  method : IsMethodToken r.method
  path : Path.normalise r.path = r.path
  middleware : r.middleware = mw

/-- A warning that names the method. -/
def IsWarningAbout (controller : String) (m : ControllerMethod E) (e : Event) : Prop :=
  e.level = .warn ∧ [("controller", controller), ("method", m.name)] <+: e.fields

namespace Controller

theorem introspectMethod_eq_ok {r : Route M E}
    (h : introspectMethod F controller group mw m = .ok r) :
    ∃ name request response endpoint path verb,
      m = .bindable name request response endpoint ∧
      (F.metadata request.shape).find? "path" = some path ∧
      (F.metadata request.shape).find? "method" = some verb ∧ isVerb verb = true ∧
      r = { routeDoc group (F.metadata request.shape) path
              (String.ofList ((Text.trim verb).toList.map Char.toUpper))
              (controller ++ "." ++ name) request response with
            middleware := mw, endpoint } := by
  cases m with
  | rejected name reason => cases h
  | bindable name request response endpoint =>
    unfold introspectMethod at h
    dsimp only at h
    split at h
    · rename_i path verb hpath hverb
      split at h
      · rename_i method hmethod
        obtain ⟨hvalid, rfl⟩ := httpMethod?_eq_some.1 hmethod
        exact ⟨_, _, _, _, path, verb, rfl, hpath, hverb, hvalid, (Except.ok.inj h).symm⟩
      · cases h
    · cases h

theorem isRouteOf_of_ok {r : Route M E} (h : introspectMethod F controller group mw m = .ok r) :
    m.isRoutable F = true ∧ IsRouteOf controller mw m r := by
  obtain ⟨name, request, response, endpoint, path, verb, rfl, hpath, hverb, hvalid, rfl⟩ :=
    introspectMethod_eq_ok h
  refine ⟨?_, rfl, rfl, isMethodToken_of_isVerb hvalid, Path.normalise_normalise _, rfl⟩
  simp [ControllerMethod.isRoutable, Assoc.contains, hpath, hverb, hvalid]

theorem isWarningAbout_of_error {e : Event}
    (h : introspectMethod F controller group mw m = .error e) :
    m.isRoutable F = false ∧ IsWarningAbout controller m e := by
  cases m with
  | rejected name reason =>
    cases h
    exact ⟨rfl, rfl, List.prefix_append _ _⟩
  | bindable name request response endpoint =>
    unfold introspectMethod at h
    dsimp only at h
    split at h
    · rename_i path verb hpath hverb
      split at h
      · cases h
      · rename_i hmethod
        cases h
        have hinvalid : isVerb verb = false := by
          refine Bool.eq_false_iff.2 fun hvalid => ?_
          rw [httpMethod?_eq_some.2 ⟨hvalid, rfl⟩] at hmethod
          cases hmethod
        exact ⟨by simp [ControllerMethod.isRoutable, hverb, hinvalid], rfl,
          List.prefix_append _ _⟩
    · rename_i hnone
      cases h
      refine ⟨?_, rfl, List.prefix_append _ _⟩
      cases hpath : (F.metadata request.shape).find? "path" with
      | none => simp [ControllerMethod.isRoutable, Assoc.contains, hpath]
      | some path =>
        cases hverb : (F.metadata request.shape).find? "method" with
        | none => simp [ControllerMethod.isRoutable, hverb]
        | some verb => exact absurd hverb (hnone path verb hpath)

/-- The methods with a route and the others, both in order. -/
theorem forall₂_introspect (F : Family) (c : Controller E) (group : String) (mw : List M) :
    List.Forall₂ (IsRouteOf (shortTypeName c.typeName) mw) (c.methods.filter (·.isRoutable F))
      (c.introspect F group mw).1 ∧
    List.Forall₂ (IsWarningAbout (shortTypeName c.typeName))
      (c.methods.filter (!·.isRoutable F)) (c.introspect F group mw).2 := by
  unfold introspect
  dsimp only
  induction c.methods with
  | nil => exact ⟨.nil, .nil⟩
  | cons m ms ih =>
    cases hm : introspectMethod F (shortTypeName c.typeName) group mw m with
    | ok r =>
      obtain ⟨hroutable, hr⟩ := isRouteOf_of_ok hm
      simpa [hm, hroutable, Except.toOption, hr] using ih
    | error e =>
      obtain ⟨hroutable, he⟩ := isWarningAbout_of_error hm
      simpa [hm, hroutable, Except.toOption, he] using ih

end Controller

/-- **Introspection conserves methods.** The endpoints of an accepted block are those of its methods with
a receiver, in order, each bindable just if the method is an endpoint, and else rejected for a reason that
applies. Whatever the group and its middleware: each endpoint of a controller with these has one route or
one warning; a route just if it can be bound and its request names a path and a verb; and both lists keep
the order. Each route has a method in capitals, a normal path, and the name of controller and method. -/
theorem introspection_conserves_methods {b : Derive.MethodBlock}
    {ds : List Derive.DeclaredEndpoint} {c : Controller E} (hb : b.endpoints = .ok ds)
    (hc : List.Forall₂ Realises ds c.methods) (F : Family) (group : String) (mw : List M) :
    List.Forall₂ Derive.Signature.Declares (b.methods.filter (·.receiver?.isSome)) ds ∧
    (c.introspect F group mw).1.length + (c.introspect F group mw).2.length = ds.length ∧
    List.Forall₂ (IsRouteOf (shortTypeName c.typeName) mw) (c.methods.filter (·.isRoutable F))
      (c.introspect F group mw).1 ∧
    List.Forall₂ (IsWarningAbout (shortTypeName c.typeName))
      (c.methods.filter (!·.isRoutable F)) (c.introspect F group mw).2 := by
  obtain ⟨hroutes, hwarnings⟩ := c.forall₂_introspect F group mw
  refine ⟨Derive.MethodBlock.forall₂_endpoints hb, ?_, hroutes, hwarnings⟩
  rw [← hroutes.length_eq, ← hwarnings.length_eq, hc.length_eq]
  exact (List.length_eq_length_filter_add _).symm

end

/-- Four methods: one that makes the controller, an endpoint with a route, one that is not async, and an
endpoint whose request names no path. -/
theorem introspection_of_four_methods :
    let block : Derive.MethodBlock :=
      { arguments := "", generics := "", trait := none, target := "Hello"
        methods := [
          ⟨"new", false, "", "", [], some "Self"⟩,
          ⟨"say", true, "", "&self", ["&RequestContext", "HelloReq"], some "Result<HelloRes>"⟩,
          ⟨"wait", false, "", "&self", ["&RequestContext", "HelloReq"], some "Result<HelloRes>"⟩,
          ⟨"plain", true, "<>", "&self", ["&RequestContext", "Note"], some "demo::Result<Note>"⟩] }
    let marker : Field :=
      ⟨"meta", "meta", "path:\"/hello\" method:\" get\"", "", false, .marker⟩
    let F : Family := ⟨[⟨"HelloReq", [marker]⟩, ⟨"Note", []⟩]⟩
    let hello : TypeInfo := ⟨"demo::HelloReq", .struct 0⟩
    let note : TypeInfo := ⟨"demo::Note", .struct 1⟩
    let ds : List Derive.DeclaredEndpoint :=
      [.bindable "say" "HelloReq", .rejected "wait" .sync, .bindable "plain" "Note"]
    let c : Controller Unit := ⟨"demo::Hello", [.bindable "say" hello note (),
      .rejected "wait" Derive.Rejection.sync.reason, .bindable "plain" note note ()]⟩
    (block.endpoints = .ok ds ∧ List.Forall₂ Realises ds c.methods) ∧
    ∃ r w₁ w₂, c.introspect F "/api" ["auth"] = ([r], [w₁, w₂]) ∧
      r.handler = "Hello.say" ∧ IsMethodToken r.method ∧ r.middleware = ["auth"] := by
  intro block marker F hello note ds c
  have hb : block.endpoints = .ok ds := by decide +kernel
  have hc : List.Forall₂ Realises ds c.methods :=
    .cons (.bindable ..) (.cons (.rejected ..) (.cons (.bindable ..) .nil))
  obtain ⟨_, _, hroutes, hwarnings⟩ :=
    introspection_conserves_methods hb hc F "/api" ["auth"]
  have hsay : (ControllerMethod.bindable "say" hello note ()).isRoutable F = true := by
    decide +kernel
  have hplain : (ControllerMethod.bindable "plain" note note ()).isRoutable F = false := by
    decide +kernel
  have hwait : (ControllerMethod.rejected "wait" Derive.Rejection.sync.reason : ControllerMethod
    Unit).isRoutable F = false := rfl
  generalize c.introspect F "/api" ["auth"] = result at hroutes hwarnings ⊢
  obtain ⟨routes, warnings⟩ := result
  simp only [c, List.filter_cons, List.filter_nil, hsay, hplain, hwait, Bool.not_true,
    Bool.not_false, Bool.false_eq_true, if_true, if_false] at hroutes hwarnings
  cases hroutes with | cons hr hroutes => cases hroutes with | nil =>
  cases hwarnings with | cons _ hwarnings => cases hwarnings with | cons _ hwarnings =>
  cases hwarnings with | nil =>
  have hname : shortTypeName c.typeName ++ "." ++ "say" = "Hello.say" := by decide +kernel
  exact ⟨⟨hb, hc⟩, _, _, _, rfl, hr.handler.trans hname, hr.method, hr.middleware⟩

end HttpService
