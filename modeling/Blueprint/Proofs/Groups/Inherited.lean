import Blueprint.Proofs.Groups.Account
import Blueprint.Proofs.Groups.Payloads

/-!
# What actions take over from their resource

An action without parameters has those of its resource, and one without a template its template.

* `ReadsAlike`: two actions, each on its resource, of which the same is read.
* `normalizeAction_congr`: they become one action, with the same remarks.
* `ParameterFrom`: what a parameter takes from the declared one; `forall₂_parameters`.
* **`normalizeAction_inherits`**: writing out what an action takes over changes nothing, and nothing
  depends on what it does not take over.
-/

namespace Blueprint.Api

open Text

/-! ## What is read of an action -/

/-- Two actions on their resources that agree in all that is read of them: of the parameters and the
templates only those in effect. -/
structure ReadsAlike (r : Ast.Resource) (a : Ast.Action) (s : Ast.Resource) (b : Ast.Action) :
    Prop where
  resourceName : r.name = s.name
  resourceContent : r.content = s.content
  name : a.name = b.name
  description : a.description = b.description
  method : a.method = b.method
  content : a.content = b.content
  examples : a.examples = b.examples
  template : effectiveTemplate r a = effectiveTemplate s b
  parameters : effectiveParameters r a = effectiveParameters s b

section Congruence

variable {x y : Context} {default : String}

theorem payloads_congr (h : x.action.examples = y.action.examples) (kind : PayloadKind) :
    x.payloads kind = y.payloads kind := by
  rw [Context.payloads, Context.payloads, h]

theorem responseType_congr (h : inferType x .response default = inferType y .response default)
    (huri : x.uri = y.uri) : responseType x default = responseType y default := by
  rw [responseType, responseType, h, huri]

theorem requestBody_congr (h : inferType x .request default = inferType y .request default)
    (hpayloads : x.payloads .request = y.payloads .request) :
    requestBody x default = requestBody y default := by
  rw [requestBody, requestBody, hpayloads, resolveType, resolveType, h]

end Congruence

section Actions

variable {r s : Ast.Resource} {a b : Ast.Action}

theorem ReadsAlike.buildAction_eq (h : ReadsAlike r a s b) (m : Method) (default : String) :
    buildAction r a m default = buildAction s b m default := by
  -- the contexts differ in what is not read, once both templates are the one in effect
  let x : Context := { resource := r, action := a, method := m.name, uri := effectiveTemplate s b }
  let y : Context := { resource := s, action := b, method := m.name, uri := effectiveTemplate s b }
  have hpayloads : ∀ kind, x.payloads kind = y.payloads kind := payloads_congr h.examples
  have hinfer : ∀ kind, inferType x kind default = inferType y kind default := fun kind =>
    inferType_congr rfl rfl (hpayloads kind) h.content h.resourceContent
  have hresponse : responseType x default = responseType y default :=
    responseType_congr (hinfer .response) rfl
  have hbody : requestBody x default = requestBody y default :=
    requestBody_congr (hinfer .request) (hpayloads .request)
  have hname : ∀ path, actionName a m path = actionName b m path := by
    intro path
    rw [actionName, actionName, h.name]
  unfold buildAction
  dsimp only
  rw [h.template, h.parameters, h.resourceName, h.description, hname]
  rw [hresponse, hbody, hpayloads]

/-- **Actions of which the same is read become one action**, with the same remarks. -/
theorem normalizeAction_congr (h : ReadsAlike r a s b) (o : Options) :
    normalizeAction o r a = normalizeAction o s b := by
  have herror : unsupportedMethod r a = unsupportedMethod s b := by
    rw [unsupportedMethod, unsupportedMethod, h.name, h.method, h.template]
  unfold normalizeAction
  simp only [h.method, herror, h.buildAction_eq]

end Actions

/-! ## Parameters -/

/-- What a parameter takes from the declared one; it is bound by the query if the template names it
there, and by the path if not. -/
structure ParameterFrom (queryNames : List String) (p : Ast.Parameter) (q : Parameter) : Prop where
  name : q.name = Name.ofString p.name
  type : q.type = if trimmed p.type = "" then undeclaredType else mapType (trimmed p.type)
  description : q.description = trimmed p.description
  required : q.required = p.required
  default : q.default = p.default
  byQuery : q.binding = .query ↔ p.name ∈ queryNames
  byPath : q.binding = .path ↔ p.name ∉ queryNames

theorem parameterFrom_normalizeParameter (queryNames : List String) (p : Ast.Parameter) :
    ParameterFrom queryNames p (normalizeParameter queryNames p) where
  name := rfl
  type := by simp only [normalizeParameter, isBlank_iff]
  description := rfl
  required := rfl
  default := rfl
  byQuery := by
    by_cases h : p.name ∈ queryNames <;> simp [normalizeParameter, h]
  byPath := by
    by_cases h : p.name ∈ queryNames <;> simp [normalizeParameter, h]

theorem forall₂_delimitFrom {queryNames : List String} {ps : List Ast.Parameter} {qs : List Parameter}
    (h : List.Forall₂ (ParameterFrom queryNames) ps qs) (first : Bool) :
    List.Forall₂ (ParameterFrom queryNames) ps (delimitFrom first qs) := by
  induction h generalizing first with
  | nil => exact .nil
  | cons hpq _ ih =>
    exact .cons ⟨hpq.name, hpq.type, hpq.description, hpq.required, hpq.default, hpq.byQuery,
      hpq.byPath⟩ (ih false)

theorem forall₂_parameters {o : Options} {r : Ast.Resource} {a : Ast.Action} {b : Action}
    (h : (normalizeAction o r a).value = some b) :
    List.Forall₂ (ParameterFrom (Uri.Template.ofString (effectiveTemplate r a)).queryNames)
      (effectiveParameters r a) b.parameters := by
  rw [value_normalizeAction, Option.map_eq_some_iff] at h
  obtain ⟨m, -, rfl⟩ := h
  refine forall₂_delimitFrom (List.forall₂_map_right_iff.mpr ?_) true
  exact List.forall₂_same.mpr fun p _ => parameterFrom_normalizeParameter _ p

/-! ## Inheritance -/

/-- An action with parameters and a template. -/
def withOwn (a : Ast.Action) (ps : List Ast.Parameter) (uri : String) : Ast.Action :=
  { a with parameters := ps, attributes := { a.attributes with uriTemplate := uri } }

/-- **What an action takes over from its resource is read as if it were its own.** -/
theorem normalizeAction_inherits (o : Options) (r : Ast.Resource) (a : Ast.Action) :
    (∀ ps uri, ps = a.parameters ∨ a.parameters = [] ∧ ps = r.parameters →
      uri = a.attributes.uriTemplate ∨ a.attributes.uriTemplate = "" ∧ uri = r.uriTemplate →
      normalizeAction o r (withOwn a ps uri) = normalizeAction o r a) ∧
    (∀ ps uri, a.parameters ≠ [] ∨ ps = r.parameters →
      a.attributes.uriTemplate ≠ "" ∨ uri = r.uriTemplate →
      normalizeAction o { r with parameters := ps, uriTemplate := uri } a = normalizeAction o r a) ∧
    ∃ declared uri,
      declared = (if a.parameters = [] then r.parameters else a.parameters) ∧
      uri = (if a.attributes.uriTemplate = "" then r.uriTemplate else a.attributes.uriTemplate) ∧
      ∀ b, (normalizeAction o r a).value = some b →
        List.Forall₂ (ParameterFrom (Uri.Template.ofString uri).queryNames) declared b.parameters := by
  refine ⟨?_, ?_, effectiveParameters r a, effectiveTemplate r a, ?_, rfl, fun b => forall₂_parameters⟩
  · intro ps uri hps huri
    -- written out or taken over, template and parameters are the same
    have htemplate : effectiveTemplate r (withOwn a ps uri) = effectiveTemplate r a := by
      rcases huri with rfl | ⟨hnone, rfl⟩
      · rfl
      · by_cases h : r.uriTemplate = "" <;> simp [effectiveTemplate, withOwn, hnone, h]
    have hparameters : effectiveParameters r (withOwn a ps uri) = effectiveParameters r a := by
      rcases hps with rfl | ⟨hnone, rfl⟩
      · rfl
      · cases h : r.parameters <;> simp [effectiveParameters, withOwn, hnone, h]
    have halike : ReadsAlike r (withOwn a ps uri) r a :=
      ⟨rfl, rfl, rfl, rfl, rfl, rfl, rfl, htemplate, hparameters⟩
    exact normalizeAction_congr halike o
  · intro ps uri hps huri
    -- what the action has of its own hides that of the resource
    let s : Ast.Resource := { r with parameters := ps, uriTemplate := uri }
    have htemplate : effectiveTemplate s a = effectiveTemplate r a := by
      rcases huri with hown | rfl
      · rw [effectiveTemplate, effectiveTemplate, if_neg hown, if_neg hown]
      · rfl
    have hparameters : effectiveParameters s a = effectiveParameters r a := by
      rcases hps with hown | rfl
      · simp [effectiveParameters, hown]
      · rfl
    have halike : ReadsAlike s a r a := ⟨rfl, rfl, rfl, rfl, rfl, rfl, rfl, htemplate, hparameters⟩
    exact normalizeAction_congr halike o
  · cases h : a.parameters <;> simp [effectiveParameters, h]

/-- A resource with a parameter in its path and one in its query. -/
def couponResource : Ast.Resource :=
  { name := "Coupon", uriTemplate := "/coupons/\x7bid\x7d\x7b?limit\x7d"
    parameters := [{ name := "id" }, { name := "limit", type := "number" }] }

/-- An action that says nothing but its method. -/
def bareAction : Ast.Action := { method := "GET" }

/-- A bare action has the two parameters of its resource, and so has the same action with them
written out. -/
theorem normalizeAction_inherits_bare :
    (∃ b, (normalizeAction {} couponResource bareAction).value = some b ∧
      b.parameters.map (·.binding) = [.path, .query] ∧
      List.Forall₂ (ParameterFrom ["limit"]) couponResource.parameters b.parameters) ∧
    normalizeAction {} couponResource
        (withOwn bareAction couponResource.parameters couponResource.uriTemplate) =
      normalizeAction {} couponResource bareAction ∧
    normalizeAction {} { couponResource with parameters := [], uriTemplate := "/" }
        (withOwn bareAction couponResource.parameters couponResource.uriTemplate) =
      normalizeAction {} couponResource bareAction := by
  obtain ⟨hwritten, -, declared, uri, hdeclared, huri, hfrom⟩ :=
    normalizeAction_inherits {} couponResource bareAction
  obtain ⟨-, hfree, -⟩ := normalizeAction_inherits {} couponResource
    (withOwn bareAction couponResource.parameters couponResource.uriTemplate)
  have hown := hwritten couponResource.parameters couponResource.uriTemplate (.inr ⟨rfl, rfl⟩)
    (.inr ⟨rfl, rfl⟩)
  have hchanged := hfree [] "/" (.inl (by decide)) (.inl (by decide))
  obtain ⟨b, hb, hbinding⟩ : ∃ b, (normalizeAction {} couponResource bareAction).value = some b ∧
      b.parameters.map (·.binding) = [.path, .query] := ⟨_, rfl, by decide +kernel⟩
  have hnames : (Uri.Template.ofString couponResource.uriTemplate).queryNames = ["limit"] := by
    decide +kernel
  have hparameters := hfrom b hb
  rw [huri, hdeclared] at hparameters
  refine ⟨⟨b, hb, hbinding, ?_⟩, hown, hchanged.trans hown⟩
  rw [← hnames]
  exact hparameters

end Blueprint.Api
