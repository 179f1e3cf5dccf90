import Blueprint.Proofs.Groups.Payloads
import Blueprint.Proofs.Models.Parents
import Blueprint.Proofs.TypeName.Basic

/-!
# Names and types that are there

No name or type that code is generated from is empty, whatever the document leaves blank.

* `Filled`: an action, a group, a model, an API with all its names and types.
* `filled_normalizeParameter`, `filled_injected`: parameters, declared or added by rules.
* `resolved_ne_empty`: the types of payloads; `filled_normalizeAction`: the actions of a document.
* **`filled_transform`**: in every run with a default type, all names and types are there.
-/

namespace Blueprint.Api

open Ast Text

/-! ## What is there -/

structure Parameter.Filled (p : Parameter) : Prop where
  name : p.name.camel ≠ ""
  type : p.type ≠ ""

structure Action.Filled (a : Action) : Prop where
  name : a.name.camel ≠ ""
  responseType : a.responseType ≠ ""
  body : ∀ b ∈ a.body, b.type ≠ ""
  parameters : ∀ p ∈ a.parameters, p.Filled

structure Group.Filled (g : Group) : Prop where
  name : g.name.pascal ≠ ""
  controllerClass : g.controllerClass ≠ ""
  serviceClass : g.serviceClass ≠ ""
  serviceField : g.serviceField ≠ ""
  actions : ∀ a ∈ g.actions, a.Filled

structure Field.Filled (f : Field) : Prop where
  name : f.name.camel ≠ ""
  type : f.type ≠ ""

structure Model.Filled (m : Model) : Prop where
  className : m.className ≠ ""
  parentClass : ∀ c ∈ m.parentClass, c ≠ ""
  fields : ∀ f ∈ m.fields, f.Filled

/-- No name or type of an API is empty. -/
structure Filled (api : Api) : Prop where
  groups : ∀ g ∈ api.groups, g.Filled
  models : ∀ m ∈ api.models, m.Filled

/-! ## Parameters -/

theorem filled_bare {p : Parameter} : p.bare.Filled ↔ p.Filled :=
  ⟨fun h => ⟨h.name, h.type⟩, fun h => ⟨h.name, h.type⟩⟩

theorem filled_normalizeParameter (queryNames : List String) (p : Ast.Parameter) :
    (normalizeParameter queryNames p).Filled where
  name := Name.camel_ne_empty p.name
  type := by
    rw [normalizeParameter]
    dsimp only
    split
    · decide
    · exact mapType_ne_empty _

theorem filled_injected {name type : String} (hname : name ≠ "") (htype : type ≠ "")
    (decoration : Option String) :
    Parameter.Filled { name := injectedName name, type, binding := .injected decoration } :=
  ⟨hname, htype⟩

/-! ## Actions -/

section Payloads

variable {o : Options} {x : Context} {kind : PayloadKind} {default : String}

theorem resolved_ne_empty (h : default ≠ "") : (resolveType x kind default).value ≠ "" := by
  change (inferType x kind default).value.getD default ≠ ""
  cases htype : (inferType x kind default).value with
  | none => exact h
  | some t =>
    obtain ⟨e, rfl⟩ := (value_inferType_eq_some.mp htype).exists_typeName
    exact typeName_ne_empty e

theorem value_responseType (x : Context) (default : String) :
    (responseType x default).value = (resolveType x .response default).value := by
  rw [responseType, resolveType, Noted.value_bind, Noted.value_bind]
  cases (inferType x .response default).value <;> rfl

theorem type_of_mem_requestBody {b : Body} (h : b ∈ (requestBody x default).value) :
    b.type = (resolveType x .request default).value := by
  rw [requestBody] at h
  split at h
  · exact absurd h (Option.not_mem_none b)
  · obtain rfl := Option.some.inj h
    rfl

theorem filled_normalizeAction (ho : o.defaultType ≠ "") {r : Ast.Resource} {a : Ast.Action}
    {b : Action} (h : (normalizeAction o r a).value = some b) : b.Filled where
  name := by
    rw [(actionOf_normalizeAction h).name_eq]
    exact Name.camel_ne_empty _
  responseType := by
    rw [value_normalizeAction, Option.map_eq_some_iff] at h
    obtain ⟨m, -, rfl⟩ := h
    change (responseType _ _).value ≠ ""
    rw [value_responseType]
    exact resolved_ne_empty ho
  body c hc := by
    rw [value_normalizeAction, Option.map_eq_some_iff] at h
    obtain ⟨m, -, rfl⟩ := h
    obtain ⟨b, hb, rfl⟩ := Option.map_eq_some_iff.mp hc
    change b.type ≠ ""
    rw [type_of_mem_requestBody hb]
    exact resolved_ne_empty ho
  parameters p hp :=
    filled_bare.mp (forall_parameters_normalizeAction filled_normalizeParameter h p hp)

end Payloads

/-! ## Runs -/

variable {compile? : String → Option (String → Bool)} {o : Options} {d : Document} {api : Api}

theorem Revised.filled {ms : List Modifier} {a b : Action} (h : Revised ms a b) (ha : a.Filled)
    (hms : ∀ m ∈ ms, ∀ p ∈ m.prepended ++ m.appended, p.bare.Filled) : b.Filled where
  name := h.name ▸ ha.name
  responseType := h.responseType ▸ ha.responseType
  body c hc := by
    have hbare : c.bare ∈ b.body.map Body.bare := Option.mem_map_of_mem _ hc
    rw [h.body] at hbare
    obtain ⟨c', hc', heq⟩ := Option.map_eq_some_iff.mp hbare
    change c.bare.type ≠ ""
    rw [← heq]
    exact ha.body c' hc'
  parameters p hp :=
    filled_bare.mp (h.forall_bare hms (fun q hq => filled_bare.mpr (ha.parameters q hq)) p hp)

theorem filled_of_mem_groups (ho : o.defaultType ≠ "")
    (h : (transformWith compile? o d).value = .ok api) {g : Group} (hg : g ∈ api.groups) {a : Action} (ha : a ∈ g.actions) : a.Filled := by
  obtain ⟨ms, hms, applied, hsub, r, src, b, hb, hrevised⟩ := exists_of_mem_actions h hg ha
  refine hrevised.filled (filled_normalizeAction ho hb) fun m hm => ?_
  exact forall_added_of_compileModifiersWith (P := fun p => p.bare.Filled)
    (fun _ _ decoration hname htype => filled_injected hname htype decoration) hms m (hsub hm)

/-- A group whose classes and whose field are named after it. -/
structure NamedAfter (g : Group) (s : String) : Prop where
  name : g.name = Name.ofString s
  controllerClass : g.controllerClass = (Name.ofString s).pascal ++ "Controller"
  serviceClass : g.serviceClass = (Name.ofString s).pascal ++ "ApiService"
  serviceField : g.serviceField = (Name.ofString s).camel ++ "ApiService"

theorem exists_namedAfter (h : (transformWith compile? o d).value = .ok api) {g : Group}
    (hg : g ∈ api.groups) : ∃ s, NamedAfter g s := by
  obtain ⟨ms, -, hgroups⟩ := groups_of_transformWith_eq_ok h
  rw [hgroups] at hg
  obtain ⟨g₀, hg₀, hframe, -⟩ := exists_of_mem_applyModifiers hg
  obtain ⟨s, hs⟩ : ∃ s, NamedAfter g₀ s := by
    rw [value_normalizeGroups, List.mem_map] at hg₀
    obtain ⟨src, -, rfl⟩ := hg₀
    exact ⟨trimmed src.name, rfl, rfl, rfl, rfl⟩
  rw [← hframe] at hs
  exact ⟨s, hs.name, hs.controllerClass, hs.serviceClass, hs.serviceField⟩

theorem filled_group (ho : o.defaultType ≠ "") (h : (transformWith compile? o d).value = .ok api)
    {g : Group} (hg : g ∈ api.groups) : g.Filled := by
  obtain ⟨s, hs⟩ := exists_namedAfter h hg
  have hpascal := Name.pascal_ne_empty s
  have hcamel := Name.camel_ne_empty s
  refine ⟨hs.name ▸ hpascal, ?_, ?_, ?_, fun a ha => filled_of_mem_groups ho h hg ha⟩
  · rw [hs.controllerClass, Ne, String.append_eq_empty_iff]
    exact fun hnone => hpascal hnone.1
  · rw [hs.serviceClass, Ne, String.append_eq_empty_iff]
    exact fun hnone => hpascal hnone.1
  · rw [hs.serviceField, Ne, String.append_eq_empty_iff]
    exact fun hnone => hcamel hnone.1

theorem filled_model (ho : o.defaultType ≠ "") {m : Model} (hm : m ∈ (extractModels o d).value) :
    m.Filled where
  className := by
    rw [className_of_mem hm]
    exact Name.pascal_ne_empty m.name
  parentClass c hc := by
    obtain ⟨-, b, -, rfl⟩ := (parentClass_eq_some hm).mp hc
    exact Name.pascal_ne_empty b
  fields f hf := by
    obtain ⟨child, key, value, name, -, -, rfl⟩ := exists_of_mem_fields hm hf
    refine ⟨Name.camel_ne_empty name, ?_⟩
    cases value with
    | none => exact ho
    | some e => exact typeName_ne_empty e

/-- **No name or type of an API is empty**, if there is a default type. -/
theorem filled_transform (ho : o.defaultType ≠ "") (h : (transformWith compile? o d).value = .ok api) :
    api.Filled where
  groups _ hg := filled_group ho h hg
  models _ hm := filled_model ho (models_of_transformWith_eq_ok h ▸ hm)

/-- A document whose names and kinds are blank or have no letter or digit. -/
def blankDocument : Document :=
  { groups := [
      { name := "!"
        resources := [
          { parameters := [{ name := "-", type := " " }]
            actions := [
              { name := " "
                method := "POST"
                examples := [{ requests := [showing " "], responses := [{}] }] }] }] }]
    content := [
      { kind := Element.dataStructure
        content := .elements [
          { kind := "", «meta» := some { id := some "--" }
            content := .elements [Element.member "" (some (Element.ofKind " "))] }] }] }

/-- A run with a rule for the one group of the document. -/
def blankOptions : Options := { rules := [{ principalRule with pattern := "^UnnamedController" }] }

/-- The names and types of an action. -/
def Action.texts (a : Action) : List String :=
  [a.name.camel, a.responseType] ++ (a.body.map (·.type)).toList ++
    a.parameters.flatMap fun p => [p.name.camel, p.type]

/-- Where the document leaves names and types blank, others stand in. -/
theorem filled_transform_blank : blankOptions.defaultType ≠ "" ∧
    ∃ api, (transformWith Pattern.test? blankOptions blankDocument).value = .ok api ∧ api.Filled ∧
      api.groups.map (·.controllerClass) = ["UnnamedController"] ∧
      api.groups.flatMap (·.actions.flatMap Action.texts) =
        ["create", "Object", "Object", "principal", "Principal", "unnamed", "String"] ∧
      api.models.map (fun m => (m.className, m.fields.map fun f => (f.name.camel, f.type))) =
        [("Unnamed", [("unnamed", "Object")])] := by
  have ho : blankOptions.defaultType ≠ "" := by decide
  obtain ⟨api, h, hclasses, htexts, hmodels⟩ : ∃ api,
      (transformWith Pattern.test? blankOptions blankDocument).value = .ok api ∧
      api.groups.map (·.controllerClass) = ["UnnamedController"] ∧
      api.groups.flatMap (·.actions.flatMap Action.texts) =
        ["create", "Object", "Object", "principal", "Principal", "unnamed", "String"] ∧
      api.models.map (fun m => (m.className, m.fields.map fun f => (f.name.camel, f.type))) =
        [("Unnamed", [("unnamed", "Object")])] := ⟨_, rfl, by rfl, by rfl, by rfl⟩
  exact ⟨ho, api, h, filled_transform ho h, hclasses, htexts, hmodels⟩

end Blueprint.Api
