import Blueprint.Api.Transform
import Blueprint.Proofs.Models.Extraction
import Blueprint.Proofs.Modifiers.Compiling
import Blueprint.Proofs.Modifiers.Marks

/-!
# What becomes of a document

* `transformWith_eq_ok`: a document has an API model exactly if the modifiers of the run compile.
* `notes_of_transformWith_eq_ok`: then the remarks are those on rules, on groups and on models, in
  order.
* **`remarks_transformWith`**: in every run the kind of a diagnostic tells its severity.
* `exists_of_mem_groups`: every group comes from one of the document that has a name.
* `exists_of_mem_actions`: every action comes from one of the document, revised by modifiers.
* `forall_parameters_of_mem_groups`: what holds of declared and of added parameters holds of those
  of every action.
* `name_of_mem_actions`, `name_of_mem_parameters`: names have the casings of their spelling.
-/

namespace Blueprint.Api

variable {compile? : String → Option (String → Bool)} {o : Options} {d : Ast.Document} {api : Api}

theorem transformWith_eq_ok :
    (transformWith compile? o d).value = .ok api ↔
      ∃ ms, (compileModifiersWith compile? o.rules).value = .ok ms ∧ (assemble o ms d).value = api := by
  rw [transformWith, Noted.value_bind]
  cases (compileModifiersWith compile? o.rules).value with
  | error e => simp
  | ok ms => simp

theorem notes_of_transformWith_eq_ok (h : (transformWith compile? o d).value = .ok api) :
    (transformWith compile? o d).notes = (compileModifiersWith compile? o.rules).notes ++
      ((normalizeGroups o d.groups).notes ++ (extractModels o d).notes) := by
  obtain ⟨ms, hms, -⟩ := transformWith_eq_ok.mp h
  rw [transformWith, Noted.notes_bind, hms]
  simp only [Noted.notes_bind, Noted.notes_pure, List.append_nil, assemble]

open Diagnostic Noted in
theorem remarks_assemble (o : Options) (ms : List Modifier) (d : Ast.Document) :
    (assemble o ms d).Records
      (IsRemark [.unnamedGroup, .unsupportedMethod, .unnamedModel, .unnamedField]) := by
  have hgroups := remarks_normalizeGroups o d.groups
  have hmodels := remarks_extractModels o d
  refine (hgroups.mono fun n hn => hn.mono (by decide)).bind fun _ => ?_
  exact (hmodels.mono fun n hn => hn.mono (by decide)).bind fun _ => records_pure _

open Diagnostic Noted in
/-- **The kind of a diagnostic tells its severity**, whatever becomes of the run. -/
theorem remarks_transformWith (compile? : String → Option (String → Bool)) (o : Options)
    (d : Ast.Document) : (transformWith compile? o d).Records (IsRemark Kind.errors) := by
  have hrules : (compileModifiersWith compile? o.rules).Records
      (IsRemark [.invalidModifierParameter]) :=
    remarks_compileModifiersWith o.rules
  refine (hrules.mono fun n hn => hn.mono (by decide)).bind fun compiled => ?_
  split
  · exact records_pure _
  · rename_i ms
    have hrest := remarks_assemble o ms d
    exact (hrest.mono fun n hn => hn.mono (by decide)).bind fun _ => records_pure _

theorem models_of_transformWith_eq_ok (h : (transformWith compile? o d).value = .ok api) :
    api.models = (extractModels o d).value := by
  obtain ⟨ms, -, rfl⟩ := transformWith_eq_ok.mp h
  rfl

theorem groups_of_transformWith_eq_ok (h : (transformWith compile? o d).value = .ok api) :
    ∃ ms, (compileModifiersWith compile? o.rules).value = .ok ms ∧
      api.groups = applyModifiers ms (normalizeGroups o d.groups).value := by
  obtain ⟨ms, hms, rfl⟩ := transformWith_eq_ok.mp h
  exact ⟨ms, hms, rfl⟩

/-- The actions of a group of the document, in order, as modifiers leave them. -/
def actionsOf (o : Options) (ms : List Modifier) (g : Ast.Group) : List Action :=
  g.resources.flatMap fun r => r.actions.filterMap fun a =>
    (normalizeAction o r a).value.map (applyAll (groupOf o g).controllerClass ms)

theorem actions_groupOf (o : Options) (ms : List Modifier) (g : Ast.Group) :
    (groupOf o g).actions.map (applyAll (groupOf o g).controllerClass ms) = actionsOf o ms g := by
  change ((g.resources.map fun r => (normalizeResource o r).value).flatMap (·.actions)).map _ = _
  simp only [actionsOf, List.flatMap_map, List.map_flatMap, value_normalizeResource,
    List.map_filterMap]

/-- Every group comes from one of the document, and its actions are those of its source. -/
theorem exists_of_mem_groups (h : (transformWith compile? o d).value = .ok api) {g : Group}
    (hg : g ∈ api.groups) : ∃ ms, (compileModifiersWith compile? o.rules).value = .ok ms ∧
      ∃ src ∈ d.groups, g.name = Name.ofString (Text.trimmed src.name) ∧
        g.actions = actionsOf o ms src := by
  obtain ⟨ms, hms, hgroups⟩ := groups_of_transformWith_eq_ok h
  rw [hgroups] at hg
  obtain ⟨g₀, hg₀, hframe, hactions⟩ := exists_of_mem_applyModifiers hg
  rw [value_normalizeGroups, List.mem_map] at hg₀
  obtain ⟨src, hsrc, rfl⟩ := hg₀
  refine ⟨ms, hms, src, (List.mem_filter.mp hsrc).1, congrArg Group.name hframe, ?_⟩
  rw [hactions, actions_groupOf]

theorem delimited_of_mem_groups (h : (transformWith compile? o d).value = .ok api) {g : Group}
    (hg : g ∈ api.groups) : ∀ a ∈ g.actions, a.Delimited := by
  obtain ⟨ms, -, hgroups⟩ := groups_of_transformWith_eq_ok h
  rw [hgroups] at hg
  exact delimited_applyModifiers (fun _ hg a ha => delimited_normalizeGroups hg ha) ms g hg

/-- Every action comes from one of the document, and is revised by some of the modifiers of the run. -/
theorem exists_of_mem_actions (h : (transformWith compile? o d).value = .ok api) {g : Group}
    (hg : g ∈ api.groups) {a : Action} (ha : a ∈ g.actions) :
    ∃ ms, (compileModifiersWith compile? o.rules).value = .ok ms ∧
      ∃ applied ⊆ ms, ∃ r src b, (normalizeAction o r src).value = some b ∧ Revised applied b a := by
  obtain ⟨ms, hms, hgroups⟩ := groups_of_transformWith_eq_ok h
  rw [hgroups] at hg
  obtain ⟨g₀, hg₀, -, hactions⟩ := exists_of_mem_applyModifiers hg
  rw [hactions] at ha
  obtain ⟨b, hb, rfl⟩ := List.mem_map.mp ha
  obtain ⟨r, src, hsrc⟩ := exists_of_mem_normalizeGroups hg₀ hb
  exact ⟨ms, hms, _, List.filter_subset_self _, r, src, b, hsrc, revised_applyAll _ ms b⟩

/-- What holds of declared parameters and of those that rules add holds of all, marks apart. -/
theorem forall_parameters_of_mem_groups {P : Parameter → Prop}
    (hdeclared : ∀ queryNames p, P (normalizeParameter queryNames p))
    (hadded : ∀ name type decoration, name ≠ "" → type ≠ "" →
      P { name := injectedName name, type, binding := .injected decoration })
    (h : (transformWith compile? o d).value = .ok api) {g : Group} (hg : g ∈ api.groups) :
    ∀ a ∈ g.actions, ∀ p ∈ a.parameters, P p.bare := by
  intro a ha
  obtain ⟨ms, hms, applied, hsub, r, src, b, hb, hrevised⟩ := exists_of_mem_actions h hg ha
  have hrules : ∀ m ∈ applied, ∀ p ∈ m.prepended ++ m.appended, P p.bare := fun m hm =>
    forall_added_of_compileModifiersWith (P := fun p => P p.bare) hadded hms m (hsub hm)
  exact hrevised.forall_bare hrules (forall_parameters_normalizeAction hdeclared hb)

theorem name_of_mem_actions (h : (transformWith compile? o d).value = .ok api) {g : Group}
    (hg : g ∈ api.groups) {a : Action} (ha : a ∈ g.actions) : a.name = Name.ofString a.name.spelling := by
  obtain ⟨-, -, applied, -, r, src, b, hb, hrevised⟩ := exists_of_mem_actions h hg ha
  rw [hrevised.name]
  exact (actionOf_normalizeAction hb).name_eq

/-- So has that of a parameter, unless a rule adds it. -/
theorem name_of_mem_parameters (h : (transformWith compile? o d).value = .ok api) {g : Group}
    (hg : g ∈ api.groups) {a : Action} (ha : a ∈ g.actions) {p : Parameter} (hp : p ∈ a.parameters)
    (hbinding : p.binding = .path ∨ p.binding = .query) : p.name = Name.ofString p.name.spelling := by
  have hall := forall_parameters_of_mem_groups
    (P := fun p => p.binding = .path ∨ p.binding = .query → p.name = Name.ofString p.name.spelling)
    (fun _ _ _ => rfl) (fun _ _ _ _ _ hno => by simp at hno) h hg a ha p hp
  exact hall hbinding

theorem named_of_mem_groups (h : (transformWith compile? o d).value = .ok api) {g : Group}
    (hg : g ∈ api.groups) : ∀ a ∈ g.actions, ∀ p ∈ a.parameters, p.name.camel ≠ "" :=
  forall_parameters_of_mem_groups (P := fun p => p.name.camel ≠ "")
    (fun _ p => Name.camel_ne_empty p.name) (fun _ _ _ hname _ => hname) h hg

end Blueprint.Api
