import Blueprint.Api.Normalize
import Blueprint.Proofs.Delimiters
import Blueprint.Proofs.Name
import Blueprint.Proofs.Noted
import Mathlib.Data.List.Forall2

/-!
# The groups of a document that are kept

* `groupOf`: the group under a name; `value_normalizeGroups`: a document keeps those that have one.
* `ActionOf`: what an action takes from the document; `actionOf_normalizeAction`.
* `IsTypeWarning`: what is remarked on the types of an action.
* `groupSkips`: the errors about a group; **`skips_normalizeGroups`**: the errors about all groups
  are the errors about groups without a name and actions with an unknown method, and all other
  remarks are warnings.
* `forall_parameters_normalizeAction`: what holds of declared parameters holds of those of an
  action.
-/

namespace Blueprint.Api

open Text

/-! ## Actions -/

/-- What an action takes from the document: all but its types, its status and its parameters. -/
structure ActionOf (r : Ast.Resource) (a : Ast.Action) (b : Action) : Prop where
  resourceName : b.resourceName = r.name
  method : Method.ofString? a.method = some b.method
  description : b.description = trimmed a.description
  path : b.path = (Uri.Template.ofString (effectiveTemplate r a)).path
  name : b.name = actionName a b.method b.path

theorem value_normalizeAction (o : Options) (r : Ast.Resource) (a : Ast.Action) :
    (normalizeAction o r a).value =
      (Method.ofString? a.method).map fun m => (buildAction r a m o.defaultType).value := by
  rw [normalizeAction]
  cases Method.ofString? a.method <;> rfl

theorem actionOf_normalizeAction {o : Options} {r : Ast.Resource} {a : Ast.Action} {b : Action}
    (h : (normalizeAction o r a).value = some b) : ActionOf r a b := by
  rw [value_normalizeAction, Option.map_eq_some_iff] at h
  obtain ⟨m, hm, rfl⟩ := h
  exact ⟨rfl, hm, rfl, rfl, rfl⟩

theorem ActionOf.name_eq {r : Ast.Resource} {a : Ast.Action} {b : Action} (h : ActionOf r a b) :
    b.name = Name.ofString b.name.spelling := by
  rw [h.name, actionName]
  split <;> rfl

theorem delimited_normalizeAction {o : Options} {r : Ast.Resource} {a : Ast.Action} {b : Action}
    (h : (normalizeAction o r a).value = some b) : b.Delimited := by
  rw [value_normalizeAction, Option.map_eq_some_iff] at h
  obtain ⟨m, -, rfl⟩ := h
  exact delimited_assignDelimiters _

/-- What holds of every declared parameter holds of the parameters of an action, marks apart. -/
theorem forall_parameters_normalizeAction {P : Parameter → Prop}
    (hP : ∀ queryNames p, P (normalizeParameter queryNames p)) {o : Options} {r : Ast.Resource}
    {a : Ast.Action} {b : Action} (h : (normalizeAction o r a).value = some b) :
    ∀ p ∈ b.parameters, P p.bare := by
  rw [value_normalizeAction, Option.map_eq_some_iff] at h
  obtain ⟨m, -, rfl⟩ := h
  intro p hp
  have hbare : p.bare ∈ (buildAction r a m o.defaultType).value.parameters.map Parameter.bare :=
    List.mem_map_of_mem hp
  change p.bare ∈ (delimitFrom true _).map Parameter.bare at hbare
  rw [map_bare_delimitFrom, List.map_map] at hbare
  obtain ⟨q, -, hq⟩ := List.mem_map.mp hbare
  rw [← hq]
  exact hP _ q

/-! ## Remarks on actions -/

open Diagnostic Noted

/-- A warning about the type of a payload. -/
inductive IsTypeWarning : Diagnostic → Prop
  | mismatch (message : String) : IsTypeWarning (.warn .exampleTypeMismatch message)
  | missing (message : String) : IsTypeWarning (.warn .missingResponseType message)

theorem IsTypeWarning.isWarning {n : Diagnostic} (h : IsTypeWarning n) : n.IsWarning := by
  cases h with
  | mismatch message => exact isWarning_warn (by decide) message
  | missing message => exact isWarning_warn (by decide) message

theorem warns_exampleType (x : Context) (kind : PayloadKind) (default : String)
    (found : Option String) (position : Nat) (ps : List Ast.Payload) :
    (exampleType x kind default found position ps).Records IsTypeWarning := by
  induction ps generalizing found position with
  | nil => exact records_pure found
  | cons p ps ih =>
    rw [exampleType]
    split
    · exact ih found (position + 1)
    · rename_i got _
      split
      · exact ih (some got) (position + 1)
      · rename_i expected
        dsimp only
        split
        · exact (records_note (.mismatch _)).bind fun _ => ih (some expected) (position + 1)
        · exact ih (some expected) (position + 1)

theorem warns_inferType (x : Context) (kind : PayloadKind) (default : String) :
    (inferType x kind default).Records IsTypeWarning := by
  refine (warns_exampleType x kind default none 1 _).bind fun shown => ?_
  split <;> exact records_pure _

theorem warns_responseType (x : Context) (default : String) :
    (responseType x default).Records IsTypeWarning := by
  refine (warns_inferType x .response default).bind fun found => ?_
  split
  · exact records_pure _
  · exact (records_note (.missing _)).bind fun _ => records_pure _

theorem warns_requestBody (x : Context) (default : String) :
    (requestBody x default).Records IsTypeWarning := by
  rw [requestBody]
  split
  · exact records_pure _
  · refine Records.bind ?_ fun _ => records_pure _
    exact (warns_inferType x .request default).bind fun _ => records_pure _

theorem warns_chooseStatus (codes : List Nat) (uri : String) :
    (chooseStatus codes uri).Records IsWarning := by
  cases codes with
  | nil => exact records_pure none
  | cons first more =>
    rw [chooseStatus]
    dsimp only
    split
    on_goal 1 => refine (records_note (isWarning_warn (by decide) _)).bind fun _ => ?_
    all_goals
      split
      · exact (records_note (isWarning_warn (by decide) _)).bind fun _ => records_pure _
      · exact records_pure _

theorem warns_buildAction (r : Ast.Resource) (a : Ast.Action) (m : Method) (default : String) :
    (buildAction r a m default).Records IsWarning := by
  refine ((warns_responseType _ default).mono fun _ => IsTypeWarning.isWarning).bind fun _ => ?_
  refine ((warns_requestBody _ default).mono fun _ => IsTypeWarning.isWarning).bind fun _ => ?_
  exact (warns_chooseStatus _ _).bind fun _ => records_pure _

theorem skips_normalizeAction (o : Options) (r : Ast.Resource) (a : Ast.Action) :
    Diagnostic.skips (normalizeAction o r a).notes =
      if Method.ofString? a.method = none then [unsupportedMethod r a] else [] := by
  rw [normalizeAction]
  split
  · rename_i h
    rw [if_pos h]
    rfl
  · rename_i m h
    rw [if_neg (by rw [h]; simp), Noted.notes_bind, Noted.notes_pure, List.append_nil]
    exact Diagnostic.skips_eq_nil (warns_buildAction r a m o.defaultType)

/-! ## Resources -/

theorem value_normalizeResource (o : Options) (r : Ast.Resource) :
    (normalizeResource o r).value =
      { name := r.name
        description := trimmed r.description
        path := (Uri.Template.ofString r.uriTemplate).path
        actions := r.actions.filterMap fun a => (normalizeAction o r a).value } := by
  rw [normalizeResource, Noted.value_bind, Noted.value_choose]
  rfl

theorem skips_normalizeResource (o : Options) (r : Ast.Resource) :
    Diagnostic.skips (normalizeResource o r).notes =
      (r.actions.filter fun a => Method.ofString? a.method = none).map (unsupportedMethod r) := by
  rw [normalizeResource, Noted.notes_bind, Noted.notes_choose, Noted.notes_pure, List.append_nil,
    Diagnostic.skips_flatMap]
  induction r.actions with
  | nil => rfl
  | cons a rest ih =>
    rw [List.flatMap_cons, ih, skips_normalizeAction]
    by_cases h : Method.ofString? a.method = none <;> simp [h]

/-! ## Groups -/

/-- The group of the API model that a group with a name becomes. -/
def groupOf (o : Options) (g : Ast.Group) : Group :=
  buildGroup g.name g.description (g.resources.map fun r => (normalizeResource o r).value)

theorem value_normalizeGroup (o : Options) (g : Ast.Group) :
    (normalizeGroup o g).value = if isBlank g.name then none else some (groupOf o g) := by
  rw [normalizeGroup]
  split
  · rfl
  · rw [Noted.value_bind, Noted.value_forEach]
    rfl

theorem value_normalizeGroups (o : Options) (gs : List Ast.Group) :
    (normalizeGroups o gs).value = (gs.filter fun g => !isBlank g.name).map (groupOf o) := by
  rw [normalizeGroups, Noted.value_choose]
  induction gs with
  | nil => rfl
  | cons g gs ih =>
    rw [List.filterMap_cons, value_normalizeGroup, List.filter_cons]
    cases isBlank g.name <;> simp [ih]

/-- The errors about a group, whose actions count only if it has a name. -/
def groupSkips (g : Ast.Group) : List Diagnostic :=
  if isBlank g.name then [unnamedGroup g]
  else g.resources.flatMap fun r =>
    (r.actions.filter fun a => Method.ofString? a.method = none).map (unsupportedMethod r)

theorem skips_normalizeGroup (o : Options) (g : Ast.Group) :
    Diagnostic.skips (normalizeGroup o g).notes = groupSkips g := by
  rw [normalizeGroup, groupSkips]
  split
  · rfl
  · rw [Noted.notes_bind, Noted.notes_forEach, Noted.notes_pure, List.append_nil,
      Diagnostic.skips_flatMap]
    simp only [skips_normalizeResource]

/-- **The errors about groups**: those without a name, and unknown methods in the others, in
order. -/
theorem skips_normalizeGroups (o : Options) (gs : List Ast.Group) :
    Diagnostic.skips (normalizeGroups o gs).notes = gs.flatMap groupSkips := by
  rw [normalizeGroups, Noted.notes_choose, Diagnostic.skips_flatMap]
  simp only [skips_normalizeGroup]

theorem remarks_normalizeAction (o : Options) (r : Ast.Resource) (a : Ast.Action) :
    (normalizeAction o r a).Records (IsRemark [.unnamedGroup, .unsupportedMethod]) := by
  rw [normalizeAction]
  split
  · exact (records_note (isRemark_error (by decide) _)).bind fun _ => records_pure _
  · rename_i m _
    have hwarns := warns_buildAction r a m o.defaultType
    exact (hwarns.mono fun _ => IsWarning.isRemark).bind fun _ => records_pure _

theorem remarks_normalizeGroups (o : Options) (gs : List Ast.Group) :
    (normalizeGroups o gs).Records (IsRemark [.unnamedGroup, .unsupportedMethod]) := by
  refine records_choose (fun g => ?_) gs
  rw [normalizeGroup]
  split
  · exact (records_note (isRemark_error (by decide) _)).bind fun _ => records_pure _
  · refine (records_forEach (fun r => ?_) g.resources).bind fun _ => records_pure _
    exact (records_choose (remarks_normalizeAction o r) r.actions).bind fun _ => records_pure _

theorem exists_of_mem_normalizeGroups {o : Options} {gs : List Ast.Group} {g : Group}
    (hg : g ∈ (normalizeGroups o gs).value) {b : Action} (hb : b ∈ g.actions) :
    ∃ r a, (normalizeAction o r a).value = some b := by
  rw [value_normalizeGroups, List.mem_map] at hg
  obtain ⟨src, -, rfl⟩ := hg
  obtain ⟨s, hs, hb⟩ := List.mem_flatMap.mp hb
  obtain ⟨r, -, rfl⟩ := List.mem_map.mp hs
  rw [value_normalizeResource] at hb
  obtain ⟨a, -, ha⟩ := List.mem_filterMap.mp hb
  exact ⟨r, a, ha⟩

theorem delimited_normalizeGroups {o : Options} {gs : List Ast.Group} {g : Group}
    (hg : g ∈ (normalizeGroups o gs).value) {a : Action} (ha : a ∈ g.actions) : a.Delimited := by
  obtain ⟨r, x, hx⟩ := exists_of_mem_normalizeGroups hg ha
  exact delimited_normalizeAction hx

end Blueprint.Api
