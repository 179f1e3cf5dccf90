import Blueprint.Proofs.Groups.Kept
import Blueprint.Proofs.Text.Lines

/-!
# The groups of a document, accounted for

* `Method.ofString?_eq_some`: a method is known by its name in capitals; `isSupported`: the actions
  that have one.
* `ResourceKept`, `GroupKept`: what a resource and a group of the API model take from the document.
* **`normalizeGroups_account`**: the groups with a name are kept, with all their resources and all
  their supported actions, in order, and there is one error for each thing that is not kept.
-/

namespace Blueprint

/-! ## Methods -/

namespace Method

/-- The names of the methods that an action may have. -/
def names : List String := ["GET", "POST", "PUT", "DELETE", "PATCH", "OPTIONS", "HEAD", "TRACE"]

/-- The name of a method as it is looked for: without the blanks around it, and in capitals. -/
def canonical (s : String) : String := String.ofList ((Text.trim s.toList).map Text.asciiUpper)

theorem names_eq : names = all.map name := rfl

theorem name_inj {m n : Method} (h : m.name.toList = n.name.toList) : m = n := by
  cases m <;> cases n <;> first | rfl | exact absurd h (by decide)

theorem ofString?_eq_some {s : String} {m : Method} : ofString? s = some m ↔ m.name = canonical s := by
  have hname : m.name = canonical s ↔ m.name.toList = (Text.trim s.toList).map Text.asciiUpper := by
    rw [canonical, ← String.toList_inj, String.toList_ofList]
  rw [hname, ofString?]
  constructor
  · intro h
    simpa using List.find?_some h
  · intro h
    have hmem : m ∈ all := by cases m <;> decide
    have hfound : (all.find? fun n => n.name.toList = m.name.toList).isSome = true :=
      List.find?_isSome.mpr ⟨m, hmem, by simp⟩
    obtain ⟨n, hn⟩ := Option.isSome_iff_exists.mp hfound
    have hname : n.name.toList = m.name.toList := by simpa using List.find?_some hn
    rw [← h, hn, name_inj hname]

theorem ofString?_eq_none {s : String} : ofString? s = none ↔ canonical s ∉ names := by
  rw [names_eq, List.mem_map, Option.eq_none_iff_forall_ne_some]
  constructor
  · rintro h ⟨m, -, hm⟩
    exact h m (ofString?_eq_some.mpr hm)
  · intro h m hm
    exact h ⟨m, by cases m <;> decide, ofString?_eq_some.mp hm⟩

end Method

namespace Api

open Text

/-- Whether an action has one of the methods that there are. -/
def isSupported (a : Ast.Action) : Bool := Method.canonical a.method ∈ Method.names

theorem isSupported_eq (a : Ast.Action) : isSupported a = !decide (Method.ofString? a.method = none) := by
  rw [isSupported, Bool.eq_iff_iff]
  simp [Method.ofString?_eq_none]

/-! ## Groups -/

/-- What a resource takes from the document, with an action for each of its supported ones. -/
structure ResourceKept (r : Ast.Resource) (s : Resource) : Prop where
  name : s.name = r.name
  description : s.description = trimmed r.description
  path : s.path = (Uri.Template.ofString r.uriTemplate).path
  actions : List.Forall₂ (ActionOf r) (r.actions.filter isSupported) s.actions

/-- What a group takes from the document, with a resource for each of its own. -/
structure GroupKept (src : Ast.Group) (g : Group) : Prop where
  name : g.name = Name.ofString (trimmed src.name)
  description : g.description = trimmed src.description
  resources : List.Forall₂ ResourceKept src.resources g.resources

theorem resourceKept_normalizeResource (o : Options) (r : Ast.Resource) :
    ResourceKept r (normalizeResource o r).value := by
  rw [value_normalizeResource]
  refine ⟨rfl, rfl, rfl, forall₂_filter_filterMap (fun a _ ha => ?_) fun a _ ha => ?_⟩
  · obtain ⟨m, hm⟩ := Option.ne_none_iff_exists'.mp (by simpa [isSupported_eq] using ha)
    have hvalue : (normalizeAction o r a).value = some (buildAction r a m o.defaultType).value := by
      rw [value_normalizeAction, hm]
      rfl
    exact ⟨_, hvalue, actionOf_normalizeAction hvalue⟩
  · have hnone : Method.ofString? a.method = none := by simpa [isSupported_eq] using ha
    rw [value_normalizeAction, hnone]
    rfl

theorem groupKept_groupOf (o : Options) (g : Ast.Group) : GroupKept g (groupOf o g) := by
  refine ⟨rfl, rfl, ?_⟩
  change List.Forall₂ ResourceKept g.resources (g.resources.map _)
  exact List.forall₂_map_right_iff.mpr <| List.forall₂_same.mpr fun r _ =>
    resourceKept_normalizeResource o r

theorem groupSkips_eq (g : Ast.Group) : groupSkips g =
    if trimmed g.name = "" then [unnamedGroup g]
    else g.resources.flatMap fun r =>
      (r.actions.filter (!isSupported ·)).map (unsupportedMethod r) := by
  simp only [groupSkips, isBlank_iff, isSupported_eq, Bool.not_not]

/-- **Nothing of the groups of a document is lost, repeated or moved but what is reported.** -/
theorem normalizeGroups_account (o : Options) (gs : List Ast.Group) :
    List.Forall₂ GroupKept (gs.filter fun g => trimmed g.name ≠ "") (normalizeGroups o gs).value ∧
      Diagnostic.skips (normalizeGroups o gs).notes = gs.flatMap (fun g =>
        if trimmed g.name = "" then [unnamedGroup g]
        else g.resources.flatMap fun r =>
          (r.actions.filter (!isSupported ·)).map (unsupportedMethod r)) ∧
      (normalizeGroups o gs).Records
        (Diagnostic.IsRemark [.unnamedGroup, .unsupportedMethod]) := by
  refine ⟨?_, ?_, remarks_normalizeGroups o gs⟩
  · have hnamed : (fun g : Ast.Group => decide (trimmed g.name ≠ "")) = fun g => !isBlank g.name := by
      funext g
      rw [Bool.eq_iff_iff, decide_eq_true_iff, Bool.not_eq_true', ← Bool.not_eq_true, isBlank_iff]
    rw [value_normalizeGroups, hnamed]
    exact List.forall₂_map_right_iff.mpr <| List.forall₂_same.mpr fun g _ => groupKept_groupOf o g
  · rw [skips_normalizeGroups, funext groupSkips_eq]

end Api

end Blueprint
