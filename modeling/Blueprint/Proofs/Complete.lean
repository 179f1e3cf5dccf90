import Blueprint.Proofs.Models.Candidates
import Blueprint.Proofs.Transform

/-!
# Documents of which nothing is skipped

* `GroupOf`, `ActionOf`, `ModelOf`: what a group, an action or a model takes from the document.
* `Accounted`: the ways in which a candidate may be dealt with.
* **`complete_of_errors`**: without an error, every group, resource, action, candidate and pair of
  the document is dealt with; **`Complete.membersKept_iff`**: and every member, if every member has
  a key.
-/

namespace Blueprint.Api

open Ast Text

/-! ## Groups -/

/-- What a resource takes from the document, with an action for each of its own. -/
structure ResourceOf (r : Ast.Resource) (s : Resource) : Prop where
  name : s.name = r.name
  description : s.description = trimmed r.description
  path : s.path = (Uri.Template.ofString r.uriTemplate).path
  actions : List.Forall₂ (ActionOf r) r.actions s.actions

/-- What a group takes from the document, with a resource for each of its own. -/
structure GroupOf (src : Ast.Group) (g : Group) : Prop where
  name : g.name = Name.ofString (trimmed src.name)
  description : g.description = trimmed src.description
  resources : List.Forall₂ ResourceOf src.resources g.resources

/-- Modifiers touch nothing that an action takes from the document. -/
theorem ActionOf.revised {r : Ast.Resource} {a : Ast.Action} {b c : Action} {ms : List Modifier}
    (h : ActionOf r a b) (hc : Revised ms b c) : ActionOf r a c where
  resourceName := hc.resourceName.trans h.resourceName
  method := by rw [hc.method, h.method]
  description := hc.description.trans h.description
  path := hc.path.trans h.path
  name := by rw [hc.name, hc.method, hc.path, h.name]

/-- What keeps the errors about a group from being recorded. -/
theorem groupSkips_eq_nil {g : Ast.Group} (h : groupSkips g = []) :
    isBlank g.name = false ∧
      ∀ r ∈ g.resources, ∀ a ∈ r.actions, ∃ m, Method.ofString? a.method = some m := by
  rw [groupSkips] at h
  split at h
  · exact absurd h (by simp)
  · rename_i hname
    refine ⟨by simpa using hname, fun r hr a ha => Option.ne_none_iff_exists'.mp fun hnone => ?_⟩
    have hr' := List.map_eq_nil_iff.mp (List.flatMap_eq_nil_iff.mp h r hr)
    exact absurd (List.filter_eq_nil_iff.mp hr' a ha) (by simp [hnone])

variable {compile? : String → Option (String → Bool)} {o : Options} {d : Document} {api : Api}

theorem forall₂_groups (h : (transformWith compile? o d).value = .ok api)
    (hskips : Diagnostic.skips (normalizeGroups o d.groups).notes = []) :
    List.Forall₂ GroupOf d.groups api.groups := by
  rw [skips_normalizeGroups, List.flatMap_eq_nil_iff] at hskips
  obtain ⟨ms, -, hgroups⟩ := groups_of_transformWith_eq_ok h
  -- without an error every group has a name, and every method is known
  have hnamed : d.groups.filter (fun g => !isBlank g.name) = d.groups :=
    List.filter_eq_self.mpr fun g hg => by simp [(groupSkips_eq_nil (hskips g hg)).1]
  rw [hgroups, value_normalizeGroups, hnamed, applyModifiers, List.map_map]
  refine List.forall₂_map_right_iff.mpr <| List.forall₂_same.mpr fun g hg => ⟨rfl, rfl, ?_⟩
  change List.Forall₂ ResourceOf g.resources (List.map _ (List.map _ g.resources))
  rw [List.map_map]
  refine List.forall₂_map_right_iff.mpr <| List.forall₂_same.mpr fun r hr => ⟨rfl, rfl, rfl, ?_⟩
  change List.Forall₂ (ActionOf r) r.actions (List.map _ (normalizeResource o r).value.actions)
  rw [value_normalizeResource]
  refine List.forall₂_map_right_iff.mpr <| forall₂_filterMap fun a ha => ?_
  obtain ⟨m, hm⟩ := (groupSkips_eq_nil (hskips g hg)).2 r hr a ha
  have hvalue : (normalizeAction o r a).value = some (buildAction r a m o.defaultType).value := by
    rw [value_normalizeAction, hm]
    rfl
  exact ⟨_, hvalue, (actionOf_normalizeAction hvalue).revised (revised_applyAll _ ms _)⟩

/-! ## Candidates -/

/-- What a model takes from its element, with an own field for each pair. -/
structure ModelOf (o : Options) (e : Element) (m : Model) : Prop where
  made : MadeOf o e m
  fields : HasOwn o (e.children.filter isPair) m

/-- What becomes of a candidate behind others: it is left out for its name or for an earlier one of
that name, or it is a model. -/
def Accounted (o : Options) (models : List Model) (before : List Element) (e : Element) : Prop :=
  ∃ name, e.id = some name ∧
    (name ∈ o.skipModels ∨ (o.skipNested = true ∧ '.' ∈ name.toList) ∨
      (∃ x ∈ before, x.id = some name) ∨ ∃ m ∈ models, m.name = name ∧ MadeOf o e m)

theorem isSkipped_iff {name : String} : isSkipped o name = true ↔
    name ∈ o.skipModels ∨ (o.skipNested = true ∧ '.' ∈ name.toList) := by
  simp [isSkipped]

theorem skips_eq_nil_of_extractModels
    (h : Diagnostic.skips (extractModels o d).notes = []) :
    (∀ e ∈ candidatesOf d.content, e.id ≠ none) ∧
      ∀ p ∈ collected o d, Diagnostic.skips (ownFields o p.2).notes = [] := by
  rw [notes_extractModels, Diagnostic.skips_append, Diagnostic.skips_append,
    List.append_eq_nil_iff, List.append_eq_nil_iff, Diagnostic.skips_flatMap] at h
  obtain ⟨hunnamed, hfields, -⟩ := h
  refine ⟨fun e he hid => ?_, fun p hp => List.flatMap_eq_nil_iff.mp hfields p hp⟩
  have hmem : unnamedModel e ∈ Diagnostic.skips
      (((candidatesOf d.content).filter fun e => e.id = none).map unnamedModel) :=
    List.mem_filter.mpr ⟨List.mem_map_of_mem (List.mem_filter.mpr ⟨he, by simpa using hid⟩), by rfl⟩
  rw [hunnamed] at hmem
  exact nomatch hmem

theorem accounted_of_skips (h : Diagnostic.skips (extractModels o d).notes = [])
    {before after : List Element} {e : Element}
    (hfound : candidatesOf d.content = before ++ e :: after) :
    Accounted o (extractModels o d).value before e := by
  have hnamed : e.id ≠ none := (skips_eq_nil_of_extractModels h).1 e (by simp [hfound])
  obtain ⟨name, hname⟩ := Option.ne_none_iff_exists'.mp hnamed
  refine ⟨name, hname, ?_⟩
  by_cases hskipped : isSkipped o name = true
  · rcases isSkipped_iff.mp hskipped with hskip | hnested
    · exact .inl hskip
    · exact .inr (.inl hnested)
  by_cases hearlier : ∃ x ∈ before, x.id = some name
  · exact .inr (.inr (.inl hearlier))
  -- it is the first candidate of its name, so it is the one that is collected
  have hfirst : (collected o d).get? name = some e := by
    rw [get?_collected, if_neg hskipped, hfound, List.find?_append]
    have hbefore : before.find? (fun x => x.id = some name) = none :=
      List.find?_eq_none.mpr fun x hx hid => hearlier ⟨x, hx, by simpa using hid⟩
    rw [hbefore]
    simp [hname]
  refine .inr (.inr (.inr ⟨modelOf o (collected o d) name e, ?_, name_modelOf .., ?_⟩))
  · rw [value_extractModels]
    exact List.mem_map.mpr ⟨(name, e), Dictionary.mem_of_get? hfirst, rfl⟩
  · exact madeOf_modelOf o hfirst

theorem modelOf_of_skips (h : Diagnostic.skips (extractModels o d).notes = []) {m : Model}
    (hm : m ∈ (extractModels o d).value) :
    ∃ e, (candidatesOf d.content).find? (fun e => e.id = some m.name) = some e ∧ ModelOf o e m := by
  obtain ⟨e, he, hme⟩ := mem_extractModels.mp hm
  have hfields := (skips_eq_nil_of_extractModels h).2 (m.name, e) (Dictionary.mem_of_get? he)
  refine ⟨e, find?_of_get?_collected he, hme ▸ madeOf_modelOf o he, ?_⟩
  rw [hme]
  exact hasOwn_modelOf he (forall₂_fieldsOf hfields)

/-! ## Documents -/

/-- An API model that has all of a document: its groups with their resources and actions, each
candidate of the walk over it, unless that is left out, and each pair of a model's element. -/
structure Complete (o : Options) (d : Document) (api : Api) : Prop where
  groups : List.Forall₂ GroupOf d.groups api.groups
  candidates : ∀ found, Walk d.content found → ∀ before e after, found = before ++ e :: after →
    Accounted o api.models before e
  models : ∀ found, Walk d.content found → ∀ m ∈ api.models,
    ∃ e, found.find? (fun e => e.id = some m.name) = some e ∧ ModelOf o e m

/-- **Without an error nothing is skipped**, but for members without a key. -/
theorem complete_of_errors (h : (transformWith compile? o d).value = .ok api)
    (herrors : Diagnostic.errors (transformWith compile? o d).notes = 0) : Complete o d api := by
  rw [Diagnostic.errors_eq_length_skips, List.length_eq_zero_iff, notes_of_transformWith_eq_ok h,
    Diagnostic.skips_append, Diagnostic.skips_append, List.append_eq_nil_iff,
    List.append_eq_nil_iff] at herrors
  obtain ⟨-, hgroups, hmodels⟩ := herrors
  refine ⟨forall₂_groups h hgroups, fun found hwalk before e after hfound => ?_,
    fun found hwalk m hm => ?_⟩
  · rw [models_of_transformWith_eq_ok h]
    exact accounted_of_skips hmodels ((walk_iff.mp hwalk).symm.trans hfound)
  · rw [models_of_transformWith_eq_ok h] at hm
    rw [walk_iff.mp hwalk]
    exact modelOf_of_skips hmodels hm

/-! ## Members -/

/-- A model of a document and the element that it is made of. -/
def Modelled (d : Document) (api : Api) (m : Model) (e : Element) : Prop :=
  ∃ found, Walk d.content found ∧ m ∈ api.models ∧
    found.find? (fun e => e.id = some m.name) = some e

/-- Every member of a model's element is an own field of the model. -/
def MembersKept (o : Options) (d : Document) (api : Api) : Prop :=
  ∀ m e, Modelled d api m e → HasOwn o (e.children.filter (·.kind = Element.memberKind)) m

/-- Every member of a model's element has a key. -/
def MembersKeyed (d : Document) (api : Api) : Prop :=
  ∀ m e, Modelled d api m e → ∀ child ∈ e.children, child.kind = Element.memberKind →
    child.memberContent.isSome = true

theorem Complete.hasOwn_of_modelled (h : Complete o d api) {m : Model} {e : Element}
    (hm : Modelled d api m e) : HasOwn o (e.children.filter isPair) m := by
  obtain ⟨found, hwalk, hmem, hfind⟩ := hm
  obtain ⟨e', hfind', hmodel⟩ := h.models found hwalk m hmem
  obtain rfl : e = e' := Option.some.inj (hfind.symm.trans hfind')
  exact hmodel.fields

/-- **If nothing else is skipped, every member is kept exactly if every member has a key.** -/
theorem Complete.membersKept_iff (h : Complete o d api) :
    MembersKept o d api ↔ MembersKeyed d api := by
  constructor
  · intro hkept m e hm child hchild hkind
    have hmem : child ∈ e.children.filter (·.kind = Element.memberKind) :=
      List.mem_filter.mpr ⟨hchild, by simpa using hkind⟩
    obtain ⟨inherited, own, -, hown, -⟩ := hkept m e hm
    obtain ⟨f, key, value, name, hcontent, -⟩ := exists_of_forall₂ hown hmem
    rw [hcontent]
    rfl
  · -- if all members have keys, they are the pairs, which are kept
    intro hkeyed m e hm
    have hpairs : e.children.filter (·.kind = Element.memberKind) = e.children.filter isPair := by
      refine List.filter_congr fun child hchild => ?_
      by_cases hkind : child.kind = Element.memberKind
      · simp [isPair, hkind, hkeyed m e hm child hchild hkind]
      · simp [isPair, hkind]
    rw [hpairs]
    exact h.hasOwn_of_modelled hm

end Blueprint.Api
