import Blueprint.Api.Modifiers
import Blueprint.Proofs.Delimiters
import Mathlib.Data.List.Forall2
import Mathlib.Data.List.Induction

/-!
# What modifiers change

* `hits`: the modifiers that match a full name, in order.
* `Revised`: an action as modifiers leave it, with everything that they may not touch.
* `Revised.alter`: one further modifier; `revised_applyAll`: a whole list of them.
* **`applyModifiers_revised`**: in all groups every action is revised by its hits. Their parameters
  are put in front and at the end, those of later ones further out; the annotations are those of the
  last hit that has any; all else stays. Applying two lists of modifiers together is applying one
  after the other.
-/

namespace Blueprint.Api

/-- The modifiers that apply to a full name, in order. -/
def hits (ms : List Modifier) (name : String) : List Modifier := ms.filter (·.applies name)

theorem hits_concat (ms : List Modifier) (m : Modifier) (name : String) :
    hits (ms ++ [m]) name = hits ms name ++ if m.applies name then [m] else [] := by
  rw [hits, List.filter_append, List.filter_cons, List.filter_nil]
  rfl

/-- An action `b` that modifiers have made of `a`. -/
structure Revised (ms : List Modifier) (a b : Action) : Prop where
  name : b.name = a.name
  resourceName : b.resourceName = a.resourceName
  method : b.method = a.method
  description : b.description = a.description
  path : b.path = a.path
  responseType : b.responseType = a.responseType
  responseStatus : b.responseStatus = a.responseStatus
  body : b.body.map Body.bare = a.body.map Body.bare
  /-- What a later modifier puts in front precedes what an earlier one did. -/
  parameters : b.parameters.map Parameter.bare =
    ms.reverse.flatMap (·.prepended.map Parameter.bare) ++ a.parameters.map Parameter.bare ++
      ms.flatMap (·.appended.map Parameter.bare)
  annotations : b.annotations = ((ms.filterMap (·.annotations)).getLast?).getD a.annotations
  /-- An action that no modifier applies to keeps its marks as well. -/
  untouched : ms = [] → b = a
  /-- The marks of any other action follow from its parameters. -/
  marked : ms ≠ [] → b.assignDelimiters = b

theorem Revised.refl (a : Action) : Revised [] a a where
  name := rfl
  resourceName := rfl
  method := rfl
  description := rfl
  path := rfl
  responseType := rfl
  responseStatus := rfl
  body := rfl
  parameters := by simp
  annotations := rfl
  untouched _ := rfl
  marked h := absurd rfl h

theorem parameters_alter (m : Modifier) (a : Action) : (m.alter a).parameters.map Parameter.bare =
    m.prepended.map Parameter.bare ++ a.parameters.map Parameter.bare ++
      m.appended.map Parameter.bare := by
  rw [Modifier.alter, Action.assignDelimiters, map_bare_delimitFrom, List.map_append,
    List.map_append]

theorem body_alter (m : Modifier) (a : Action) :
    (m.alter a).body.map Body.bare = a.body.map Body.bare := by
  rw [Modifier.alter, Action.assignDelimiters, Option.map_map]
  rfl

theorem assignDelimiters_alter (m : Modifier) (a : Action) :
    (m.alter a).assignDelimiters = m.alter a := by
  have h := assignDelimiters_assignDelimiters
    { a with parameters := m.prepended ++ a.parameters ++ m.appended }
  simp only [Modifier.alter, Action.assignDelimiters] at h ⊢
  simpa using h

theorem Revised.alter {ms : List Modifier} {a b : Action} (h : Revised ms a b) (m : Modifier) :
    Revised (ms ++ [m]) a (m.alter b) where
  name := h.name
  resourceName := h.resourceName
  method := h.method
  description := h.description
  path := h.path
  responseType := h.responseType
  responseStatus := h.responseStatus
  body := by rw [body_alter, h.body]
  parameters := by
    rw [parameters_alter, h.parameters]
    simp [List.append_assoc]
  annotations := by
    change m.annotations.getD b.annotations = _
    rw [h.annotations, List.filterMap_append]
    cases hm : m.annotations <;> simp [hm]
  untouched hn := absurd hn (by simp)
  marked _ := assignDelimiters_alter m b

/-- What holds of the parameters of an action and of added ones, marks apart, holds afterwards. -/
theorem Revised.forall_bare {ms : List Modifier} {a b : Action} (h : Revised ms a b)
    {P : Parameter → Prop} (hms : ∀ m ∈ ms, ∀ p ∈ m.prepended ++ m.appended, P p.bare)
    (ha : ∀ p ∈ a.parameters, P p.bare) : ∀ p ∈ b.parameters, P p.bare := by
  intro p hp
  have hmem : p.bare ∈ b.parameters.map Parameter.bare := List.mem_map_of_mem hp
  rw [h.parameters, List.mem_append, List.mem_append] at hmem
  rcases hmem with (hmem | hmem) | hmem
  · obtain ⟨m, hm, hq⟩ := List.mem_flatMap.mp hmem
    obtain ⟨q, hq, heq⟩ := List.mem_map.mp hq
    exact heq ▸ hms m (List.mem_reverse.mp hm) q (List.mem_append_left _ hq)
  · obtain ⟨q, hq, heq⟩ := List.mem_map.mp hmem
    exact heq ▸ ha q hq
  · obtain ⟨m, hm, hq⟩ := List.mem_flatMap.mp hmem
    obtain ⟨q, hq, heq⟩ := List.mem_map.mp hq
    exact heq ▸ hms m hm q (List.mem_append_right _ hq)

theorem applyAll_append (controller : String) (ms ns : List Modifier) (a : Action) :
    applyAll controller (ms ++ ns) a = applyAll controller ns (applyAll controller ms a) :=
  List.foldl_append

/-- **Modifiers revise an action**, by those that apply to its full name. -/
theorem revised_applyAll (controller : String) (ms : List Modifier) (a : Action) :
    Revised (hits ms (fullName controller a)) a (applyAll controller ms a) := by
  induction ms using List.reverseRecOn with
  | nil => exact .refl a
  | append_singleton ms m ih =>
    have hname : fullName controller (applyAll controller ms a) = fullName controller a := by
      rw [fullName, ih.name, fullName]
    rw [applyAll_append]
    change Revised _ a (m.apply controller (applyAll controller ms a))
    rw [Modifier.apply, hname, hits_concat]
    split
    · exact ih.alter m
    · rw [List.append_nil]
      exact ih

/-- A resource `s` in which modifiers have revised the actions of `r`. -/
structure Resource.Revised (ms : List Modifier) (controller : String) (r s : Resource) : Prop where
  frame : { s with actions := r.actions } = r
  actions : List.Forall₂ (fun a b => Api.Revised (hits ms (controller ++ "." ++ a.name.camel)) a b)
    r.actions s.actions

/-- A group `h` in which modifiers have revised the actions of `g`. -/
structure Group.Revised (ms : List Modifier) (g h : Group) : Prop where
  frame : { h with resources := g.resources } = g
  resources : List.Forall₂ (Resource.Revised ms g.controllerClass) g.resources h.resources

theorem revised_map (ms : List Modifier) (g : Group) :
    Group.Revised ms g { g with resources := g.resources.map fun r =>
      { r with actions := r.actions.map (applyAll g.controllerClass ms) } } where
  frame := rfl
  resources := List.forall₂_map_right_iff.mpr <| List.forall₂_same.mpr fun _ _ =>
    { frame := rfl
      actions := List.forall₂_map_right_iff.mpr <| List.forall₂_same.mpr fun a _ =>
        revised_applyAll g.controllerClass ms a }

/-- The actions of a group after modifiers are its own, each after the modifiers. -/
theorem exists_of_mem_applyModifiers {ms : List Modifier} {gs : List Group} {h : Group}
    (hh : h ∈ applyModifiers ms gs) : ∃ g ∈ gs, { h with resources := g.resources } = g ∧
      h.actions = g.actions.map (applyAll g.controllerClass ms) := by
  obtain ⟨g, hg, rfl⟩ := List.mem_map.mp hh
  refine ⟨g, hg, rfl, ?_⟩
  simp only [Group.actions, List.flatMap_map, List.map_flatMap]

theorem applyModifiers_append (ms ns : List Modifier) (gs : List Group) :
    applyModifiers (ms ++ ns) gs = applyModifiers ns (applyModifiers ms gs) := by
  have happly : ∀ c, applyAll c (ms ++ ns) = applyAll c ns ∘ applyAll c ms :=
    fun c => funext fun a => applyAll_append c ms ns a
  simp only [applyModifiers, List.map_map, happly, Function.comp_def]

/-- **Modifiers revise every action by their hits and change nothing else.** -/
theorem applyModifiers_revised (gs : List Group) :
    (∀ ms, List.Forall₂ (Group.Revised ms) gs (applyModifiers ms gs)) ∧
      ∀ ms ns, applyModifiers (ms ++ ns) gs = applyModifiers ns (applyModifiers ms gs) :=
  ⟨fun ms => List.forall₂_map_right_iff.mpr <| List.forall₂_same.mpr fun g _ => revised_map ms g,
    fun ms ns => applyModifiers_append ms ns gs⟩

end Blueprint.Api
