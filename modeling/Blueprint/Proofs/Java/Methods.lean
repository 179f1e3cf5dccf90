import Blueprint.Java.Controller
import Blueprint.Proofs.Transform

/-!
# The methods of a controller and its service

* `listWith_eq_joined`: where the marks are right, a list of parameters is joined by commas.
* `typedNames`, `declarationsOf`: the parameters of an action, its body last.
* `delegating`, `declaring`: its method in a controller and in a service, lists joined by commas.
* `HasMethods`: what a group's file has between its head and its last line.
* **`controller_service_agree`**: the controller and the service of a group have one method for each
  action, in the order of the document and with the same name and return type. The service lists
  type and name of each parameter, the body last; the controller declares the same ones and passes
  on their names.
-/

namespace Blueprint.Java

open Text

/-! ## Joining -/

theorem joinWith_cons (sep piece : List Char) (rest : List (List Char)) :
    joinWith sep (piece :: rest) = piece ++ rest.flatMap (sep ++ ·) := by
  induction rest generalizing piece with
  | nil => simp [joinWith]
  | cons next rest ih => simp [joinWith, ih]

theorem joined_cons (sep piece : String) (rest : List String) :
    joined sep (piece :: rest) = piece ++ String.join (rest.map (sep ++ ·)) := by
  apply String.toList_inj.mp
  simp [joined, joinWith_cons, List.flatMap_map, String.toList_join]

/-! ## Lists of parameters -/

/-- The delimiters of a list are those of its positions: none first, and then a comma each. -/
def Separated : List Argument → Prop
  | [] => True
  | x :: rest => x.delimiter = "" ∧ ∀ y ∈ rest, y.delimiter = ", "

theorem join_separated {xs : List Argument} (h : Separated xs) (f : Argument → String) :
    String.join (xs.map fun x => x.delimiter ++ f x) = joined ", " (xs.map f) := by
  cases xs with
  | nil => rfl
  | cons x rest =>
    obtain ⟨hx, hrest⟩ := h
    have htail : (rest.map fun y => y.delimiter ++ f y) = (rest.map f).map (", " ++ ·) := by
      rw [List.map_map]
      exact List.map_congr_left fun y hy => by rw [hrest y hy]; rfl
    rw [List.map_cons, List.map_cons, joined_cons, String.join_cons, htail, hx, String.empty_append]

theorem separated_all {a : Api.Action} (h : a.Delimited) : Separated (Method.ofAction a).all := by
  have hbody : ∀ b ∈ a.body, b.delimited = true ↔ a.parameters ≠ [] := h.body
  rw [Method.all, Method.ofAction]
  cases hps : a.parameters with
  | nil =>
    cases hb : a.body with
    | none => trivial
    | some b =>
      have hd : b.delimited = false := by simpa [hps] using hbody b hb
      exact ⟨by simp [Argument.ofBody, Api.delimiter, hd], by simp⟩
  | cons p ps =>
    obtain ⟨hp, hq⟩ := h.of_cons hps
    refine ⟨by simp [Argument.ofParameter, Api.delimiter, hp], fun y hy => ?_⟩
    change y ∈ ps.map Argument.ofParameter ++ (a.body.map Argument.ofBody).toList at hy
    rcases List.mem_append.mp hy with hy | hy
    · obtain ⟨q, hmem, rfl⟩ := List.mem_map.mp hy
      simp [Argument.ofParameter, Api.delimiter, hq q hmem]
    · obtain ⟨b, hb, rfl⟩ := Option.map_eq_some_iff.mp (Option.mem_toList.mp hy)
      have hd : b.delimited = true := by simpa [hps] using hbody b hb
      simp [Argument.ofBody, Api.delimiter, hd]

theorem listWith_eq_joined {a : Api.Action} (h : a.Delimited) (f : Argument → String) :
    (Method.ofAction a).listWith f = joined ", " ((Method.ofAction a).all.map f) :=
  join_separated (separated_all h) f

/-! ## Methods -/

/-- The parameters of an action, its body last, each with its type and its name. -/
def typedNames (a : Api.Action) : List (String × String) :=
  a.parameters.map (fun p => (typeText p.type, identifier p.name.camel)) ++
    a.body.toList.map fun b => (typeText b.type, b.name ++ "Body")

/-- The parameters of an action as a controller declares them. -/
def declarationsOf (a : Api.Action) : List String :=
  a.parameters.map
      (fun p => bindingText p ++ (typeText p.type ++ " " ++ identifier p.name.camel)) ++
    a.body.toList.map fun b => "@RequestBody " ++ (typeText b.type ++ " " ++ (b.name ++ "Body"))

/-- The method of an action in a controller. Commas join what it declares, and what it passes on to
a field. -/
def delegating (field : String) (a : Api.Action) : List String :=
  let m := Method.ofAction a
  methodComment m ++ m.annotations.map ("    " ++ ·) ++ [
    "    @RequestMapping(value = \"" ++ m.path ++ "\", method = RequestMethod." ++ m.verb ++ ")",
    "    public " ++ m.returnType ++ " " ++ m.name ++ "(" ++
      joined ", " (declarationsOf a) ++ ") \x7b",
    "        return " ++ field ++ "." ++ m.name ++ "(" ++
      joined ", " ((typedNames a).map (·.2)) ++ ");",
    "    \x7d"]

/-- The method of an action in a service. Commas join its parameters. -/
def declaring (a : Api.Action) : List String :=
  let m := Method.ofAction a
  methodComment m ++
    ["    " ++ m.returnType ++ " " ++ m.name ++ "(" ++
      joined ", " ((typedNames a).map fun x => x.1 ++ " " ++ x.2) ++ ");"]

theorem map_all (a : Api.Action) (f : Argument → String) : (Method.ofAction a).all.map f =
    a.parameters.map (fun p => f (.ofParameter p)) ++
      a.body.toList.map fun b => f (.ofBody b) := by
  simp only [Method.all, Method.ofAction, List.map_append, List.map_map, Option.toList_map,
    Function.comp_def]

theorem declarations_eq {a : Api.Action} (h : a.Delimited) :
    (Method.ofAction a).declarations = joined ", " (declarationsOf a) := by
  rw [Method.declarations, listWith_eq_joined h, map_all, declarationsOf]
  simp only [Argument.ofParameter, Argument.ofBody, String.append_assoc]

theorem signature_eq {a : Api.Action} (h : a.Delimited) : (Method.ofAction a).signature =
    joined ", " ((typedNames a).map fun x => x.1 ++ " " ++ x.2) := by
  rw [Method.signature, listWith_eq_joined h, map_all, typedNames]
  simp only [Argument.ofParameter, Argument.ofBody, List.map_append, List.map_map,
    Function.comp_def]

theorem passed_eq {a : Api.Action} (h : a.Delimited) :
    (Method.ofAction a).passed = joined ", " ((typedNames a).map (·.2)) := by
  rw [Method.passed, listWith_eq_joined h, map_all, typedNames]
  simp only [Argument.ofParameter, Argument.ofBody, List.map_append, List.map_map,
    Function.comp_def]

theorem controllerMethod_eq {a : Api.Action} (h : a.Delimited) (field : String) :
    controllerMethod field (Method.ofAction a) = delegating field a := by
  rw [controllerMethod, delegating, declarations_eq h, passed_eq h]

theorem serviceMethod_eq {a : Api.Action} (h : a.Delimited) :
    serviceMethod (Method.ofAction a) = declaring a := by
  rw [serviceMethod, declaring, signature_eq h]

/-- Each declaration ends with the type and the name of its parameter. -/
theorem declarationsOf_end (a : Api.Action) : List.Forall₂
    (fun text x => ∃ mark, text = mark ++ (x.1 ++ " " ++ x.2)) (declarationsOf a)
    (typedNames a) := by
  refine List.rel_append ?_ ?_
  · exact List.forall₂_map_left_iff.mpr <| List.forall₂_map_right_iff.mpr <|
      List.forall₂_same.mpr fun p _ => ⟨bindingText p, rfl⟩
  · exact List.forall₂_map_left_iff.mpr <| List.forall₂_map_right_iff.mpr <|
      List.forall₂_same.mpr fun b _ => ⟨"@RequestBody ", rfl⟩

theorem identifier_ne_empty {name : String} (h : name ≠ "") : identifier name ≠ "" := by
  rw [identifier]
  split
  · simp
  · exact h

theorem typedNames_ne_empty {a : Api.Action} (h : ∀ p ∈ a.parameters, p.name.camel ≠ "") :
    ∀ x ∈ typedNames a, x.2 ≠ "" := by
  intro x hx
  rcases List.mem_append.mp hx with hx | hx
  · obtain ⟨p, hp, rfl⟩ := List.mem_map.mp hx
    exact identifier_ne_empty (h p hp)
  · obtain ⟨b, -, rfl⟩ := List.mem_map.mp hx
    simp

/-! ## Files -/

/-- The file of a group has the given methods and nothing else that depends on its resources:
without resources it is the head and the last line. -/
def HasMethods (file : Api.Group → File) (g : Api.Group) (entries : List (List String)) : Prop :=
  ∃ head : List String,
    (file { g with resources := [] }).content = joined "\n" (head ++ ["\x7d"]) ∧
      (file g).content = joined "\n" (head ++ entries.flatten ++ ["\x7d"])

theorem methods_nil (g : Api.Group) : methods { g with resources := [] } = [] := rfl

theorem flatMap_methods {g : Api.Group} (h : ∀ a ∈ g.actions, a.Delimited)
    {f : Method → List String} {entry : Api.Action → List String}
    (hf : ∀ a : Api.Action, a.Delimited → f (Method.ofAction a) = entry a) :
    (methods g).flatMap f = (g.actions.map entry).flatten := by
  rw [methods, List.flatMap_map, ← List.flatMap_def]
  exact List.flatMap_congr fun a ha => hf a (h a ha)

/-- What a controller has before its methods does not depend on the resources of its group. -/
theorem content_controllerFile (s : Setup) (g : Api.Group) : ∃ head, ∀ rs,
    (controllerFile s { g with resources := rs }).content = joined "\n" (head ++
      (methods { g with resources := rs }).flatMap (controllerMethod g.serviceField) ++
      ["\x7d"]) := by
  constructor
  intro rs
  dsimp only [controllerFile, File.ofLines]

theorem content_serviceFile (s : Setup) (g : Api.Group) : ∃ head, ∀ rs,
    (serviceFile s { g with resources := rs }).content = joined "\n" (head ++
      (methods { g with resources := rs }).flatMap serviceMethod ++ ["\x7d"]) := by
  constructor
  intro rs
  dsimp only [serviceFile, File.ofLines]

theorem hasMethods_controllerFile (s : Setup) {g : Api.Group} (h : ∀ a ∈ g.actions, a.Delimited) :
    HasMethods (controllerFile s) g (g.actions.map (delegating g.serviceField)) := by
  obtain ⟨head, hhead⟩ := content_controllerFile s g
  refine ⟨head, ?_, ?_⟩
  · rw [hhead, methods_nil, List.flatMap_nil, List.append_nil]
  · rw [← flatMap_methods h fun a ha => controllerMethod_eq ha g.serviceField]
    exact hhead g.resources

theorem hasMethods_serviceFile (s : Setup) {g : Api.Group} (h : ∀ a ∈ g.actions, a.Delimited) :
    HasMethods (serviceFile s) g (g.actions.map declaring) := by
  obtain ⟨head, hhead⟩ := content_serviceFile s g
  refine ⟨head, ?_, ?_⟩
  · rw [hhead, methods_nil, List.flatMap_nil, List.append_nil]
  · rw [← flatMap_methods h fun a ha => serviceMethod_eq ha]
    exact hhead g.resources

/-- **The controller and the service of a group agree** on their methods and on the parameters of
each. -/
theorem controller_service_agree (s : Setup) {compile? : String → Option (String → Bool)}
    {o : Options} {d : Ast.Document} {api : Api}
    (h : (Api.transformWith compile? o d).value = .ok api) {g : Api.Group} (hg : g ∈ api.groups) :
    controllerFile s g ∈ generate s api ∧ serviceFile s g ∈ generate s api ∧
      (∃ ms, (Api.compileModifiersWith compile? o.rules).value = .ok ms ∧ ∃ src ∈ d.groups,
        g.name = Name.ofString (trimmed src.name) ∧ g.actions = Api.actionsOf o ms src) ∧
      HasMethods (controllerFile s) g (g.actions.map (delegating g.serviceField)) ∧
      HasMethods (serviceFile s) g (g.actions.map declaring) ∧
      ∀ a ∈ g.actions, List.Forall₂ (fun text x => ∃ mark, text = mark ++ (x.1 ++ " " ++ x.2))
          (declarationsOf a) (typedNames a) ∧ ∀ x ∈ typedNames a, x.2 ≠ "" := by
  have hd := Api.delimited_of_mem_groups h hg
  have hfiles : ∀ f ∈ [controllerFile s g, serviceFile s g], f ∈ generate s api :=
    fun f hf => List.mem_append_left _ (List.mem_flatMap.mpr ⟨g, hg, hf⟩)
  refine ⟨hfiles _ (by simp), hfiles _ (by simp), Api.exists_of_mem_groups h hg,
    hasMethods_controllerFile s hd, hasMethods_serviceFile s hd, fun a ha => ⟨?_, ?_⟩⟩
  · exact declarationsOf_end a
  · exact typedNames_ne_empty (Api.named_of_mem_groups h hg a ha)

theorem controller_service_agree_notes :
    ∃ api g, (Api.transformWith Pattern.test? { rules := [Api.principalRule] }
        Api.notesDocument).value = .ok api ∧
      g ∈ api.groups ∧
      g.actions.map (fun a => (typedNames a).map (·.2)) =
        [["principal", "id", "tag", "objectBody"]] ∧
      HasMethods (controllerFile {}) g (g.actions.map (delegating g.serviceField)) ∧
      HasMethods (serviceFile {}) g (g.actions.map declaring) := by
  obtain ⟨api, g, h, hg, hnames⟩ :
      ∃ api g, (Api.transformWith Pattern.test? { rules := [Api.principalRule] }
          Api.notesDocument).value = .ok api ∧
        g ∈ api.groups ∧ g.actions.map (fun a => (typedNames a).map (·.2)) =
          [["principal", "id", "tag", "objectBody"]] :=
    ⟨_, _, rfl, List.mem_singleton.mpr rfl, by rfl⟩
  obtain ⟨-, -, -, hcontroller, hservice, -⟩ := controller_service_agree {} h hg
  exact ⟨api, g, h, hg, hnames, hcontroller, hservice⟩

end Blueprint.Java
