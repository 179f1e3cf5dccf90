import Blueprint.Java.Controller
import Blueprint.Proofs.Models.Extraction
import Blueprint.Proofs.Name
import Blueprint.Proofs.Transform

/-!
# Paths of generated sources

* `groupNames`, `modelNames`: the names in Pascal case that classes are called by.
* `paths_generate`: the paths follow from these names; **`nodup_paths_iff`**: they are distinct
  exactly if the names of groups are and those of models are.
* `IsClassName`: what may be the name of a class; `exists_classPath`: each path is that of a class
  in one of three directories.
-/

namespace Blueprint.Java

open Text

/-! ## Paths of classes -/

theorem splitOn_classPath {d x : String} (hd : '/' ∉ d.toList) :
    splitOn '/' (classPath d x).toList = d.toList :: splitOn '/' (x ++ ".java").toList := by
  have hpiece : splitOn '/' d.toList = [d.toList] :=
    splitWhere_of_forall fun c hc => by simpa using fun h : c = '/' => hd (h ▸ hc)
  have htext : (classPath d x).toList = d.toList ++ '/' :: (x ++ ".java").toList := by
    simp [classPath]
  rw [htext, splitOn, splitWhere_append (by simp)]
  rw [splitOn] at hpiece
  rw [hpiece, List.singleton_append]

theorem classPath_inj {d d' x x' : String} (hd : '/' ∉ d.toList) (hd' : '/' ∉ d'.toList) :
    classPath d x = classPath d' x' ↔ d = d' ∧ x = x' := by
  constructor
  · intro h
    have hpieces := congrArg (fun path : String => splitOn '/' path.toList) h
    simp only [splitOn_classPath hd, splitOn_classPath hd', List.cons.injEq] at hpieces
    obtain rfl : d = d' := String.toList_inj.mp hpieces.1
    refine ⟨rfl, String.toList_inj.mp ?_⟩
    simpa [classPath] using congrArg String.toList h
  · rintro ⟨rfl, rfl⟩
    rfl

/-! ## Names -/

/-- The names of the groups, in Pascal case. Groups without a name are left out. -/
def groupNames (d : Ast.Document) : List String :=
  (d.groups.filter fun g => !isBlank g.name).map fun g => (Name.ofString (trimmed g.name)).pascal

/-- The names of the models, in Pascal case. -/
def modelNames (o : Options) (d : Ast.Document) : List String :=
  (Api.collected o d).keys.map fun name => (Name.ofString name).pascal

/-- The paths of the controller and the service of a group. -/
def groupPaths (name : String) : List String :=
  [classPath "controller" (name ++ "Controller"), classPath "service" (name ++ "ApiService")]

variable {compile? : String → Option (String → Bool)} {o : Options} {d : Ast.Document} {api : Api}

theorem paths_groups (s : Setup) (h : (Api.transformWith compile? o d).value = .ok api) :
    (api.groups.flatMap fun g => [controllerFile s g, serviceFile s g]).map (·.path) =
      (groupNames d).flatMap groupPaths := by
  obtain ⟨ms, -, hgroups⟩ := Api.groups_of_transformWith_eq_ok h
  rw [hgroups, Api.applyModifiers, Api.value_normalizeGroups, groupNames, List.map_flatMap,
    List.flatMap_map, List.flatMap_map, List.flatMap_map]
  rfl

theorem paths_models (s : Setup) (h : (Api.transformWith compile? o d).value = .ok api) :
    (api.models.map (modelFile s)).map (·.path) = (modelNames o d).map (classPath "model") := by
  rw [Api.models_of_transformWith_eq_ok h, Api.value_extractModels, modelNames, Dictionary.keys]
  simp only [List.map_map]
  refine List.map_congr_left fun p _ => ?_
  simp [modelFile, File.ofLines, Api.modelOf_eq]

/-- The paths of the files of an API follow from the names of its groups and its models. -/
theorem paths_generate (s : Setup) (h : (Api.transformWith compile? o d).value = .ok api) :
    (generate s api).map (·.path) =
      (groupNames d).flatMap groupPaths ++ (modelNames o d).map (classPath "model") := by
  rw [generate, List.map_append, paths_groups s h, paths_models s h]

/-! ## Distinct paths -/

theorem disjoint_groupPaths (m n : String) : List.Disjoint (groupPaths m) (groupPaths n) ↔ m ≠ n := by
  simp [groupPaths, classPath_inj, eq_comm]

theorem nodup_groupPaths (n : String) : (groupPaths n).Nodup := by
  simp [groupPaths, classPath_inj]

theorem nodup_paths {gs ms : List String} :
    (gs.flatMap groupPaths ++ ms.map (classPath "model")).Nodup ↔ gs.Nodup ∧ ms.Nodup := by
  have hgroups : (gs.flatMap groupPaths).Nodup ↔ gs.Nodup := by
    rw [List.nodup_flatMap]
    exact (and_iff_right fun n _ => nodup_groupPaths n).trans
      (List.Pairwise.iff fun m n => disjoint_groupPaths m n)
  have hmodels : (ms.map (classPath "model")).Nodup ↔ ms.Nodup :=
    List.nodup_map_iff fun m n h => ((classPath_inj (by decide) (by decide)).mp h).2
  have hdisjoint : List.Disjoint (gs.flatMap groupPaths) (ms.map (classPath "model")) := by
    intro path hpath hpath'
    obtain ⟨g, -, hg⟩ := List.mem_flatMap.mp hpath
    obtain ⟨m, -, rfl⟩ := List.mem_map.mp hpath'
    simp [groupPaths, classPath_inj] at hg
  rw [List.nodup_append', hgroups, hmodels]
  exact ⟨fun h => ⟨h.1, h.2.1⟩, fun h => ⟨h.1, h.2, hdisjoint⟩⟩

/-- **The paths of an API are distinct exactly if its names are**, those of groups and those of
models. -/
theorem nodup_paths_iff (s : Setup) (h : (Api.transformWith compile? o d).value = .ok api) :
    ((generate s api).map (·.path)).Nodup ↔ (groupNames d).Nodup ∧ (modelNames o d).Nodup := by
  rw [paths_generate s h]
  exact nodup_paths

/-- The names of the directories that classes lie in. -/
def classDirectories : List String := ["controller", "service", "model"]

/-- A name that a class can have in a path: not empty, and without characters that mean something. -/
def IsClassName (name : String) : Prop := name ≠ "" ∧ ∀ c ∈ name.toList, Unicode.IsPlain c

theorem isClassName_pascal (name : String) {suffix : String}
    (h : suffix.toList.all (fun c => decide (Unicode.IsPlain c)) = true) :
    IsClassName ((Name.ofString name).pascal ++ suffix) := by
  refine ⟨fun hempty => ?_, fun c hc => ?_⟩
  · have hboth : (Name.ofString name).pascal.toList ++ suffix.toList = [] := by
      rw [← String.toList_append, hempty]
      rfl
    exact Name.pascal_ne_nil name (List.append_eq_nil_iff.mp hboth).1
  · rw [String.toList_append] at hc
    rcases List.mem_append.mp hc with hc | hc
    · exact Name.isPlain_pascal name c hc
    · exact of_decide_eq_true (List.all_eq_true.mp h c hc)

/-- Each path is that of a class in one of the directories. -/
theorem exists_classPath {s : Setup} (h : (Api.transformWith compile? o d).value = .ok api) {f : File}
    (hf : f ∈ generate s api) :
    ∃ dir ∈ classDirectories, ∃ name, IsClassName name ∧ f.path = classPath dir name := by
  have hpath : f.path ∈ (generate s api).map (·.path) := List.mem_map_of_mem hf
  rw [paths_generate s h] at hpath
  rcases List.mem_append.mp hpath with hpath | hpath
  · obtain ⟨n, hn, hpath⟩ := List.mem_flatMap.mp hpath
    obtain ⟨g, -, rfl⟩ := List.mem_map.mp hn
    rcases List.mem_pair.mp hpath with hpath | hpath
    · exact ⟨_, by simp [classDirectories], _, isClassName_pascal _ (by decide), hpath⟩
    · exact ⟨_, by simp [classDirectories], _, isClassName_pascal _ (by decide), hpath⟩
  · obtain ⟨n, hn, hpath⟩ := List.mem_map.mp hpath
    obtain ⟨name, -, rfl⟩ := List.mem_map.mp hn
    have hname : IsClassName ((Name.ofString name).pascal ++ "") :=
      isClassName_pascal name (by simp)
    rw [String.append_empty] at hname
    exact ⟨_, by simp [classDirectories], _, hname, hpath.symm⟩

end Blueprint.Java
