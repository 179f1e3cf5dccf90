import Blueprint.Proofs.Command.Path
import Blueprint.Proofs.Command.Session
import Blueprint.Proofs.Command.Store
import Blueprint.Proofs.Java.Paths

/-!
# Written sources

* `Store.save`: a file written below a directory; `keeps_saveAll`, `holds_saveAll`: what a list of
  them leaves.
* `exists_of_writeSources`: a session that writes sources saves each of them, in order.
* `place_classPath`, `place_inj`: files with different paths lie at different locations.
* **`generated_sources`**: the paths of sources are distinct exactly if the names of the groups and
  of the models are, in Pascal case. Then a run leaves all of them on disk, and else the last of
  those with one path.
-/

namespace Blueprint.Command

open Java (File IsClassName classDirectories classPath)

variable {s t u : Store} {dir : String}

/-! ## Saving files -/

namespace Store

/-- A store with a file written below a directory. -/
def save (dir : String) (s : Store) (f : File) : Except FileError Store :=
  match s.makeDirectories (parentPath (joinPath dir f.path)) with
  | (.ok (), t) => t.write (joinPath dir f.path) f.content
  | (.error e, _) => .error e

theorem save_eq_ok {f : File} : s.save dir f = .ok t ↔
    ∃ u, s.makeDirectories (parentPath (joinPath dir f.path)) = (.ok (), u) ∧
      u.write (joinPath dir f.path) f.content = .ok t := by
  rw [save]
  rcases s.makeDirectories (parentPath (joinPath dir f.path)) with ⟨_ | ⟨⟩, u⟩ <;> simp

theorem keeps_save {f : File} (h : s.save dir f = .ok t) :
    Keeps (· = s.place (joinPath dir f.path)) s t := by
  obtain ⟨u, hu, ht⟩ := save_eq_ok.mp h
  have hsu := keeps_of_makeDirectories hu
  have hut := keeps_write ht
  rw [hsu.place] at hut
  exact (hsu.mono fun _ => False.elim).trans hut

theorem holds_save {f : File} (h : s.save dir f = .ok t) :
    t.Holds (joinPath dir f.path) f.content := by
  obtain ⟨u, -, ht⟩ := save_eq_ok.mp h
  exact holds_of_write ht

theorem keeps_saveAll {files : List File} (h : files.foldlM (save dir) s = .ok t) :
    Keeps (fun l => ∃ f ∈ files, l = s.place (joinPath dir f.path)) s t := by
  induction files generalizing s with
  | nil =>
    rw [← Except.ok.inj h]
    exact .refl _ s
  | cons f rest ih =>
    rw [List.foldlM_cons] at h
    obtain ⟨u, hu, ht⟩ := Fault.exists_of_bind_eq_ok h
    have hsu := keeps_save hu
    refine (hsu.mono fun x hx => ⟨f, List.mem_cons_self, hx⟩).trans ((ih ht).mono ?_)
    rintro x ⟨g, hg, rfl⟩
    exact ⟨g, List.mem_cons_of_mem f hg, hsu.place _⟩

/-- **Of the files saved at a location the last one is there.** -/
theorem holds_saveAll {before after : List File} {f : File}
    (h : (before ++ f :: after).foldlM (save dir) s = .ok t)
    (hafter : ∀ g ∈ after, s.place (joinPath dir g.path) ≠ s.place (joinPath dir f.path)) :
    t.Holds (joinPath dir f.path) f.content := by
  rw [List.foldlM_append] at h
  obtain ⟨u, hu, h⟩ := Fault.exists_of_bind_eq_ok h
  rw [List.foldlM_cons] at h
  obtain ⟨v, hv, ht⟩ := Fault.exists_of_bind_eq_ok h
  have hsv := (keeps_saveAll hu).place
  refine (keeps_saveAll ht).holds ?_ (holds_save hv)
  rintro ⟨g, hg, hplace⟩
  rw [(keeps_save hv).place, (keeps_save hv).place, hsv, hsv] at hplace
  exact hafter g hg hplace.symm

end Store

/-! ## Sessions that write -/

open Session

variable {c c' : Console}

theorem save_of_writeFile {f : File}
    (h : (writeFile Store.files dir f).on c s = ((.ok (), c'), t)) : s.save dir f = .ok t := by
  obtain ⟨⟨⟩, c₁, u, hu, h⟩ := on_bind_eq_ok.mp h
  obtain ⟨-, hu⟩ := on_makeDirectories_eq_ok.mp hu
  obtain ⟨⟨⟩, c₂, v, hv, h⟩ := on_bind_eq_ok.mp h
  obtain ⟨-, hv⟩ := on_write_eq_ok.mp hv
  rw [on_say] at h
  rw [← (Prod.mk.inj h).2]
  exact Store.save_eq_ok.mpr ⟨u, hu, hv⟩

theorem saveAll_of_forM {files : List File}
    (h : (files.forM (writeFile Store.files dir)).on c s = ((.ok (), c'), t)) :
    files.foldlM (Store.save dir) s = .ok t := by
  induction files generalizing c s with
  | nil => exact congrArg Except.ok (Prod.mk.inj h).2
  | cons f rest ih =>
    obtain ⟨⟨⟩, c₁, u, hu, hrest⟩ := on_bind_eq_ok.mp h
    rw [List.foldlM_cons, save_of_writeFile hu]
    exact ih hrest

theorem exists_of_writeSources {files : List File} {notes : List Diagnostic}
    (h : (writeSources Store.files dir files notes).on c s = ((.ok (), c'), t)) :
    ∃ u, s.makeDirectories dir = (.ok (), u) ∧ files.foldlM (Store.save dir) u = .ok t := by
  obtain ⟨⟨⟩, c₁, u, hu, h⟩ := on_bind_eq_ok.mp h
  rw [on_say] at hu
  obtain ⟨⟨⟩, c₂, v, hv, h⟩ := on_bind_eq_ok.mp h
  obtain ⟨-, hv⟩ := on_makeDirectories_eq_ok.mp hv
  obtain ⟨⟨⟩, c₃, w, hw, h⟩ := on_bind_eq_ok.mp h
  rw [on_say] at h
  rw [← (Prod.mk.inj hu).2] at hv
  rw [← (Prod.mk.inj h).2]
  exact ⟨v, hv, saveAll_of_forM hw⟩

/-! ## Locations of classes -/

theorem ne_of_mem_classDirectories {d : String} (hd : d ∈ classDirectories) :
    '/' ∉ d.toList ∧ d.toList ≠ [] ∧ d.toList ≠ ['.'] ∧ d.toList ≠ ['.', '.'] := by
  revert d
  decide

/-- The name of a file is too long for one that only leads somewhere. -/
theorem ne_of_java (x : String) : (x ++ ".java").toList ≠ [] ∧ (x ++ ".java").toList ≠ ['.'] ∧
    (x ++ ".java").toList ≠ ['.', '.'] := by
  have hlong : 5 ≤ (x ++ ".java").toList.length := by simp
  refine ⟨?_, ?_, ?_⟩ <;> intro h <;> simp [h] at hlong

theorem slash_notMem_java {x : String} (hx : IsClassName x) : '/' ∉ (x ++ ".java").toList := by
  rw [String.toList_append, List.mem_append]
  exact not_or.mpr ⟨fun h => hx.2 '/' h (by decide), by decide⟩

theorem pathNames_classPath {d x : String} (hd : d ∈ classDirectories)
    (hx : IsClassName x) :
    pathNames (classPath d x) = [d.toList, (x ++ ".java").toList] := by
  obtain ⟨hslash, hempty, hpoint, -⟩ := ne_of_mem_classDirectories hd
  obtain ⟨hempty', hpoint', -⟩ := ne_of_java x
  have hslash' := slash_notMem_java hx
  have hpiece : Text.splitOn '/' (x ++ ".java").toList = [(x ++ ".java").toList] :=
    Text.splitWhere_of_forall fun c hc => by simpa using fun h : c = '/' => hslash' (h ▸ hc)
  rw [pathNames, Java.splitOn_classPath hslash, hpiece, List.filter_eq_self]
  simp only [List.mem_cons, List.not_mem_nil, or_false, forall_eq_or_imp, forall_eq]
  simp [hempty, hpoint, hempty', hpoint', -String.toList_append]

theorem isAbsolute_classPath {d : String} (hd : d ∈ classDirectories) (x : String) :
    isAbsolute (classPath d x) = false := by
  obtain ⟨hslash, hempty, -⟩ := ne_of_mem_classDirectories hd
  obtain ⟨c, cs, hcs⟩ := List.exists_cons_of_ne_nil hempty
  have hc : c ≠ '/' := fun h => hslash (by simp [hcs, h])
  simp [isAbsolute, classPath, hcs, hc]

/-- The file of a class lies in a directory of its own below the one of all classes. -/
theorem place_classPath (s : Store) (dir : String) {d x : String} (hd : d ∈ classDirectories)
    (hx : IsClassName x) :
    s.place (joinPath dir (classPath d x)) = s.place dir ++ [d.toList, (x ++ ".java").toList] := by
  have hrelative := isAbsolute_classPath hd x
  rw [Store.place, pathNames_joinPath dir hrelative, pathNames_classPath hd hx, List.foldl_append,
    Store.start, isAbsolute_joinPath dir hrelative]
  change Store.descend (Store.descend (s.place dir) d.toList) (x ++ ".java").toList = _
  rw [Store.descend, if_neg (ne_of_java x).2.2, Store.descend,
    if_neg (ne_of_mem_classDirectories hd).2.2.2, List.append_assoc, List.singleton_append]

section Generated

variable {compile? : String → Option (String → Bool)} {o : Options} {d : Ast.Document} {api : Api}
  (setup : Java.Setup)
  (h : (Api.transformWith compile? o d).value = .ok api)
include h

/-- Files of an API with different paths lie at different locations. -/
theorem place_inj (s : Store) (dir : String) {f g : File} (hf : f ∈ Java.generate setup api)
    (hg : g ∈ Java.generate setup api)
    (hplace : s.place (joinPath dir f.path) = s.place (joinPath dir g.path)) : f.path = g.path := by
  obtain ⟨df, hdf, x, hx, hf⟩ := Java.exists_classPath h hf
  obtain ⟨dg, hdg, y, hy, hg⟩ := Java.exists_classPath h hg
  rw [hf, hg, place_classPath s dir hdf hx, place_classPath s dir hdg hy] at hplace
  obtain ⟨hd, hname⟩ := List.cons.inj (List.append_cancel_left hplace)
  have hxy : x = y := String.toList_inj.mp (by simpa using hname)
  rw [hf, hg, String.toList_inj.mp hd, hxy]

/-- Of the sources with one path the last one is there after a run. -/
theorem read_last {dir : String} {notes : List Diagnostic} {c c' : Console} {s t : Store}
    (hrun : (writeSources Store.files dir (Java.generate setup api) notes).on c s =
      ((.ok (), c'), t)) {before after : List File} {f : File}
    (hfiles : Java.generate setup api = before ++ f :: after)
    (hafter : ∀ g ∈ after, g.path ≠ f.path) : t.read (joinPath dir f.path) = .ok f.content := by
  obtain ⟨u, -, hsaved⟩ := exists_of_writeSources hrun
  have hmem : ∀ g ∈ f :: after, g ∈ Java.generate setup api := by
    rw [hfiles]
    exact fun g hg => List.mem_append_right before hg
  rw [hfiles] at hsaved
  refine (Store.holds_saveAll hsaved fun g hg hplace => hafter g hg ?_).read
  exact place_inj setup h u dir (hmem g (List.mem_cons_of_mem f hg)) (hmem f List.mem_cons_self)
    hplace

/-- **All sources are on disk exactly if their paths are distinct**; of those with one path the last
one is. -/
theorem generated_sources :
    (((Java.generate setup api).map (·.path)).Nodup ↔
      (Java.groupNames d).Nodup ∧ (Java.modelNames o d).Nodup) ∧
      ∀ dir notes c c' s t,
        (writeSources Store.files dir (Java.generate setup api) notes).on c s = ((.ok (), c'), t) →
        (∀ before f after, Java.generate setup api = before ++ f :: after →
          (∀ g ∈ after, g.path ≠ f.path) → t.read (joinPath dir f.path) = .ok f.content) ∧
        (((Java.generate setup api).map (·.path)).Nodup →
          ∀ f ∈ Java.generate setup api, t.read (joinPath dir f.path) = .ok f.content) := by
  refine ⟨Java.nodup_paths_iff setup h, fun dir notes c c' s t hrun =>
    ⟨fun before f after => read_last setup h hrun, fun hnodup f hf => ?_⟩⟩
  obtain ⟨before, after, hfiles⟩ := List.append_of_mem hf
  refine read_last setup h hrun hfiles fun g hg hpath => ?_
  rw [hfiles, List.map_append, List.map_cons] at hnodup
  have hnotin := (List.nodup_cons.mp (List.nodup_append'.mp hnodup).2.1).1
  exact hnotin (hpath ▸ List.mem_map_of_mem hg)

end Generated

theorem generated_sources_notes :
    ∃ api c t, (Api.transformWith Pattern.test? {} Api.notesDocument).value = .ok api ∧
      (Java.generate {} api).map (·.path) =
        ["controller/NotesController.java", "service/NotesApiService.java"] ∧
      (writeSources Store.files "out" (Java.generate {} api) []).on {} {} = ((.ok (), c), t) ∧
      ∀ f ∈ Java.generate {} api, t.read (joinPath "out" f.path) = .ok f.content := by
  obtain ⟨api, h, hpaths, hrun⟩ : ∃ api,
      (Api.transformWith Pattern.test? {} Api.notesDocument).value = .ok api ∧
      (Java.generate {} api).map (·.path) =
        ["controller/NotesController.java", "service/NotesApiService.java"] ∧
      ((writeSources Store.files "out" (Java.generate {} api) []).on {} {}).1.1 = .ok () :=
    ⟨_, rfl, by decide +kernel, by decide +kernel⟩
  refine ⟨api, _, _, h, hpaths, Prod.ext (Prod.ext hrun rfl) rfl, ?_⟩
  refine ((generated_sources {} h).2 _ _ _ _ _ _ (Prod.ext (Prod.ext hrun rfl) rfl)).2 ?_
  rw [hpaths]
  decide

/-- A document with two models whose names differ in their spelling alone. -/
def couponDocument : Ast.Document :=
  { content := [
      { kind := Ast.Element.dataStructure
        content := .elements [
          { kind := "object", «meta» := some { id := some "coupon base" } },
          { kind := "object", «meta» := some { id := some "CouponBase", description := some "B" } }] }] }

/-- Its two models have one path, and the source of the first is lost. -/
theorem exists_overwritten :
    ∃ api c t, (Api.transformWith Pattern.test? {} couponDocument).value = .ok api ∧
      ¬ ((Java.generate {} api).map (·.path)).Nodup ∧
      (writeSources Store.files "out" (Java.generate {} api) []).on {} {} = ((.ok (), c), t) ∧
      ∃ f ∈ Java.generate {} api, t.read (joinPath "out" f.path) ≠ .ok f.content := by
  obtain ⟨api, h, hpaths, hrun, hlost⟩ : ∃ api,
      (Api.transformWith Pattern.test? {} couponDocument).value = .ok api ∧
      ¬ ((Java.generate {} api).map (·.path)).Nodup ∧
      ((writeSources Store.files "out" (Java.generate {} api) []).on {} {}).1.1 = .ok () ∧
      ∃ f ∈ Java.generate {} api,
        ((writeSources Store.files "out" (Java.generate {} api) []).on {} {}).2.read
          (joinPath "out" f.path) ≠ .ok f.content :=
    ⟨_, rfl, by decide +kernel, by decide +kernel, by decide +kernel⟩
  exact ⟨api, _, _, h, hpaths, Prod.ext (Prod.ext hrun rfl) rfl, hlost⟩

end Blueprint.Command
