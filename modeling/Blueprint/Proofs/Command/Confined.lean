import Blueprint.Proofs.Command.Writing

/-!
# Where sources are written

* `entry?_eq_none`: there is nothing at a location that leads to no entry. Hence a new entry in a
  directory changes nothing else (`entry?_set_eq`).
* `Store.Confined`: two stores differ in texts at some locations and in new directories at others;
  `Confined.trans`: so they do after several steps.
* `Store.OnWay`: the locations that a path leads past; `confined_write`, `confined_makeDirectories`:
  a text is written where its path leads, and directories are made on the way of theirs.
* `Session.Confined`: what a session changes, also where it fails; `confined_writeSources`.
* **`sources_confined`**: the sources of a document have paths in three directories, and a run
  writes nothing outside of these, wherever it stops and whatever the names in the document.
-/

namespace Blueprint.Command

open Java (File IsClassName classDirectories classPath)

namespace Store

variable {s t u : Store} {l x y : Location} {files directories files' directories' : Location → Prop}

/-! ## Entries -/

theorem entry?_eq_none : s.entry? x = none ↔ ∀ k ∈ s.home :: s.entries.map (·.1), ¬ x <+: k := by
  rw [ entry?]
  cases hs : s.entries.lookup x with
  | some e =>
    have hx : x ∈ s.entries.map (·.1) := by
      by_contra hx
      have hnone : s.entries.lookup x = none := List.lookup_eq_none_iff.mpr fun p hp => by
        simpa using fun h : x = p.1 => hx (h ▸ List.mem_map_of_mem hp)
      simp [hs] at hnone
    simp only [reduceCtorEq, false_iff]
    exact fun h => h x (List.mem_cons_of_mem _ hx) (List.prefix_refl x)
  | none =>
    simp only [ite_eq_right_iff, reduceCtorEq, imp_false, List.any_eq_true, not_exists, not_and,
      List.isPrefixOf_iff_prefix]

theorem isSome_entry?_of_prefix (h : (s.entry? x).isSome = true) (hyx : y <+: x) :
    (s.entry? y).isSome = true := by
  rw [Option.isSome_iff_ne_none, Ne, entry?_eq_none] at h ⊢
  exact fun hy => h fun k hk hxk => hy k hk (hyx.trans hxk)

theorem isSome_entry?_start (s : Store) (path : String) : (s.entry? (s.start path)).isSome = true := by
  have hhome : (s.entry? s.home).isSome = true := by
    rw [Option.isSome_iff_ne_none, Ne, entry?_eq_none]
    exact fun h => h s.home List.mem_cons_self (List.prefix_refl _)
  rw [start]
  split
  · exact isSome_entry?_of_prefix hhome List.nil_prefix
  · exact hhome

theorem entry?_set_eq {e : Entry} (hl : (s.entry? l.dropLast).isSome = true) (hx : x ≠ l) :
    entry? (s.set l e) x = s.entry? x := by
  cases hs : s.entry? x with
  | some e' => exact entry?_set_of_ne hx hs
  | none =>
    rw [entry?_eq_none] at hs ⊢
    intro k hk hxk
    rcases List.mem_cons.mp hk with rfl | hk
    · exact hs _ List.mem_cons_self hxk
    rcases List.mem_cons.mp hk with rfl | hk
    · -- a location that leads to the new entry leads to what that lies in
      obtain ⟨rest, rfl⟩ := hxk
      have hrest : rest ≠ [] := fun h => hx (by simp [h])
      rw [List.dropLast_append_of_ne_nil hrest] at hl
      have hxs := isSome_entry?_of_prefix hl (List.prefix_append x rest.dropLast)
      rw [Option.isSome_iff_ne_none] at hxs
      exact hxs (entry?_eq_none.mpr hs)
    · obtain ⟨p, hp, rfl⟩ := List.mem_map.mp hk
      exact hs p.1 (List.mem_cons_of_mem _ (List.mem_map_of_mem (List.mem_filter.mp hp).1)) hxk

/-! ## Confined changes -/

/-- The stores differ in texts written at some locations, where there was no directory, and in
directories made at some locations, where there was nothing. -/
structure Confined (files directories : Location → Prop) (s t : Store) : Prop where
  home : t.home = s.home
  changes : ∀ x, t.entry? x ≠ s.entry? x →
    (files x ∧ s.entry? x ≠ some .directory ∧ ∃ content, t.entry? x = some (.text content)) ∨
      (directories x ∧ s.entry? x = none ∧ t.entry? x = some .directory)

theorem Confined.refl (files directories : Location → Prop) (s : Store) :
    Confined files directories s s where
  home := rfl
  changes _ h := absurd rfl h

theorem Confined.trans (h : Confined files directories s t) (h' : Confined files directories t u) :
    Confined files directories s u where
  home := h'.home.trans h.home
  changes x hx := by
    by_cases hst : t.entry? x = s.entry? x
    · rw [← hst] at hx ⊢
      exact h'.changes x hx
    by_cases htu : u.entry? x = t.entry? x
    · rw [htu]
      exact h.changes x hst
    -- of two changes the first has left a text, which the second has replaced
    rcases h.changes x hst with ⟨hfile, hs, content, ht⟩ | ⟨-, -, ht⟩ <;>
      rcases h'.changes x htu with ⟨-, ht', hu⟩ | ⟨-, ht', -⟩
    · exact .inl ⟨hfile, hs, hu⟩
    · rw [ht] at ht'
      exact nomatch ht'
    · exact absurd ht ht'
    · rw [ht] at ht'
      exact nomatch ht'

theorem Confined.mono (h : Confined files directories s t) (hfiles : ∀ x, files x → files' x)
    (hdirectories : ∀ x, directories x → directories' x) : Confined files' directories' s t where
  home := h.home
  changes x hx := (h.changes x hx).imp (And.imp_left (hfiles x)) (And.imp_left (hdirectories x))

theorem Confined.isSome_entry? (h : Confined files directories s t)
    (hx : (s.entry? x).isSome = true) : (t.entry? x).isSome = true := by
  by_cases heq : t.entry? x = s.entry? x
  · rw [heq]
    exact hx
  · rcases h.changes x heq with ⟨-, -, content, ht⟩ | ⟨-, -, ht⟩ <;> rw [ht] <;> rfl

theorem confined_set_text (hl : (s.entry? l.dropLast).isSome = true)
    (hdirectory : s.entry? l ≠ some .directory) (content : String) :
    Confined (· = l) (fun _ => False) s (s.set l (.text content)) where
  home := rfl
  changes x hx := by
    obtain rfl : x = l := by_contra fun hne => hx (entry?_set_eq hl hne)
    exact .inl ⟨rfl, hdirectory, content, entry?_set_self s x _⟩

theorem confined_set_directory (hl : (s.entry? l.dropLast).isSome = true)
    (hnone : s.entry? l = none) :
    Confined (fun _ => False) (· = l) s (s.set l .directory) where
  home := rfl
  changes x hx := by
    obtain rfl : x = l := by_contra fun hne => hx (entry?_set_eq hl hne)
    exact .inr ⟨rfl, hnone, entry?_set_self s x _⟩

/-! ## Writing and making directories -/

theorem isSome_entry?_of_follow {names : List (List Char)} (hl : (s.entry? l).isSome = true)
    (h : s.follow l names = .ok x) : (s.entry? x.dropLast).isSome = true := by
  induction names generalizing l with
  | nil =>
    rw [← Except.ok.inj h]
    exact isSome_entry?_of_prefix hl (List.dropLast_prefix l)
  | cons name rest ih =>
    cases rest with
    | nil =>
      rw [enter_eq_ok h, descend]
      split
      · exact isSome_entry?_of_prefix hl ((List.dropLast_prefix _).trans (List.dropLast_prefix l))
      · rw [List.dropLast_concat]
        exact hl
    | cons next rest =>
      obtain ⟨y, -, hy, hrest⟩ := follow_cons_eq_ok.mp h
      exact ih (by rw [hy]; rfl) hrest

/-- A text that cannot be written changes nothing. -/
theorem confined_write {path content : String} (h : s.write path content = .ok t) :
    Confined (· = s.place path) (fun _ => False) s t := by
  obtain ⟨x, hx, hdirectory, -, rfl⟩ := write_eq_ok.mp h
  rw [← eq_place_of_locate hx]
  have hparent := isSome_entry?_of_follow (isSome_entry?_start s path) (locate_eq_ok.mp hx).2.2
  exact confined_set_text hparent hdirectory content

/-- A location that names lead past, or to. -/
def Passes (l : Location) (names : List (List Char)) (x : Location) : Prop :=
  ∃ first, first <+: names ∧ x = first.foldl descend l

/-- A location that a path leads past, or to. -/
def OnWay (s : Store) (path : String) (x : Location) : Prop :=
  Passes (s.start path) (pathNames path) x

theorem Passes.mono {names names' : List (List Char)} (h : Passes l names x)
    (hnames : names <+: names') : Passes l names' x := by
  obtain ⟨first, hfirst, hx⟩ := h
  exact ⟨first, hfirst.trans hnames, hx⟩

theorem start_congr (h : s.home = t.home) (path : String) : s.start path = t.start path := by
  rw [start, start, h]

theorem OnWay.congr {path : String} (hx : s.OnWay path x) (h : s.home = t.home) :
    t.OnWay path x := by
  rw [OnWay, start_congr h] at hx
  exact hx

theorem confined_makeDirectory {names : List (List Char)} (hl : (s.entry? l).isSome = true)
    (h : s.makeDirectory l names = .ok t) :
    Confined (fun _ => False) (Passes l names) s t := by
  obtain ⟨x, hx, h⟩ := Fault.exists_of_bind_eq_ok h
  split at h
  · exact nomatch h
  · rename_i hnone
    rw [← Except.ok.inj h]
    have hparent := isSome_entry?_of_follow hl hx
    refine (confined_set_directory hparent (Option.not_isSome_iff_eq_none.mp hnone)).mono
      (fun _ => id) fun y hy => ⟨names, List.prefix_refl _, ?_⟩
    rw [hy, follow_eq_ok hx]

theorem confined_makeUnlessThere {names : List (List Char)} (hl : (s.entry? l).isSome = true) :
    Confined (fun _ => False) (Passes l names) s (s.makeUnlessThere l names).2 := by
  rw [makeUnlessThere]
  split
  · exact confined_makeDirectory hl ‹_›
  · split <;> exact .refl _ _ s

/-- Directories are made on the way to the innermost, the outermost first. -/
theorem confined_makeBelow (names : List (List Char)) (hl : (s.entry? l).isSome = true) :
    Confined (fun _ => False) (Passes l names.reverse) s (s.makeBelow l names).2 := by
  induction names with
  | nil => exact .refl _ _ s
  | cons name outer ih =>
    -- the way to an outer directory is a part of the way
    have houter : ∀ x, Passes l outer.reverse x → Passes l (name :: outer).reverse x := by
      intro x hx
      rw [List.reverse_cons]
      exact hx.mono (List.prefix_append _ _)
    have hbelow := ih.mono (fun _ => id) houter
    rw [makeBelow]
    split
    · split
      · rename_i u hu
        rw [hu] at hbelow
        exact hbelow.trans (confined_makeUnlessThere (hbelow.isSome_entry? hl))
      · exact hbelow
    · exact confined_makeUnlessThere hl

theorem confined_makeDirectories (s : Store) (path : String) :
    Confined (fun _ => False) (s.OnWay path) s (s.makeDirectories path).2 := by
  rw [makeDirectories]
  split
  · exact .refl _ _ s
  · have hbelow := confined_makeBelow (pathNames path).reverse (isSome_entry?_start s path)
    rw [List.reverse_reverse] at hbelow
    exact hbelow

/-- A directory is made although the path leads out of it again. -/
example : (makeDirectories {} "x/../y").2.entries =
    [(["y".toList], .directory), (["x".toList], .directory)] := by decide

end Store

/-! ## Sessions -/

section Sessions

variable {α β : Type} {home : Location} {files directories files' directories' : Location → Prop}

/-- What a session changes of stores with a home, wherever it ends. -/
def Session.Confined (home : Location) (files directories : Location → Prop)
    (x : Session (StateM Store) α) : Prop :=
  x.Leads fun s t => s.home = home → Store.Confined files directories s t

namespace Session

theorem Confined.mono {x : Session (StateM Store) α} (hx : x.Confined home files directories)
    (hfiles : ∀ l, files l → files' l) (hdirectories : ∀ l, directories l → directories' l) :
    x.Confined home files' directories' :=
  fun c s hs => (hx c s hs).mono hfiles hdirectories

theorem Confined.bind {x : Session (StateM Store) α} {f : α → Session (StateM Store) β}
    (hx : x.Confined home files directories) (hf : ∀ a, (f a).Confined home files directories) :
    Confined home files directories (x >>= f) :=
  Leads.bind (fun _ _ _ hst htu hs => (hst hs).trans (htu ((hst hs).home.trans hs))) hx hf

theorem Confined.forM {f : α → Session (StateM Store) Unit} {l : List α}
    (hf : ∀ a ∈ l, (f a).Confined home files directories) :
    Confined home files directories (l.forM f) :=
  Leads.forM (fun s _ => .refl _ _ s)
    (fun _ _ _ hst htu hs => (hst hs).trans (htu ((hst hs).home.trans hs))) hf

theorem confined_say (line : String) :
    (say line : Session (StateM Store) Unit).Confined home files directories :=
  fun _ s _ => .refl _ _ s

theorem confined_change {failure : FileError → Failure} {x : StateM Store (Except FileError Unit)}
    (h : ∀ s, s.home = home → Store.Confined files directories s (x.run s).2) :
    (change failure x).Confined home files directories := by
  intro c s hs
  have hst := h s hs
  rw [on_change]
  rcases hx : x.run s with ⟨_ | ⟨⟩, t⟩ <;> rw [hx] at hst <;> exact hst

theorem confined_makeDirectories (s₀ : Store) {failure : FileError → Failure} (path : String) :
    (change failure (Store.files.makeDirectories path)).Confined s₀.home (fun _ => False)
      (s₀.OnWay path) :=
  confined_change fun s hs =>
    (Store.confined_makeDirectories s path).mono (fun _ => id) fun _ hx => hx.congr hs

theorem confined_write (s₀ : Store) {failure : FileError → Failure} (path content : String) :
    (change failure (Store.files.write path content)).Confined s₀.home (· = s₀.place path)
      fun _ => False := by
  refine confined_change fun s hs => ?_
  rw [run_write]
  cases hwrite : s.write path content with
  | error e => exact .refl _ _ s
  | ok t =>
    refine (Store.confined_write hwrite).mono (fun x hx => ?_) fun _ => id
    rw [hx, Store.place, Store.place, Store.start_congr hs]

end Session

end Sessions

/-! ## Sources -/

namespace Store

/-- The place of the file of a class below a directory. -/
def IsClassFile (s : Store) (dir : String) (x : Location) : Prop :=
  ∃ d ∈ classDirectories, ∃ name, IsClassName name ∧
    x = s.place dir ++ [d.toList, (name ++ ".java").toList]

/-- A location on the way to a directory of classes below a directory. -/
def OnClassWay (s : Store) (dir : String) (x : Location) : Prop :=
  ∃ d ∈ classDirectories, s.OnWay (joinPath dir d) x

variable {s : Store} {x : Location}

/-- The way to what lies below a directory leads past all that the way to the directory does. -/
theorem OnWay.below {dir : String} (hx : s.OnWay dir x) {file : String}
    (hfile : isAbsolute file = false) : s.OnWay (joinPath dir file) x := by
  rw [OnWay, pathNames_joinPath dir hfile, start, isAbsolute_joinPath dir hfile]
  exact hx.mono (List.prefix_append _ _)

end Store

theorem isAbsolute_directory {d : String} (hd : d ∈ classDirectories) : isAbsolute d = false := by
  revert d
  decide

theorem parentPath_classPath (dir : String) {d x : String} (hd : d ∈ classDirectories)
    (hx : IsClassName x) : parentPath (joinPath dir (classPath d x)) = joinPath dir d := by
  have hempty : d ≠ "" := fun h => (ne_of_mem_classDirectories hd).2.1 (by rw [h]; rfl)
  have hpath : joinPath dir (classPath d x) = joinPath dir d ++ "/" ++ (x ++ ".java") := by
    rw [classPath, String.append_assoc, String.append_assoc,
      joinPath_append dir hempty (isAbsolute_directory hd), String.append_assoc]
  rw [hpath, parentPath_slash _ (slash_notMem_java hx)]

open Session

theorem confined_writeFile (s₀ : Store) (dir : String) {f : File} {d name : String}
    (hd : d ∈ classDirectories) (hname : IsClassName name) (hf : f.path = classPath d name) :
    (writeFile Store.files dir f).Confined s₀.home (s₀.IsClassFile dir) (s₀.OnClassWay dir) := by
  rw [writeFile, hf]
  refine Confined.bind ?_ fun _ => Confined.bind ?_ fun _ => confined_say _
  · refine (confined_makeDirectories s₀ _).mono (fun _ => False.elim) fun x hx => ⟨d, hd, ?_⟩
    rw [parentPath_classPath dir hd hname] at hx
    exact hx
  · refine (confined_write s₀ _ _).mono (fun x hx => ⟨d, hd, name, hname, ?_⟩) fun _ => False.elim
    rw [hx, place_classPath s₀ dir hd hname]

/-- A session that writes files of classes writes nothing else. -/
theorem confined_writeSources (s₀ : Store) (dir : String) {files : List File}
    (notes : List Diagnostic) (hfiles : ∀ f ∈ files, ∃ d ∈ classDirectories, ∃ name,
      IsClassName name ∧ f.path = classPath d name) :
    (writeSources Store.files dir files notes).Confined s₀.home (s₀.IsClassFile dir)
      (s₀.OnClassWay dir) := by
  rw [writeSources]
  refine Confined.bind (confined_say _) fun _ => Confined.bind ?_ fun _ =>
    Confined.bind (.forM fun f hf => ?_) fun _ => confined_say _
  · have hcontroller : "controller" ∈ classDirectories := by decide
    exact (confined_makeDirectories s₀ dir).mono (fun _ => False.elim)
      fun x hx => ⟨_, hcontroller, hx.below (isAbsolute_directory hcontroller)⟩
  · obtain ⟨d, hd, name, hname, hpath⟩ := hfiles f hf
    exact confined_writeFile s₀ dir hd hname hpath

/-- **No document makes a run write outside three directories**, whatever names its groups and
models have. -/
theorem sources_confined {compile? : String → Option (String → Bool)} {o : Options}
    {d : Ast.Document} {api : Api}
    (h : (Api.transformWith compile? o d).value = .ok api) (setup : Java.Setup) :
    (∀ f ∈ Java.generate setup api, ∃ directory ∈ ["controller", "service", "model"], ∃ name,
      name ≠ "" ∧ (∀ c ∈ name.toList, c ≠ '/' ∧ c ≠ '\\' ∧ c ≠ '.' ∧ c ≠ '\x00') ∧
        f.path = directory ++ "/" ++ name ++ ".java") ∧
    ∀ dir notes c s, Store.Confined (s.IsClassFile dir) (s.OnClassWay dir) s
      ((writeSources Store.files dir (Java.generate setup api) notes).on c s).2 := by
  have hpaths := fun f hf => Java.exists_classPath (s := setup) h (f := f) hf
  refine ⟨fun f hf => ?_, fun dir notes c s => confined_writeSources s dir notes hpaths c s rfl⟩
  obtain ⟨directory, hdirectory, name, ⟨hempty, hplain⟩, hpath⟩ := hpaths f hf
  refine ⟨directory, hdirectory, name, hempty, fun c hc => ?_, hpath⟩
  have hmarks : c ∉ ['\x00', '.', '/', '\\'] := hplain c hc
  simp only [List.mem_cons, List.not_mem_nil, or_false, not_or] at hmarks
  obtain ⟨hnull, hpoint, hslash, hback⟩ := hmarks
  exact ⟨hslash, hback, hpoint, hnull⟩

/-- A document whose names lead elsewhere. -/
def hostileDocument : Ast.Document :=
  { groups := [{ name := "../../etc/passwd" }, { name := "..." }]
    content := [
      { kind := Ast.Element.dataStructure
        content := .elements [{ kind := "object", «meta» := some { id := some "..\\m.java\x00" } }] }] }

/-- Its sources are where those of any other document are. -/
theorem sources_confined_hostile :
    ∃ api, (Api.transformWith Pattern.test? { skipNested := false } hostileDocument).value = .ok api ∧
      (Java.generate {} api).map (·.path) =
        ["controller/EtcPasswdController.java", "service/EtcPasswdApiService.java",
          "controller/UnnamedController.java", "service/UnnamedApiService.java",
          "model/MJava.java"] ∧
      ∀ c, Store.Confined (Store.IsClassFile {} "out") (Store.OnClassWay {} "out") {}
        ((writeSources Store.files "out" (Java.generate {} api) []).on c {}).2 := by
  obtain ⟨api, h, hpaths⟩ : ∃ api,
      (Api.transformWith Pattern.test? { skipNested := false } hostileDocument).value = .ok api ∧
      (Java.generate {} api).map (·.path) =
        ["controller/EtcPasswdController.java", "service/EtcPasswdApiService.java",
          "controller/UnnamedController.java", "service/UnnamedApiService.java",
          "model/MJava.java"] :=
    ⟨_, rfl, by decide +kernel⟩
  exact ⟨api, h, hpaths, fun c => (sources_confined h {}).2 "out" [] c {}⟩

end Blueprint.Command
