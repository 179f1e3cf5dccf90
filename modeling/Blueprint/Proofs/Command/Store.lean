import Blueprint.Command.Store
import Blueprint.Source.Node

/-!
# Changes of a store

* `Keeps`: a later store has the files of an earlier one, but at some locations, and all that it has
  elsewhere.
* `place`: the location that a path names, if it names one.
* `write_eq_ok`, `keeps_write`, `keeps_makeDirectories`: what a change does where it succeeds.
* `Holds`: a text is at a path. **`Keeps.holds`**: it stays there while its location is kept.
-/

namespace Blueprint.Command.Store

variable {s t u : Store} {l x : Location}

/-! ## Entries -/

theorem lookup_filter_ne (h : x ≠ l) (entries : List (Location × Entry)) :
    (entries.filter (·.1 ≠ l)).lookup x = entries.lookup x := by
  induction entries with
  | nil => rfl
  | cons p rest ih =>
    obtain ⟨k, e⟩ := p
    by_cases hk : k = l
    · subst hk
      have hx : (x == k) = false := by simpa using h
      simpa [hx, List.lookup_cons] using ih
    · by_cases hx : x = k
      · subst hx
        simp [hk]
      · have hx' : (x == k) = false := by simpa using hx
        simpa [hk, hx', List.lookup_cons] using ih

theorem lookup_set_ne {e : Entry} (hx : x ≠ l) :
    (s.set l e).entries.lookup x = s.entries.lookup x := by
  have hxl : (x == l) = false := by simpa using hx
  simp only [set, List.lookup_cons, hxl]
  exact lookup_filter_ne hx s.entries

theorem entry?_set_self (s : Store) (l : Location) (e : Entry) : entry? (s.set l e) l = some e := by
  simp [ entry?, set]

theorem entry?_set_of_ne {e e' : Entry} (hx : x ≠ l) (h : s.entry? x = some e') :
    entry? (s.set l e) x = some e' := by
  rw [ entry?] at h ⊢
  rw [lookup_set_ne hx]
  -- a directory is there by what lies in it, which stays there
  cases hs : s.entries.lookup x with
  | some y => simpa [hs] using h
  | none =>
    simp only [hs] at h ⊢
    split at h
    · rename_i hany
      rw [if_pos]
      · exact h
      obtain ⟨k, hk, hprefix⟩ := List.any_eq_true.mp hany
      refine List.any_eq_true.mpr ⟨k, ?_, hprefix⟩
      rcases List.mem_cons.mp hk with rfl | hk
      · exact List.mem_cons_self
      · refine List.mem_cons_of_mem _ ?_
        obtain ⟨p, hp, rfl⟩ := List.mem_map.mp hk
        by_cases hpl : p.1 = l
        · simp [set, hpl]
        · exact List.mem_map_of_mem (List.mem_cons_of_mem _ (List.mem_filter.mpr ⟨hp, by simpa⟩))
    · exact nomatch h

theorem entry?_of_set {e e' : Entry} (hx : x ≠ l) (he' : e' ≠ .directory)
    (h : entry? (s.set l e) x = some e') : s.entry? x = some e' := by
  rw [ entry?] at h ⊢
  rw [lookup_set_ne hx] at h
  cases hs : s.entries.lookup x with
  | some y => simpa [hs] using h
  | none =>
    simp only [hs] at h
    split at h
    · exact absurd (Option.some.inj h).symm he'
    · exact nomatch h

/-! ## What is kept -/

/-- `t` has all that `s` has, but perhaps other texts at the locations that satisfy `P`. No file is
new elsewhere. -/
structure Keeps (P : Location → Prop) (s t : Store) : Prop where
  home : t.home = s.home
  directories : ∀ x, s.entry? x = some .directory → t.entry? x = some .directory
  others : ∀ x e, ¬ P x → s.entry? x = some e → t.entry? x = some e
  files : ∀ x e, ¬ P x → e ≠ .directory → t.entry? x = some e → s.entry? x = some e

variable {P Q : Location → Prop}

theorem Keeps.refl (P : Location → Prop) (s : Store) : Keeps P s s where
  home := rfl
  directories _ h := h
  others _ _ _ h := h
  files _ _ _ _ h := h

theorem Keeps.trans (h : Keeps P s t) (h' : Keeps P t u) : Keeps P s u where
  home := h'.home.trans h.home
  directories x hx := h'.directories x (h.directories x hx)
  others x e hP hx := h'.others x e hP (h.others x e hP hx)
  files x e hP he hx := h.files x e hP he (h'.files x e hP he hx)

theorem Keeps.mono (h : Keeps P s t) (hPQ : ∀ x, P x → Q x) : Keeps Q s t where
  home := h.home
  directories := h.directories
  others x e hx := h.others x e fun hP => hx (hPQ x hP)
  files x e hx := h.files x e fun hP => hx (hPQ x hP)

/-- A store keeps what it has where it gets an entry at a location that has none or a text. -/
theorem keeps_set (e : Entry) (h : s.entry? l ≠ some .directory) :
    Keeps (· = l) s (s.set l e) where
  home := rfl
  directories _ hx := entry?_set_of_ne (fun hxl => h (hxl ▸ hx)) hx
  others _ _ hxl hx := entry?_set_of_ne hxl hx
  files _ _ hxl he hx := entry?_of_set hxl he hx

/-- A store keeps all it has where nothing is set over. -/
theorem entry?_set_of_none {e e' : Entry} (h : s.entry? l = none) (hx : s.entry? x = some e') :
    entry? (s.set l e) x = some e' :=
  entry?_set_of_ne (fun hxl => by simp [hxl, h] at hx) hx

theorem keeps_set_directory (h : s.entry? l = none) :
    Keeps (fun _ => False) s (s.set l .directory) where
  home := rfl
  directories _ hx := entry?_set_of_none h hx
  others _ _ _ hx := entry?_set_of_none h hx
  files x e _ he hx := by
    by_cases hxl : x = l
    · rw [hxl, entry?_set_self] at hx
      exact absurd (Option.some.inj hx).symm he
    · exact entry?_of_set hxl he hx

/-! ## Locations -/

/-- Where a name leads, if it leads anywhere. -/
def descend (l : Location) (name : List Char) : Location :=
  if name = ['.', '.'] then l.dropLast else l ++ [name]

theorem enter_eq_ok {name : List Char} (h : enter l name = .ok x) : x = descend l name := by
  rw [enter] at h
  rw [descend]
  split at h
  · rw [if_pos ‹_›]
    exact (Except.ok.inj h).symm
  · rw [if_neg ‹_›]
    split at h
    · exact nomatch h
    · exact (Except.ok.inj h).symm

theorem follow_cons_eq_ok {name next : List Char} {rest : List (List Char)} :
    s.follow l (name :: next :: rest) = .ok x ↔
      ∃ y, enter l name = .ok y ∧ s.entry? y = some .directory ∧
        s.follow y (next :: rest) = .ok x := by
  rw [follow]
  case x_2 => exact nofun
  cases hy : enter l name with
  | error e => simp [bind, Except.bind]
  | ok y =>
    simp only [bind, Except.bind]
    cases hentry : s.entry? y with
    | none => simp [hentry]
    | some e => cases e <;> simp [hentry]

/-- Where names lead depends on the store only in that it may lack a directory on the way. -/
theorem follow_eq_ok {names : List (List Char)} (h : s.follow l names = .ok x) :
    x = names.foldl descend l := by
  induction names generalizing l with
  | nil => exact (Except.ok.inj h).symm
  | cons name rest ih =>
    cases rest with
    | nil => exact enter_eq_ok h
    | cons next rest =>
      obtain ⟨y, hy, -, hrest⟩ := follow_cons_eq_ok.mp h
      rw [ih hrest, enter_eq_ok hy]
      rfl

theorem Keeps.follow (hst : Keeps P s t) {names : List (List Char)}
    (h : s.follow l names = .ok x) : t.follow l names = .ok x := by
  induction names generalizing l with
  | nil => exact h
  | cons name rest ih =>
    cases rest with
    | nil => exact h
    | cons next rest =>
      obtain ⟨y, hy, hdir, hrest⟩ := follow_cons_eq_ok.mp h
      exact follow_cons_eq_ok.mpr ⟨y, hy, hst.directories y hdir, ih hrest⟩

/-- The location that a path names, if it names one. -/
def place (s : Store) (path : String) : Location := (pathNames path).foldl descend (s.start path)

theorem locate_eq_ok {path : String} : s.locate path = .ok l ↔
    path ≠ "" ∧ '\x00' ∉ path.toList ∧ s.follow (s.start path) (pathNames path) = .ok l := by
  rw [locate]
  split
  · simp_all
  · split <;> simp_all

theorem eq_place_of_locate {path : String} (h : s.locate path = .ok l) : l = s.place path :=
  follow_eq_ok (locate_eq_ok.mp h).2.2

theorem Keeps.start (hst : Keeps P s t) (path : String) : t.start path = s.start path := by
  rw [Store.start, Store.start, hst.home]

theorem Keeps.place (hst : Keeps P s t) (path : String) : t.place path = s.place path := by
  rw [Store.place, Store.place, hst.start]

theorem Keeps.locate (hst : Keeps P s t) {path : String} (h : s.locate path = .ok l) :
    t.locate path = .ok l := by
  obtain ⟨hne, hnull, hfollow⟩ := locate_eq_ok.mp h
  rw [← hst.start] at hfollow
  exact locate_eq_ok.mpr ⟨hne, hnull, hst.follow hfollow⟩

/-! ## Making directories -/

theorem keeps_makeDirectory {names : List (List Char)} (h : s.makeDirectory l names = .ok t) :
    Keeps (fun _ => False) s t := by
  obtain ⟨x, -, h⟩ := Fault.exists_of_bind_eq_ok h
  split at h
  · exact nomatch h
  · rename_i hnone
    rw [← Except.ok.inj h]
    exact keeps_set_directory (Option.not_isSome_iff_eq_none.mp hnone)

theorem keeps_makeUnlessThere (s : Store) (l : Location) (names : List (List Char)) :
    Keeps (fun _ => False) s (s.makeUnlessThere l names).2 := by
  rw [makeUnlessThere]
  split
  · exact keeps_makeDirectory ‹_›
  · split <;> exact .refl _ s

/-- Making a directory keeps all there is, and so does making those that it lies in. -/
theorem keeps_makeBelow (s : Store) (l : Location) (names : List (List Char)) :
    Keeps (fun _ => False) s (s.makeBelow l names).2 := by
  induction names with
  | nil => exact .refl _ s
  | cons name outer ih =>
    rw [makeBelow]
    split
    · split
      · rename_i u hu
        rw [hu] at ih
        exact ih.trans (keeps_makeUnlessThere u l _)
      · exact ih
    · exact keeps_makeUnlessThere s l _

theorem keeps_makeDirectories (s : Store) (path : String) :
    Keeps (fun _ => False) s (s.makeDirectories path).2 := by
  rw [makeDirectories]
  split
  · exact .refl _ s
  · exact keeps_makeBelow s _ _

theorem keeps_of_makeDirectories {path : String} (h : s.makeDirectories path = (.ok (), t)) :
    Keeps (fun _ => False) s t := by
  have hst := keeps_makeDirectories s path
  rwa [h] at hst

/-! ## Writing -/

theorem write_eq_ok {path content : String} : s.write path content = .ok t ↔
    ∃ l, s.locate path = .ok l ∧ s.entry? l ≠ some .directory ∧ namesDirectory path = false ∧
      t = s.set l (.text content) := by
  rw [write]
  cases hl : s.locate path with
  | error e => simp [bind, Except.bind]
  | ok l =>
    by_cases hdir : s.entry? l = some .directory
    · simp [bind, Except.bind, hdir]
    · cases hnames : namesDirectory path
      · simp [bind, Except.bind, hdir, eq_comm (a := t)]
      · simp [bind, Except.bind, hdir]

theorem keeps_write {path content : String} (h : s.write path content = .ok t) :
    Keeps (· = s.place path) s t := by
  obtain ⟨l, hl, hdir, -, rfl⟩ := write_eq_ok.mp h
  rw [← eq_place_of_locate hl]
  exact keeps_set _ hdir

/-- A text is at a path. -/
structure Holds (s : Store) (path content : String) : Prop where
  located : s.locate path = .ok (s.place path)
  text : s.entry? (s.place path) = some (.text content)
  names : namesDirectory path = false

theorem Holds.read {path content : String} (h : s.Holds path content) :
    s.read path = .ok content := by
  have hfind : s.find path = .ok (.text content) := by
    simp [find, h.located, bind, Except.bind, h.text, h.names]
  rw [Store.read, hfind]
  rfl

theorem holds_of_write {path content : String} (h : s.write path content = .ok t) :
    t.Holds path content := by
  have hst := keeps_write h
  obtain ⟨l, hl, -, hnames, rfl⟩ := write_eq_ok.mp h
  refine ⟨?_, ?_, hnames⟩
  · rw [hst.place, ← eq_place_of_locate hl]
    exact hst.locate hl
  · rw [hst.place, ← eq_place_of_locate hl]
    exact entry?_set_self s l _

/-- **A text stays at its path while its location is kept.** -/
theorem Keeps.holds (hst : Keeps P s t) {path content : String} (hP : ¬ P (s.place path))
    (h : s.Holds path content) : t.Holds path content where
  located := by
    rw [hst.place]
    exact hst.locate h.located
  text := by
    rw [hst.place]
    exact hst.others _ _ hP h.text
  names := h.names

end Blueprint.Command.Store
