import Blueprint.Command.Run

/-!
# Sessions on a store

What the steps of a session do to a console and a store.

* `Session.on`: what a session comes to; `on_bind`: a session of two parts.
* `Session.Leads`: how the stores before and after a session are related, wherever it ends.
* `Store.plan`: what a run decides on before it changes a file.
* **`on_generateSources`**: a run plans first, changes nothing if there is no plan, and writes the
  files of the plan otherwise.
-/

namespace Blueprint.Command

variable {α β : Type} {c c' : Console} {s t : Store}

/-- What a session on a store comes to: its value or failure, what it printed, and the store that
it leaves. -/
def Session.on (x : Session (StateM Store) α) (c : Console) (s : Store) :
    (Except Failure α × Console) × Store := (x.run.run c).run s

namespace Session

/-! ## Steps -/

theorem on_bind (x : Session (StateM Store) α) (f : α → Session (StateM Store) β) (c : Console)
    (s : Store) : (x >>= f).on c s = match x.on c s with
      | ((.ok a, c'), t) => (f a).on c' t
      | ((.error e, c'), t) => ((.error e, c'), t) := by
  simp only [on, ExceptT.run_bind, StateT.run_bind]
  rcases (x.run.run c).run s with ⟨⟨_ | a, c'⟩, t⟩ <;> rfl

theorem on_settle (x : Except Failure α) (c : Console) (s : Store) :
    (settle x).on c s = ((x, c), s) := rfl

theorem on_onFiles (x : StateM Store α) (c : Console) (s : Store) :
    (onFiles x).on c s = ((.ok (x.run s).1, c), (x.run s).2) := rfl

theorem on_isThere (path : String) (c : Console) (s : Store) :
    (onFiles (Store.files.isThere path)).on c s = ((.ok (s.isThere path), c), s) := rfl

theorem on_read (path : String) (c : Console) (s : Store) :
    (onFiles (Store.files.read path)).on c s = ((.ok (s.read path), c), s) := rfl

theorem on_say (line : String) (c : Console) (s : Store) :
    (say line : Session (StateM Store) Unit).on c s =
      ((.ok (), { c with err := c.err ++ line ++ "\n" }), s) := rfl

theorem on_change (failure : FileError → Failure) (x : StateM Store (Except FileError Unit))
    (c : Console) (s : Store) : (change failure x).on c s = match x.run s with
      | (.ok (), t) => ((.ok (), c), t)
      | (.error e, t) => ((.error (failure e), c), t) := by
  rw [change, on_bind, on_onFiles]
  rcases x.run s with ⟨_ | ⟨⟩, t⟩ <;> rfl

theorem run_write (path content : String) (s : Store) : (Store.files.write path content).run s =
    match s.write path content with
      | .ok t => (.ok (), t)
      | .error e => (.error e, s) := rfl

theorem on_write (failure : FileError → Failure) (path content : String) (c : Console) (s : Store) :
    (change failure (Store.files.write path content)).on c s = match s.write path content with
      | .ok t => ((.ok (), c), t)
      | .error e => ((.error (failure e), c), s) := by
  rw [on_change, run_write]
  cases s.write path content <;> rfl

theorem on_bind_eq_ok {x : Session (StateM Store) α} {f : α → Session (StateM Store) β} {b : β} :
    (x >>= f).on c s = ((.ok b, c'), t) ↔
      ∃ a c₁ u, x.on c s = ((.ok a, c₁), u) ∧ (f a).on c₁ u = ((.ok b, c'), t) := by
  rw [on_bind]
  rcases x.on c s with ⟨⟨_ | a, c₁⟩, u⟩ <;> simp [and_assoc]

theorem on_makeDirectories_eq_ok {failure : FileError → Failure} {path : String} :
    (change failure (Store.files.makeDirectories path)).on c s = ((.ok (), c'), t) ↔
      c' = c ∧ s.makeDirectories path = (.ok (), t) := by
  rw [on_change]
  change (match s.makeDirectories path with | (.ok (), t) => _ | (.error e, t) => _) = _ ↔ _
  rcases s.makeDirectories path with ⟨_ | ⟨⟩, u⟩ <;> simp [eq_comm]

theorem on_write_eq_ok {failure : FileError → Failure} {path content : String} :
    (change failure (Store.files.write path content)).on c s = ((.ok (), c'), t) ↔
      c' = c ∧ s.write path content = .ok t := by
  rw [on_write]
  cases s.write path content <;> simp [eq_comm]

/-! ## Stores before and after -/

/-- The store that a session leaves stands in a relation to the one that it starts on. -/
def Leads (R : Store → Store → Prop) (x : Session (StateM Store) α) : Prop :=
  ∀ c s, R s (x.on c s).2

variable {R : Store → Store → Prop}

theorem Leads.bind (htrans : ∀ s t u, R s t → R t u → R s u) {x : Session (StateM Store) α}
    {f : α → Session (StateM Store) β} (hx : x.Leads R) (hf : ∀ a, (f a).Leads R) :
    Leads R (x >>= f) := by
  intro c s
  have hst := hx c s
  rw [on_bind]
  rcases hrun : x.on c s with ⟨⟨e | a, c₁⟩, t⟩ <;> rw [hrun] at hst
  · exact hst
  · exact htrans _ _ _ hst (hf a c₁ t)

theorem Leads.forM (hrefl : ∀ s, R s s) (htrans : ∀ s t u, R s t → R t u → R s u)
    {f : α → Session (StateM Store) Unit} {l : List α} (hf : ∀ a ∈ l, (f a).Leads R) :
    Leads R (l.forM f) := by
  induction l with
  | nil => exact fun _ s => hrefl s
  | cons a l ih =>
    exact (hf a List.mem_cons_self).bind htrans fun _ => ih fun b hb =>
      hf b (List.mem_cons_of_mem a hb)

end Session

/-! ## Planning -/

/-- The settings that a run at a path has. -/
def Store.settings (s : Store) (path : String) : Except Failure Settings :=
  readSettings path (if s.isThere path then some (s.read path) else none)

/-- The document at a path and its API model, under the settings of a run. -/
def Store.result (s : Store) (settings : Settings) (path : String) : Except Failure Result := do
  Result.ofDocument? settings (← readDocument path (s.read path))

/-- What a run decides on before it changes a file. -/
structure Plan where
  settings : Settings
  input : String
  result : Result
  files : List Java.File

/-- The plan of a run that writes sources, or what keeps it from one. -/
def Store.plan (s : Store) (config : String) (input : Option String) (strict : Bool) :
    Except Failure Plan := do
  let settings ← s.settings config
  let input := input.getD settings.input
  let result ← s.result settings input
  return { settings, input, result, files := ← sources settings input strict result }

open Session

theorem on_loadSettings (path : String) (c : Console) (s : Store) :
    (loadSettings Store.files path).on c s = ((s.settings path, c), s) := by
  rw [loadSettings, on_bind, on_isThere, Store.settings]
  dsimp only
  split
  · rw [on_bind, on_read]
    rfl
  · rfl

theorem on_loadResult (settings : Settings) (path : String) (c : Console) (s : Store) :
    (loadResult Store.files settings path).on c s = ((s.result settings path, c), s) := by
  rw [loadResult, on_bind, on_read, Store.result]
  dsimp only
  rw [on_bind, on_settle]
  cases readDocument path (s.read path) <;> rfl

/-- **A run plans before it changes a file.** Without a plan it leaves the store as it is. -/
theorem on_generateSources (config : String) (input output : Option String) (strict : Bool)
    (c : Console) (s : Store) :
    (generateSources Store.files config input output strict).on c s =
      match s.plan config input strict with
      | .error e => ((.error e, c), s)
      | .ok p => (writeSources Store.files (output.getD p.settings.output) p.files
          p.result.notes).on c s := by
  rw [generateSources, on_bind, on_loadSettings, Store.plan]
  cases s.settings config with
  | error e => rfl
  | ok settings =>
    conv => rhs; simp only [bind, Except.bind]
    dsimp only
    rw [on_bind, on_loadResult]
    cases s.result settings (input.getD settings.input) with
    | error e => rfl
    | ok result =>
      dsimp only
      rw [on_bind, on_settle]
      cases sources settings (input.getD settings.input) strict result <;> rfl

theorem run_eq (config : String) (command : Command) (s : Store) :
    (run Store.files config command).run s =
      match (session Store.files config command).on {} s with
      | ((.ok (), printed), t) => (⟨false, printed⟩, t)
      | ((.error f, printed), t) => (⟨true, { printed with err := printed.err ++ f.report }⟩, t) := by
  rw [run, StateT.run_bind, on]
  rcases ((session Store.files config command).run.run {}).run s with ⟨⟨_ | ⟨⟩, c⟩, t⟩ <;> rfl

end Blueprint.Command
