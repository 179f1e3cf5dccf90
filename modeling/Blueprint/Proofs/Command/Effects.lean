import Blueprint.Proofs.Command.Strict
import Blueprint.Proofs.Command.Writing

/-!
# Effects of commands

* `Session.ReadsOnly`, `Session.FailsOnly`: sessions that leave a store as it is, and sessions all
  of whose failures are of a kind.
* `Failure.isWriting`: whether a change of files has failed; `plan_eq_error_iff`: a run fails
  otherwise exactly if it has no plan.
* `Store.failure?`, `Store.after`: how a command ends on a store, and what it leaves there.
* **`effects`**: a run that writes sources changes nothing before it has all of them, and then
  nothing but them. No other command changes a file that is there, unless it is forced to.
-/

namespace Blueprint.Command

variable {α β : Type} {s t : Store} {c c' : Console}

namespace Session

/-! ## Sessions that only read -/

/-- A session that leaves every store as it is. -/
def ReadsOnly (x : Session (StateM Store) α) : Prop := ∀ c s, (x.on c s).2 = s

theorem ReadsOnly.bind {x : Session (StateM Store) α} {f : α → Session (StateM Store) β}
    (hx : x.ReadsOnly) (hf : ∀ a, (f a).ReadsOnly) : ReadsOnly (x >>= f) :=
  Leads.bind (R := fun s t => t = s) (fun _ _ _ hst htu => htu.trans hst) hx hf

theorem ReadsOnly.forM {f : α → Session (StateM Store) Unit} (hf : ∀ a, (f a).ReadsOnly)
    (l : List α) : ReadsOnly (l.forM f) :=
  Leads.forM (R := fun s t => t = s) (fun _ => rfl) (fun _ _ _ hst htu => htu.trans hst)
    fun a _ => hf a

theorem readsOnly_settle (x : Except Failure α) :
    (settle x : Session (StateM Store) α).ReadsOnly := fun _ _ => rfl

theorem readsOnly_say (line : String) : (say line : Session (StateM Store) Unit).ReadsOnly :=
  fun _ _ => rfl

theorem readsOnly_print (text : String) : (print text : Session (StateM Store) Unit).ReadsOnly :=
  fun _ _ => rfl

theorem readsOnly_loadSettings (path : String) : (loadSettings Store.files path).ReadsOnly :=
  fun c s => by rw [on_loadSettings]

theorem readsOnly_loadResult (settings : Settings) (path : String) :
    (loadResult Store.files settings path).ReadsOnly :=
  fun c s => by rw [on_loadResult]

theorem readsOnly_validateBlueprint (config : String) (input : Option String) :
    (validateBlueprint Store.files config input).ReadsOnly :=
  (readsOnly_loadSettings config).bind fun settings =>
    (readsOnly_loadResult settings _).bind fun r =>
      (ReadsOnly.forM readsOnly_say (summary r)).bind fun _ =>
        (readsOnly_settle (verdict r)).bind fun _ => readsOnly_say _

theorem readsOnly_inspectBlueprint (config : String) (input : Option String) (f : Format) :
    (inspectBlueprint Store.files config input f).ReadsOnly :=
  (readsOnly_loadSettings config).bind fun settings =>
    (readsOnly_loadResult settings _).bind fun _ => readsOnly_print _

/-! ## Sessions that fail in one way -/

/-- A session all of whose failures are of a kind. -/
def FailsOnly (P : Failure → Prop) (x : Session (StateM Store) α) : Prop :=
  ∀ c s f, (x.on c s).1.1 = .error f → P f

variable {P : Failure → Prop}

theorem FailsOnly.bind {x : Session (StateM Store) α} {f : α → Session (StateM Store) β}
    (hx : x.FailsOnly P) (hf : ∀ a, (f a).FailsOnly P) : FailsOnly P (x >>= f) := by
  intro c s e h
  rw [on_bind] at h
  rcases hrun : x.on c s with ⟨⟨e' | a, c₁⟩, t⟩ <;> rw [hrun] at h
  · obtain rfl := Except.error.inj h
    exact hx c s e' (congrArg (·.1.1) hrun)
  · exact hf a c₁ t e h

theorem FailsOnly.forM {f : α → Session (StateM Store) Unit} (hf : ∀ a, (f a).FailsOnly P)
    (l : List α) : FailsOnly P (l.forM f) := by
  induction l with
  | nil => exact nofun
  | cons a l ih => exact (hf a).bind fun _ => ih

theorem failsOnly_say (line : String) : (say line : Session (StateM Store) Unit).FailsOnly P :=
  nofun

theorem failsOnly_change {failure : FileError → Failure} (h : ∀ e, P (failure e))
    (x : StateM Store (Except FileError Unit)) : (change failure x).FailsOnly P := by
  intro c s e he
  rw [on_change] at he
  rcases hx : x.run s with ⟨e' | ⟨⟩, t⟩ <;> rw [hx] at he
  · obtain rfl := Except.error.inj he
    exact h e'
  · exact nomatch he

end Session

/-- Whether a change of files has failed. -/
def Failure.isWriting : Failure → Bool
  | .outputUnmade .. | .directoryUnmade .. | .unwritten .. => true
  | _ => false

open Session

theorem failsOnly_writeFile (dir : String) (f : Java.File) :
    (writeFile Store.files dir f).FailsOnly (·.isWriting) := by
  rw [writeFile]
  refine FailsOnly.bind (failsOnly_change (fun _ => by rfl) _) fun _ => ?_
  refine FailsOnly.bind (failsOnly_change (fun _ => by rfl) _) fun _ => ?_
  exact failsOnly_say _

/-- A session that writes sources fails only where a change of files does. -/
theorem failsOnly_writeSources (dir : String) (files : List Java.File) (notes : List Diagnostic) :
    (writeSources Store.files dir files notes).FailsOnly (·.isWriting) := by
  refine FailsOnly.bind (failsOnly_say _) fun _ => ?_
  refine FailsOnly.bind (failsOnly_change (fun _ => by rfl) _) fun _ => ?_
  exact FailsOnly.bind (.forM (failsOnly_writeFile dir) files) fun _ => failsOnly_say _

/-! ## Ends of commands -/

namespace Store

/-- What keeps a command from its end on a store, if anything does. -/
def failure? (s : Store) (config : String) (command : Command) : Option Failure :=
  match ((session Store.files config command).on {} s).1.1 with
  | .ok _ => none
  | .error f => some f

/-- The store that a command leaves. -/
def after (s : Store) (config : String) (command : Command) : Store :=
  ((run Store.files config command).run s).2

variable {config : String} {command : Command}

theorem after_eq (s : Store) (config : String) (command : Command) :
    s.after config command = ((session Store.files config command).on {} s).2 := by
  rw [after, run_eq]
  rcases (session Store.files config command).on {} s with ⟨⟨f | ⟨⟩, printed⟩, t⟩ <;> rfl

theorem failed_run (s : Store) (config : String) (command : Command) :
    ((run Store.files config command).run s).1.failed = (s.failure? config command).isSome := by
  rw [failure?, run_eq]
  rcases (session Store.files config command).on {} s with ⟨⟨f | ⟨⟩, printed⟩, t⟩ <;> rfl

theorem failure?_eq_some {f : Failure} : s.failure? config command = some f ↔
    ((session Store.files config command).on {} s).1.1 = .error f := by
  rw [failure?]
  split <;> simp_all

theorem failed_eq_false : ((run Store.files config command).run s).1.failed = false ↔
    ((session Store.files config command).on {} s).1.1 = .ok () := by
  rw [failed_run, failure?]
  split <;> simp_all

end Store

/-! ## Planning -/

/-- Whether nothing that stops here is a change of files. -/
def PlansOnly (x : Except Failure α) : Prop := ∀ f, x = .error f → f.isWriting = false

theorem plansOnly_ok (a : α) : PlansOnly (.ok a) := nofun

theorem plansOnly_error {f : Failure} (h : f.isWriting = false) :
    PlansOnly (.error f : Except Failure α) := fun _ hf => Except.error.inj hf ▸ h

theorem PlansOnly.bind {x : Except Failure α} {f : α → Except Failure β} (hx : PlansOnly x)
    (hf : ∀ a, PlansOnly (f a)) : PlansOnly (x >>= f) := by
  cases x with
  | error e => exact plansOnly_error (hx e rfl)
  | ok a => exact hf a

theorem plansOnly_settings (s : Store) (path : String) : PlansOnly (s.settings path) := by
  rw [Store.settings, readSettings.eq_def]
  split
  · exact plansOnly_ok _
  · exact plansOnly_error rfl
  · split
    · exact plansOnly_ok _
    · exact plansOnly_error rfl

theorem plansOnly_readDocument (path : String) (x : Except FileError String) :
    PlansOnly (readDocument path x) := by
  rw [readDocument.eq_def]
  split
  · exact plansOnly_error rfl
  · split <;> split
    all_goals first | exact plansOnly_ok _ | exact plansOnly_error rfl

theorem plansOnly_ofDocument? (settings : Settings) (d : Ast.Document) :
    PlansOnly (Result.ofDocument? settings d) := by
  rw [Result.ofDocument?]
  split
  · exact plansOnly_error rfl
  · exact plansOnly_ok _

theorem plansOnly_sources (settings : Settings) (path : String) (strict : Bool) (r : Result) :
    PlansOnly (sources settings path strict r) := by
  rw [sources]
  split
  · exact plansOnly_error rfl
  · exact plansOnly_ok _

theorem plansOnly_plan (s : Store) (config : String) (input : Option String) (strict : Bool) :
    PlansOnly (s.plan config input strict) :=
  (plansOnly_settings s config).bind fun settings =>
    ((plansOnly_readDocument _ _).bind (plansOnly_ofDocument? settings)).bind fun r =>
      (plansOnly_sources settings _ strict r).bind fun _ => plansOnly_ok _

variable {config : String} {input output : Option String} {strict : Bool}

/-- A run that writes sources fails before it writes exactly if it has no plan. -/
theorem plan_eq_error_iff {f : Failure} : s.plan config input strict = .error f ↔
    s.failure? config (.generate input output strict) = some f ∧ f.isWriting = false := by
  rw [Store.failure?_eq_some, session, on_generateSources]
  cases hp : s.plan config input strict with
  | error e =>
    simp only [Except.error.injEq, iff_self_and]
    exact fun h => h ▸ plansOnly_plan s config input strict e hp
  | ok p =>
    simp only [reduceCtorEq, false_iff, not_and, Bool.not_eq_false]
    exact failsOnly_writeSources _ _ _ {} s f

theorem after_of_plan_eq_error {f : Failure} (h : s.plan config input strict = .error f) :
    s.after config (.generate input output strict) = s := by
  rw [Store.after_eq, session, on_generateSources, h]

/-! ## Written sources -/

/-- Files are there below a directory, of those with one path the last, and nothing else has changed
but for directories. -/
structure Wrote (dir : String) (files : List Java.File) (s t : Store) : Prop where
  others : s.Keeps (fun l => ∃ f ∈ files, l = s.place (joinPath dir f.path)) t
  last : ∀ before f after, files = before ++ f :: after → (∀ g ∈ after, g.path ≠ f.path) →
    t.read (joinPath dir f.path) = .ok f.content

theorem keeps_writeSources {dir : String} {files : List Java.File} {notes : List Diagnostic}
    (h : (writeSources Store.files dir files notes).on c s = ((.ok (), c'), t)) :
    Store.Keeps (fun l => ∃ f ∈ files, l = s.place (joinPath dir f.path)) s t := by
  obtain ⟨u, hu, ht⟩ := exists_of_writeSources h
  have hsu := Store.keeps_of_makeDirectories hu
  have hut := Store.keeps_saveAll ht
  simp only [hsu.place] at hut
  exact (hsu.mono fun _ => False.elim).trans hut

theorem files_of_sources_eq_ok {settings : Settings} {path : String} {r : Result}
    {files : List Java.File} (h : sources settings path strict r = .ok files) :
    files = Java.generate
      { package := settings.package, extraImports := settings.extraImports, source := path }
      r.api := by
  rw [sources] at h
  split at h
  · cases h
  · exact (Except.ok.inj h).symm

/-- A run that succeeds has written the files of its plan. -/
theorem exists_wrote
    (h : ((run Store.files config (.generate input output strict)).run s).1.failed = false) :
    ∃ p, s.plan config input strict = .ok p ∧ Wrote (output.getD p.settings.output) p.files s
      (s.after config (.generate input output strict)) := by
  rw [Store.failed_eq_false, session, on_generateSources] at h
  rw [Store.after_eq, session, on_generateSources]
  cases hp : s.plan config input strict with
  | error e => simp [hp] at h
  | ok p =>
    simp only [hp] at h
    obtain ⟨-, -, hresult, hfiles⟩ := plan_eq_ok hp
    obtain ⟨d, -, hvalue, -⟩ := result_eq_ok hresult
    refine ⟨p, rfl, ?_⟩
    rcases hrun : (writeSources Store.files (output.getD p.settings.output) p.files
      p.result.notes).on {} s with ⟨⟨_, c⟩, t⟩
    rw [hrun] at h
    obtain rfl := h
    dsimp only
    rw [hrun]
    refine ⟨keeps_writeSources hrun, fun before f after hsplit hafter => ?_⟩
    rw [files_of_sources_eq_ok hfiles] at hrun hsplit
    exact read_last _ hvalue hrun hsplit hafter

/-! ## First configurations -/

theorem entry?_of_not_isThere {path : String} {l : Location} (hthere : s.isThere path = false)
    (hl : s.locate path = .ok l) (hnames : namesDirectory path = false) : s.entry? l = none := by
  rw [Store.isThere, Store.find, hl, Fault.ok_bind] at hthere
  cases hentry : s.entry? l with
  | none => rfl
  | some e => cases e <;> simp [hentry, hnames, Except.isOk, Except.toBool] at hthere

theorem entry?_of_write {path content : String} {x : Location} {e : Entry}
    (hthere : s.isThere path = false) (h : s.write path content = .ok t)
    (hx : s.entry? x = some e) : t.entry? x = some e := by
  obtain ⟨l, hl, -, hnames, rfl⟩ := Store.write_eq_ok.mp h
  exact Store.entry?_set_of_none (entry?_of_not_isThere hthere hl hnames) hx

/-- A first configuration takes no place of anything, unless it is forced to. -/
theorem entry?_after_configure {x : Location} {e : Entry} (hx : s.entry? x = some e) :
    Store.entry? (s.after config (.configure false)) x = some e := by
  rw [Store.after_eq, session, configureProject, on_bind, on_isThere]
  cases hthere : s.isThere config with
  | true => exact hx
  | false =>
    dsimp only
    rw [if_neg (by decide), on_bind, on_write]
    cases hwrite : s.write config Settings.sample with
    | error e => exact hx
    | ok t => exact entry?_of_write hthere hwrite hx

/-! ## Effects -/

/-- **Commands change nothing but what they are to write**, and nothing before all of it is
there. -/
theorem effects (config : String) (s : Store) :
    (∀ input output strict f,
      (s.plan config input strict = .error f ↔
        s.failure? config (.generate input output strict) = some f ∧ f.isWriting = false) ∧
      (s.failure? config (.generate input output strict) = some f → f.isWriting = false →
        s.after config (.generate input output strict) = s)) ∧
    (∀ input output strict,
      ((run Store.files config (.generate input output strict)).run s).1.failed = false →
      ∃ p, s.plan config input strict = .ok p ∧ Wrote (output.getD p.settings.output) p.files s
        (s.after config (.generate input output strict))) ∧
    (∀ input, s.after config (.validate input) = s) ∧
    (∀ input f, s.after config (.inspect input f) = s) ∧
    ∀ x e, s.entry? x = some e → Store.entry? (s.after config (.configure false)) x = some e := by
  refine ⟨fun input output strict f => ⟨plan_eq_error_iff, fun hf hwriting => ?_⟩,
    fun input output strict h => exists_wrote h, fun input => ?_, fun input f => ?_,
    fun x e hx => entry?_after_configure hx⟩
  · exact after_of_plan_eq_error (plan_eq_error_iff.mpr ⟨hf, hwriting⟩)
  · rw [Store.after_eq]
    exact readsOnly_validateBlueprint config input {} s
  · rw [Store.after_eq]
    exact readsOnly_inspectBlueprint config input f {} s

/-- A document with a group that has no name, which is skipped. -/
def namelessText : String := "resourceGroups:\n- name: ''\n"

/-- A strict run writes the sources of one document and none of another. -/
theorem effects_notes :
    (∃ p, (storeWith notesText).plan ".apib.yaml" (some "a.yaml") true = .ok p ∧
      Wrote "out" p.files (storeWith notesText) ((storeWith notesText).after ".apib.yaml"
        (.generate (some "a.yaml") (some "out") true))) ∧
    (storeWith namelessText).failure? ".apib.yaml" (.generate (some "a.yaml") (some "out") true) =
      some (.skipped 1 "a.yaml") ∧
    (storeWith namelessText).after ".apib.yaml" (.generate (some "a.yaml") (some "out") true) =
      storeWith namelessText ∧
    Store.entry? ((storeWith notesText).after "a.yaml" (.configure false)) ["a.yaml".toList] =
      some (.text notesText) := by
  have hends : ((run Store.files ".apib.yaml" (.generate (some "a.yaml") (some "out") true)).run
      (storeWith notesText)).1.failed = false := by decide +kernel
  have hskips : (storeWith namelessText).failure? ".apib.yaml"
      (.generate (some "a.yaml") (some "out") true) = some (.skipped 1 "a.yaml") := by
    decide +kernel
  exact ⟨(effects ".apib.yaml" (storeWith notesText)).2.1 _ _ _ hends, hskips,
    ((effects ".apib.yaml" (storeWith namelessText)).1 _ _ _ _).2 hskips rfl,
    (effects "a.yaml" (storeWith notesText)).2.2.2.2 _ _ (by decide)⟩

end Blueprint.Command
