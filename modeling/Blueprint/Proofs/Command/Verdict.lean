import Blueprint.Proofs.Command.Effects
import Blueprint.Proofs.Rules

/-!
# The verdict on a blueprint

* `Store.fails`: whether a command fails on a store; `Store.Writable`: whether a strict run can
  write what it decides on.
* `Store.check`: what a run that only looks decides; `isOk_plan`: a strict run has a plan exactly if
  such a run decides well.
* `fails_validate_iff`: on a document that reads such a run fails exactly if something is skipped.
* **`verdicts_agree`**: a run that only looks and a strict run fail on the same blueprints, those
  that are remarked on with one of five kinds of diagnostics, which are the kinds of errors.
-/

namespace Blueprint.Command

open Diagnostic (Kind)
open Session

variable {s : Store} {config : String} {input output : Option String}

namespace Store

/-- Whether a command fails on a store. -/
def fails (s : Store) (config : String) (command : Command) : Bool :=
  ((run Store.files config command).run s).1.failed

/-- What a strict run decides on can be written, if it decides on anything. -/
def Writable (s : Store) (config : String) (input output : Option String) : Prop :=
  ∀ p, s.plan config input true = .ok p → ∃ c t,
    (writeSources Store.files (output.getD p.settings.output) p.files p.result.notes).on {} s =
      ((.ok (), c), t)

/-- What a run that only looks decides. -/
def check (s : Store) (config : String) (input : Option String) : Except Failure Unit := do
  let settings ← s.settings config
  verdict (← s.result settings (input.getD settings.input))

end Store

/-! ## Runs that only look -/

theorem exists_on_sayAll (lines : List String) (c : Console) (s : Store) :
    ∃ c', (lines.forM say : Session (StateM Store) Unit).on c s = ((.ok (), c'), s) := by
  induction lines generalizing c with
  | nil => exact ⟨c, rfl⟩
  | cons line lines ih =>
    obtain ⟨c', hc'⟩ := ih { c with err := c.err ++ line ++ "\n" }
    exact ⟨c', on_bind_eq_ok.mpr ⟨(), _, s, on_say line c s, hc'⟩⟩

/-- A run that only looks ends as it decides, whatever it prints before. -/
theorem value_validateBlueprint (config : String) (input : Option String) (c : Console) (s : Store) :
    ((validateBlueprint Store.files config input).on c s).1.1 = s.check config input := by
  rw [validateBlueprint, on_bind, on_loadSettings, Store.check]
  cases s.settings config with
  | error e => rfl
  | ok settings =>
    dsimp only
    rw [on_bind, on_loadResult, Fault.ok_bind]
    cases s.result settings (input.getD settings.input) with
    | error e => rfl
    | ok r =>
      dsimp only
      obtain ⟨c', hc'⟩ := exists_on_sayAll (summary r) c s
      rw [on_bind, hc', Fault.ok_bind]
      dsimp only
      rw [on_bind, on_settle]
      cases verdict r <;> rfl

theorem isOk_sources (settings : Settings) (path : String) (r : Result) :
    (sources settings path true r).isOk = (verdict r).isOk := by
  rw [sources, verdict, Bool.true_and]
  by_cases h : 0 < Diagnostic.errors r.notes
  · rw [if_pos (decide_eq_true h), if_pos h]
    rfl
  · rw [if_neg (by simpa using h), if_neg h]
    rfl

/-- A strict run has a plan exactly where a run that only looks decides well. -/
theorem isOk_plan (s : Store) (config : String) (input : Option String) :
    (s.plan config input true).isOk = (s.check config input).isOk := by
  rw [Store.plan, Store.check]
  cases s.settings config with
  | error e => rfl
  | ok settings =>
    simp only [Fault.ok_bind]
    cases s.result settings (input.getD settings.input) with
    | error e => rfl
    | ok r =>
      have hsources := isOk_sources settings (input.getD settings.input) r
      simp only [Fault.ok_bind]
      rw [← hsources]
      cases sources settings (input.getD settings.input) true r <;> rfl

/-! ## Failures -/

theorem fails_eq (s : Store) (config : String) (command : Command) :
    s.fails config command = !((session Store.files config command).on {} s).1.1.isOk := by
  rw [Store.fails, Store.failed_run, Store.failure?]
  cases ((session Store.files config command).on {} s).1.1 <;> rfl

theorem fails_validate (s : Store) (config : String) (input : Option String) :
    s.fails config (.validate input) = !(s.check config input).isOk := by
  rw [fails_eq, session, value_validateBlueprint]

theorem fails_generate (h : s.Writable config input output) :
    s.fails config (.generate input output true) = !(s.plan config input true).isOk := by
  rw [fails_eq, session, on_generateSources]
  cases hp : s.plan config input true with
  | error e => rfl
  | ok p =>
    obtain ⟨c, t, hrun⟩ := h p hp
    dsimp only
    rw [hrun]
    rfl

theorem writable_of_fails_eq_false (h : s.fails config (.generate input output true) = false) :
    s.Writable config input output := by
  intro p hp
  rw [Store.fails, Store.failed_eq_false, session, on_generateSources, hp] at h
  exact ⟨_, _, Prod.ext (Prod.ext h rfl) rfl⟩

theorem writable_of_plan_eq_error {f : Failure} (h : s.plan config input true = .error f) :
    s.Writable config input output := by
  intro p hp
  rw [h] at hp
  exact nomatch hp

theorem fails_generate_eq (h : s.Writable config input output) :
    s.fails config (.generate input output true) = s.fails config (.validate input) := by
  rw [fails_generate h, fails_validate, isOk_plan]

/-! ## Diagnostics -/

/-- The verdict is bad exactly if there is a diagnostic of a kind of errors. -/
theorem isOk_verdict_iff {o : Options} {d : Ast.Document} {r : Result}
    (h : r.notes = (Api.transform o d).notes) :
    (verdict r).isOk = false ↔ ∃ n ∈ (Api.transform o d).notes, n.kind ∈ Kind.errors := by
  have herrors : 0 < Diagnostic.errors r.notes ↔ ∃ n ∈ r.notes, n.severity = .error := by
    rw [Diagnostic.errors, List.countP_pos_iff]
    simp only [decide_eq_true_eq]
  have hkinds : ∀ n ∈ r.notes, (n.severity = .error ↔ n.kind ∈ Kind.errors) := fun n hn =>
    (Api.remarks_transformWith _ o d n (h ▸ hn)).severity_iff (List.Subset.refl _)
  have hverdict : (verdict r).isOk = false ↔ 0 < Diagnostic.errors r.notes := by
    rw [verdict]
    split <;> simp_all [Except.isOk, Except.toBool]
  rw [hverdict, herrors, ← h]
  exact exists_congr fun n => and_congr_right (hkinds n)

/-- A document has an API model if the patterns of all rules compile. -/
theorem exists_ofDocument? {settings : Settings} (d : Ast.Document)
    (hrules : ∀ r ∈ settings.rules, Pattern.test? r.pattern ≠ none) :
    ∃ r, Result.ofDocument? settings d = .ok r ∧
      r.notes = (Api.transform settings.options d).notes := by
  rw [Result.ofDocument?]
  cases hvalue : (Api.transform settings.options d).value with
  | error e =>
    have hstops := Api.stopsAt_transformWith Pattern.test? settings.options d
    obtain ⟨r, hr, hnone⟩ := hstops.fails_iff.mp ⟨e, hvalue⟩
    exact absurd hnone (hrules r hr)
  | ok api => exact ⟨_, rfl, rfl⟩

theorem fails_validate_iff {settings : Settings} {d : Ast.Document}
    (hsettings : s.settings config = .ok settings)
    (hd : readDocument (input.getD settings.input) (s.read (input.getD settings.input)) = .ok d)
    (hrules : ∀ r ∈ settings.rules, Pattern.test? r.pattern ≠ none) :
    s.fails config (.validate input) = true ↔
      ∃ n ∈ (Api.transform settings.options d).notes, n.kind ∈ Kind.errors := by
  obtain ⟨r, hr, hnotes⟩ := exists_ofDocument? d hrules
  have hcheck : s.check config input = verdict r := by
    rw [Store.check, hsettings, Fault.ok_bind, Store.result, hd, Fault.ok_bind, hr, Fault.ok_bind]
  rw [fails_validate, hcheck, Bool.not_eq_true', isOk_verdict_iff hnotes]

/-- **Two commands with one verdict**: both fail exactly where something is skipped. -/
theorem verdicts_agree (s : Store) (config : String) (input output : Option String) :
    (s.Writable config input output →
      (s.fails config (.validate input) = true ↔
        s.fails config (.generate input output true) = true)) ∧
    (∀ settings d, s.settings config = .ok settings →
      readDocument (input.getD settings.input) (s.read (input.getD settings.input)) = .ok d →
      (∀ r ∈ settings.rules, Pattern.test? r.pattern ≠ none) →
      (s.fails config (.validate input) = true ↔
        ∃ n ∈ (Api.transform settings.options d).notes, n.kind ∈ Kind.errors) ∧
      (s.Writable config input output →
        (s.fails config (.generate input output true) = true ↔
          ∃ n ∈ (Api.transform settings.options d).notes, n.kind ∈ Kind.errors))) ∧
    ∀ compile? o d, ∀ n ∈ (Api.transformWith compile? o d).notes,
      n.severity = if n.kind ∈ Kind.errors then .error else .warning := by
  refine ⟨fun hwrites => ?_, fun settings d hsettings hd hrules => ?_, fun compile? o d n hn => ?_⟩
  · rw [fails_generate_eq hwrites]
  · have hvalidate := fails_validate_iff hsettings hd hrules
    refine ⟨hvalidate, fun hwrites => ?_⟩
    rw [fails_generate_eq hwrites]
    exact hvalidate
  · have hseverity := (Api.remarks_transformWith compile? o d n hn).severity_iff (List.Subset.refl _)
    split
    · exact hseverity.mpr ‹_›
    · cases h : n.severity with
      | warning => rfl
      | error => exact absurd (hseverity.mp h) ‹_›

/-- A configuration with a rule that adds a parameter without a type. -/
def untypedText : String :=
  "resource_modifiers:\n- pattern: ^Notes\n  appended_parameters:\n  - name: user\n"

/-- What it says. -/
def untypedSettings : Settings :=
  { rules := [{ pattern := "^Notes", appended := [{ name := some "user" }] }] }

/-- A store with that configuration and an empty document. -/
def untypedStore : Store :=
  { entries := [([".apib.yaml".toList], .text untypedText), (["api.json".toList], .text "\x7b\x7d")] }

/-- Both succeed on one document, and both fail on an empty one for a rule alone. -/
theorem verdicts_agree_notes :
    (storeWith notesText).Writable ".apib.yaml" (some "a.yaml") (some "out") ∧
    (storeWith notesText).fails ".apib.yaml" (.validate (some "a.yaml")) = false ∧
    (storeWith notesText).fails ".apib.yaml" (.generate (some "a.yaml") (some "out") true) = false ∧
    untypedStore.Writable ".apib.yaml" none none ∧
    untypedStore.settings ".apib.yaml" = .ok untypedSettings ∧
    (∀ r ∈ untypedSettings.rules, Pattern.test? r.pattern ≠ none) ∧
    untypedStore.fails ".apib.yaml" (.validate none) = true ∧
    untypedStore.fails ".apib.yaml" (.generate none none true) = true ∧
    ∃ d, readDocument "api.json" (untypedStore.read "api.json") = .ok d ∧
      ∃ n ∈ (Api.transform untypedSettings.options d).notes, n.kind ∈ Kind.errors := by
  have hends : (storeWith notesText).fails ".apib.yaml"
      (.generate (some "a.yaml") (some "out") true) = false := by decide +kernel
  have hnotes := writable_of_fails_eq_false hends
  have hskips : untypedStore.failure? ".apib.yaml" (.generate none none true) =
      some (.skipped 1 "api.json") := by decide +kernel
  have huntyped : untypedStore.Writable ".apib.yaml" none none :=
    writable_of_plan_eq_error (plan_eq_error_iff.mpr ⟨hskips, rfl⟩)
  have hfails : untypedStore.fails ".apib.yaml" (.generate none none true) = true := by
    rw [Store.fails, Store.failed_run, hskips]
    rfl
  have hsettings : untypedStore.settings ".apib.yaml" = .ok untypedSettings := by decide +kernel
  have hrules : ∀ r ∈ untypedSettings.rules, Pattern.test? r.pattern ≠ none := by
    have hsome : (Pattern.test? "^Notes").isSome = true := by decide +kernel
    simpa [untypedSettings] using Option.ne_none_iff_isSome.mpr hsome
  obtain ⟨d, hd, -⟩ := exists_of_any (x := readDocument "api.json" (untypedStore.read "api.json"))
    (p := fun _ => true) (by decide +kernel)
  have hsame := (verdicts_agree (storeWith notesText) ".apib.yaml" (some "a.yaml")
    (some "out")).1 hnotes
  have hkinds := (verdicts_agree untypedStore ".apib.yaml" none none).2.1 _ d hsettings hd hrules
  have hkind := (hkinds.2 huntyped).mp hfails
  refine ⟨hnotes, ?_, hends, huntyped, hsettings, hrules, hkinds.1.mpr hkind, hfails, d, hd, hkind⟩
  rw [← Bool.not_eq_true, hsame, hends]
  decide

end Blueprint.Command
