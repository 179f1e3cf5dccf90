import Blueprint.Pattern.Reader
import Blueprint.Proofs.Transform

/-!
# Rules that stop a run

* `StopsAt`: what fails exactly if a pattern does not compile, says which one is the first and has
  remarked on the rules before it by then, and on nothing else.
* `stopsAt_compileModifiersWith`, `stopsAt_transformWith`: compiling rules does, and so does a whole
  run.
* **`rules_account`**: a pattern that does not compile stops the rules, and with them any run, which
  then has remarked on the rules before it alone. Otherwise each rule comes to a modifier that adds
  the parameters with a name and a type, and there is one error for each of the others, in order.
-/

namespace Blueprint.Api

variable {α : Type} {compile? : String → Option (String → Bool)} {rules : List Rule}

/-- A step that the first pattern that does not compile stops, if there is any. The errors about the
rules before it are all that it has recorded then. -/
structure StopsAt (compile? : String → Option (String → Bool)) (rules : List Rule)
    (x : Noted (Except InvalidPattern α)) : Prop where
  fails_iff : (∃ e, x.value = .error e) ↔ ∃ r ∈ rules, compile? r.pattern = none
  first : ∀ before r after, rules = before ++ r :: after →
    (∀ q ∈ before, compile? q.pattern ≠ none) → compile? r.pattern = none →
    x = ⟨.error ⟨r.pattern⟩, before.flatMap ruleErrors⟩

theorem exists_first (h : ∃ r ∈ rules, compile? r.pattern = none) :
    ∃ before r after, rules = before ++ r :: after ∧ (∀ q ∈ before, compile? q.pattern ≠ none) ∧
      compile? r.pattern = none := by
  induction rules with
  | nil => simp at h
  | cons q rest ih =>
    cases hq : compile? q.pattern with
    | none => exact ⟨[], q, rest, rfl, nofun, hq⟩
    | some applies =>
      obtain ⟨r, hr, hnone⟩ := h
      have hne : r ≠ q := by
        rintro rfl
        simp [hq] at hnone
      obtain ⟨before, r, after, rfl, hbefore, hr⟩ :=
        ih ⟨r, (List.mem_cons.mp hr).resolve_left hne, hnone⟩
      refine ⟨q :: before, r, after, rfl, fun x hx => ?_, hr⟩
      rcases List.mem_cons.mp hx with rfl | hx
      · simp [hq]
      · exact hbefore x hx

theorem StopsAt.of_first {x : Noted (Except InvalidPattern α)}
    (hok : (∀ r ∈ rules, compile? r.pattern ≠ none) → ∃ a, x.value = .ok a)
    (hfirst : ∀ before r after, rules = before ++ r :: after →
      (∀ q ∈ before, compile? q.pattern ≠ none) → compile? r.pattern = none →
      x = ⟨.error ⟨r.pattern⟩, before.flatMap ruleErrors⟩) : StopsAt compile? rules x where
  fails_iff := by
    constructor
    · rintro ⟨e, he⟩
      by_contra hall
      push Not at hall
      obtain ⟨a, ha⟩ := hok hall
      rw [ha] at he
      exact nomatch he
    · intro h
      obtain ⟨before, r, after, hrules, hbefore, hr⟩ := exists_first h
      exact ⟨⟨r.pattern⟩, by rw [hfirst before r after hrules hbefore hr]⟩
  first := hfirst

theorem stopsAt_compileModifiersWith (compile? : String → Option (String → Bool))
    (rules : List Rule) : StopsAt compile? rules (compileModifiersWith compile? rules) := by
  refine .of_first (fun hall => ?_) ?_
  · obtain ⟨ms, hms, -⟩ := compileModifiersWith_compiled hall
    exact ⟨ms, by rw [hms]⟩
  · rintro before r after rfl hbefore hr
    exact compileModifiersWith_stopped hbefore hr

/-- A run stops where its rules do, before it looks at the document. -/
theorem stopsAt_transformWith (compile? : String → Option (String → Bool)) (o : Options)
    (d : Ast.Document) : StopsAt compile? o.rules (transformWith compile? o d) := by
  refine .of_first (fun hall => ?_) fun before r after hrules hbefore hr => ?_
  · obtain ⟨ms, hms, -⟩ := compileModifiersWith_compiled hall
    exact ⟨_, transformWith_eq_ok.mpr ⟨ms, by rw [hms], rfl⟩⟩
  · rw [transformWith, hrules, compileModifiersWith_stopped hbefore hr]
    ext1
    · rfl
    · exact List.append_nil _

/-- **Rules become modifiers one by one**, up to the first pattern that does not compile. -/
theorem rules_account :
    (∀ compile? rules, StopsAt compile? rules (compileModifiersWith compile? rules) ∧
      ((∀ r ∈ rules, compile? r.pattern ≠ none) →
        ∃ ms, compileModifiersWith compile? rules = ⟨.ok ms, rules.flatMap ruleErrors⟩ ∧
          List.Forall₂ (ModifierOf compile?) rules ms)) ∧
    ∀ compile? o d, StopsAt compile? o.rules (transformWith compile? o d) ∧
      ((∀ r ∈ o.rules, compile? r.pattern ≠ none) →
        ∃ later, (transformWith compile? o d).notes = o.rules.flatMap ruleErrors ++ later ∧
          ∀ n ∈ later, n.kind ≠ .invalidModifierParameter) := by
  refine ⟨fun compile? rules => ⟨stopsAt_compileModifiersWith compile? rules,
    compileModifiersWith_compiled⟩,
    fun compile? o d => ⟨stopsAt_transformWith compile? o d, fun hall => ?_⟩⟩
  obtain ⟨ms, hms, -⟩ := compileModifiersWith_compiled hall
  refine ⟨(assemble o ms d).notes, ?_, fun n hn => ?_⟩
  · rw [transformWith, hms, Noted.notes_bind, Noted.notes_bind, Noted.notes_pure, List.append_nil]
  · exact (remarks_assemble o ms d n hn).kind_ne (by decide) (by decide)

/-- A rule with parameters that lack a name or a type in front and behind. -/
def sparseRule : Rule :=
  { pattern := "^Notes"
    prepended := [{ name := some "user" }, { name := some "principal", type := some "Principal" }]
    appended := [{ name := some " ", type := some "Locale" }] }

/-- Behind it two rules whose patterns do not compile. -/
def brokenRules : List Rule := [sparseRule, { pattern := "(" }, { pattern := ")", appended := [{}] }]

theorem rules_account_sparse :
    (∃ ms, compileModifiersWith Pattern.test? [sparseRule] = ⟨.ok ms, ruleErrors sparseRule⟩ ∧
      List.Forall₂ (ModifierOf Pattern.test?) [sparseRule] ms) ∧
    (sparseRule.prepended.filter isComplete).map (·.name) = [some "principal"] ∧
    (ruleErrors sparseRule).length = 2 ∧
    transformWith Pattern.test? { rules := brokenRules } notesDocument =
      ⟨.error ⟨"("⟩, ruleErrors sparseRule⟩ := by
  have hsparse : ∀ q ∈ [sparseRule], Pattern.test? q.pattern ≠ none := by
    have hsome : (Pattern.test? sparseRule.pattern).isSome = true := by decide +kernel
    simpa using Option.ne_none_iff_isSome.mpr hsome
  have hbroken : Pattern.test? "(" = none := by
    have hnone : (Pattern.test? "(").isNone = true := by decide +kernel
    exact Option.isNone_iff_eq_none.mp hnone
  have hcompiled := (rules_account.1 Pattern.test? [sparseRule]).2 hsparse
  have hrun := (rules_account.2 Pattern.test? { rules := brokenRules } notesDocument).1
  have hstopped := hrun.first [sparseRule]
    { pattern := "(" } [{ pattern := ")", appended := [{}] }] rfl hsparse hbroken
  exact ⟨by simpa using hcompiled, by decide +kernel, by decide +kernel,
    by simpa using hstopped⟩

end Blueprint.Api
