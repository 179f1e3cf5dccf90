import Blueprint.Api.Modifiers
import Blueprint.Proofs.Name
import Blueprint.Proofs.Noted
import Mathlib.Data.List.Forall2

/-!
# What rules compile to

* `isComplete`: parameters with a name and a type; `ParameterOf`: what is added for such a one.
* `ModifierOf`, `ruleErrors`: what a rule compiles to, and the errors about its other parameters.
* `compileModifiersWith_eq_ok`: rules compile exactly if every pattern does, rule by rule.
* `compileModifiersWith_stopped`, `compileModifiersWith_compiled`: what rules come to with and
  without a pattern that does not compile.
* `forall_added_of_compileModifiersWith`: what holds of the parameters that rules add.
-/

namespace Blueprint.Api

open Text

/-! ## Parameters -/

/-- Whether a text is there and has more than blanks. -/
def isGiven (s : Option String) : Bool := s.any fun t => trimmed t ≠ ""

/-- Whether a parameter has a name and a type. -/
def isComplete (p : ParameterSpec) : Bool := isGiven p.name && isGiven p.type

/-- What a rule adds for a parameter. -/
structure ParameterOf (p : ParameterSpec) (q : Parameter) : Prop where
  name : p.name.map (fun s => injectedName (trimmed s)) = some q.name
  type : p.type.map trimmed = some q.type
  description : q.description = ""
  required : q.required = true
  default : q.default = ""
  binding : q.binding = .injected (p.decoration.map withoutAt)

theorem present?_of_isGiven {s : Option String} (h : isGiven s = true) :
    ∃ t, present? s = some t ∧ s.map trimmed = some t := by
  cases s with
  | none => exact nomatch h
  | some t => exact ⟨trimmed t, by simpa [present?, isGiven] using h, rfl⟩

theorem present?_of_not_isGiven {s : Option String} (h : isGiven s = false) : present? s = none := by
  cases s with
  | none => rfl
  | some t => simpa [present?, isGiven] using h

theorem injectedParameter_of_isComplete (pattern : String) {p : ParameterSpec}
    (h : isComplete p = true) :
    ∃ q, injectedParameter pattern p = ⟨some q, []⟩ ∧ ParameterOf p q := by
  obtain ⟨hname, htype⟩ := Bool.and_eq_true_iff.mp h
  obtain ⟨name, hname, hname'⟩ := present?_of_isGiven hname
  obtain ⟨type, htype, htype'⟩ := present?_of_isGiven htype
  refine ⟨{ name := injectedName name, type, binding := .injected (p.decoration.map withoutAt) },
    ?_, ?_⟩
  · rw [injectedParameter, hname, htype]
    rfl
  · refine ⟨?_, htype', rfl, rfl, rfl, rfl⟩
    have h := congrArg (Option.map injectedName) hname'
    rwa [Option.map_map] at h

/-- Any other parameter is dropped, with one error. -/
theorem injectedParameter_of_not_isComplete (pattern : String) {p : ParameterSpec}
    (h : isComplete p = false) :
    injectedParameter pattern p = ⟨none, [invalidParameter pattern p]⟩ := by
  rcases Bool.and_eq_false_iff.mp h with h | h
  · rw [injectedParameter, present?_of_not_isGiven h]
    rfl
  · rw [injectedParameter, present?_of_not_isGiven h]
    cases present? p.name <;> rfl

theorem forall₂_injectedParameter (pattern : String) (ps : List ParameterSpec) :
    List.Forall₂ ParameterOf (ps.filter isComplete)
      (Noted.choose (injectedParameter pattern) ps).value := by
  refine Noted.forall₂_choose (fun p _ hp => ?_) fun p _ hp => ?_
  · obtain ⟨q, hq, hpq⟩ := injectedParameter_of_isComplete pattern hp
    exact ⟨q, by rw [hq], hpq⟩
  · rw [injectedParameter_of_not_isComplete pattern hp]

theorem notes_injectedParameter (pattern : String) (ps : List ParameterSpec) :
    (Noted.choose (injectedParameter pattern) ps).notes =
      (ps.filter (!isComplete ·)).map (invalidParameter pattern) := by
  refine Noted.notes_choose_eq (fun p _ hp => ?_) fun p _ hp => ?_
  · obtain ⟨q, hq, -⟩ := injectedParameter_of_isComplete pattern hp
    rw [hq]
  · rw [injectedParameter_of_not_isComplete pattern hp]

/-! ## Rules -/

/-- What a rule compiles to. -/
structure ModifierOf (compile? : String → Option (String → Bool)) (r : Rule) (m : Modifier) :
    Prop where
  applies : compile? r.pattern = some m.applies
  annotations : m.annotations = r.annotations
  prepended : List.Forall₂ ParameterOf (r.prepended.filter isComplete) m.prepended
  appended : List.Forall₂ ParameterOf (r.appended.filter isComplete) m.appended

/-- The errors about a rule, one for each parameter without a name or a type. -/
def ruleErrors (r : Rule) : List Diagnostic :=
  ((r.prepended ++ r.appended).filter (!isComplete ·)).map (invalidParameter r.pattern)

variable {compile? : String → Option (String → Bool)}

theorem modifierOf_buildModifier {r : Rule} {applies : String → Bool}
    (h : compile? r.pattern = some applies) : ModifierOf compile? r (buildModifier r applies).value where
  applies := h
  annotations := rfl
  prepended := forall₂_injectedParameter r.pattern r.prepended
  appended := forall₂_injectedParameter r.pattern r.appended

theorem notes_buildModifier (r : Rule) (applies : String → Bool) :
    (buildModifier r applies).notes = ruleErrors r := by
  simp only [buildModifier, Noted.notes_bind, Noted.notes_pure, List.append_nil,
    notes_injectedParameter, ruleErrors, List.filter_append, List.map_append]

open Diagnostic Noted in
theorem remarks_compileModifiersWith (rules : List Rule) :
    (compileModifiersWith compile? rules).Records (IsRemark [.invalidModifierParameter]) := by
  induction rules with
  | nil => exact records_pure _
  | cons r rest ih =>
    rw [compileModifiersWith]
    split
    · exact records_pure _
    · refine Records.bind (fun n hn => ?_) fun m => ih.bind fun ms => ?_
      · rw [notes_buildModifier] at hn
        obtain ⟨p, -, rfl⟩ := List.mem_map.mp hn
        exact isRemark_error (by decide) _
      · split <;> exact records_pure _

/-- **Compiling stops at the first pattern that does not compile**, after the errors about the rules
before. -/
theorem compileModifiersWith_stopped {before after : List Rule} {r : Rule}
    (hbefore : ∀ q ∈ before, compile? q.pattern ≠ none) (hr : compile? r.pattern = none) :
    compileModifiersWith compile? (before ++ r :: after) =
      ⟨.error ⟨r.pattern⟩, before.flatMap ruleErrors⟩ := by
  induction before with
  | nil =>
    rw [List.nil_append, compileModifiersWith, hr]
    rfl
  | cons q before ih =>
    obtain ⟨applies, hq⟩ := Option.ne_none_iff_exists'.mp (hbefore q List.mem_cons_self)
    have hrest := ih fun x hx => hbefore x (List.mem_cons_of_mem q hx)
    rw [List.cons_append, compileModifiersWith, hq]
    dsimp only
    rw [hrest]
    ext1
    · rfl
    · simp only [Noted.notes_bind, Noted.notes_pure, List.append_nil, notes_buildModifier,
        List.flatMap_cons]

/-- **Rules whose patterns all compile** come to a modifier each. -/
theorem compileModifiersWith_compiled {rules : List Rule}
    (h : ∀ r ∈ rules, compile? r.pattern ≠ none) :
    ∃ ms, compileModifiersWith compile? rules = ⟨.ok ms, rules.flatMap ruleErrors⟩ ∧
      List.Forall₂ (ModifierOf compile?) rules ms := by
  induction rules with
  | nil => exact ⟨[], rfl, .nil⟩
  | cons r rest ih =>
    obtain ⟨applies, hr⟩ := Option.ne_none_iff_exists'.mp (h r List.mem_cons_self)
    obtain ⟨ms, hrest, hms⟩ := ih fun x hx => h x (List.mem_cons_of_mem r hx)
    refine ⟨(buildModifier r applies).value :: ms, ?_, .cons (modifierOf_buildModifier hr) hms⟩
    rw [compileModifiersWith, hr]
    dsimp only
    rw [hrest]
    ext1
    · rfl
    · simp only [Noted.notes_bind, Noted.notes_pure, List.append_nil, notes_buildModifier,
        List.flatMap_cons]

/-- Rules compile exactly if every pattern does, and each rule to a modifier of its own. -/
theorem compileModifiersWith_eq_ok {rules : List Rule}
    {ms : List Modifier} : (compileModifiersWith compile? rules).value = .ok ms ↔
      List.Forall₂ (fun r m => ∃ applies, compile? r.pattern = some applies ∧
        m = (buildModifier r applies).value) rules ms := by
  induction rules generalizing ms with
  | nil =>
    rw [List.forall₂_nil_left_iff]
    exact ⟨fun h => (Except.ok.inj h).symm, fun h => h ▸ rfl⟩
  | cons r rest ih =>
    rw [List.forall₂_cons_left_iff, compileModifiersWith]
    cases hc : compile? r.pattern with
    | none => simp
    | some applies =>
      simp only [Noted.value_bind]
      cases hrest : (compileModifiersWith compile? rest).value with
      | error e =>
        have hno : ∀ ms', ¬ List.Forall₂ (fun r m => ∃ applies, compile? r.pattern = some applies ∧
            m = (buildModifier r applies).value) rest ms' := by
          intro ms' h
          rw [← ih, hrest] at h
          exact nomatch h
        simp [hno]
      | ok ms' =>
        have hms' := ih.mp hrest
        constructor
        · intro h
          exact ⟨_, ms', ⟨applies, rfl, rfl⟩, hms', (Except.ok.inj h).symm⟩
        · rintro ⟨m, ms'', ⟨applies', happ, rfl⟩, hrec, rfl⟩
          have hms : ms' = ms'' := Except.ok.inj (hrest.symm.trans (ih.mpr hrec))
          rw [Option.some.inj happ, hms]
          rfl

/-! ## Added parameters -/

theorem exists_of_forall₂ {α β : Type} {R : α → β → Prop} {items : List α} {others : List β}
    (h : List.Forall₂ R items others) {a : α} (ha : a ∈ items) : ∃ b, R a b := by
  induction h with
  | nil => exact nomatch ha
  | cons hab _ ih =>
    rcases List.mem_cons.mp ha with rfl | ha
    · exact ⟨_, hab⟩
    · exact ih ha

theorem exists_of_injectedParameter {pattern : String} {s : ParameterSpec} {p : Parameter}
    (h : (injectedParameter pattern s).value = some p) :
    ∃ name type decoration, name ≠ "" ∧ type ≠ "" ∧
      p = { name := injectedName name, type, binding := .injected decoration } := by
  unfold injectedParameter at h
  split at h
  · rename_i name type hname htype
    obtain rfl := Option.some.inj h
    have hname : name ≠ "" := by simpa using (Option.filter_eq_some_iff.mp hname).2
    have htype : type ≠ "" := by simpa using (Option.filter_eq_some_iff.mp htype).2
    exact ⟨name, type, _, hname, htype, rfl⟩
  · exact nomatch h

/-- What holds of every parameter with a name and a type holds of those that rules add. -/
theorem forall_added_of_compileModifiersWith {P : Parameter → Prop}
    (hP : ∀ name type decoration, name ≠ "" → type ≠ "" →
      P { name := injectedName name, type, binding := .injected decoration })
    {rules : List Rule} {ms : List Modifier} 
    (h : (compileModifiersWith compile? rules).value = .ok ms) :
    ∀ m ∈ ms, ∀ p ∈ m.prepended ++ m.appended, P p := by
  intro m hm p hp
  obtain ⟨r, applies, -, rfl⟩ := exists_of_forall₂ (compileModifiersWith_eq_ok.mp h).flip hm
  simp only [buildModifier, Noted.value_bind, Noted.value_choose, Noted.value_pure,
    ← List.filterMap_append] at hp
  obtain ⟨s, -, hs⟩ := List.mem_filterMap.mp hp
  obtain ⟨name, type, decoration, hname, htype, rfl⟩ := exists_of_injectedParameter hs
  exact hP name type decoration hname htype

end Blueprint.Api
