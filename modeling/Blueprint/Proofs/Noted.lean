import Blueprint.Diagnostic
import Mathlib.Data.List.Forall2

/-!
# Values with diagnostics

What every step of a run leaves behind: its value and its diagnostics, in order.

* `value_bind`, `notes_bind`: a step after another records its diagnostics behind.
* `notes_forEach`, `notes_choose`: a step for each item records item by item.
* `forall₂_choose`, `notes_choose_eq`: what is chosen, and what is remarked on the rest.
* `Records`: what all diagnostics of a step have in common; `Records.bind`, `records_forEach`,
  `records_choose`: a step of several records what they do.
* `Diagnostic.Kind.errors`: the kinds of errors; `Diagnostic.IsRemark`: a diagnostic whose severity
  is the one of its kind.
* `Diagnostic.skips`: the errors among diagnostics; `skips_eq_nil`: there are none if all warn.
-/

namespace Blueprint

variable {α β : Type}

/-! ## Items that are kept -/

theorem forall₂_filterMap {R : α → β → Prop} {f : α → Option β} {items : List α}
    (h : ∀ a ∈ items, ∃ b, f a = some b ∧ R a b) : List.Forall₂ R items (items.filterMap f) := by
  induction items with
  | nil => exact .nil
  | cons a rest ih =>
    obtain ⟨b, hb, hab⟩ := h a List.mem_cons_self
    rw [List.filterMap_cons, hb]
    exact .cons hab (ih fun x hx => h x (List.mem_cons_of_mem a hx))

theorem forall₂_filter_filterMap {R : α → β → Prop} {p : α → Bool}
    {f : α → Option β} {items : List α} (hsome : ∀ a ∈ items, p a = true → ∃ b, f a = some b ∧ R a b)
    (hnone : ∀ a ∈ items, p a = false → f a = none) :
    List.Forall₂ R (items.filter p) (items.filterMap f) := by
  have hfilter : items.filterMap f = (items.filter p).filterMap f := by
    rw [List.filterMap_filter]
    refine List.filterMap_congr fun a ha => ?_
    cases hp : p a
    · exact hnone a ha hp
    · rfl
  rw [hfilter]
  refine forall₂_filterMap fun a ha => ?_
  obtain ⟨hmem, hp⟩ := List.mem_filter.mp ha
  exact hsome a hmem hp

/-! ## Steps -/

attribute [ext] Noted

namespace Noted

@[simp] theorem value_pure (a : α) : (Pure.pure a : Noted α).value = a := rfl

@[simp] theorem notes_pure (a : α) : (Pure.pure a : Noted α).notes = [] := rfl

@[simp] theorem value_bind (x : Noted α) (f : α → Noted β) :
    (x >>= f).value = (f x.value).value := rfl

@[simp] theorem notes_bind (x : Noted α) (f : α → Noted β) :
    (x >>= f).notes = x.notes ++ (f x.value).notes := rfl

@[simp] theorem value_forEach (f : α → Noted β) (items : List α) :
    (forEach f items).value = items.map fun a => (f a).value := by
  simp [forEach, Function.comp_def]

@[simp] theorem notes_forEach (f : α → Noted β) (items : List α) :
    (forEach f items).notes = items.flatMap fun a => (f a).notes := by
  simp [forEach, List.flatMap_map]

@[simp] theorem value_choose (f : α → Noted (Option β)) (items : List α) :
    (choose f items).value = items.filterMap fun a => (f a).value :=
  List.filterMap_map

@[simp] theorem notes_choose (f : α → Noted (Option β)) (items : List α) :
    (choose f items).notes = items.flatMap fun a => (f a).notes := by
  simp [choose, List.flatMap_map]

theorem forall₂_choose {R : α → β → Prop} {p : α → Bool} {f : α → Noted (Option β)} {items : List α}
    (hsome : ∀ a ∈ items, p a = true → ∃ b, (f a).value = some b ∧ R a b)
    (hnone : ∀ a ∈ items, p a = false → (f a).value = none) :
    List.Forall₂ R (items.filter p) (choose f items).value := by
  rw [value_choose]
  exact forall₂_filter_filterMap hsome hnone

/-- The items that are not chosen are remarked on, in order, and no others. -/
theorem notes_choose_eq {p : α → Bool} {f : α → Noted (Option β)} {report : α → Diagnostic}
    {items : List α} (hsome : ∀ a ∈ items, p a = true → (f a).notes = [])
    (hnone : ∀ a ∈ items, p a = false → (f a).notes = [report a]) :
    (choose f items).notes = (items.filter (!p ·)).map report := by
  rw [notes_choose]
  induction items with
  | nil => rfl
  | cons a rest ih =>
    have ha := List.mem_cons_self (a := a) (l := rest)
    rw [List.flatMap_cons, ih (fun x hx => hsome x (List.mem_cons_of_mem a hx))
      fun x hx => hnone x (List.mem_cons_of_mem a hx)]
    cases hp : p a
    · rw [hnone a ha hp, List.filter_cons_of_pos (by simp [hp])]
      rfl
    · rw [hsome a ha hp, List.filter_cons_of_neg (by simp [hp])]
      rfl

/-! ## What is recorded -/

/-- All diagnostics of a step have a property. -/
def Records (P : Diagnostic → Prop) (x : Noted α) : Prop := ∀ n ∈ x.notes, P n

variable {P Q : Diagnostic → Prop}

theorem Records.mono {x : Noted α} (h : x.Records P) (hPQ : ∀ n, P n → Q n) : x.Records Q :=
  fun n hn => hPQ n (h n hn)

theorem records_pure (a : α) : (pure a).Records P := nofun

theorem records_note {d : Diagnostic} (h : P d) : (note d).Records P := by
  intro n hn
  rw [List.mem_singleton.mp hn]
  exact h

theorem Records.bind {x : Noted α} {f : α → Noted β} (hx : x.Records P)
    (hf : ∀ a, (f a).Records P) : Records P (x >>= f) := by
  intro n hn
  rcases List.mem_append.mp hn with hn | hn
  · exact hx n hn
  · exact hf x.value n hn

theorem records_forEach {f : α → Noted β} (hf : ∀ a, (f a).Records P) (items : List α) :
    (forEach f items).Records P := by
  intro n hn
  rw [notes_forEach] at hn
  obtain ⟨a, -, hn⟩ := List.mem_flatMap.mp hn
  exact hf a n hn

theorem records_choose {f : α → Noted (Option β)} (hf : ∀ a, (f a).Records P) (items : List α) :
    (choose f items).Records P := by
  intro n hn
  rw [notes_choose] at hn
  obtain ⟨a, -, hn⟩ := List.mem_flatMap.mp hn
  exact hf a n hn

end Noted

namespace Diagnostic

/-! ## Severities -/

/-- The kinds of errors. -/
def Kind.errors : List Kind :=
  [unnamedGroup, unnamedModel, unnamedField, unsupportedMethod, invalidModifierParameter]

/-- A warning of a kind that warns. -/
structure IsWarning (n : Diagnostic) : Prop where
  severity : n.severity = .warning
  kind : n.kind ∉ Kind.errors

/-- A warning, or an error of one of the given kinds. -/
def IsRemark (kinds : List Kind) (n : Diagnostic) : Prop :=
  n.IsWarning ∨ n.severity = .error ∧ n.kind ∈ kinds

variable {n : Diagnostic} {kinds kinds' : List Kind}

theorem isWarning_warn {k : Kind} (h : k ∉ Kind.errors) (message : String) :
    (warn k message).IsWarning := ⟨rfl, h⟩

theorem isRemark_error {k : Kind} (h : k ∈ kinds) (message : String) :
    (error k message).IsRemark kinds := .inr ⟨rfl, h⟩

theorem IsWarning.isRemark (h : n.IsWarning) : n.IsRemark kinds := .inl h

theorem IsRemark.mono (h : n.IsRemark kinds) (hkinds : kinds ⊆ kinds') : n.IsRemark kinds' :=
  h.imp_right fun h => ⟨h.1, hkinds h.2⟩

/-- The kind of a remark tells its severity. -/
theorem IsRemark.severity_iff (h : n.IsRemark kinds) (hkinds : kinds ⊆ Kind.errors) :
    n.severity = .error ↔ n.kind ∈ Kind.errors := by
  rcases h with h | ⟨hseverity, hkind⟩
  · simp [h.severity, h.kind]
  · simp [hseverity, hkinds hkind]

theorem IsRemark.kind_ne (h : n.IsRemark kinds) {k : Kind} (hk : k ∈ Kind.errors)
    (hkinds : k ∉ kinds) : n.kind ≠ k := by
  rintro rfl
  rcases h with h | ⟨-, hkind⟩
  · exact h.kind hk
  · exact hkinds hkind

/-! ## Errors -/

/-- The errors among diagnostics, in order. -/
def skips (ds : List Diagnostic) : List Diagnostic := ds.filter (·.severity = .error)

theorem errors_eq_length_skips (ds : List Diagnostic) : errors ds = (skips ds).length :=
  List.countP_eq_length_filter

@[simp] theorem skips_nil : skips [] = [] := rfl

@[simp] theorem skips_append (ds es : List Diagnostic) : skips (ds ++ es) = skips ds ++ skips es :=
  List.filter_append ds es

theorem skips_flatMap {α : Type} (f : α → List Diagnostic) (items : List α) :
    skips (items.flatMap f) = items.flatMap fun a => skips (f a) := by
  induction items with
  | nil => rfl
  | cons a items ih => rw [List.flatMap_cons, skips_append, ih, List.flatMap_cons]

theorem skips_eq_nil {ds : List Diagnostic} (h : ∀ n ∈ ds, n.IsWarning) : skips ds = [] := by
  rw [skips, List.filter_eq_nil_iff]
  intro n hn
  simp [(h n hn).severity]

theorem skips_eq_self {ds : List Diagnostic} (h : ∀ n ∈ ds, n.severity = .error) :
    skips ds = ds := by
  rw [skips, List.filter_eq_self]
  intro n hn
  simp [h n hn]

end Diagnostic

end Blueprint
