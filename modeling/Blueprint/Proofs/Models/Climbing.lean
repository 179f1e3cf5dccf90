import Blueprint.Proofs.Models.Flattening
import Mathlib.Data.List.Chain

/-!
# Climbing to the ancestors

The climb from a definition to its ancestors, turn by turn, for definitions of all sorts: it may end
at a kind that is no definition, or come back to a name that it has passed.

* `Climb`, `Climb.next?`, `Turns`: where a climb stands, one turn of it, and a number of turns.
* `IsWayUp`: the names passed so far are a way up from the first; each turn keeps this
  (`IsWayUp.next`), and every way up is climbed (`IsWayUp.turns_start`).
* `exists_turns`: every climb ends, after no more turns than there are definitions and one.
* `ReturnsTo`: the name that a climb comes back to; `returnTo?_eq_some`.
* **`flattenedFields_climb`**: a climb starts at its definition and follows kinds as long as they
  are definitions, passing none twice. A model that flattens holds the own fields of all that is
  passed, the last first. There is one warning for each such model whose climb comes back to a name
  that it has passed, in the order of the models, and none for the others.
-/

namespace Blueprint.Api

open Ast

variable {ds : Definitions} {name : String}

/-! ## Turns -/

/-- Where a climb stands: the names that it has passed, and the one that comes next. -/
structure Climb where
  passed : List String
  current : String

/-- A turn passes a definition and goes on with its kind. There is none from a name that is no
definition or has been passed. -/
def Climb.next? (ds : Definitions) (c : Climb) : Option Climb :=
  match ds.get? c.current with
  | none => none
  | some e => if c.current ∈ c.passed then none else some ⟨c.passed ++ [c.current], e.kind⟩

/-- A number of turns from one place to another. -/
inductive Turns (ds : Definitions) : ℕ → Climb → Climb → Prop
  | stay (c : Climb) : Turns ds 0 c c
  | turn {n : ℕ} {c c' last : Climb} :
      c.next? ds = some c' → Turns ds n c' last → Turns ds (n + 1) c last

/-- The climb from a name. -/
def Climb.start (name : String) : Climb := ⟨[], name⟩

/-- The kind of the definition `a` is `b`. -/
def KindOf (ds : Definitions) (a b : String) : Prop := ∃ e, ds.get? a = some e ∧ e.kind = b

theorem next?_eq_some {c c' : Climb} : c.next? ds = some c' ↔
    c.current ∉ c.passed ∧ c'.passed = c.passed ++ [c.current] ∧ KindOf ds c.current c'.current := by
  obtain ⟨passed', current'⟩ := c'
  unfold Climb.next? KindOf
  cases ds.get? c.current with
  | none => simp
  | some e => by_cases h : c.current ∈ c.passed <;> simp [h, eq_comm]

theorem next?_eq_none {c : Climb} :
    c.next? ds = none ↔ c.current ∉ ds.keys ∨ c.current ∈ c.passed := by
  unfold Climb.next?
  cases he : ds.get? c.current with
  | none => simp [Dictionary.get?_eq_none.mp he]
  | some e =>
    have hkey := Dictionary.mem_keys_of_get? he
    by_cases h : c.current ∈ c.passed <;> simp [h, hkey]

theorem Turns.snoc {n : ℕ} {c last c' : Climb} (h : Turns ds n c last)
    (hnext : last.next? ds = some c') : Turns ds (n + 1) c c' := by
  induction h with
  | stay c => exact .turn hnext (.stay c')
  | turn hfirst _ ih => exact .turn hfirst (ih hnext)

theorem Turns.unique {n m : ℕ} {c last last' : Climb} (h : Turns ds n c last)
    (hend : last.next? ds = none) (h' : Turns ds m c last') (hend' : last'.next? ds = none) :
    last = last' := by
  induction h generalizing m with
  | stay c =>
    cases h' with
    | stay => rfl
    | turn hnext _ =>
      rw [hend] at hnext
      exact nomatch hnext
  | turn hnext _ ih =>
    cases h' with
    | stay =>
      rw [hend'] at hnext
      exact nomatch hnext
    | turn hnext' hturns =>
      rw [hnext] at hnext'
      obtain rfl := Option.some.inj hnext'
      exact ih hend hturns

/-! ## Ways up -/

/-- The names that a climb has passed and the one that comes next are a way up from a name, each the
kind of the one before, and none has been passed twice. -/
structure IsWayUp (ds : Definitions) (name : String) (c : Climb) : Prop where
  starts : (c.passed ++ [c.current]).head? = some name
  climbs : (c.passed ++ [c.current]).IsChain (KindOf ds)
  nodup : c.passed.Nodup

theorem isWayUp_start (ds : Definitions) (name : String) : IsWayUp ds name (.start name) :=
  ⟨rfl, .singleton name, List.nodup_nil⟩

/-- A turn stays on a way up. -/
theorem IsWayUp.next {c c' : Climb} (h : IsWayUp ds name c) (hnext : c.next? ds = some c') :
    IsWayUp ds name c' := by
  obtain ⟨hnew, hpassed, hkind⟩ := next?_eq_some.mp hnext
  refine ⟨?_, ?_, ?_⟩
  · rw [hpassed, List.head?_append, h.starts, Option.some_or]
  · rw [hpassed, List.append_assoc, List.singleton_append, List.isChain_append_cons_cons]
    exact ⟨h.climbs, hkind, .singleton _⟩
  · rw [hpassed]
    exact nodup_visit h.nodup hnew

theorem IsWayUp.turns {n : ℕ} {c last : Climb} (h : IsWayUp ds name c) (hturns : Turns ds n c last) :
    IsWayUp ds name last := by
  induction hturns with
  | stay => exact h
  | turn hnext _ ih => exact ih (h.next hnext)

theorem IsWayUp.turns_start {passed : List String} {current : String}
    (h : IsWayUp ds name ⟨passed, current⟩) :
    Turns ds passed.length (.start name) ⟨passed, current⟩ := by
  induction passed using List.reverseRecOn generalizing current with
  | nil =>
    obtain rfl : current = name := by simpa using h.starts
    exact .stay _
  | append_singleton passed before ih =>
    obtain ⟨hstarts, hclimbs, hnodup⟩ := h
    dsimp only at hstarts hclimbs hnodup
    rw [List.append_assoc, List.singleton_append, List.isChain_append_cons_cons] at hclimbs
    obtain ⟨hclimbs, hkind, -⟩ := hclimbs
    rw [List.head?_append_of_ne_nil _ (by simp)] at hstarts
    rw [← List.concat_eq_append, List.nodup_concat] at hnodup
    have hway : IsWayUp ds name ⟨passed, before⟩ := ⟨hstarts, hclimbs, hnodup.2⟩
    rw [List.length_append]
    exact (ih hway).snoc (next?_eq_some.mpr ⟨hnodup.1, rfl, hkind⟩)

theorem subset_keys_of_isChain {passed : List String} {current : String}
    (h : (passed ++ [current]).IsChain (KindOf ds)) : passed ⊆ ds.keys := by
  induction passed with
  | nil => exact List.nil_subset _
  | cons a passed ih =>
    obtain ⟨b, rest, hrest⟩ : ∃ b rest, passed ++ [current] = b :: rest :=
      List.exists_cons_of_ne_nil (by simp)
    rw [List.cons_append, hrest, List.isChain_cons_cons] at h
    obtain ⟨⟨e, he, -⟩, htail⟩ := h
    rw [← hrest] at htail
    exact List.cons_subset.mpr ⟨Dictionary.mem_keys_of_get? he, ih htail⟩

theorem IsWayUp.length_le {c : Climb} (h : IsWayUp ds name c) : c.passed.length ≤ ds.length := by
  have hle := (List.subperm_of_subset h.nodup (subset_keys_of_isChain h.climbs)).length_le
  rwa [Dictionary.keys, List.length_map] at hle

/-! ## The end of a climb -/

/-- The climb that is followed goes on turn by turn until there is none. -/
theorem Ascent.turns {visited further : List String} {current : String} {repeated : Option String}
    (h : Ascent ds visited current further repeated) :
    ∃ next, Turns ds further.length ⟨visited, current⟩ ⟨visited ++ further, next⟩ ∧
      Climb.next? ds ⟨visited ++ further, next⟩ = none ∧
      repeated = if next ∈ ds.keys then some next else none := by
  induction h with
  | @out visited current hnone =>
    have hkey := Dictionary.get?_eq_none.mp hnone
    refine ⟨current, ?_, next?_eq_none.mpr (.inl hkey), (if_neg hkey).symm⟩
    rw [List.append_nil]
    exact .stay _
  | @back visited current e he hv =>
    have hkey := Dictionary.mem_keys_of_get? he
    refine ⟨current, ?_, next?_eq_none.mpr (.inr (by simpa using hv)), (if_pos hkey).symm⟩
    rw [List.append_nil]
    exact .stay _
  | @up visited further current e repeated he hv _ ih =>
    obtain ⟨next, hturns, hend, hrepeated⟩ := ih
    rw [List.append_assoc, List.singleton_append] at hturns hend
    exact ⟨next, .turn (next?_eq_some.mpr ⟨hv, rfl, e, he, rfl⟩) hturns, hend, hrepeated⟩

/-- What is followed is the climb to its end, if there is fuel for every definition. -/
theorem exists_end_of_fuel {fuel : ℕ} (hfuel : ds.length < fuel) (name : String) :
    ∃ last, Turns ds last.passed.length (.start name) last ∧ last.next? ds = none ∧
      ancestry ds fuel [] name =
        (last.passed, if last.current ∈ ds.keys then some last.current else none) := by
  obtain ⟨further, repeated, hup, heq⟩ : ∃ further repeated, Ascent ds [] name further repeated ∧
      ancestry ds fuel [] name = ([] ++ further, repeated) :=
    exists_ascent List.nodup_nil (List.nil_subset _) (by simpa using hfuel)
  obtain ⟨next, hturns, hend, rfl⟩ := hup.turns
  rw [List.nil_append] at hturns hend heq
  exact ⟨⟨further, next⟩, hturns, hend, heq⟩

/-- **Every climb ends**, and what is followed is the climb, whatever the fuel beyond the number of
definitions. -/
theorem exists_turns (ds : Definitions) (name : String) :
    ∃ last, Turns ds last.passed.length (.start name) last ∧ last.next? ds = none ∧
      IsWayUp ds name last ∧ ∀ fuel, ds.length < fuel → ancestry ds fuel [] name =
        (last.passed, if last.current ∈ ds.keys then some last.current else none) := by
  obtain ⟨last, hturns, hend, -⟩ := exists_end_of_fuel (Nat.lt_succ_self ds.length) name
  refine ⟨last, hturns, hend, (isWayUp_start ds name).turns hturns, fun fuel hfuel => ?_⟩
  obtain ⟨last', hturns', hend', heq⟩ := exists_end_of_fuel hfuel name
  rwa [hturns.unique hend hturns' hend']

/-! ## Climbs that come back -/

/-- The climb from a name comes back to one that it has passed. -/
def ReturnsTo (ds : Definitions) (name back : String) : Prop :=
  ∃ passed, IsWayUp ds name ⟨passed, back⟩ ∧ back ∈ passed

/-- The name that the climb from a name comes back to, if it does. -/
def returnTo? (ds : Definitions) (name : String) : Option String :=
  (ancestry ds (ds.length + 1) [] name).2

theorem returnTo?_eq_some {back : String} :
    returnTo? ds name = some back ↔ ReturnsTo ds name back := by
  obtain ⟨last, hturns, hend, hway, hfollowed⟩ := exists_turns ds name
  rw [returnTo?, hfollowed _ (Nat.lt_succ_self _)]
  constructor
  · intro h
    by_cases hkey : last.current ∈ ds.keys
    · obtain rfl : last.current = back := by simpa [hkey] using h
      exact ⟨last.passed, hway, (next?_eq_none.mp hend).resolve_left (not_not_intro hkey)⟩
    · simp [hkey] at h
  · rintro ⟨passed, hback, hmem⟩
    obtain rfl := hturns.unique hend hback.turns_start (next?_eq_none.mpr (.inr hmem))
    exact if_pos (subset_keys_of_isChain hback.climbs hmem)

theorem returnsTo_self (h : KindOf ds name name) : ReturnsTo ds name name :=
  ⟨[name], ⟨rfl, List.isChain_pair.mpr h, List.nodup_singleton name⟩, List.mem_singleton_self name⟩

theorem filter_notes_extractModels (o : Options) (d : Document) :
    (extractModels o d).notes.filter (·.kind = .cyclicInheritance) =
      (extractModels o d).value.filterMap fun m => if m.flattens then
        (returnTo? (collected o d) m.name).map (cyclicInheritance m.name) else none := by
  -- of the three blocks of diagnostics only the last is about climbs
  have hunnamed : (((candidatesOf d.content).filter fun e => e.id = none).map unnamedModel).filter
      (·.kind = .cyclicInheritance) = [] := by
    rw [List.filter_eq_nil_iff]
    intro n hn
    obtain ⟨e, -, rfl⟩ := List.mem_map.mp hn
    simp [unnamedModel, Diagnostic.error]
  have hfields : ((collected o d).flatMap fun p => (ownFields o p.2).notes).filter
      (·.kind = .cyclicInheritance) = [] := by
    rw [List.filter_eq_nil_iff]
    intro n hn
    obtain ⟨p, -, hp⟩ := List.mem_flatMap.mp hn
    rw [eq_of_mem_notes_ownFields hp]
    simp [unnamedField, Diagnostic.error]
  have hmodels : ((collected o d).flatMap fun p =>
      (buildModel o (collected o d) (fieldTable o (collected o d)).value p.1 p.2).notes).filter
        (·.kind = .cyclicInheritance) = (collected o d).flatMap fun p =>
      (buildModel o (collected o d) (fieldTable o (collected o d)).value p.1 p.2).notes := by
    rw [List.filter_eq_self]
    intro n hn
    obtain ⟨p, -, hp⟩ := List.mem_flatMap.mp hn
    exact decide_eq_true (kind_of_mem_notes_buildModel hp)
  rw [notes_extractModels, List.filter_append, List.filter_append, hunnamed, hfields, hmodels,
    List.nil_append, List.nil_append, value_extractModels, List.filterMap_map,
    List.filterMap_eq_flatMap_toList]
  congr 1
  funext p
  rw [notes_buildModel, Function.comp_apply, flattens_modelOf, name_modelOf, returnTo?]
  split <;> rfl

theorem IsWayUp.head?_passed {last : Climb} (h : IsWayUp ds name last) (hkey : name ∈ ds.keys)
    (hend : last.next? ds = none) : last.passed.head? = some name := by
  have hstarts := h.starts
  cases hpassed : last.passed with
  | nil =>
    -- nothing has been passed, so the climb ends at the definition itself
    rw [hpassed] at hstarts
    have hcurrent : last.current = name := by simpa using hstarts
    have hstay := next?_eq_none.mp hend
    rw [hpassed, hcurrent] at hstay
    exact absurd hkey (hstay.resolve_right List.not_mem_nil)
  | cons a rest =>
    rw [hpassed, List.cons_append, List.head?_cons] at hstarts
    exact hstarts

/-- **The climb to the ancestors of a definition ends**, and a model that flattens holds what it
passes. -/
theorem flattenedFields_climb :
    (∀ (ds : Definitions) (name : String), name ∈ ds.keys →
      ∃ n last, Turns ds n (.start name) last ∧ last.next? ds = none ∧ n ≤ ds.length ∧
        last.passed.head? = some name ∧ IsWayUp ds name last ∧
        (last.current ∉ ds.keys ∨ last.current ∈ last.passed) ∧
        (∀ fuel, ds.length < fuel → (ancestry ds fuel [] name).1 = last.passed) ∧
        ∀ o, (flattenedFields ds (fieldTable o ds).value name).value =
          (last.passed.reverse.map (fieldsNamed o ds)).flatten) ∧
    (∀ ds name back, returnTo? ds name = some back ↔ ReturnsTo ds name back) ∧
    (∀ ds name, KindOf ds name name → ReturnsTo ds name name) ∧
    ∀ o d, (extractModels o d).value.map (·.name) = (collected o d).keys ∧
      (extractModels o d).notes.filter (·.kind = .cyclicInheritance) =
        (extractModels o d).value.filterMap fun m => if m.flattens then
          (returnTo? (collected o d) m.name).map (cyclicInheritance m.name) else none := by
  refine ⟨fun ds name hkey => ?_, fun ds name back => returnTo?_eq_some, fun ds name => returnsTo_self,
    fun o d => ⟨names_extractModels o d, filter_notes_extractModels o d⟩⟩
  obtain ⟨last, hturns, hend, hway, hfollowed⟩ := exists_turns ds name
  -- the climb ends before the fuel does, so that more fuel changes nothing
  have hchain : ∀ fuel, ds.length < fuel → (ancestry ds fuel [] name).1 = last.passed := by
    intro fuel hfuel
    rw [hfollowed fuel hfuel]
  refine ⟨last.passed.length, last, hturns, hend, hway.length_le, hway.head?_passed hkey hend, hway,
    next?_eq_none.mp hend, hchain, fun o => ?_⟩
  rw [value_flattenedFields, chainOf, hchain _ (Nat.lt_succ_self _), List.flatMap_def]

/-- A definition that leads to two which extend each other, and one of its own kind. -/
def circlesDocument : Document :=
  { content := [
      { kind := Element.dataStructure
        content := .elements [heir "T" "A" "t" none, heir "A" "B" "a" none, heir "B" "A" "b" none,
          heir "S" "S" "s" none] }] }

/-- All four climbs come back, and each model holds the fields of what is passed, once. -/
theorem flattenedFields_climb_circles :
    "T" ∈ (collected flattening circlesDocument).keys ∧
      (∃ n last, Turns (collected flattening circlesDocument) n (.start "T") last ∧
        last.next? (collected flattening circlesDocument) = none ∧ n ≤ 4 ∧
        last.passed = ["T", "A", "B"]) ∧
      ReturnsTo (collected flattening circlesDocument) "T" "A" ∧
      (extractModels flattening circlesDocument).value.map (fun m => m.fields.map (·.name.camel)) =
        [["b", "a", "t"], ["b", "a"], ["a", "b"], ["s"]] ∧
      (extractModels flattening circlesDocument).notes.filter (·.kind = .cyclicInheritance) =
        [cyclicInheritance "T" "A", cyclicInheritance "A" "A", cyclicInheritance "B" "B",
          cyclicInheritance "S" "S"] := by
  obtain ⟨hclimb, hreturn, -, hmodels⟩ := flattenedFields_climb
  have hkey : "T" ∈ (collected flattening circlesDocument).keys := by decide +kernel
  obtain ⟨n, last, hturns, hend, hle, -, -, -, hchain, -⟩ := hclimb _ "T" hkey
  have hpassed : last.passed = ["T", "A", "B"] := by
    rw [← hchain 5 (by decide +kernel)]
    decide +kernel
  refine ⟨hkey, ⟨n, last, hturns, hend, hle, hpassed⟩, (hreturn _ _ _).mp (by decide +kernel), ?_, ?_⟩
  · decide +kernel
  · rw [(hmodels _ _).2]
    decide +kernel

end Blueprint.Api
