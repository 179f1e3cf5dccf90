import Blueprint.Proofs.Java.Paths
import Blueprint.Proofs.Models.Parents

/-!
# The hierarchy of classes

A class extends the one that its model's definition extends, unless the model flattens. Nothing
keeps classes from extending each other in a circle.

* `Moves`: from a model to one whose class is its parent class; `ComesBack`: such moves lead back to
  a class.
* `Inherits`: a definition whose model does not flatten extends another.
* **`comesBack_iff`**: a class comes back exactly if classes inherit in a circle. Where the classes
  of different definitions differ, it does exactly if a definition comes back by way of definitions
  whose models do not flatten; it does not if no definition extends itself by way of others.
* `exists_comesBack`: definitions that extend each other, and a class that extends itself.
-/

namespace Blueprint.Api

open Ast Relation

variable {o : Options} {d : Document}

/-! ## Classes that come back -/

/-- A move from a model to one of the models whose class is its parent class. -/
def Moves (ms : List Model) (m p : Model) : Prop := p ∈ ms ∧ m.parentClass = some p.className

/-- From one of the models, moves lead back to its class. -/
def ComesBack (ms : List Model) : Prop :=
  ∃ m ∈ ms, ∃ p, TransGen (Moves ms) m p ∧ p.className = m.className

/-- The definition `a` extends the definition `b`, and its model does not flatten. -/
def Inherits (o : Options) (ds : Definitions) (a b : String) : Prop :=
  Extends ds a b ∧ ∃ e, ds.get? a = some e ∧ flattensAt o e = false

/-- The class `c` extends the class `c'`, since a definition of the one inherits from one of the
other. -/
def ClassInherits (o : Options) (ds : Definitions) : String → String → Prop :=
  Relation.Map (Inherits o ds) classOf classOf

theorem inherits_iff {m : Model} (hm : m ∈ (extractModels o d).value) {b : String} :
    Inherits o (collected o d) m.name b ↔ m.flattens = false ∧ Extends (collected o d) m.name b := by
  obtain ⟨e, he, hme⟩ := mem_extractModels.mp hm
  have hflat : m.flattens = flattensAt o e := by
    rw [hme]
    exact flattens_modelOf ..
  rw [Inherits, hflat]
  constructor
  · rintro ⟨hext, e', he', hf⟩
    obtain rfl : e = e' := Option.some.inj (he.symm.trans he')
    exact ⟨hf, hext⟩
  · exact fun ⟨hf, hext⟩ => ⟨hext, e, he, hf⟩

theorem moves_iff {m p : Model} (hm : m ∈ (extractModels o d).value) :
    Moves (extractModels o d).value m p ↔ p ∈ (extractModels o d).value ∧
      ∃ b, Inherits o (collected o d) m.name b ∧ classOf b = p.className := by
  rw [Moves, parentClass_eq_some hm]
  simp only [inherits_iff hm, and_assoc, exists_and_left]

theorem classInherits_of_moves {m p : Model} (hm : m ∈ (extractModels o d).value)
    (h : TransGen (Moves (extractModels o d).value) m p) : p ∈ (extractModels o d).value ∧
      TransGen (ClassInherits o (collected o d)) m.className p.className := by
  have step : ∀ {n p : Model}, n ∈ (extractModels o d).value →
      Moves (extractModels o d).value n p → p ∈ (extractModels o d).value ∧
        ClassInherits o (collected o d) n.className p.className := by
    intro n p hn hmove
    obtain ⟨hp, b, hb, hclass⟩ := (moves_iff hn).mp hmove
    exact ⟨hp, n.name, b, hb, (className_of_mem hn).symm, hclass⟩
  induction h with
  | single hmove => exact ⟨(step hm hmove).1, .single (step hm hmove).2⟩
  | tail _ hmove ih => exact ⟨(step ih.1 hmove).1, ih.2.tail (step ih.1 hmove).2⟩

/-- Where a class inherits from another, moves lead from one of its models to all of the other. -/
theorem moves_of_classInherits {c c' : String} (h : TransGen (ClassInherits o (collected o d)) c c') :
    ∃ m ∈ (extractModels o d).value, m.className = c ∧
      ∀ p ∈ (extractModels o d).value, p.className = c' →
        TransGen (Moves (extractModels o d).value) m p := by
  have step : ∀ {x y : String}, ClassInherits o (collected o d) x y →
      ∃ m ∈ (extractModels o d).value, m.className = x ∧
        ∀ p ∈ (extractModels o d).value, p.className = y →
          Moves (extractModels o d).value m p := by
    rintro x y ⟨a, b, hab, rfl, rfl⟩
    obtain ⟨m, hm, rfl⟩ := exists_model o d hab.1.mem_left
    exact ⟨m, hm, className_of_mem hm, fun p hp hclass =>
      (moves_iff hm).mpr ⟨hp, b, hab, hclass.symm⟩⟩
  induction h with
  | single hstep =>
    obtain ⟨m, hm, hclass, hmoves⟩ := step hstep
    exact ⟨m, hm, hclass, fun p hp hp' => .single (hmoves p hp hp')⟩
  | tail _ hstep ih =>
    obtain ⟨m, hm, hclass, hmoves⟩ := ih
    obtain ⟨n, hn, hclass', hmoves'⟩ := step hstep
    exact ⟨m, hm, hclass, fun p hp hp' => (hmoves n hn hclass').tail (hmoves' p hp hp')⟩

theorem comesBack_iff_classInherits :
    ComesBack (extractModels o d).value ↔ ∃ c, TransGen (ClassInherits o (collected o d)) c c := by
  constructor
  · rintro ⟨m, hm, p, hmoves, hclass⟩
    exact ⟨m.className, hclass ▸ (classInherits_of_moves hm hmoves).2⟩
  · rintro ⟨c, hc⟩
    obtain ⟨m, hm, hclass, hmoves⟩ := moves_of_classInherits hc
    exact ⟨m, hm, m, hmoves m hm hclass, rfl⟩

/-! ## Definitions that come back -/

theorem classOf_inj (hn : (Java.modelNames o d).Nodup) {a b : String}
    (ha : a ∈ (collected o d).keys) (hb : b ∈ (collected o d).keys) (h : classOf a = classOf b) :
    a = b :=
  List.inj_on_of_nodup_map hn ha hb h

/-- Where different definitions have different classes, classes inherit as definitions do. -/
theorem exists_inherits (hn : (Java.modelNames o d).Nodup) {c c' : String}
    (h : TransGen (ClassInherits o (collected o d)) c c') :
    ∃ a b, TransGen (Inherits o (collected o d)) a b ∧ b ∈ (collected o d).keys ∧
      classOf a = c ∧ classOf b = c' := by
  induction h with
  | single hstep =>
    obtain ⟨a, b, hab, rfl, rfl⟩ := hstep
    exact ⟨a, b, .single hab, hab.1.mem_right, rfl, rfl⟩
  | tail _ hstep ih =>
    obtain ⟨a, b, hab, hb, rfl, rfl⟩ := ih
    obtain ⟨b', b'', hstep, hclass, rfl⟩ := hstep
    obtain rfl := classOf_inj hn hstep.1.mem_left hb hclass
    exact ⟨a, b'', hab.tail hstep, hstep.1.mem_right, rfl, rfl⟩

theorem mem_keys_of_transGen {a b : String} (h : TransGen (Inherits o (collected o d)) a b) :
    a ∈ (collected o d).keys := by
  obtain ⟨x, hx, -⟩ := TransGen.head'_iff.mp h
  exact hx.1.mem_left

/-- **A class comes back to itself exactly if classes inherit from each other in a circle.** -/
theorem comesBack_iff (o : Options) (d : Document) :
    (ComesBack (extractModels o d).value ↔
      ∃ c, TransGen (ClassInherits o (collected o d)) c c) ∧
    ((Java.modelNames o d).Nodup →
      (ComesBack (extractModels o d).value ↔ ∃ a, TransGen (Inherits o (collected o d)) a a) ∧
      (Acyclic (collected o d) → ¬ ComesBack (extractModels o d).value)) := by
  refine ⟨comesBack_iff_classInherits, fun hn => ?_⟩
  have hdefinitions : ComesBack (extractModels o d).value ↔
      ∃ a, TransGen (Inherits o (collected o d)) a a := by
    rw [comesBack_iff_classInherits]
    constructor
    · rintro ⟨c, hc⟩
      obtain ⟨a, b, hab, hb, rfl, hclass⟩ := exists_inherits hn hc
      obtain rfl := classOf_inj hn hb (mem_keys_of_transGen hab) hclass
      exact ⟨b, hab⟩
    · rintro ⟨a, ha⟩
      have hlift := TransGen.lift (p := ClassInherits o (collected o d)) classOf
        fun x y hxy => ⟨x, y, hxy, rfl, rfl⟩
      exact ⟨classOf a, hlift a a ha⟩
  refine ⟨hdefinitions, fun hac hback => ?_⟩
  obtain ⟨a, ha⟩ := hdefinitions.mp hback
  have hmono : TransGen (Inherits o (collected o d)) ≤ TransGen (Extends (collected o d)) :=
    TransGen.mono fun _ _ h => h.1
  exact hac a (hmono a a ha)

theorem comesBack_iff_threeGenerations : (Java.modelNames {} threeGenerations).Nodup ∧
    Acyclic (collected {} threeGenerations) ∧
    ¬ ComesBack (extractModels {} threeGenerations).value ∧
    ¬ ∃ a, TransGen (Inherits {} (collected {} threeGenerations)) a a := by
  have hn : (Java.modelNames {} threeGenerations).Nodup := by decide +kernel
  obtain ⟨hdefinitions, hacyclic⟩ := (comesBack_iff {} threeGenerations).2 hn
  have hback := hacyclic acyclic_threeGenerations
  exact ⟨hn, acyclic_threeGenerations, hback, fun h => hback (hdefinitions.mpr h)⟩

/-- Two definitions that extend each other. -/
def mutualDocument : Document :=
  { content := [
      { kind := Element.dataStructure
        content := .elements [heir "A" "B" "a" none, heir "B" "A" "b" none] }] }

/-- Two definitions of one class, one of which extends the other. -/
def respelledDocument : Document :=
  { content := [
      { kind := Element.dataStructure
        content := .elements [heir "Coupon" "object" "a" none, heir "coupon" "Coupon" "b" none] }] }

/-- Classes of definitions that extend each other come back, and so do those of one casing. -/
theorem exists_comesBack : ComesBack (extractModels {} mutualDocument).value ∧
    ComesBack (extractModels {} respelledDocument).value := by
  constructor
  · obtain ⟨m, hm, p, hp, hup, hback⟩ : ∃ m ∈ (extractModels {} mutualDocument).value,
        ∃ p ∈ (extractModels {} mutualDocument).value,
          m.parentClass = some p.className ∧ p.parentClass = some m.className := by decide +kernel
    exact ⟨m, hm, m, (TransGen.single ⟨hp, hup⟩).tail ⟨hm, hback⟩, rfl⟩
  · obtain ⟨m, hm, hself⟩ : ∃ m ∈ (extractModels {} respelledDocument).value,
        m.parentClass = some m.className := by decide +kernel
    exact ⟨m, hm, m, .single ⟨hm, hself⟩, rfl⟩

end Blueprint.Api
