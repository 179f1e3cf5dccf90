import Blueprint.Proofs.Java.Members
import Blueprint.Proofs.Models.Ancestry
import Blueprint.Proofs.Models.Fields
import Mathlib.Data.List.Pairwise

/-!
# Merged fields

A model that flattens holds the own fields of its definition and of all ancestors, one list behind
the other; a field that a descendant declares again is there twice.

* `fields_eq_flatMap`: the fields of a model that flattens.
* `SharesNone`: no two of the definitions above a model, itself included, have own fields of one
  name.
* **`nodup_flattened`**: if the own fields of each definition have distinct names, in camel case,
  the fields of a model that flattens have exactly if this holds. Then its class declares no field
  twice, and no accessor either if the names are in ASCII.
* `exists_declared_twice`: a field that is declared again is in the class twice.
-/

namespace Blueprint.Api

open Ast

variable {o : Options} {d : Document} {m : Model}

/-! ## Fields along a chain -/

theorem fields_eq_flatMap (hm : m ∈ (extractModels o d).value) (hf : m.flattens = true) :
    m.fields = (chainOf (collected o d) m.name).reverse.flatMap (fieldsNamed o (collected o d)) := by
  obtain ⟨e, -, hme⟩ := mem_extractModels.mp hm
  rw [hme, flattens_modelOf] at hf
  rw [hme, fields_modelOf_of_flattens hf, name_modelOf]

/-- Lists behind one another are free of repetition exactly if each is and no two share anything. -/
theorem nodup_flatMap_iff {α β : Type} {sources : List α} {f : α → List β} (hs : sources.Nodup) :
    (sources.flatMap f).Nodup ↔ (∀ a ∈ sources, (f a).Nodup) ∧
      ∀ a ∈ sources, ∀ b ∈ sources, a ≠ b → List.Disjoint (f a) (f b) := by
  have hsymm : Std.Symm (Function.onFun List.Disjoint f) := ⟨fun _ _ h => List.Disjoint.symm h⟩
  rw [List.nodup_flatMap]
  refine and_congr_right fun _ => ⟨fun h a ha b hb hab => h.forall ha hb hab, fun h => ?_⟩
  exact hs.pairwise_of_forall_ne h

/-! ## Names of merged fields -/

/-- The names of the own fields of a definition, in camel case. -/
def ownNames (o : Options) (ds : Definitions) (a : String) : List String :=
  (fieldsNamed o ds a).map (·.name.camel)

/-- No two of the definitions above a definition, itself included, have own fields of one name. -/
def SharesNone (o : Options) (ds : Definitions) (name : String) : Prop :=
  ∀ a b, Above ds name a → Above ds name b → a ≠ b →
    List.Disjoint (ownNames o ds a) (ownNames o ds b)

/-- **The fields of a model that flattens have distinct names** exactly if no two definitions share
one. -/
theorem nodup_flattened
    (hown : ∀ a ∈ (collected o d).keys, (ownNames o (collected o d) a).Nodup)
    (hm : m ∈ (extractModels o d).value) (hf : m.flattens = true) :
    ((m.fields.map (·.name.camel)).Nodup ↔ SharesNone o (collected o d) m.name) ∧
      ((m.fields.map Java.fieldName).Nodup ↔ SharesNone o (collected o d) m.name) ∧
      ((∀ f ∈ m.fields, Text.IsAscii f.name.spelling) → SharesNone o (collected o d) m.name →
        (Java.accessorNames m.fields).Nodup) := by
  have hcamel : (m.fields.map (·.name.camel)).Nodup ↔ SharesNone o (collected o d) m.name := by
    -- the fields come along the chain, which passes each name once
    have hnames : m.fields.map (·.name.camel) =
        (chainOf (collected o d) m.name).reverse.flatMap (ownNames o (collected o d)) := by
      rw [fields_eq_flatMap hm hf, List.map_flatMap]
      rfl
    rw [hnames, nodup_flatMap_iff (List.nodup_reverse.mpr (nodup_chainOf _ _))]
    simp only [List.mem_reverse, mem_chainOf]
    constructor
    · exact fun h a b ha hb hab => h.2 a ha b hb hab
    · refine fun h => ⟨fun a ha => hown a ?_, fun a ha b hb hab => h a b ha hb hab⟩
      exact ha.mem_right
  have hnames := name_of_mem_fields hm
  refine ⟨hcamel, (Java.nodup_fieldNames hnames).trans hcamel, fun hascii hshares => ?_⟩
  exact (Java.nodup_accessorNames _).mpr (Java.nodup_pascal hnames hascii (hcamel.mpr hshares))

/-- The options of a run that flattens. -/
def flattening : Options := { flattenParents := true }

/-- Three generations with a field each, merged into the last. -/
theorem nodup_flattened_threeGenerations :
    (∀ a ∈ (collected flattening threeGenerations).keys,
      (ownNames flattening (collected flattening threeGenerations) a).Nodup) ∧
    ∃ m ∈ (extractModels flattening threeGenerations).value,
      m.flattens = true ∧ m.fields.map (·.name.camel) = ["a", "b", "c"] ∧
        SharesNone flattening (collected flattening threeGenerations) m.name ∧
        (m.fields.map Java.fieldName).Nodup ∧ (Java.accessorNames m.fields).Nodup := by
  have hown : ∀ a ∈ (collected flattening threeGenerations).keys,
      (ownNames flattening (collected flattening threeGenerations) a).Nodup := by decide +kernel
  obtain ⟨m, hm, hf, hfields, hascii⟩ : ∃ m ∈ (extractModels flattening threeGenerations).value,
      m.flattens = true ∧ m.fields.map (·.name.camel) = ["a", "b", "c"] ∧
        ∀ f ∈ m.fields, Text.IsAscii f.name.spelling := by decide +kernel
  obtain ⟨hcamel, hdeclared, haccessors⟩ := nodup_flattened hown hm hf
  have hshares := hcamel.mp (by rw [hfields]; decide)
  exact ⟨hown, m, hm, hf, hfields, hshares, hdeclared.mpr hshares, haccessors hascii hshares⟩

/-- A definition, and another that extends it and declares its field again. -/
def redeclaringDocument : Document :=
  { content := [
      { kind := Element.dataStructure
        content := .elements [heir "Base" "object" "id" none, heir "Coupon" "Base" "id" none] }] }

/-- A definition with two fields whose names differ in camel case and agree in Pascal case. -/
def dotlessDocument : Document :=
  { content := [
      { kind := Element.dataStructure
        content := .elements [
          { kind := "object", «meta» := some { id := some "Base" }
            content := .elements [Element.member "ı" none, Element.member "i" none] }] }] }

/-- A field that is declared again is in the class twice, and so may be an accessor. -/
theorem exists_declared_twice :
    ((∀ a ∈ (collected flattening redeclaringDocument).keys,
        (ownNames flattening (collected flattening redeclaringDocument) a).Nodup) ∧
      ∃ m ∈ (extractModels flattening redeclaringDocument).value,
        m.flattens = true ∧ ¬ (m.fields.map (·.name.camel)).Nodup) ∧
    ((∀ a ∈ (collected flattening dotlessDocument).keys,
        (ownNames flattening (collected flattening dotlessDocument) a).Nodup) ∧
      ∃ m ∈ (extractModels flattening dotlessDocument).value,
        m.flattens = true ∧ (m.fields.map (·.name.camel)).Nodup ∧
          ¬ (Java.accessorNames m.fields).Nodup) := by
  refine ⟨⟨?_, ?_⟩, ?_, ?_⟩ <;> decide +kernel

end Blueprint.Api
