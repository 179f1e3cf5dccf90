import Blueprint.Proofs.Models.Fields
import Blueprint.Proofs.Models.ModelOptions

/-!
# Candidates and their models

A model is made of the first kept candidate of its name, in the order of a walk over the document.

* `HasOwn`: a model with a field for each of some members as its own, behind those of ancestors;
  `MadeOf`: what a model takes from its candidate.
* **`extractModels_candidates`**: the models are the first kept candidates of the walk, and the
  errors about unnamed candidates precede all other diagnostics.
* **`fieldErrors_extractModels`**: each definition is read once, whatever extends it. There is one
  error for each of its pairs whose key holds no string, in the order of the definitions and then of
  the children; these stand between the errors about unnamed candidates and the warnings about
  circles.
-/

namespace Blueprint.Api

open Ast Text

/-! ## What a model takes -/

/-- A model with a field for each of some members as its own. -/
def HasOwn (o : Options) (members : List Element) (m : Model) : Prop :=
  -- own fields come last; those of ancestors precede them only in a model that flattens
  ∃ inherited own, m.fields = inherited ++ own ∧ List.Forall₂ (FieldOf o) members own ∧
    (m.flattens = false → inherited = [])

/-- What a model takes from the candidate that it is made of. -/
structure MadeOf (o : Options) (e : Element) (m : Model) : Prop where
  description : m.description = e.metaDescription.map trimmed
  options : ∃ found, OptionsOf o e found m.options
  fields : HasOwn o (e.children.filter isKeyed) m

theorem hasOwn_modelOf {o : Options} {ds : Definitions} {name : String} {e : Element}
    (h : ds.get? name = some e) {members : List Element}
    (hmembers : List.Forall₂ (FieldOf o) members (fieldsOf o e)) :
    HasOwn o members (modelOf o ds name e) := by
  rw [HasOwn, flattens_modelOf]
  cases hf : flattensAt o e
  · refine ⟨[], _, ?_, hmembers, fun _ => rfl⟩
    rw [fields_modelOf_of_not_flattens hf, fieldsNamed_of_get? o h, List.nil_append]
  · -- the chain starts with the definition, and is reversed before fields are merged
    obtain ⟨above, ha⟩ := chainOf_eq_cons h
    refine ⟨above.reverse.flatMap (fieldsNamed o ds), _, ?_, hmembers, fun hn => absurd hn (by simp)⟩
    rw [fields_modelOf_of_flattens hf, ha, List.reverse_cons, List.flatMap_append,
      List.flatMap_singleton, fieldsNamed_of_get? o h]

theorem madeOf_modelOf (o : Options) {ds : Definitions} {name : String} {e : Element}
    (h : ds.get? name = some e) : MadeOf o e (modelOf o ds name e) where
  description := description_modelOf ..
  options := ⟨_, options_modelOf o ds name e ▸ optionsOf_modelOptions o e⟩
  fields := hasOwn_modelOf h (forall₂_fieldsOf_isKeyed o e)

theorem madeOf_extractModels (o : Options) (d : Document) :
    List.Forall₂ (fun p m => m.name = p.1 ∧ MadeOf o p.2 m) (collected o d)
      (extractModels o d).value := by
  rw [value_extractModels]
  refine List.forall₂_map_right_iff.mpr <| List.forall₂_same.mpr fun p hp => ⟨name_modelOf .., ?_⟩
  exact madeOf_modelOf o (Dictionary.get?_of_mem (nodup_keys_collected o d) hp)

/-! ## The walk over a document -/

/-- **The models of a document are the first kept candidates of a walk over it.** -/
theorem extractModels_candidates (o : Options) (d : Document) :
    ∃ found, (∀ es, Walk d.content es ↔ es = found) ∧
      (extractModels o d).value.map (·.name) =
        ((found.filterMap Element.id).filter fun name => !isSkipped o name).eraseDups ∧
      ((extractModels o d).value.map (·.name)).Nodup ∧
      (∀ m ∈ (extractModels o d).value, ∃ e,
        found.find? (fun e => e.id = some m.name) = some e ∧ MadeOf o e m) ∧
      ∃ later, (extractModels o d).notes =
          (found.filter fun e => e.id = none).map unnamedModel ++ later ∧
        ∀ n ∈ later, n.kind ≠ .unnamedModel := by
  refine ⟨candidatesOf d.content, fun es => walk_iff, ?_, ?_, ?_, _, notes_extractModels o d, ?_⟩
  · rw [names_extractModels, keys_collected]
  · rw [names_extractModels]
    exact nodup_keys_collected o d
  · intro m hm
    obtain ⟨e, he, hme⟩ := mem_extractModels.mp hm
    exact ⟨e, find?_of_get?_collected he, hme ▸ madeOf_modelOf o he⟩
  · intro n hn
    rcases List.mem_append.mp hn with hn | hn
    · obtain ⟨p, -, hp⟩ := List.mem_flatMap.mp hn
      rw [eq_of_mem_notes_ownFields hp]
      exact fun h => nomatch h
    · obtain ⟨p, -, hp⟩ := List.mem_flatMap.mp hn
      rw [kind_of_mem_notes_buildModel hp]
      exact fun h => nomatch h

/-- **Each definition is read once**, whichever models flatten and however many extend it. -/
theorem fieldErrors_extractModels (o : Options) (d : Document) :
    ∃ found ds, (∀ es, Walk d.content es ↔ es = found) ∧
      (Dictionary.keys ds =
          ((found.filterMap Element.id).filter fun name => !isSkipped o name).eraseDups ∧
        ∀ p ∈ ds, found.find? (fun e => e.id = some p.1) = some p.2) ∧
      (∃ circles, (extractModels o d).notes =
          (found.filter fun e => e.id = none).map unnamedModel ++
            (ds.flatMap (fun p => ((pairs p.2).filter (!isKeyed ·)).map fun _ => unnamedField p.2) ++
              circles) ∧
        ∀ n ∈ circles, ∃ name repeated, n = cyclicInheritance name repeated) ∧
      (∀ p ∈ ds, List.Forall₂ (FieldOf o) ((pairs p.2).filter isKeyed) (fieldsOf o p.2)) ∧
      List.Forall₂ (fun p m => m.name = p.1 ∧ MadeOf o p.2 m) ds (extractModels o d).value := by
  refine ⟨candidatesOf d.content, collected o d, fun es => walk_iff, ⟨keys_collected o d, ?_⟩, ?_, ?_,
    madeOf_extractModels o d⟩
  · exact fun p hp =>
      find?_of_get?_collected (Dictionary.get?_of_mem (nodup_keys_collected o d) hp)
  · have hnotes := notes_extractModels o d
    simp only [notes_ownFields] at hnotes
    refine ⟨_, hnotes, fun n hn => ?_⟩
    obtain ⟨p, -, hp⟩ := List.mem_flatMap.mp hn
    exact ⟨p.1, exists_of_mem_notes_buildModel hp⟩
  · intro p _
    rw [filter_isKeyed_pairs]
    exact forall₂_fieldsOf_isKeyed o p.2

end Blueprint.Api
