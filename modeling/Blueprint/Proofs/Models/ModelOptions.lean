import Blueprint.Proofs.Models.Extraction
import Blueprint.Proofs.Models.OptionLines

/-!
# The options of a model

A model has the options of the lines of its description, and one on flattening in any case.

* `descriptionLines`: the lines of the description of an element; `forall₂_linesOptions`: those with
  an option are read one by one.
* `modelOptions_eq`: the options are put into a dictionary that holds the choice of the run.
* `OptionsOf`: the choice on flattening comes first and the other keys by first appearance, each
  with the value of its last line.
* **`modelOptions_lines`**: these are the options of a model, so that it flattens exactly if the
  last line on flattening says `true`, or if there is none and the run flattens.
-/

namespace Blueprint.Api

open Ast Text

theorem forall₂_linesOptions (ls : List (List Char)) :
    List.Forall₂ FirstOption (ls.filter HasOption) (ls.filterMap lineOption?) := by
  refine forall₂_filter_filterMap (fun l _ hl => ?_) (fun l _ hl => ?_)
  · obtain ⟨option, hoption⟩ := Option.isSome_iff_exists.mp
      (isSome_lineOption?_iff.mpr (of_decide_eq_true hl))
    exact ⟨option, hoption, lineOption?_eq_some.mp hoption⟩
  · rw [← Option.not_isSome_iff_eq_none, isSome_lineOption?_iff]
    exact of_decide_eq_false hl

/-- The lines of the description of an element. -/
def descriptionLines (e : Element) : List (List Char) := lines (e.metaDescription.getD "").toList

theorem modelOptions_eq (o : Options) (e : Element) : modelOptions o e =
    Dictionary.putAll ((descriptionLines e).filterMap lineOption?)
      [(flattenOption, flagText o.flattenParents)] := by
  rw [modelOptions, descriptionLines]
  cases e.metaDescription <;> rfl

theorem options_buildModel (o : Options) (ds : Definitions) (table : Dictionary (List Field))
    (name : String) (e : Element) :
    (buildModel o ds table name e).value.options = modelOptions o e := by
  unfold buildModel
  dsimp only
  split
  · rw [Noted.value_bind]
    rfl
  · rfl

/-- What the options of an element are if its lines have those of a list. The choice on flattening comes
first and the other keys by first appearance, each with the value of its last line. -/
structure OptionsOf (o : Options) (e : Element) (found options : Dictionary String) : Prop where
  lines : List.Forall₂ FirstOption ((descriptionLines e).filter HasOption) found
  keys : options.keys = "flattenParentClasses" ::
    (found.keys.filter (· ≠ "flattenParentClasses")).eraseDups
  values : ∀ key value, options.get? key = some value ↔ Dictionary.LastEntry found key value ∨
    key ∉ found.keys ∧ key = "flattenParentClasses" ∧
      value = if o.flattenParents then "true" else "false"

theorem optionsOf_modelOptions (o : Options) (e : Element) :
    OptionsOf o e ((descriptionLines e).filterMap lineOption?) (modelOptions o e) where
  lines := forall₂_linesOptions (descriptionLines e)
  keys := by
    rw [modelOptions_eq, Dictionary.keys_putAll]
    simp [flattenOption]
  values key value := by
    change _ ↔ _ ∨ _ ∧ key = flattenOption ∧ value = flagText o.flattenParents
    rw [modelOptions_eq, Dictionary.get?_putAll_eq_some]
    simp [Dictionary.get?_cons, eq_comm]

/-- **The options of a model are those of the lines of its description**, the last line of each key
counting. -/
theorem modelOptions_lines (o : Options) (e : Element) : ∃ found : Dictionary String,
    OptionsOf o e found (modelOptions o e) ∧
    ∀ ds table name, (buildModel o ds table name e).value.flattens = true ↔
      Dictionary.LastEntry found "flattenParentClasses" "true" ∨
        "flattenParentClasses" ∉ found.keys ∧ o.flattenParents = true := by
  have hoptions := optionsOf_modelOptions o e
  refine ⟨_, hoptions, fun ds table name => ?_⟩
  rw [Model.flattens, options_buildModel, decide_eq_true_iff, flattenOption, hoptions.values]
  simp

/-- A line with two plus signs and lines that repeat a key. -/
example : modelOptions {}
    { kind := "object"
      description := some ("x + y + tax: 1\n+ flattenParentClasses: false\n" ++
        "+tax :2 \n+flattenParentClasses:true") } =
    [("flattenParentClasses", "true"), ("tax", "2")] := by decide

end Blueprint.Api
