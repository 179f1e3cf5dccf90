import Blueprint.Proofs.Models.Definitions

/-!
# The models of a document

* `fieldsOf`, `fieldsNamed`: the own fields of an element, and those of the definition of a name.
* `modelOf`: the model of a definition, with one lemma for each of its fields.
* `value_extractModels`, `notes_extractModels`: the models of a document, and its diagnostics.
-/

namespace Blueprint.Api

open Ast Text

/-! ## Own fields -/

/-- The own fields of an element. -/
def fieldsOf (o : Options) (e : Element) : List Field := (ownFields o e).value

/-- The own fields of the definition of a name. -/
def fieldsNamed (o : Options) (ds : Definitions) (name : String) : List Field :=
  ((ds.get? name).map (fieldsOf o)).getD []

theorem fieldsNamed_of_get? (o : Options) {ds : Definitions} {name : String} {e : Element}
    (h : ds.get? name = some e) : fieldsNamed o ds name = fieldsOf o e := by
  rw [fieldsNamed, h]; rfl

theorem value_fieldTable (o : Options) (ds : Definitions) :
    (fieldTable o ds).value = ds.map fun p => (p.1, fieldsOf o p.2) := by
  simp [fieldTable, fieldsOf]

theorem notes_fieldTable (o : Options) (ds : Definitions) :
    (fieldTable o ds).notes = ds.flatMap fun p => (ownFields o p.2).notes := by
  simp [fieldTable]

theorem getD_fieldTable (o : Options) (ds : Definitions) (name : String) :
    ((fieldTable o ds).value.get? name).getD [] = fieldsNamed o ds name := by
  rw [value_fieldTable, Dictionary.get?_map fun _ e => fieldsOf o e]; rfl

theorem notes_memberField (o : Options) (owner child : Element) :
    (memberField o owner child).notes = [] ∨
      (memberField o owner child).notes = [unnamedField owner] := by
  unfold memberField
  split
  · exact .inl rfl
  split
  · exact .inl rfl
  split
  · exact .inr rfl
  · exact .inl rfl

/-- Reading the own fields of an element records nothing but errors about its members. -/
theorem eq_of_mem_notes_ownFields {o : Options} {e : Element} {n : Diagnostic}
    (h : n ∈ (ownFields o e).notes) : n = unnamedField e := by
  rw [ownFields, Noted.notes_choose, List.mem_flatMap] at h
  obtain ⟨child, -, hn⟩ := h
  rcases notes_memberField o e child with hc | hc
  · rw [hc] at hn; exact absurd hn (by simp)
  · rw [hc] at hn; exact List.mem_singleton.mp hn

/-! ## The model of a definition -/

/-- Whether the model of an element holds the fields of its ancestors. -/
def flattensAt (o : Options) (e : Element) : Bool :=
  (modelOptions o e).get? flattenOption = some "true"

/-- The names of a definition and its ancestors, as far as they do not repeat. -/
def chainOf (ds : Definitions) (name : String) : List String :=
  (ancestry ds (ds.length + 1) [] name).1

/-- The model of a definition. -/
def modelOf (o : Options) (ds : Definitions) (name : String) (e : Element) : Model :=
  (buildModel o ds (fieldTable o ds).value name e).value

theorem value_flattenedFields (o : Options) (ds : Definitions) (name : String) :
    (flattenedFields ds (fieldTable o ds).value name).value =
      (chainOf ds name).reverse.flatMap (fieldsNamed o ds) := by
  simp only [flattenedFields, getD_fieldTable]
  cases h : (ancestry ds (ds.length + 1) [] name).2 <;> rfl

theorem modelOf_eq (o : Options) (ds : Definitions) (name : String) (e : Element) :
    modelOf o ds name e =
      { name
        className := (Name.ofString name).pascal
        description := e.metaDescription.map trimmed
        fields := if flattensAt o e then (chainOf ds name).reverse.flatMap (fieldsNamed o ds)
          else fieldsNamed o ds name
        parentClass := if flattensAt o e then none
          else (parentName? ds name e).map fun p => (Name.ofString p).pascal
        options := modelOptions o e } := by
  unfold modelOf buildModel
  cases h : flattensAt o e
  · rw [if_neg (by simpa [Model.flattens, flattensAt] using h), getD_fieldTable]; rfl
  · rw [if_pos (by simpa [Model.flattens, flattensAt] using h), Noted.value_bind,
      value_flattenedFields]
    rfl

@[simp] theorem name_modelOf (o : Options) (ds : Definitions) (name : String) (e : Element) :
    (modelOf o ds name e).name = name := by rw [modelOf_eq]

theorem options_modelOf (o : Options) (ds : Definitions) (name : String) (e : Element) :
    (modelOf o ds name e).options = modelOptions o e := by rw [modelOf_eq]

theorem description_modelOf (o : Options) (ds : Definitions) (name : String) (e : Element) :
    (modelOf o ds name e).description = e.metaDescription.map trimmed := by rw [modelOf_eq]

@[simp] theorem flattens_modelOf (o : Options) (ds : Definitions) (name : String) (e : Element) :
    (modelOf o ds name e).flattens = flattensAt o e := by rw [modelOf_eq]; rfl

theorem fields_modelOf_of_flattens {o : Options} {e : Element} (h : flattensAt o e = true)
    (ds : Definitions) (name : String) :
    (modelOf o ds name e).fields = (chainOf ds name).reverse.flatMap (fieldsNamed o ds) := by
  rw [modelOf_eq]; exact if_pos h

theorem fields_modelOf_of_not_flattens {o : Options} {e : Element} (h : flattensAt o e = false)
    (ds : Definitions) (name : String) : (modelOf o ds name e).fields = fieldsNamed o ds name := by
  rw [modelOf_eq]; exact if_neg (by simp [h])

theorem notes_flattenedFields (ds : Definitions) (table : Dictionary (List Field)) (name : String) :
    (flattenedFields ds table name).notes =
      ((ancestry ds (ds.length + 1) [] name).2.map (cyclicInheritance name)).toList := by
  simp only [flattenedFields]
  cases (ancestry ds (ds.length + 1) [] name).2 <;> rfl

theorem notes_buildModel (o : Options) (ds : Definitions) (table : Dictionary (List Field))
    (name : String) (e : Element) :
    (buildModel o ds table name e).notes = if flattensAt o e then
      ((ancestry ds (ds.length + 1) [] name).2.map (cyclicInheritance name)).toList else [] := by
  unfold buildModel
  cases h : flattensAt o e
  · rw [if_neg (by simpa [Model.flattens, flattensAt] using h)]; rfl
  · rw [if_pos (by simpa [Model.flattens, flattensAt] using h), Noted.notes_bind,
      notes_flattenedFields]
    simp

theorem exists_of_mem_notes_buildModel {o : Options} {ds : Definitions}
    {table : Dictionary (List Field)} {name : String} {e : Element} {n : Diagnostic}
    (h : n ∈ (buildModel o ds table name e).notes) :
    ∃ repeated, n = cyclicInheritance name repeated := by
  rw [notes_buildModel] at h
  split at h
  · obtain ⟨r, -, hr⟩ := Option.map_eq_some_iff.mp (Option.mem_toList.mp h)
    exact ⟨r, hr.symm⟩
  · exact nomatch h

theorem kind_of_mem_notes_buildModel {o : Options} {ds : Definitions}
    {table : Dictionary (List Field)} {name : String} {e : Element} {n : Diagnostic}
    (h : n ∈ (buildModel o ds table name e).notes) :
    n.kind = .cyclicInheritance := by
  obtain ⟨r, rfl⟩ := exists_of_mem_notes_buildModel h
  rfl

/-! ## Chains -/

theorem ancestry_extends (ds : Definitions) (fuel : Nat) (visited : List String)
    (current : String) : ∃ further, (ancestry ds fuel visited current).1 = visited ++ further := by
  induction fuel generalizing visited current with
  | zero => exact ⟨[], (List.append_nil _).symm⟩
  | succ fuel ih =>
    rw [ancestry]
    split
    · exact ⟨[], (List.append_nil _).symm⟩
    · split
      · exact ⟨[], (List.append_nil _).symm⟩
      · obtain ⟨further, h⟩ := ih (visited ++ [current]) _
        exact ⟨current :: further, by rw [h, List.append_assoc]; rfl⟩

/-- The chain of a definition starts with it. -/
theorem chainOf_eq_cons {ds : Definitions} {name : String} {e : Element}
    (h : ds.get? name = some e) : ∃ above, chainOf ds name = name :: above := by
  obtain ⟨above, ha⟩ := ancestry_extends ds ds.length [name] e.kind
  refine ⟨above, ?_⟩
  rw [chainOf, ancestry, h]
  exact ha

/-! ## All models -/

theorem value_extractModels (o : Options) (d : Document) :
    (extractModels o d).value =
      (collected o d).map fun p => modelOf o (collected o d) p.1 p.2 := by
  rw [extractModels, Noted.value_bind, Noted.value_bind, Noted.value_forEach, definitions_document]
  rfl

theorem names_extractModels (o : Options) (d : Document) :
    (extractModels o d).value.map (·.name) = (collected o d).keys := by
  rw [value_extractModels, List.map_map]
  exact List.map_congr_left fun p _ => name_modelOf ..

theorem mem_extractModels {o : Options} {d : Document} {m : Model} :
    m ∈ (extractModels o d).value ↔
      ∃ e, (collected o d).get? m.name = some e ∧ m = modelOf o (collected o d) m.name e := by
  rw [value_extractModels, List.mem_map]
  constructor
  · rintro ⟨⟨name, e⟩, hp, rfl⟩
    rw [name_modelOf]
    exact ⟨e, Dictionary.get?_of_mem (nodup_keys_collected o d) hp, rfl⟩
  · rintro ⟨e, he, hm⟩
    exact ⟨(m.name, e), Dictionary.mem_of_get? he, hm.symm⟩

theorem notes_extractModels (o : Options) (d : Document) :
    (extractModels o d).notes =
      ((candidatesOf d.content).filter fun e => e.id = none).map unnamedModel ++
        ((collected o d).flatMap (fun p => (ownFields o p.2).notes) ++
          (collected o d).flatMap fun p =>
            (buildModel o (collected o d) (fieldTable o (collected o d)).value p.1 p.2).notes) := by
  rw [extractModels, Noted.notes_bind, Noted.notes_bind, Noted.notes_forEach, notes_definitions,
    definitions_document, notes_fieldTable]

open Diagnostic Noted in
theorem remarks_extractModels (o : Options) (d : Document) :
    (extractModels o d).Records (IsRemark [.unnamedModel, .unnamedField]) := by
  intro n hn
  rw [notes_extractModels, List.mem_append, List.mem_append] at hn
  rcases hn with hn | hn | hn
  · obtain ⟨e, -, rfl⟩ := List.mem_map.mp hn
    exact isRemark_error (by decide) _
  · obtain ⟨p, -, hp⟩ := List.mem_flatMap.mp hn
    rw [eq_of_mem_notes_ownFields hp]
    exact isRemark_error (by decide) _
  · obtain ⟨p, -, hp⟩ := List.mem_flatMap.mp hn
    obtain ⟨r, rfl⟩ := exists_of_mem_notes_buildModel hp
    exact (isWarning_warn (by decide) _).isRemark

end Blueprint.Api
