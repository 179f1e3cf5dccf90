import Blueprint.Proofs.Models.Extraction

/-!
# The own fields of a model

* `FieldOf`: the field of a member; `memberField_eq_some`: a child of an element has a field exactly
  if it is a member with a string as its key.
* **`forall₂_fieldsOf_isKeyed`**: the own fields of an element are those of such members, in order.
* `exists_of_mem_fields`: every field of a model is that of a member.
* `forall₂_fieldsOf`: an element without a skipped member has the fields of all its pairs;
  `notes_ownFields`: one error for each pair without a string as its key.
-/

namespace Blueprint.Api

open Ast Text

/-! ## Members -/

/-- The field of a member, which has a string as its key. -/
def FieldOf (o : Options) (child : Element) (f : Field) : Prop :=
  ∃ key value name, child.memberContent = some (key, value) ∧ key.stringValue = some name ∧
    f = { name := Name.ofString name, type := (value.map typeName).getD o.defaultType }

theorem memberField_eq_some {o : Options} {owner child : Element} {f : Field} :
    (memberField o owner child).value = some f ↔
      child.kind = Element.memberKind ∧ FieldOf o child f := by
  rw [memberField]
  by_cases hkind : child.kind = Element.memberKind
  · rw [if_neg (not_not.mpr hkind)]
    simp only [hkind, FieldOf, true_and]
    cases hcontent : child.memberContent with
    | none => simp
    | some p =>
      obtain ⟨key, value⟩ := p
      cases hkey : key.stringValue with
      | none => simp [hkey]
      | some name => simp [hkey, eq_comm]
  · simp [hkind]

/-- Whether an element is a member with a string as its key. -/
def isKeyed (e : Element) : Bool :=
  e.kind = Element.memberKind && e.memberContent.any fun p => p.1.stringValue.isSome

theorem isKeyed_iff {e : Element} : isKeyed e = true ↔
    e.kind = Element.memberKind ∧
      ∃ key value name, e.memberContent = some (key, value) ∧ key.stringValue = some name := by
  simp [isKeyed, Option.any_eq_true, Option.isSome_iff_exists]

/-- **The own fields of an element** are those of its members with a string as their key, in order. -/
theorem forall₂_fieldsOf_isKeyed (o : Options) (e : Element) :
    List.Forall₂ (FieldOf o) (e.children.filter isKeyed) (fieldsOf o e) := by
  rw [fieldsOf, ownFields, Noted.value_choose]
  refine forall₂_filter_filterMap (fun child _ hkeyed => ?_) (fun child _ hkeyed => ?_)
  · obtain ⟨hkind, key, value, name, hcontent, hkey⟩ := isKeyed_iff.mp hkeyed
    have hfield : FieldOf o child
        { name := Name.ofString name, type := (value.map typeName).getD o.defaultType } :=
      ⟨key, value, name, hcontent, hkey, rfl⟩
    exact ⟨_, memberField_eq_some.mpr ⟨hkind, hfield⟩, hfield⟩
  · rw [Option.eq_none_iff_forall_ne_some]
    intro f hf
    obtain ⟨hkind, key, value, name, hcontent, hkey, -⟩ := memberField_eq_some.mp hf
    exact absurd (isKeyed_iff.mpr ⟨hkind, key, value, name, hcontent, hkey⟩) (by simp [hkeyed])

theorem exists_of_mem_fieldsOf {o : Options} {e : Element} {f : Field} (hf : f ∈ fieldsOf o e) :
    ∃ child, FieldOf o child f := by
  rw [fieldsOf, ownFields, Noted.value_choose, List.mem_filterMap] at hf
  obtain ⟨child, -, hchild⟩ := hf
  exact ⟨child, (memberField_eq_some.mp hchild).2⟩

theorem exists_of_mem_fieldsNamed {o : Options} {ds : Definitions} {name : String} {f : Field}
    (hf : f ∈ fieldsNamed o ds name) : ∃ e, ds.get? name = some e ∧ f ∈ fieldsOf o e := by
  rw [fieldsNamed] at hf
  cases he : ds.get? name with
  | none => simp [he] at hf
  | some e => exact ⟨e, rfl, by simpa [he] using hf⟩

/-- A field of a model, whether it is merged into it or not, is that of some member. -/
theorem exists_of_mem_fields {o : Options} {d : Document} {m : Model}
    (hm : m ∈ (extractModels o d).value) {f : Field} (hf : f ∈ m.fields) :
    ∃ child, FieldOf o child f := by
  obtain ⟨e, he, hme⟩ := mem_extractModels.mp hm
  rw [hme] at hf
  cases hflat : flattensAt o e with
  | true =>
    rw [fields_modelOf_of_flattens hflat, List.mem_flatMap] at hf
    obtain ⟨a, -, ha⟩ := hf
    obtain ⟨e', -, hown⟩ := exists_of_mem_fieldsNamed ha
    exact exists_of_mem_fieldsOf hown
  | false =>
    rw [fields_modelOf_of_not_flattens hflat] at hf
    obtain ⟨e', -, hown⟩ := exists_of_mem_fieldsNamed hf
    exact exists_of_mem_fieldsOf hown

theorem name_of_mem_fields {o : Options} {d : Document} {m : Model}
    (hm : m ∈ (extractModels o d).value) : ∀ f ∈ m.fields, f.name = Name.ofString f.name.spelling := by
  intro f hf
  obtain ⟨child, key, value, name, -, -, rfl⟩ := exists_of_mem_fields hm hf
  rfl

/-! ## Pairs -/

/-- Whether an element is a member with a key and perhaps a value. -/
def isPair (e : Element) : Bool := e.kind = Element.memberKind && e.memberContent.isSome

theorem memberField_of_not_isPair (o : Options) (owner : Element) {child : Element}
    (h : isPair child = false) : (memberField o owner child).value = none := by
  rw [Option.eq_none_iff_forall_ne_some]
  intro f hf
  obtain ⟨hkind, key, value, name, hcontent, -⟩ := memberField_eq_some.mp hf
  simp [isPair, hkind, hcontent] at h

theorem memberField_of_isPair {o : Options} {owner child : Element} (h : isPair child = true)
    (hnotes : (memberField o owner child).notes = []) :
    ∃ f, (memberField o owner child).value = some f ∧ FieldOf o child f := by
  obtain ⟨hkind, hcontent⟩ : child.kind = Element.memberKind ∧ child.memberContent.isSome = true := by
    simpa [isPair] using h
  obtain ⟨⟨key, value⟩, hpair⟩ := Option.isSome_iff_exists.mp hcontent
  rw [memberField, if_neg (not_not.mpr hkind), hpair] at hnotes ⊢
  dsimp only at hnotes ⊢
  cases hkey : key.stringValue with
  | none => simp [hkey, Noted.note] at hnotes
  | some name =>
    exact ⟨_, rfl, key, value, name, hpair, hkey, rfl⟩

theorem forall₂_fieldsOf {o : Options} {e : Element}
    (h : Diagnostic.skips (ownFields o e).notes = []) :
    List.Forall₂ (FieldOf o) (e.children.filter isPair) (fieldsOf o e) := by
  rw [Diagnostic.skips_eq_self fun n hn => by rw [eq_of_mem_notes_ownFields hn]; rfl, ownFields,
    Noted.notes_choose, List.flatMap_eq_nil_iff] at h
  rw [fieldsOf, ownFields, Noted.value_choose]
  exact forall₂_filter_filterMap (fun child hchild hpair => memberField_of_isPair hpair (h child hchild))
    fun child _ hpair => memberField_of_not_isPair o e hpair

/-! ## Errors about pairs -/

/-- The children of an element that are members with a key and perhaps a value, in order. -/
def pairs (e : Element) : List Element := e.children.filter isPair

theorem isPair_of_isKeyed {e : Element} (h : isKeyed e = true) : isPair e = true := by
  obtain ⟨hkind, key, value, name, hcontent, -⟩ := isKeyed_iff.mp h
  simp [isPair, hkind, hcontent]

theorem filter_isKeyed_pairs (e : Element) : (pairs e).filter isKeyed = e.children.filter isKeyed := by
  rw [pairs, List.filter_filter]
  refine List.filter_congr fun child _ => ?_
  cases h : isKeyed child with
  | true => simp [isPair_of_isKeyed h]
  | false => rfl

theorem notes_memberField_eq (o : Options) (owner child : Element) :
    (memberField o owner child).notes =
      if isPair child && !isKeyed child then [unnamedField owner] else [] := by
  rw [memberField]
  by_cases hkind : child.kind = Element.memberKind
  · rw [if_neg (not_not.mpr hkind)]
    cases hcontent : child.memberContent with
    | none => simp [isPair, hcontent]
    | some p =>
      obtain ⟨key, value⟩ := p
      cases hkey : key.stringValue <;>
        simp [isPair, isKeyed, hkind, hcontent, hkey, Noted.note]
  · simp [isPair, hkind]

/-- One error is recorded for each pair whose key holds no string, in order, and no other remark. -/
theorem notes_ownFields (o : Options) (e : Element) : (ownFields o e).notes =
    ((pairs e).filter (!isKeyed ·)).map fun _ => unnamedField e := by
  have hpairs : (pairs e).filter (!isKeyed ·) =
      e.children.filter fun child => !(!(isPair child && !isKeyed child)) := by
    rw [pairs, List.filter_filter]
    exact List.filter_congr fun child _ => by rw [Bool.not_not, Bool.and_comm]
  rw [hpairs]
  refine Noted.notes_choose_eq (fun child _ h => ?_) fun child _ h => ?_
  · rw [Bool.not_eq_true'] at h
    rw [notes_memberField_eq, h]
    rfl
  · rw [Bool.not_eq_false'] at h
    rw [notes_memberField_eq, h]
    rfl

end Blueprint.Api
