import Blueprint.Proofs.Name.Casings
import Blueprint.TypeName

/-!
# Kinds and the types of elements

* `IsPlainKind`: a kind of ASCII letters, digits and blanks alone; `isAlphanum_of_mem_mapType`: its
  type has ASCII letters and digits alone. `mapType_ne_empty`: no type of a kind is empty.
* **`mapType_eq_pascal`**: the type of a kind that is not in the table is its casing as a name.
* `typeArguments`: the children that are type arguments; **`typeName_eq`**: an element is shown as
  the type of its kind with the types of these in brackets.
-/

namespace Blueprint

open Ast Text Unicode

/-! ## Kinds -/

/-- A kind of ASCII letters, digits and blanks alone. -/
def IsPlainKind (kind : String) : Prop := ∀ c ∈ kind.toList, isKindChar c = true

instance : DecidablePred IsPlainKind := fun kind =>
  List.decidableBAll (fun c : Char => isKindChar c = true) kind.toList

/-- The kinds with a type of their own. -/
def tableKinds : List String := ["number", "array", "int", "double", "boolean", "float"]

theorem mapType_of_notMem {kind : String} (hblank : isBlank kind = false) (hkind : IsPlainKind kind)
    (htable : kind ∉ tableKinds) : mapType kind = toPascal kind := by
  have hall : kind.toList.all isKindChar = true := List.all_eq_true.mpr hkind
  simp only [tableKinds, List.mem_cons, List.not_mem_nil, or_false, not_or] at htable
  obtain ⟨hnumber, harray, hint, hdouble, hboolean, hfloat⟩ := htable
  simp [mapType, hblank, hall, hnumber, harray, hint, hdouble, hboolean, hfloat]

/-- A letter or digit of a plain kind is one of ASCII: its other characters are blanks. -/
theorem isAlphanum_of_isKindChar {c : Char} (hkind : isKindChar c = true)
    (hc : isAlphanumeric c = true) : c.isAlphanum = true := by
  rcases Bool.or_eq_true _ _ |>.mp hkind with h | h
  · exact h
  · rw [isAlphanumeric_of_isWhiteSpace h] at hc
    exact nomatch hc

theorem isAlphanum_of_mem_words {kind : String} (hkind : IsPlainKind kind) {w : List Char}
    (hw : w ∈ words kind.toList) {c : Char} (hc : c ∈ w) : c.isAlphanum = true := by
  have hmem : c ∈ (words kind.toList).flatten := List.mem_flatten.mpr ⟨w, hw, hc⟩
  rw [flatten_words] at hmem
  obtain ⟨hin, halpha⟩ := List.mem_filter.mp hmem
  exact isAlphanum_of_isKindChar (hkind c hin) halpha

theorem isAlphanum_of_mem_toPascal {kind : String} (hkind : IsPlainKind kind) :
    ∀ c ∈ (toPascal kind).toList, c.isAlphanum = true := by
  rw [toPascal, String.toList_ofList, Text.pascal]
  intro x hx
  obtain ⟨w, hw, hx⟩ := List.mem_flatMap.mp hx
  have hword := fun c hc => isAlphanum_of_mem_words hkind hw (c := c) hc
  rw [capitalize_eq fun c hc => lt_of_isAlphanum (hword c hc)] at hx
  exact isAlphanum_of_mem_capitalized hword x hx

/-- The types of the kinds of the table and of a blank kind. -/
def tableTypes : List String := [objectType, "Integer", "List", "int", "double", "boolean", "float"]

theorem mapType_mem_or {kind : String} (hkind : IsPlainKind kind) :
    mapType kind ∈ tableTypes ∨ mapType kind = toPascal kind := by
  cases hblank : isBlank kind with
  | true =>
    left
    rw [mapType, if_pos hblank]
    decide
  | false =>
    by_cases htable : kind ∈ tableKinds
    · have hall : ∀ k ∈ tableKinds, mapType k ∈ tableTypes := by decide
      exact .inl (hall kind htable)
    · exact .inr (mapType_of_notMem hblank hkind htable)

theorem isAlphanum_of_mem_mapType {kind : String} (hkind : IsPlainKind kind) :
    ∀ c ∈ (mapType kind).toList, c.isAlphanum = true := by
  rcases mapType_mem_or hkind with h | h
  · have hall : ∀ t ∈ tableTypes, t.toList.all Char.isAlphanum = true := by decide
    exact List.all_eq_true.mp (hall _ h)
  · rw [h]
    exact isAlphanum_of_mem_toPascal hkind

theorem filter_ne_nil_of_isPlainKind {kind : String} (hblank : isBlank kind = false)
    (hkind : IsPlainKind kind) : kind.toList.filter isAlphanumeric ≠ [] := by
  obtain ⟨c, hc, hsolid⟩ : ∃ c ∈ kind.toList, isWhiteSpace c = false := by
    simpa [isBlank] using hblank
  have halpha : c.isAlphanum = true := by
    simpa [isKindChar, hsolid, isAsciiAlphanumeric] using hkind c hc
  rw [← isAlphanumeric_of_lt (lt_of_isAlphanum halpha)] at halpha
  exact List.ne_nil_of_mem (List.mem_filter.mpr ⟨hc, halpha⟩)

theorem toPascal_eq_pascal {kind : String} (h : kind.toList.filter isAlphanumeric ≠ []) :
    toPascal kind = (Name.ofString kind).pascal := by
  rw [toPascal, Name.ofString, Name.words_sanitize, if_neg h]

theorem mapType_ne_empty (kind : String) : mapType kind ≠ "" := by
  cases hblank : isBlank kind with
  | true =>
    rw [mapType, if_pos hblank]
    decide
  | false =>
    by_cases hkind : IsPlainKind kind
    · rcases mapType_mem_or hkind with h | h
      · have hall : ∀ t ∈ tableTypes, t ≠ "" := by decide
        exact hall _ h
      · rw [h, toPascal_eq_pascal (filter_ne_nil_of_isPlainKind hblank hkind)]
        exact Name.pascal_ne_empty kind
    · have hall : kind.toList.all isKindChar = false := by
        rw [← Bool.not_eq_true, List.all_eq_true]
        exact hkind
      rw [mapType, if_neg (by simp [hblank]), if_pos (by simp [hall])]
      rintro rfl
      exact absurd hblank (by decide)

/-! ## Type arguments -/

/-- Whether children are a single one with a plain value or with the key and value of a member. -/
def isWrapped : List Element → Bool
  | [only] => match only.content with
    | .member _ _ => true
    | .value _ => true
    | _ => false
  | _ => false

/-- The children of an element whose types are the arguments of its own. -/
def Ast.Element.typeArguments (e : Element) : List Element :=
  if isWrapped e.children then [] else e.children

theorem Ast.Element.mem_children_of_mem_typeArguments {e c : Element} (hc : c ∈ e.typeArguments) :
    c ∈ e.children := by
  rw [typeArguments] at hc
  split at hc
  · exact nomatch hc
  · exact hc

/-- Types as arguments, in brackets; none if there are no types. -/
def bracketed (types : List String) : String :=
  if types = [] then "" else "<" ++ joined ", " types ++ ">"

theorem areArguments_eq (es : List Element) :
    areArguments es = (!isWrapped es && !es.isEmpty) := by
  match es with
  | [] => rfl
  | [only] =>
    obtain ⟨kind, name, info, description, content⟩ := only
    cases content <;> rfl
  | _ :: _ :: _ => rfl

theorem typeNames_eq_map (es : List Element) : typeNames es = es.map typeName := by
  induction es with
  | nil => rfl
  | cons e rest ih => rw [typeNames, ih, List.map_cons]

/-- **An element is shown as the type of its kind** with the types of its arguments in brackets. -/
theorem typeName_eq (e : Element) :
    typeName e = mapType e.kind ++ bracketed (e.typeArguments.map typeName) := by
  have hnone : ∀ t : String, t = t ++ bracketed [] := fun t => (String.append_empty).symm
  obtain ⟨kind, name, info, description, content⟩ := e
  cases content with
  | elements items =>
    rw [typeName, areArguments_eq, typeNames_eq_map, Element.typeArguments]
    change _ = mapType kind ++ bracketed ((if isWrapped items then [] else items).map typeName)
    cases isWrapped items with
    | true => exact hnone _
    | false =>
      cases items with
      | nil => exact hnone _
      | cons e rest => simp [bracketed, String.append_assoc]
  | absent => exact hnone _
  | member key value => exact hnone _
  | value json => exact hnone _

/-- No element is shown as nothing. -/
theorem typeName_ne_empty (e : Element) : typeName e ≠ "" := by
  rw [typeName_eq, Ne, String.append_eq_empty_iff]
  exact fun h => mapType_ne_empty e.kind h.1

end Blueprint
