import Blueprint.Proofs.Groups.Payloads
import Blueprint.Proofs.Models.Fields
import Blueprint.Proofs.TypeName.Basic

/-!
# Inline objects

An element that is declared in place, by the members that it has. Members stand where the arguments
of a type do, so that more than one of them are shown as arguments.

* `IsInlineObject`: an element with members alone.
* `ShownAs`: what is shown by an element, a field and a payload.
* **`shownAs_inlineObject`**: an inline object shows its kind, with the type of a member for each of
  its members in brackets behind it; a single member shows no brackets.
* `not_typeName_inlineObject`: not every inline object shows its kind alone.
-/

namespace Blueprint.Api

open Ast Text

/-- An element with children, each of which is a member with a key and perhaps a value. -/
def IsInlineObject (e : Element) : Prop := e.children ≠ [] ∧ ∀ c ∈ e.children, isPair c = true

instance : DecidablePred IsInlineObject := fun e =>
  decidable_of_iff ((!e.children.isEmpty && e.children.all isPair) = true)
    (by simp [IsInlineObject])

/-- What an element shows by itself, as the value of a member and as the payload of an action. -/
structure ShownAs (e : Element) (type : String) : Prop where
  element : typeName e = type
  field : ∀ (o : Options) (owner child key : Element) (name : String),
    child.kind = Element.memberKind → child.memberContent = some (key, some e) →
      key.stringValue = some name →
        memberField o owner child = .pure (some { name := Name.ofString name, type })
  payload : ∀ (before after : List Element) (wrapper : Element),
    (∀ b ∈ before, ∀ only, ¬ Wraps b only) → Wraps wrapper e →
      contentType? (before ++ wrapper :: after) = some type

theorem shows_append {before after : List Element} {t : String}
    (hbefore : ∀ b ∈ before, ∀ only, ¬ Wraps b only) (h : Shows after t) :
    Shows (before ++ after) t := by
  induction before with
  | nil => exact h
  | cons b before ih =>
    have hrest := ih fun x hx => hbefore x (List.mem_cons_of_mem b hx)
    exact .later (hbefore b List.mem_cons_self) hrest

theorem shownAs_typeName (e : Element) : ShownAs e (typeName e) where
  element := rfl
  field o owner child key name hkind hcontent hkey := by
    rw [memberField, if_neg (not_not.mpr hkind), hcontent]
    simp only [hkey]
    rfl
  payload before after wrapper hbefore hwraps :=
    contentType?_eq_some.mpr (shows_append hbefore (.here hwraps))

/-! ## Members as arguments -/

theorem content_of_isPair {c : Element} (hc : isPair c = true) :
    c.kind = Element.memberKind ∧ ∃ key value, c.content = .member key value := by
  obtain ⟨hkind, hcontent⟩ : c.kind = Element.memberKind ∧ c.memberContent.isSome = true := by
    simpa [isPair] using hc
  refine ⟨hkind, ?_⟩
  cases h : c.content with
  | member key value => exact ⟨key, value, rfl⟩
  | _ => simp [Element.memberContent, h] at hcontent

theorem typeName_of_isPair {c : Element} (hc : isPair c = true) : typeName c = "Member" := by
  obtain ⟨hkind, key, value, hcontent⟩ := content_of_isPair hc
  have hnone : c.typeArguments = [] := by
    simp [Element.typeArguments, Element.children, hcontent, isWrapped]
  have hmember : mapType Element.memberKind = "Member" := by decide +kernel
  rw [typeName_eq, hnone, hkind, hmember]
  rfl

theorem isWrapped_inlineObject {e : Element} (he : IsInlineObject e) :
    isWrapped e.children = decide (e.children.length = 1) := by
  obtain ⟨hne, hpairs⟩ := he
  rcases h : e.children with _ | ⟨only, _ | ⟨second, rest⟩⟩
  · exact absurd h hne
  · obtain ⟨-, key, value, hcontent⟩ := content_of_isPair (hpairs only (by simp [h]))
    simp [isWrapped, hcontent]
  · simp [isWrapped]

/-- What stands behind the kind of an inline object with a number of members. -/
def memberArguments (n : Nat) : String := bracketed (if n = 1 then [] else List.replicate n "Member")

theorem typeName_inlineObject {e : Element} (he : IsInlineObject e) :
    typeName e = mapType e.kind ++ memberArguments e.children.length := by
  have htypes : e.children.map typeName = List.replicate e.children.length "Member" :=
    List.map_eq_replicate_iff.mpr fun c hc => typeName_of_isPair (he.2 c hc)
  rw [typeName_eq, Element.typeArguments, isWrapped_inlineObject he, memberArguments]
  by_cases h : e.children.length = 1
  · simp [h]
  · simp [h, htypes]

theorem memberArguments_eq_empty {n : Nat} (hn : n ≠ 0) : memberArguments n = "" ↔ n = 1 := by
  rw [memberArguments, bracketed]
  by_cases h : n = 1
  · simp [h]
  · simp [h, hn]

/-- **An inline object shows its kind and the number of its members**, whatever these hold. -/
theorem shownAs_inlineObject {e : Element} (he : IsInlineObject e) :
    ShownAs e (mapType e.kind ++ memberArguments e.children.length) ∧
      (typeName e = mapType e.kind ↔ e.children.length = 1) := by
  have htype := typeName_inlineObject he
  refine ⟨htype ▸ shownAs_typeName e, ?_⟩
  have hne : e.children.length ≠ 0 := fun h => he.1 (List.length_eq_zero_iff.mp h)
  rw [htype, String.append_eq_left_iff, memberArguments_eq_empty hne]

/-- An address with a street. -/
def addressElement : Element :=
  (Element.ofKind "object").withChildren [Element.member "street" (some (.ofKind "string"))]

/-- An order with a list and with a customer, who has an address. -/
def orderElement : Element :=
  (Element.ofKind "object").withChildren [
    Element.member "id" (some (.ofKind "number")),
    Element.member "customer" (some ((Element.ofKind "object").withChildren [
      Element.member "name" none, Element.member "address" (some addressElement)])),
    Element.member "tags" (some ((Element.ofKind "array").withChildren [.ofKind "string"]))]

/-- The order shows its three members and nothing of what is in them; the address shows its kind
alone. -/
theorem shownAs_inlineObject_order : IsInlineObject orderElement ∧
    typeName orderElement = "Object<Member, Member, Member>" ∧
    memberField {} (.ofKind "object") (Element.member "order" (some orderElement)) =
      .pure (some { name := Name.ofString "order", type := "Object<Member, Member, Member>" }) ∧
    contentType? [.ofKind "copy", (Element.ofKind Element.dataStructure).withChildren [orderElement]] =
      some "Object<Member, Member, Member>" ∧
    typeName addressElement = mapType addressElement.kind := by
  have horder : IsInlineObject orderElement := by decide
  have htype : mapType orderElement.kind ++ memberArguments orderElement.children.length =
      "Object<Member, Member, Member>" := by decide +kernel
  obtain ⟨hshown, -⟩ := shownAs_inlineObject horder
  rw [htype] at hshown
  have hcopy : ∀ b ∈ [Element.ofKind "copy"], ∀ only, ¬ Wraps b only := by
    intro b hb only hwraps
    rw [List.mem_singleton.mp hb] at hwraps
    exact absurd hwraps.1 (by decide)
  obtain ⟨-, haddress⟩ := shownAs_inlineObject (e := addressElement) (by decide)
  exact ⟨horder, hshown.element, hshown.field _ _ _ _ "order" rfl rfl rfl,
    hshown.payload [.ofKind "copy"] [] _ hcopy ⟨rfl, rfl⟩, haddress.mpr rfl⟩

/-- One with more than one member shows more than its kind. -/
theorem not_typeName_inlineObject :
    ¬ ∀ e : Element, IsInlineObject e → typeName e = mapType e.kind := by
  intro h
  have hkind := h orderElement (by decide)
  exact absurd hkind (by decide +kernel)

end Blueprint.Api
