import Blueprint.Proofs.Models.Flattening

/-!
# Models that are left out

What happens to the other models when one more is left out.

* `AddsSkip`: one more name is left out; `collected_skipping`: the definitions lose all of that
  name.
* `Ascent.without`, `chainOf_without`: a way up that does not pass the name stays as it is.
* `modelOf_without`: so does the model of a definition that the name is not above.
* **`extractModels_skipping`**: the other models keep their order, and only those that the name is
  above change, in their fields or their parent class.
-/

namespace Blueprint.Api

open Ast Text Dictionary

variable {o : Options} {skips : List String} {s : String}

/-! ## Definitions -/

/-- One more name is left out. -/
def AddsSkip (o : Options) (s : String) (skips : List String) : Prop :=
  ∀ name, name ∈ skips ↔ name = s ∨ name ∈ o.skipModels

theorem addsSkip_insertName (o : Options) (s : String) :
    AddsSkip o s (insertName s o.skipModels) := by
  intro name
  induction o.skipModels with
  | nil => simp [insertName]
  | cons t rest ih =>
    rw [insertName]
    split
    · rename_i heq
      simp [heq]
    · split
      · rw [List.mem_cons]
      · rw [List.mem_cons, ih, List.mem_cons, or_left_comm]

section

variable (h : AddsSkip o s skips)
include h

theorem isSkipped_skipping (name : String) :
    isSkipped { o with skipModels := skips } name = (name = s || isSkipped o name) := by
  have hnames : skips.contains name = (name = s || o.skipModels.contains name) := by
    rw [Bool.eq_iff_iff]
    simpa using h name
  rw [isSkipped, isSkipped, ← Bool.or_assoc, ← hnames]

theorem kept?_skipping (e : Element) :
    kept? { o with skipModels := skips } e = (kept? o e).filter (·.1 ≠ s) := by
  cases hid : e.id with
  | none => rw [kept?_of_none _ hid, kept?_of_none _ hid, Option.filter_none]
  | some name =>
    rw [kept?_of_some _ hid, kept?_of_some _ hid, isSkipped_skipping h]
    by_cases hname : name = s <;> cases isSkipped o name <;> simp [hname, Option.filter_some]

/-- The definitions lose the one of the name, and no later one of that name takes its place. -/
theorem collected_skipping (d : Document) :
    collected { o with skipModels := skips } d = without s (collected o d) := by
  have hentries : (candidatesOf d.content).filterMap (kept? { o with skipModels := skips }) =
      without s ((candidatesOf d.content).filterMap (kept? o)) := by
    rw [without, List.filter_filterMap]
    exact List.filterMap_congr fun e _ => kept?_skipping h e
  rw [collected, collected, without_ofFirst, hentries]

end

/-! ## The way up -/

variable {ds : Definitions} {name : String} {e : Element}

theorem Ascent.without {visited further : List String} {current : String} {repeated : Option String}
    (h : Ascent ds visited current further repeated) (hvisited : s ∉ visited) (hs : s ∉ further) :
    Ascent (Dictionary.without s ds) visited current further repeated := by
  induction h with
  | @out visited current hnone =>
    by_cases hcurrent : current = s
    · exact .out (hcurrent ▸ get?_without_self s ds)
    · exact .out ((get?_without hcurrent ds).trans hnone)
  | back he hv =>
    have hne := ne_of_mem_of_not_mem hv hvisited
    exact .back ((get?_without hne ds).trans he) hv
  | up he hv _ ih =>
    obtain ⟨hne, hs⟩ := not_or.mp (List.mem_cons.not.mp hs)
    refine .up ((get?_without (Ne.symm hne) ds).trans he) hv (ih ?_ hs)
    simpa [hvisited] using hne

theorem chainOf_without (hs : s ∉ chainOf ds name) :
    chainOf (Dictionary.without s ds) name = chainOf ds name := by
  obtain ⟨repeated, hup⟩ := ascent_chainOf ds name
  obtain ⟨repeated', hup'⟩ := ascent_chainOf (Dictionary.without s ds) name
  exact hup'.unique (hup.without List.not_mem_nil hs)

/-! ## Models -/

theorem fieldsNamed_without (o : Options) (hname : name ≠ s) :
    fieldsNamed o (Dictionary.without s ds) name = fieldsNamed o ds name := by
  rw [fieldsNamed, fieldsNamed, get?_without hname]

theorem parentName?_without (he : ds.get? name = some e) (hs : ¬ Above ds name s) :
    parentName? (Dictionary.without s ds) name e = parentName? ds name e := by
  rw [parentName?, parentName?]
  by_cases hkind : e.kind = s
  · -- the kind is the name of the definition itself, or of none that it could extend
    rw [if_neg, if_neg]
    · rintro ⟨hne, hkey⟩
      have hext : Extends ds name s := ⟨e, he, hkind, hkind ▸ hne, hkind ▸ isSome_get?.mp hkey⟩
      exact hs ⟨mem_keys_of_get? he, .single hext⟩
    · rintro ⟨-, hkey⟩
      simp [hkind, get?_without_self] at hkey
  · rw [get?_without hkind]

/-- The model of a definition does not depend on one that is not above it. -/
theorem modelOf_without (he : ds.get? name = some e) (hs : ¬ Above ds name s) :
    modelOf o (Dictionary.without s ds) name e = modelOf o ds name e := by
  have hchain : s ∉ chainOf ds name := fun h => hs (mem_chainOf.mp h)
  have hname : name ≠ s := by
    rintro rfl
    exact hs ⟨mem_keys_of_get? he, .refl⟩
  have hfields : (chainOf ds name).reverse.flatMap (fieldsNamed o (Dictionary.without s ds)) =
      (chainOf ds name).reverse.flatMap (fieldsNamed o ds) :=
    List.flatMap_congr fun a ha =>
      fieldsNamed_without o (ne_of_mem_of_not_mem (List.mem_reverse.mp ha) hchain)
  rw [modelOf_eq, modelOf_eq, chainOf_without hchain, hfields, fieldsNamed_without o hname,
    parentName?_without he hs]

/-- What becomes of a model when a name is left out: at most its fields and its parent class change,
and they do so only if the definition of that name is above the one that the model is made of. -/
structure LocalChange (ds : Definitions) (s : String) (m m' : Model) : Prop where
  frame : { m' with fields := m.fields, parentClass := m.parentClass } = m
  unchanged : ¬ Above ds m.name s → m' = m

theorem localChange_modelOf (he : ds.get? name = some e) :
    LocalChange ds s (modelOf o ds name e)
      (modelOf { o with skipModels := skips } (Dictionary.without s ds) name e) where
  frame := by
    rw [modelOf_eq, modelOf_eq]
    rfl
  unchanged hs := by
    rw [name_modelOf] at hs
    rw [← modelOf_without he hs, modelOf_eq, modelOf_eq]
    rfl

/-- **A model that is left out leaves the others in order**, and those it is not above as they
are. -/
theorem extractModels_skipping (h : AddsSkip o s skips) (d : Document) :
    List.Forall₂ (LocalChange (collected o d) s) ((extractModels o d).value.filter (·.name ≠ s))
      (extractModels { o with skipModels := skips } d).value := by
  have hkept : (extractModels o d).value.filter (·.name ≠ s) =
      (Dictionary.without s (collected o d)).map fun p => modelOf o (collected o d) p.1 p.2 := by
    rw [value_extractModels, List.filter_map, Dictionary.without]
    congr 1
    exact List.filter_congr fun p _ => by simp
  rw [hkept, value_extractModels, collected_skipping h]
  refine List.forall₂_map_left_iff.mpr <| List.forall₂_map_right_iff.mpr <|
    List.forall₂_same.mpr fun p hp => localChange_modelOf ?_
  exact get?_of_mem (nodup_keys_collected o d) (List.mem_filter.mp hp).1

/-- Two definitions of one name, one that extends it and one that does not. -/
def skippedDocument : Document :=
  { content := [
      { kind := Element.dataStructure
        content := .elements [heir "A" "object" "a" none, heir "B" "A" "b" none,
          heir "A" "object" "again" none, heir "C" "object" "c" none] }] }

/-- The model that extends the one left out loses its fields, and the other stays as it is. -/
theorem extractModels_skipping_again :
    let skips := insertName "A" flattening.skipModels
    AddsSkip flattening "A" skips ∧
      ∃ b b' c, (extractModels flattening skippedDocument).value.filter (·.name ≠ "A") = [b, c] ∧
        (extractModels { flattening with skipModels := skips } skippedDocument).value = [b', c] ∧
        b.fields.map (·.name.spelling) = ["a", "b"] ∧ b'.fields.map (·.name.spelling) = ["b"] ∧
        c.name = "C" ∧ ¬ Above (collected flattening skippedDocument) c.name "A" := by
  intro skips
  have hskips : AddsSkip flattening "A" skips := addsSkip_insertName flattening "A"
  obtain ⟨b, c, hkept, hfields, hname⟩ :
      ∃ b c, (extractModels flattening skippedDocument).value.filter (·.name ≠ "A") = [b, c] ∧
        b.fields.map (·.name.spelling) = ["a", "b"] ∧ c.name = "C" := ⟨_, _, rfl, rfl, rfl⟩
  have habove : ¬ Above (collected flattening skippedDocument) c.name "A" := by
    rw [hname, ← mem_chainOf]
    decide
  have hlocal := extractModels_skipping hskips skippedDocument
  rw [hkept] at hlocal
  obtain ⟨b', others, -, hothers, hmodels⟩ := List.forall₂_cons_left_iff.mp hlocal
  obtain ⟨c', rest, hc, hrest, rfl⟩ := List.forall₂_cons_left_iff.mp hothers
  obtain rfl := List.forall₂_nil_left_iff.mp hrest
  obtain rfl := hc.unchanged habove
  have hleft : (extractModels { flattening with skipModels := skips } skippedDocument).value.map
      (fun m => m.fields.map (·.name.spelling)) = [["b"], ["c"]] := rfl
  rw [hmodels] at hleft
  exact ⟨hskips, b, b', c', hkept, hmodels, hfields, (List.cons.inj hleft).1, hname, habove⟩

end Blueprint.Api
