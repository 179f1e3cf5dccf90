import Blueprint.Java.Controller
import Blueprint.Proofs.Models.Flattening
import Blueprint.Proofs.Transform

/-!
# Parent classes

* `classOf`: the class of a definition.
* `parentClass_eq_some`: a model has a parent class exactly if it does not flatten and its
  definition extends another.
* **`parentClass_or_ancestors`**: a model that flattens has no parent class, and its fields are the
  own fields of its definition and of all ancestors. One with a parent class has the fields of its
  own members alone, and the class is that of another model, whose source is generated as well. One
  that does not flatten has the class of the model that its element's kind names.
-/

namespace Blueprint.Api

open Ast

variable {compile? : String → Option (String → Bool)} {o : Options} {d : Document} {m : Model}

/-- The class of a definition. -/
def classOf (name : String) : String := (Name.ofString name).pascal

theorem className_of_mem (hm : m ∈ (extractModels o d).value) : m.className = classOf m.name := by
  obtain ⟨e, -, hme⟩ := mem_extractModels.mp hm
  rw [hme, modelOf_eq]
  rfl

theorem parentName?_eq_some {ds : Definitions} {name b : String} {e : Element}
    (he : ds.get? name = some e) : parentName? ds name e = some b ↔ Extends ds name b := by
  rw [parentName?]
  constructor
  · intro h
    split at h
    · rename_i hother
      obtain rfl := Option.some.inj h
      exact ⟨e, he, rfl, hother.1, Dictionary.isSome_get?.mp hother.2⟩
    · exact nomatch h
  · rintro ⟨e', he', rfl, hne, hkey⟩
    obtain rfl : e = e' := Option.some.inj (he.symm.trans he')
    rw [if_pos ⟨hne, Dictionary.isSome_get?.mpr hkey⟩]

theorem parentClass_eq_some (hm : m ∈ (extractModels o d).value) {c : String} :
    m.parentClass = some c ↔
      m.flattens = false ∧ ∃ b, Extends (collected o d) m.name b ∧ classOf b = c := by
  obtain ⟨e, he, hme⟩ := mem_extractModels.mp hm
  have hparent : m.parentClass = if m.flattens then none
      else (parentName? (collected o d) m.name e).map classOf := by
    rw [hme, flattens_modelOf, name_modelOf, modelOf_eq]
    rfl
  rw [hparent]
  cases m.flattens
  · simp [parentName?_eq_some he]
  · simp

theorem exists_element (hm : m ∈ (extractModels o d).value) :
    ∃ e, (collected o d).get? m.name = some e ∧
      (candidatesOf d.content).find? (fun e => e.id = some m.name) = some e ∧
      (m.flattens = false → List.Forall₂ (FieldOf o) (e.children.filter isKeyed) m.fields) := by
  obtain ⟨e, he, -⟩ := mem_extractModels.mp hm
  refine ⟨e, he, find?_of_get?_collected he, fun hf => ?_⟩
  rw [fields_of_not_flattens hm hf, fieldsNamed_of_get? o he]
  exact forall₂_fieldsOf_isKeyed o e

theorem mem_fields_of_flattens (hm : m ∈ (extractModels o d).value) (hf : m.flattens = true)
    {f : Field} : f ∈ m.fields ↔
      ∃ b, Above (collected o d) m.name b ∧ f ∈ fieldsNamed o (collected o d) b := by
  rw [fields_eq_flatMap hm hf, List.mem_flatMap]
  simp only [List.mem_reverse, mem_chainOf]

theorem path_mem_generate {api : Api} (h : (transformWith compile? o d).value = .ok api)
    (hm : m ∈ (extractModels o d).value) (s : Java.Setup) :
    Java.classPath "model" m.className ∈ (Java.generate s api).map (·.path) := by
  rw [← models_of_transformWith_eq_ok h] at hm
  have hfile : Java.modelFile s m ∈ Java.generate s api :=
    List.mem_append_right _ (List.mem_map_of_mem hm)
  exact List.mem_map_of_mem (f := (·.path)) hfile

/-- **A model has a parent class or the fields of its ancestors, never both.** -/
theorem parentClass_or_ancestors (hm : m ∈ (extractModels o d).value) :
    ∃ e, (candidatesOf d.content).find? (fun e => e.id = some m.name) = some e ∧
      (m.flattens = true → m.parentClass = none ∧ ∀ f, f ∈ m.fields ↔
        ∃ b, Above (collected o d) m.name b ∧ f ∈ fieldsNamed o (collected o d) b) ∧
      (∀ c, m.parentClass = some c → m.flattens = false ∧
        List.Forall₂ (FieldOf o) (e.children.filter isKeyed) m.fields ∧
        (∃ p ∈ (extractModels o d).value, p.name ≠ m.name ∧ p.className = c) ∧
        ∀ compile? s api, (transformWith compile? o d).value = .ok api →
          Java.classPath "model" c ∈ (Java.generate s api).map (·.path)) ∧
      (m.flattens = false → ∀ p ∈ (extractModels o d).value, p.name ≠ m.name → e.kind = p.name →
        m.parentClass = some p.className) := by
  obtain ⟨e, he, hfind, hown⟩ := exists_element hm
  refine ⟨e, hfind, fun hf => ⟨?_, fun f => mem_fields_of_flattens hm hf⟩, fun c hc => ?_,
    fun hf p hp hne hkind => ?_⟩
  · rw [Option.eq_none_iff_forall_ne_some]
    intro c hc
    exact absurd ((parentClass_eq_some hm).mp hc).1 (by simp [hf])
  · obtain ⟨hf, b, hext, rfl⟩ := (parentClass_eq_some hm).mp hc
    obtain ⟨p, hp, rfl⟩ := exists_model o d hext.mem_right
    have hclass := className_of_mem hp
    obtain ⟨-, -, -, hne, -⟩ := hext
    refine ⟨hf, hown hf, ⟨p, hp, hne, hclass⟩, fun compile? s api hapi => ?_⟩
    rw [← hclass]
    exact path_mem_generate hapi hp s
  · have hkey : p.name ∈ (collected o d).keys := by
      rw [← names_extractModels]
      exact List.mem_map_of_mem hp
    rw [className_of_mem hp]
    exact (parentClass_eq_some hm).mpr ⟨hf, p.name, ⟨e, he, hkind, hne, hkey⟩, rfl⟩

/-- The last of three generations has a parent class, and the second has the field of the first. -/
theorem parentClass_or_ancestors_threeGenerations :
    (∃ m ∈ (extractModels {} threeGenerations).value, m.parentClass = some "B" ∧
      m.flattens = false ∧
      ∃ p ∈ (extractModels {} threeGenerations).value, p.name ≠ m.name ∧ p.className = "B") ∧
    ∃ m ∈ (extractModels {} threeGenerations).value, m.flattens = true ∧ m.name = "B" ∧
      m.parentClass = none ∧ ∃ f ∈ m.fields, f.name.camel = "a" := by
  obtain ⟨m, hm, hparent⟩ : ∃ m ∈ (extractModels {} threeGenerations).value,
      m.parentClass = some "B" := by decide +kernel
  obtain ⟨n, hn, hf, hname, hfield⟩ : ∃ m ∈ (extractModels {} threeGenerations).value,
      m.flattens = true ∧ m.name = "B" ∧ ∃ f ∈ m.fields, f.name.camel = "a" := by decide +kernel
  obtain ⟨e, -, -, hinherits, -⟩ := parentClass_or_ancestors hm
  obtain ⟨e', -, hflat, -⟩ := parentClass_or_ancestors hn
  obtain ⟨hunflat, -, hother, -⟩ := hinherits "B" hparent
  exact ⟨⟨m, hm, hparent, hunflat, hother⟩, n, hn, hf, hname, (hflat hf).1, hfield⟩

end Blueprint.Api
