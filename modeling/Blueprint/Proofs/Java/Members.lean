import Blueprint.Java.Model
import Blueprint.Proofs.Name.Ascii
import Mathlib.Data.List.Nodup

/-!
# What a class declares

* `identifier_inj`: names without an underscore stay different where they are declared.
* **`nodup_fieldNames`**: a class declares no field twice exactly if the names of its fields differ
  in camel case; **`nodup_accessorNames`**: and no accessor twice exactly if they differ in Pascal
  case.
* `nodup_pascal`: names in ASCII that differ in camel case differ in Pascal case.
-/

namespace Blueprint.Java

open Text

theorem nodup_map_congr {α β γ : Type} {f : α → β} {g : α → γ} {items : List α}
    (h : ∀ a ∈ items, ∀ b ∈ items, f a = f b ↔ g a = g b) :
    (items.map f).Nodup ↔ (items.map g).Nodup := by
  rw [List.Nodup, List.Nodup, List.pairwise_map, List.pairwise_map]
  exact List.Pairwise.iff_of_mem fun {a b} ha hb => not_congr (h a ha b hb)

/-- The names of the accessors of a class. -/
def accessorNames (fs : List Api.Field) : List String := fs.map getterName ++ fs.map setterName

theorem identifier_inj {a b : String} (ha : '_' ∉ a.toList) (hb : '_' ∉ b.toList)
    (h : identifier a = identifier b) : a = b := by
  have hmark : ∀ x : String, '_' ∈ (x ++ "_").toList := by simp
  rw [identifier, identifier] at h
  split at h <;> split at h
  · exact String.toList_inj.mp (by simpa using congrArg String.toList h)
  · exact absurd (h ▸ hmark a) hb
  · exact absurd (h ▸ hmark b) ha
  · exact h

theorem getterName_inj {f g : Api.Field} :
    getterName f = getterName g ↔ f.name.pascal = g.name.pascal := by
  simp [getterName]

theorem setterName_inj {f g : Api.Field} :
    setterName f = setterName g ↔ f.name.pascal = g.name.pascal := by
  simp [setterName]

theorem getterName_ne_setterName (f g : Api.Field) : getterName f ≠ setterName g := by
  intro h
  have hchars := congrArg String.toList h
  simp [getterName, setterName] at hchars

/-- **The accessors of a class are distinct exactly if the names of its fields are**, in Pascal
case. -/
theorem nodup_accessorNames (fs : List Api.Field) :
    (accessorNames fs).Nodup ↔ (fs.map (·.name.pascal)).Nodup := by
  have hgetters : (fs.map getterName).Nodup ↔ (fs.map (·.name.pascal)).Nodup :=
    nodup_map_congr fun _ _ _ _ => getterName_inj
  have hsetters : (fs.map setterName).Nodup ↔ (fs.map (·.name.pascal)).Nodup :=
    nodup_map_congr fun _ _ _ _ => setterName_inj
  have hdisjoint : List.Disjoint (fs.map getterName) (fs.map setterName) := by
    intro name hget hset
    obtain ⟨f, -, rfl⟩ := List.mem_map.mp hget
    obtain ⟨g, -, hg⟩ := List.mem_map.mp hset
    exact getterName_ne_setterName f g hg.symm
  rw [accessorNames, List.nodup_append', hgetters, hsetters]
  exact ⟨fun h => h.1, fun h => ⟨h, h, hdisjoint⟩⟩

variable {fs : List Api.Field} (hnames : ∀ f ∈ fs, f.name = Name.ofString f.name.spelling)
include hnames

/-- **The fields of a class are distinct exactly if their names are**, in camel case. -/
theorem nodup_fieldNames : (fs.map fieldName).Nodup ↔ (fs.map (·.name.camel)).Nodup := by
  have hmark : ∀ f ∈ fs, '_' ∉ f.name.camel.toList := fun f hf => by
    rw [hnames f hf]
    exact Name.underscore_notMem_camel _
  refine nodup_map_congr fun f hf g hg => ⟨fun h => ?_, fun h => ?_⟩
  · exact identifier_inj (hmark f hf) (hmark g hg) h
  · rw [fieldName, fieldName, h]

theorem nodup_pascal (hascii : ∀ f ∈ fs, IsAscii f.name.spelling)
    (h : (fs.map (·.name.camel)).Nodup) : (fs.map (·.name.pascal)).Nodup := by
  rw [List.Nodup, List.pairwise_map] at h ⊢
  refine h.imp_of_mem fun {f g} hf hg hcamel hpascal => hcamel ?_
  rw [hnames f hf, hnames g hg] at hpascal ⊢
  exact Name.camel_eq_of_pascal_eq (hascii f hf) (hascii g hg) hpascal

end Blueprint.Java
