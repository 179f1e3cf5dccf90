import Blueprint.Proofs.Name
import Blueprint.Proofs.Text.Ascii

/-!
# Names in ASCII

* `exists_pascal_eq`: a name in ASCII differs in Pascal and camel case in the case of the first
  character alone; **`camel_eq_of_pascal_eq`**: so names that agree in Pascal case agree in camel
  case.
-/

namespace Blueprint

open Text Unicode

namespace Text

/-- A text of ASCII characters alone. -/
def IsAscii (s : String) : Prop := ∀ c ∈ s.toList, c.toNat < 128

-- decided along the text: to go through all characters there are would take too long
instance : DecidablePred IsAscii := fun s => List.decidableBAll (fun c : Char => c.toNat < 128) s.toList

theorem lowercase_cons {c : Char} (hc : c ≠ 'Σ') (w : List Char) :
    lowercase (c :: w) = toLower c ++ lowercase w := by
  cases w with
  | nil => simp [lowercase, hc]
  | cons d w =>
    rw [lowercase]
    simp

end Text

namespace Name

theorem mem_of_mem_collapse {started pending : Bool} {cs : List Char} {c : Char}
    (hc : c ∈ (collapse started pending cs).filter isAlphanumeric) : c ∈ cs := by
  rw [filter_collapse] at hc
  exact (List.mem_filter.mp hc).1

theorem lt_of_mem_words {s : String} (hs : IsAscii s) {c : Char} {w : List Char}
    (hw : w ∈ words (sanitize s.toList)) (hc : c ∈ w) : c.toNat < 128 := by
  have hmem : c ∈ (words (sanitize s.toList)).flatten := List.mem_flatten.mpr ⟨w, hw, hc⟩
  rw [flatten_words, sanitize] at hmem
  split at hmem
  · have hunnamed : IsAscii "unnamed" := by decide
    exact hunnamed c (List.mem_filter.mp hmem).1
  · exact hs c (mem_of_mem_collapse hmem)

/-- A name in ASCII has two casings that differ in the case of the first character alone. -/
theorem exists_pascal_eq {s : String} (hs : IsAscii s) : ∃ (c : Char) (rest : List Char), c.toNat < 128 ∧
    (Name.ofString s).pascal.toList = c.toUpper :: rest ∧
    (Name.ofString s).camel.toList = c.toLower :: rest := by
  obtain ⟨c, w, ws, hws⟩ := exists_words_eq s.toList
  have hc : c.toNat < 128 :=
    lt_of_mem_words hs (by rw [hws]; exact List.mem_cons_self) List.mem_cons_self
  have hsigma : c ≠ 'Σ' := by
    rintro rfl
    exact absurd hc (by decide)
  refine ⟨c, lowercase w ++ Text.pascal ws, hc, ?_, ?_⟩
  · simp [Name.ofString, hws, Text.pascal, capitalize, toUpper_of_lt hc]
  · simp [Name.ofString, hws, Text.camel, lowercase_cons hsigma, toLower_of_lt hc]

/-- **Names in ASCII that agree in Pascal case agree in camel case.** -/
theorem camel_eq_of_pascal_eq {s t : String} (hs : IsAscii s) (ht : IsAscii t)
    (h : (Name.ofString s).pascal = (Name.ofString t).pascal) :
    (Name.ofString s).camel = (Name.ofString t).camel := by
  obtain ⟨c, rest, hc, hpascal, hcamel⟩ := exists_pascal_eq hs
  obtain ⟨d, rest', hd, hpascal', hcamel'⟩ := exists_pascal_eq ht
  rw [h, hpascal', List.cons.injEq] at hpascal
  obtain ⟨hupper, rfl⟩ := hpascal
  have hlower : c.toLower = d.toLower := by
    rw [← toLower_toUpper_of_lt hc, ← toLower_toUpper_of_lt hd, hupper]
  apply String.toList_inj.mp
  rw [hcamel, hcamel', hlower]

end Name

end Blueprint
