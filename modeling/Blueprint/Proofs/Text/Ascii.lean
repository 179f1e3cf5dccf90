import Blueprint.Unicode.CaseMapping
import Blueprint.Unicode.Property

/-!
# ASCII characters and blanks

What the character properties and the case mappings say of the first 128 characters, and of blanks.

* `forall_ascii`: what is checked for each code holds of each character.
* `cases_of_lt`: the cases of a character, one after the other, and the lemmas it is made of.
* `letters_of_lt`: the letters among the cases of a character, and the lemmas it is made of.
* `tables_of_lt`: the case mappings and the properties, and the lemmas it is made of.
* `isAlphanumeric_of_isWhiteSpace`: no blank of any script is a letter or digit.
-/

namespace Blueprint.Unicode

theorem forall_ascii {P : Char → Prop} (h : ∀ n < 128, P (Char.ofNat n)) {c : Char}
    (hc : c.toNat < 128) : P c := by
  have hcode := h c.toNat hc
  rwa [Char.ofNat_toNat] at hcode

variable {c : Char}

theorem lt_of_isAlphanum (hc : c.isAlphanum = true) : c.toNat < 128 := by
  -- the capitals, the small letters and the digits each have a last one
  have hlast : c.val ≤ 'Z'.val ∨ c.val ≤ 'z'.val ∨ c.val ≤ '9'.val := by
    rcases (Bool.or_eq_true _ _).mp hc with halpha | hdigit
    · rcases (Bool.or_eq_true _ _).mp halpha with hupper | hlower
      · exact .inl (of_decide_eq_true hupper).2
      · exact .inr (.inl (of_decide_eq_true ((Bool.and_eq_true _ _).mp hlower).2))
    · exact .inr (.inr (of_decide_eq_true ((Bool.and_eq_true _ _).mp hdigit).2))
  rcases hlast with h | h | h <;>
    exact Nat.lt_of_le_of_lt (UInt32.le_iff_toNat_le.mp h) (by decide)

/-! ## Case mappings -/

theorem cases_of_lt (hc : c.toNat < 128) : c.toLower.toNat < 128 ∧
    (c.toUpper.toLower = c.toLower ∧ c.toLower.toUpper = c.toUpper ∧
      c.toLower.toLower = c.toLower) ∧
    c.toUpper.isAlphanum = c.isAlphanum ∧ c.toLower.isAlphanum = c.isAlphanum ∧
    c.toLower.isDigit = c.isDigit :=
  forall_ascii (P := fun c => c.toLower.toNat < 128 ∧
    (c.toUpper.toLower = c.toLower ∧ c.toLower.toUpper = c.toUpper ∧
      c.toLower.toLower = c.toLower) ∧
    c.toUpper.isAlphanum = c.isAlphanum ∧ c.toLower.isAlphanum = c.isAlphanum ∧
    c.toLower.isDigit = c.isDigit) (by decide +kernel) hc

theorem toLower_lt (hc : c.toNat < 128) : c.toLower.toNat < 128 :=
  (cases_of_lt hc).1

theorem toLower_toUpper_of_lt (hc : c.toNat < 128) : c.toUpper.toLower = c.toLower :=
  (cases_of_lt hc).2.1.1

theorem toUpper_toLower_of_lt (hc : c.toNat < 128) : c.toLower.toUpper = c.toUpper :=
  (cases_of_lt hc).2.1.2.1

theorem toLower_toLower_of_lt (hc : c.toNat < 128) : c.toLower.toLower = c.toLower :=
  (cases_of_lt hc).2.1.2.2

theorem isAlphanum_toUpper_of_lt (hc : c.toNat < 128) : c.toUpper.isAlphanum = c.isAlphanum :=
  (cases_of_lt hc).2.2.1

theorem isAlphanum_toLower_of_lt (hc : c.toNat < 128) : c.toLower.isAlphanum = c.isAlphanum :=
  (cases_of_lt hc).2.2.2.1

theorem isDigit_toLower_of_lt (hc : c.toNat < 128) : c.toLower.isDigit = c.isDigit :=
  (cases_of_lt hc).2.2.2.2

/-! ## Letters -/

/-- The letters among the cases of an ASCII character, and what the tables of letters say. -/
theorem letters_of_lt (hc : c.toNat < 128) :
    (isUppercase c = c.isUpper ∧ isLowercase c = c.isLower) ∧
    (c.isUpper = true → c.isLower = false ∧ c.toUpper = c) ∧
    (c.isUpper = false → c.toLower = c) ∧ (c.isAlpha = false → c.toUpper = c) ∧
    (c.toUpper.isUpper = c.isAlpha ∧ c.toUpper.isLower = false) ∧
    c.toLower.isUpper = false ∧ c.toLower.isLower = c.isAlpha :=
  forall_ascii (P := fun c => (isUppercase c = c.isUpper ∧ isLowercase c = c.isLower) ∧
    (c.isUpper = true → c.isLower = false ∧ c.toUpper = c) ∧
    (c.isUpper = false → c.toLower = c) ∧ (c.isAlpha = false → c.toUpper = c) ∧
    (c.toUpper.isUpper = c.isAlpha ∧ c.toUpper.isLower = false) ∧
    c.toLower.isUpper = false ∧ c.toLower.isLower = c.isAlpha) (by decide +kernel) hc

theorem isUppercase_of_lt (hc : c.toNat < 128) : isUppercase c = c.isUpper :=
  (letters_of_lt hc).1.1

theorem isLowercase_of_lt (hc : c.toNat < 128) : isLowercase c = c.isLower :=
  (letters_of_lt hc).1.2

theorem isAlpha_of_isUpper (hc : c.isUpper = true) : c.isAlpha = true :=
  (Bool.or_eq_true c.isUpper c.isLower).mpr (.inl hc)

theorem isAlpha_of_isLower (hc : c.isLower = true) : c.isAlpha = true :=
  (Bool.or_eq_true c.isUpper c.isLower).mpr (.inr hc)

theorem isAlphanum_of_isAlpha (hc : c.isAlpha = true) : c.isAlphanum = true := by
  simp [Char.isAlphanum, hc]

theorem lt_of_isUpper (hc : c.isUpper = true) : c.toNat < 128 :=
  lt_of_isAlphanum (isAlphanum_of_isAlpha (isAlpha_of_isUpper hc))

theorem lt_of_isLower (hc : c.isLower = true) : c.toNat < 128 :=
  lt_of_isAlphanum (isAlphanum_of_isAlpha (isAlpha_of_isLower hc))

theorem isLower_of_isUpper (hc : c.isUpper = true) : c.isLower = false :=
  ((letters_of_lt (lt_of_isUpper hc)).2.1 hc).1

theorem isUpper_of_isLower (hc : c.isLower = true) : c.isUpper = false := by
  rw [Bool.eq_false_iff]
  intro hupper
  rw [isLower_of_isUpper hupper] at hc
  exact nomatch hc

theorem toUpper_of_isUpper (hc : c.isUpper = true) : c.toUpper = c :=
  ((letters_of_lt (lt_of_isUpper hc)).2.1 hc).2

theorem toLower_of_not_isUpper (hlt : c.toNat < 128) (hc : c.isUpper = false) : c.toLower = c :=
  (letters_of_lt hlt).2.2.1 hc

theorem toUpper_of_not_isAlpha (hlt : c.toNat < 128) (hc : c.isAlpha = false) : c.toUpper = c :=
  (letters_of_lt hlt).2.2.2.1 hc

theorem isUpper_toUpper_of_lt (hc : c.toNat < 128) : c.toUpper.isUpper = c.isAlpha :=
  (letters_of_lt hc).2.2.2.2.1.1

theorem isLower_toUpper_of_lt (hc : c.toNat < 128) : c.toUpper.isLower = false :=
  (letters_of_lt hc).2.2.2.2.1.2

theorem isUpper_toLower_of_lt (hc : c.toNat < 128) : c.toLower.isUpper = false :=
  (letters_of_lt hc).2.2.2.2.2.1

theorem isLower_toLower_of_lt (hc : c.toNat < 128) : c.toLower.isLower = c.isAlpha :=
  (letters_of_lt hc).2.2.2.2.2.2

theorem isAlpha_of_isAlphanum (hc : c.isAlphanum = true) : c.isAlpha = !c.isDigit := by
  have hall := forall_ascii (P := fun c => c.isAlphanum = true → c.isAlpha = !c.isDigit)
    (by decide) (lt_of_isAlphanum hc)
  exact hall hc

theorem isAlphanum_of_isDigit (hc : c.isDigit = true) : c.isAlphanum = true := by
  simp [Char.isAlphanum, hc]

theorem isAlpha_of_isDigit (hc : c.isDigit = true) : c.isAlpha = false := by
  rw [isAlpha_of_isAlphanum (isAlphanum_of_isDigit hc), hc]
  rfl

theorem isUpper_of_isDigit (hc : c.isDigit = true) : c.isUpper = false :=
  ((Bool.or_eq_false_iff (x := c.isUpper)).mp (isAlpha_of_isDigit hc)).1

theorem isLower_of_isDigit (hc : c.isDigit = true) : c.isLower = false :=
  ((Bool.or_eq_false_iff (x := c.isUpper)).mp (isAlpha_of_isDigit hc)).2

theorem lt_of_isDigit (hc : c.isDigit = true) : c.toNat < 128 :=
  lt_of_isAlphanum (isAlphanum_of_isDigit hc)

/-! ## Tables -/

/-- What the tables of the case mappings and the properties say of an ASCII character. -/
theorem tables_of_lt (hc : c.toNat < 128) : (toUpper c = [c.toUpper] ∧ toLower c = [c.toLower]) ∧
    isAlphanumeric c = c.isAlphanum ∧ isUppercase c.toLower = false ∧
    (c.isAlphanum = true → isWhiteSpace c = false) :=
  forall_ascii (P := fun c => (toUpper c = [c.toUpper] ∧ toLower c = [c.toLower]) ∧
    isAlphanumeric c = c.isAlphanum ∧ isUppercase c.toLower = false ∧
    (c.isAlphanum = true → isWhiteSpace c = false)) (by decide +kernel) hc

theorem toUpper_of_lt (hc : c.toNat < 128) : toUpper c = [c.toUpper] :=
  (tables_of_lt hc).1.1

theorem toLower_of_lt (hc : c.toNat < 128) : toLower c = [c.toLower] :=
  (tables_of_lt hc).1.2

theorem isAlphanumeric_of_lt (hc : c.toNat < 128) : isAlphanumeric c = c.isAlphanum :=
  (tables_of_lt hc).2.1

theorem isUppercase_toLower_of_lt (hc : c.toNat < 128) : isUppercase c.toLower = false :=
  (tables_of_lt hc).2.2.1

theorem isWhiteSpace_of_isAlphanum (hc : c.isAlphanum = true) : isWhiteSpace c = false :=
  (tables_of_lt (lt_of_isAlphanum hc)).2.2.2 hc

/-! ## Blanks -/

theorem exists_of_inRanges {ranges : List (Nat × Nat)} {n : Nat} (h : inRanges ranges n = true) :
    ∃ p ∈ ranges, p.1 ≤ n ∧ n ≤ p.2 := by
  induction ranges with
  | nil => exact nomatch h
  | cons p rest ih =>
    rw [inRanges] at h
    split at h
    · exact nomatch h
    · split at h
      · exact ⟨p, List.mem_cons_self, by omega, by assumption⟩
      · obtain ⟨q, hq, hn⟩ := ih h
        exact ⟨q, List.mem_cons_of_mem p hq, hn⟩

theorem isAlphanumeric_of_isWhiteSpace (hc : isWhiteSpace c = true) : isAlphanumeric c = false := by
  have hall : ∀ p ∈ whiteSpace, ∀ n ∈ List.range' p.1 (p.2 + 1 - p.1),
      isAlphanumeric (Char.ofNat n) = false := by decide +kernel
  obtain ⟨p, hp, hfirst, hlast⟩ := exists_of_inRanges hc
  have hcode := hall p hp c.toNat (List.mem_range'_1.mpr ⟨hfirst, by omega⟩)
  rwa [Char.ofNat_toNat] at hcode

end Blueprint.Unicode
