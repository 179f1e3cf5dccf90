import Blueprint.Json.Numeral
import Blueprint.Json.Printer

/-!
# Integers written and read back

* `Number.Exact`, `Number.Fits`: an integer of 64 bits; a number that a numeral may have.
* `digits_toDigits`, `wholePart_digitValues`: the decimal digits of a number give it back.
* **`scan_exponentText`**: an integer that is written is scanned to its end and no further;
  `toNumber_numeralOf`: and has the same value.
* `fits_toNumber`: every numeral has a number that fits.
-/

namespace Blueprint.Json

/-- An integer of 64 bits, with or without a sign. -/
def Number.Exact : Number → Prop
  | .int n => -0x8000000000000000 ≤ n ∧ n < 0x10000000000000000
  | .float _ => False

/-- An integer of 64 bits or a finite double. -/
def Number.Fits : Number → Prop
  | .int n => -0x8000000000000000 ≤ n ∧ n < 0x10000000000000000
  | .float bits => isFiniteDouble bits = true

namespace Numeral

/-- The values of the decimal digits of a number. -/
def digitValues (n : Nat) : List Nat := (Nat.toDigits 10 n).map fun c => c.toNat - '0'.toNat

/-- What follows a numeral and is no part of it. -/
def Ends (rest : List Char) : Prop :=
  ∀ c, rest.head? = some c → c.isDigit = false ∧ c ≠ '.' ∧ c ≠ 'e' ∧ c ≠ 'E'

theorem digit?_of_isDigit {c : Char} (h : c.isDigit = true) :
    digit? c = some (c.toNat - '0'.toNat) := by
  rw [digit?, if_pos h]

theorem digits_append {ds rest : List Char} (hd : ∀ c ∈ ds, c.isDigit = true) (hr : Ends rest) :
    digits (ds ++ rest) = (ds.map fun c => c.toNat - '0'.toNat, rest) := by
  induction ds with
  | nil =>
    cases rest with
    | nil => rfl
    | cons c rest =>
      have hc := (hr c rfl).1
      simp [digits, digit?, hc]
  | cons c ds ih =>
    have hc := digit?_of_isDigit (hd c List.mem_cons_self)
    simp [digits, hc, ih fun x hx => hd x (List.mem_cons_of_mem _ hx)]

theorem digits_toDigits (n : Nat) {rest : List Char} (hr : Ends rest) :
    digits (Nat.toDigits 10 n ++ rest) = (digitValues n, rest) :=
  digits_append (fun _ hc => Nat.isDigit_of_mem_toDigits (by decide) (by decide) hc) hr

theorem toNat_digitChar : ∀ d < 10, (Nat.digitChar d).toNat - '0'.toNat = d := by decide

theorem digitValues_of_lt {n : Nat} (h : n < 10) : digitValues n = [n] := by
  rw [digitValues, Nat.toDigits_of_lt_base h, List.map_singleton, toNat_digitChar n h]

theorem digitValues_of_le {n : Nat} (h : 10 ≤ n) :
    digitValues n = digitValues (n / 10) ++ [n % 10] := by
  rw [digitValues, Nat.toDigits_of_base_le (by decide) h, List.map_append, List.map_singleton,
    toNat_digitChar _ (Nat.mod_lt _ (by decide))]
  rfl

/-- Only the number zero starts with a zero. -/
theorem digitValues_pos {n : Nat} (h : 0 < n) : ∃ d ds, digitValues n = d :: ds ∧ d ≠ 0 := by
  induction n using Nat.strongRecOn with
  | ind n ih =>
    by_cases hn : n < 10
    · exact ⟨n, [], digitValues_of_lt hn, by omega⟩
    · obtain ⟨d, ds, hd, h0⟩ := ih (n / 10) (by omega) (by omega)
      exact ⟨d, ds ++ [n % 10], by rw [digitValues_of_le (by omega), hd]; rfl, h0⟩

theorem wholePart_concat {ds : List Nat} {s d : Nat} (h : wholePart ds = (s, 0))
    (hd : s * 10 + d < limit) : wholePart (ds ++ [d]) = (s * 10 + d, 0) := by
  rw [wholePart] at h
  rw [wholePart, List.foldl_append, h, List.foldl_cons, List.foldl_nil]
  simp [hd]

theorem wholePart_digitValues {n : Nat} (h : n < limit) : wholePart (digitValues n) = (n, 0) := by
  induction n using Nat.strongRecOn with
  | ind n ih =>
    by_cases hn : n < 10
    · rw [digitValues_of_lt hn, ← List.nil_append [n], wholePart_concat (s := 0) rfl (by omega)]
      simp
    · rw [digitValues_of_le (by omega),
        wholePart_concat (ih (n / 10) (by omega) (by omega)) (by omega)]
      congr 1
      omega

/-- The numeral of an integer. -/
def numeralOf (n : Int) : Numeral := ⟨n < 0, digitValues n.natAbs, none, none⟩

theorem scanWhole_toDigits (n : Nat) {rest : List Char} (hr : Ends rest) :
    scanWhole (Nat.toDigits 10 n ++ rest) = .ok (digitValues n, rest) := by
  rw [scanWhole, digits_toDigits n hr]
  rcases Nat.eq_zero_or_pos n with rfl | hn
  · rw [digitValues_of_lt (by decide)]; rfl
  · obtain ⟨d, ds, hd, h0⟩ := digitValues_pos hn
    rw [hd]
    cases d with
    | zero => exact absurd rfl h0
    | succ d => rfl

theorem scanFraction_of_ends {rest : List Char} (hr : Ends rest) :
    scanFraction rest = .ok (none, rest) := by
  cases rest with
  | nil => rfl
  | cons c rest => rw [scanFraction, if_pos (hr c rfl).2.1]

theorem scanExponent_of_ends {rest : List Char} (hr : Ends rest) :
    scanExponent rest = .ok (none, rest) := by
  cases rest with
  | nil => rfl
  | cons c rest => rw [scanExponent, if_pos (hr c rfl).2.2]

theorem exponentText_eq (n : Int) : Decimal.exponentText n =
    if n < 0 then '-' :: Nat.toDigits 10 n.natAbs else Nat.toDigits 10 n.natAbs := by
  unfold Decimal.exponentText Decimal.digitsOf
  split
  · rw [show (-n).toNat = n.natAbs by omega]
  · rw [show n.toNat = n.natAbs by omega]

/-- **An integer is scanned to the end of its digits.** -/
theorem scan_exponentText (n : Int) {rest : List Char} (hr : Ends rest) :
    scan (Decimal.exponentText n ++ rest) = .ok (numeralOf n, rest) := by
  rw [exponentText_eq]
  split
  · rename_i hn
    simp [scan, scanWhole_toDigits _ hr, scanFraction_of_ends hr, scanExponent_of_ends hr, bind,
      Except.bind, pure, Except.pure, numeralOf, hn]
  · rename_i hn
    have hminus : ∀ r, Nat.toDigits 10 n.natAbs ++ rest ≠ '-' :: r := by
      intro r h
      have hc : '-' ∈ Nat.toDigits 10 n.natAbs := by
        cases hd : Nat.toDigits 10 n.natAbs with
        | nil => exact absurd hd Nat.toDigits_ne_nil
        | cons c ds =>
          rw [hd] at h
          rw [(List.cons.inj h).1]
          exact List.mem_cons_self
      exact absurd (Nat.isDigit_of_mem_toDigits (by decide) (by decide) hc) (by decide)
    rw [scan]
    case x_1 => exact hminus
    simp [scanWhole_toDigits _ hr, scanFraction_of_ends hr, scanExponent_of_ends hr, bind,
      Except.bind, pure, Except.pure, numeralOf, hn]

/-- The numeral of an integer of 64 bits has that integer as its number. -/
theorem toNumber_numeralOf {n : Int} (h : Number.Exact (.int n)) :
    (numeralOf n).toNumber = .ok (.int n) := by
  obtain ⟨hlow, hhigh⟩ := h
  have hw : wholePart (digitValues n.natAbs) = (n.natAbs, 0) :=
    wholePart_digitValues (by unfold limit; omega)
  have hint : (numeralOf n).toNumber = if !decide (n < 0) then .ok (.int n.natAbs)
      else if n.natAbs ≠ 0 ∧ n.natAbs ≤ 0x8000000000000000 then .ok (.int (-n.natAbs))
      else signed true n.natAbs.toUInt64.toFloat := by
    rw [toNumber, numeralOf]
    simp only [hw]
    rfl
  rw [hint]
  by_cases hn : n < 0
  · have hs : n.natAbs ≠ 0 ∧ n.natAbs ≤ 0x8000000000000000 := by omega
    have hneg : -(n.natAbs : Int) = n := by omega
    rw [if_neg (by simpa using hn), if_pos hs, hneg]
  · have hpos : (n.natAbs : Int) = n := by omega
    rw [if_pos (by simpa using hn), hpos]

/-! ## Every number fits -/

theorem fits_signed {negative : Bool} {f : Float} {n : Number} (h : signed negative f = .ok n) :
    n.Fits := by
  unfold signed at h
  generalize (if negative then -f else f).toBits = bits at h
  cases hb : isFiniteDouble bits
  · simp [hb] at h
  · simp only [hb, if_true] at h
    obtain rfl := Except.ok.inj h
    exact hb

theorem fits_withExponent {negative minus : Bool} {s : Nat} {power : Int} {ds : List Nat}
    {n : Number} (h : withExponent negative s power minus ds = .ok n) : n.Fits := by
  simp only [withExponent] at h
  split at h
  · split at h
    · exact absurd h (by simp)
    · exact fits_signed h
  · obtain ⟨f, -, hf⟩ := Fault.exists_of_bind_eq_ok h
    exact fits_signed hf

theorem wholePart_lt {ds : List Nat} {s dropped : Nat} (h : wholePart ds = (s, dropped)) :
    s < limit := by
  have hs : (wholePart ds).1 < limit := by
    unfold wholePart
    refine List.foldlRecOn (motive := fun p : Nat × Nat => p.1 < limit) ds _ (by decide)
      fun p hp d _ => ?_
    dsimp only
    split
    · rename_i hd
      exact hd.2
    · exact hp
  rwa [h] at hs

/-- **The number of a numeral fits**: it is an integer of 64 bits or a finite double. -/
theorem fits_toNumber {m : Numeral} {n : Number} (h : m.toNumber = .ok n) : n.Fits := by
  obtain ⟨s, dropped, hw⟩ : ∃ s dropped, wholePart m.whole = (s, dropped) := ⟨_, _, rfl⟩
  have hs : s < 0x10000000000000000 := wholePart_lt hw
  simp only [toNumber, hw] at h
  -- an integer of 64 bits is exact; any other numeral becomes a double
  split at h
  · split at h
    · split at h
      · obtain rfl := Except.ok.inj h
        exact ⟨by omega, by omega⟩
      · split at h
        · obtain rfl := Except.ok.inj h
          exact ⟨by omega, by omega⟩
        · exact fits_signed h
    · obtain ⟨f, -, hf⟩ := Fault.exists_of_bind_eq_ok h
      exact fits_signed hf
  · exact fits_withExponent h
  · split at h
    · obtain ⟨f, -, hf⟩ := Fault.exists_of_bind_eq_ok h
      exact fits_signed hf
    · exact fits_withExponent h

end Numeral

end Blueprint.Json
