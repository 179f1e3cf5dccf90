import Blueprint.Json.Quoted
import Mathlib.Tactic.SplitIfs

/-!
# Quoted strings written and read back

* `pieceOf`: the piece that an escaped character is read as; `pieces_encode`.
* **`scan_encode`**: an escaped text is read up to its closing quote, and is the same text.
-/

namespace Blueprint.Json.Quoted

/-- The piece that an escaped character is read as. -/
def pieceOf (c : Char) : Piece :=
  if (encodeChar c).length = 6 then .code c.toNat else .char c

/-- A piece in front of the pieces of a text. -/
def consPiece (p : Piece) (r : List Piece × Except Fault (List Char)) :
    List Piece × Except Fault (List Char) := (p :: r.1, r.2)

theorem hex4?_hexDigit :
    ∀ n < 32, hex4? '0' '0' (hexDigit (n / 16)) (hexDigit (n % 16)) = some n := by
  decide

theorem pieces_char {c e : Char} {rest : List Char}
    (hq : c ≠ '"') (hb : c ≠ '\\') (hc : ¬ c.toNat < 32) :
    pieces (c :: e :: rest) = consPiece (.char c) (pieces (e :: rest)) := by
  rw [pieces.eq_def]
  simp [hq, hb, hc, consPiece]

theorem pieces_escape {e d : Char} {rest : List Char} (hu : e ≠ 'u') (he : unescape? e = some d) :
    pieces ('\\' :: e :: rest) = consPiece (.char d) (pieces rest) := by
  rw [pieces.eq_def]
  simp [hu, he, consPiece]

theorem pieces_code {n : Nat} (h : n < 32) (rest : List Char) :
    pieces ('\\' :: 'u' :: '0' :: '0' :: hexDigit (n / 16) :: hexDigit (n % 16) :: rest) =
      consPiece (.code n) (pieces rest) := by
  rw [pieces]
  simp [hex4?_hexDigit n h, consPiece]

theorem eq_ofNat {c : Char} {n : Nat} (h : c.toNat = n) : c = Char.ofNat n := by
  rw [← h, Char.ofNat_toNat]

theorem pieces_encodeChar (c e : Char) (rest : List Char) :
    pieces (encodeChar c ++ e :: rest) = consPiece (pieceOf c) (pieces (e :: rest)) := by
  unfold pieceOf encodeChar
  split
  · rename_i h; subst h; exact pieces_escape (by decide) rfl
  split
  · rename_i h; subst h; exact pieces_escape (by decide) rfl
  split
  · rename_i h; subst h; exact pieces_escape (by decide) rfl
  split
  · rename_i h; subst h; exact pieces_escape (by decide) rfl
  split
  · rename_i h; subst h; exact pieces_escape (by decide) rfl
  split
  · rename_i h; rw [eq_ofNat h]; exact pieces_escape (by decide) rfl
  split
  · rename_i h; rw [eq_ofNat h]; exact pieces_escape (by decide) rfl
  split
  · rename_i h; exact pieces_code h _
  · rename_i hq hb _ _ _ _ _ hc
    exact pieces_char hq hb hc

theorem pieces_encode (cs rest : List Char) :
    pieces (encode cs ++ '"' :: rest) = (cs.map pieceOf, .ok rest) := by
  induction cs with
  | nil =>
    rw [pieces.eq_def]
    cases rest <;> rfl
  | cons c cs ih =>
    have hcons : ∃ e r, encode cs ++ '"' :: rest = e :: r := by
      cases encode cs with
      | nil => exact ⟨_, _, rfl⟩
      | cons e r => exact ⟨_, _, rfl⟩
    obtain ⟨e, r, hr⟩ := hcons
    rw [encode, List.flatMap_cons, ← encode, List.append_assoc, hr, pieces_encodeChar, ← hr, ih]
    rfl

theorem toNat_lt_of_length {c : Char} (h : (encodeChar c).length = 6) : c.toNat < 32 := by
  unfold encodeChar at h
  split_ifs at h <;> simp_all

theorem decode_pieceOf (cs : List Char) : decode none (cs.map pieceOf) = .ok cs := by
  induction cs with
  | nil => rfl
  | cons c cs ih =>
    rw [List.map_cons, pieceOf]
    split
    · rename_i h
      have hc := toNat_lt_of_length h
      rw [decode.eq_def]
      simp only
      rw [if_pos (.inl (by omega)), ih, Char.ofNat_toNat]
      rfl
    · rw [decode, ih]
      rfl

/-- **An escaped text is read as the same text**, up to its closing quote. -/
theorem scan_encode (cs rest : List Char) :
    scan (encode cs ++ '"' :: rest) = ⟨.ok cs, .ok rest⟩ := by
  rw [scan, pieces_encode]
  simp only [decode_pieceOf]

end Blueprint.Json.Quoted
