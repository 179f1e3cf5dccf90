import Blueprint.Proofs.Json.Quoted
import Blueprint.Proofs.Json.Tree

/-!
# Printed values as texts

* `Starts`: how a printed value begins; `render_starts`, `renderItems_starts`.
* `value_render`: a printed value is read to its end and no further.
* **`ofChars_render`**: the text of an exact value is read as its node, and nothing follows it.
-/

namespace Blueprint.Json.Text

open Numeral

/-- A text that begins like a printed value: with no blank and no closing bracket. -/
def Starts (cs : List Char) : Prop := ∃ c rest, cs = c :: rest ∧ isGap c = false ∧ c ≠ ']'

theorem Starts.append {cs : List Char} (h : Starts cs) (rest : List Char) :
    Starts (cs ++ rest) := by
  obtain ⟨c, r, rfl, hc⟩ := h
  exact ⟨c, r ++ rest, rfl, hc⟩

theorem Starts.skipGap {cs : List Char} (h : Starts cs) : skipGap cs = cs := by
  obtain ⟨c, r, rfl, hc, -⟩ := h
  rw [Text.skipGap, List.dropWhile_cons_of_neg (by simp [hc])]

theorem Starts.length_pos {cs : List Char} (h : Starts cs) : 0 < cs.length := by
  obtain ⟨c, r, rfl, -⟩ := h
  exact Nat.succ_pos _

theorem ends_cons {c : Char} (h : c.isDigit = false ∧ c ≠ '.' ∧ c ≠ 'e' ∧ c ≠ 'E')
    (rest : List Char) :
    Ends (c :: rest) := fun _ hd => Option.some.inj hd ▸ h

theorem ends_nil : Ends [] := fun _ h => nomatch h

theorem exponentText_cons (n : Int) :
    ∃ c rest, Decimal.exponentText n = c :: rest ∧ (c = '-' ∨ c.isDigit = true) := by
  rw [exponentText_eq]
  split
  · exact ⟨_, _, rfl, .inl rfl⟩
  · cases hd : Nat.toDigits 10 n.natAbs with
    | nil => exact absurd hd Nat.toDigits_ne_nil
    | cons c ds =>
      exact ⟨c, ds, rfl, .inr (Nat.isDigit_of_mem_toDigits (by decide) (by decide)
        (hd ▸ List.mem_cons_self))⟩

/-- The characters that a numeral does not begin with. -/
theorem ne_of_numeral {c : Char} (h : c = '-' ∨ c.isDigit = true) :
    isGap c = false ∧ c ≠ ']' ∧ c ≠ '"' ∧ c ≠ '[' ∧ c ≠ '\x7b' ∧ c ≠ 'n' ∧ c ≠ 't' ∧ c ≠ 'f' := by
  rcases h with rfl | h
  · decide
  · refine ⟨?_, ?_, ?_, ?_, ?_, ?_, ?_, ?_⟩
    · simp only [isGap, Bool.or_eq_false_iff, decide_eq_false_iff_not]
      refine ⟨⟨⟨?_, ?_⟩, ?_⟩, ?_⟩ <;> (rintro rfl; revert h; decide)
    all_goals (rintro rfl; revert h; decide)

theorem render_starts : ∀ {j : Json}, Exact j → Starts (render j)
  | .null, _ => ⟨_, _, rfl, rfl, by decide⟩
  | .bool true, _ => ⟨_, _, rfl, rfl, by decide⟩
  | .bool false, _ => ⟨_, _, rfl, rfl, by decide⟩
  | .number (.int n), _ => by
    obtain ⟨c, rest, hr, hc⟩ := exponentText_cons n
    have hne := ne_of_numeral hc
    exact ⟨c, rest, hr, hne.1, hne.2.1⟩
  | .string _, _ => ⟨_, _, rfl, rfl, by decide⟩
  | .array _, _ => ⟨_, _, rfl, rfl, by decide⟩
  | .object _, _ => ⟨_, _, rfl, rfl, by decide⟩

theorem renderItems_starts {j : Json} (h : Exact j) (rest : List Json) :
    Starts (renderItems (j :: rest)) := by
  cases rest with
  | nil => exact render_starts h
  | cons k rest => exact (render_starts h).append _

theorem renderEntries_cons (k : String) (j : Json) (rest : List (String × Json)) :
    ∃ cs, renderEntries ((k, j) :: rest) = '"' :: (Quoted.encode k.toList ++ '"' :: ':' :: cs) ∧
      cs = render j ++ match rest with
        | [] => []
        | e :: rest => ',' :: renderEntries (e :: rest) := by
  cases rest with
  | nil => exact ⟨_, by simp [renderEntries, quote], rfl⟩
  | cons e rest => exact ⟨_, by simp [renderEntries, quote], rfl⟩

theorem quoted_encode (s : String) (rest : List Char) :
    quoted (Quoted.encode s.toList ++ '"' :: rest) = (.scalar (.ofString (.ok s)), some rest) := by
  simp only [quoted, Quoted.scan_encode, Except.map, String.ofList_toList]

theorem key_quote (s : String) (rest : List Char) :
    key ('"' :: (Quoted.encode s.toList ++ '"' :: ':' :: rest)) =
      (.scalar (.ofString (.ok s)), .ok rest) := by
  simp [key, quoted_encode, skipGap, isGap]

theorem word_append (value : Scalar) (w rest : List Char) :
    word value w (w ++ rest) = (.scalar value, some rest) := by
  induction w with
  | nil => rfl
  | cons c w ih => simpa [word] using ih

theorem firstItem_of_starts {cs : List Char} (h : Starts cs) (fuel : Nat) :
    firstItem (fuel + 1) (skipGap cs) = item fuel cs := by
  rw [h.skipGap]
  obtain ⟨c, r, rfl, -, hne⟩ := h
  rw [firstItem]
  exact if_neg hne

theorem moreItems_comma {cs : List Char} (h : Starts cs) (fuel : Nat) :
    moreItems (fuel + 1) (skipGap (',' :: cs)) = item fuel cs := by
  have hcomma : skipGap (',' :: cs) = ',' :: cs := rfl
  rw [hcomma, moreItems, if_neg (by decide), if_pos rfl, h.skipGap]
  obtain ⟨c, r, rfl, -, hne⟩ := h
  exact if_neg hne

theorem firstEntry_quote (cs : List Char) (fuel : Nat) :
    firstEntry (fuel + 1) (skipGap ('"' :: cs)) = entry fuel ('"' :: cs) := rfl

theorem moreEntries_comma (cs : List Char) (fuel : Nat) :
    moreEntries (fuel + 1) (skipGap (',' :: '"' :: cs)) = entry fuel ('"' :: cs) := rfl

theorem value_bracket (cs : List Char) (fuel : Nat) : value (fuel + 1) ('[' :: cs) =
    (.list (firstItem fuel (skipGap cs)).items (firstItem fuel (skipGap cs)).close,
      (firstItem fuel (skipGap cs)).rest) := rfl

theorem value_brace (cs : List Char) (fuel : Nat) : value (fuel + 1) ('\x7b' :: cs) =
    (.record (firstEntry fuel (skipGap cs)).items (firstEntry fuel (skipGap cs)).close,
      (firstEntry fuel (skipGap cs)).rest) := rfl

theorem value_quote (cs : List Char) (fuel : Nat) : value (fuel + 1) ('"' :: cs) = quoted cs := rfl

theorem value_numeral {c : Char} (h : c = '-' ∨ c.isDigit = true) (cs : List Char) (fuel : Nat) :
    value (fuel + 1) (c :: cs) = numeral (c :: cs) := by
  obtain ⟨hgap, -, hquote, hbracket, hbrace, hn, ht, hf⟩ := ne_of_numeral h
  have hskip : skipGap (c :: cs) = c :: cs := by
    rw [skipGap, List.dropWhile_cons_of_neg (by simp [hgap])]
  rw [value, hskip]
  simp only [if_neg hquote, if_neg hbracket, if_neg hbrace, if_neg hn, if_neg ht, if_neg hf,
    if_pos h]

mutual

/-- **A printed value is read to its end and no further.** -/
theorem value_render : ∀ (j : Json), Exact j → ∀ (rest : List Char), Ends rest →
    ∀ fuel, 3 * (render j).length ≤ fuel → value fuel (render j ++ rest) = (node j, some rest)
  | .null, _, rest, _, fuel + 1, _ => word_append .null "ull".toList rest
  | .bool true, _, rest, _, fuel + 1, _ => word_append (.ofBool true) "rue".toList rest
  | .bool false, _, rest, _, fuel + 1, _ => word_append (.ofBool false) "alse".toList rest
  | .number (.int n), h, rest, hr, fuel + 1, _ => by
    obtain ⟨c, cs, hc, hd⟩ := exponentText_cons n
    have hscan := scan_exponentText n hr
    rw [render, Number.render]
    rw [hc, List.cons_append] at hscan ⊢
    rw [value_numeral hd, numeral, hscan, node]
    simp only [toNumber_numeralOf h]
  | .string s, _, rest, _, fuel + 1, _ => by
    rw [render, quote, List.cons_append, List.cons_append, List.append_assoc, List.singleton_append,
      value_quote]
    exact quoted_encode s rest
  | .array [], _, rest, _, fuel + 2, _ => rfl
  | .array (j :: items), h, rest, _, fuel + 2, hf => by
    rw [Exact, ExactItems] at h
    rw [render, List.length_append, List.length_cons, List.length_singleton] at hf
    have hs := (renderItems_starts h.1 items).append (']' :: rest)
    have hi := items_render j items h.1 h.2 rest fuel (by omega)
    rw [render, List.append_assoc, List.cons_append, List.singleton_append, value_bracket,
      firstItem_of_starts hs, hi]
    rfl
  | .object [], _, rest, _, fuel + 2, _ => rfl
  | .object ((k, j) :: entries), h, rest, _, fuel + 2, hf => by
    rw [Exact, ExactEntries] at h
    rw [render, List.length_append, List.length_cons, List.length_singleton] at hf
    have hi := entries_render k j entries h.1 h.2 rest fuel (by omega)
    obtain ⟨cs, hc, -⟩ := renderEntries_cons k j entries
    rw [render, List.append_assoc, List.cons_append, List.singleton_append, value_brace]
    rw [hc, List.cons_append] at hi ⊢
    rw [firstEntry_quote, hi]
    rfl
  -- each call takes fuel; three for each character are enough
  | .array items, _, rest, _, 1, hf => by
    simp [render] at hf
    omega
  | .object entries, _, rest, _, 1, hf => by
    simp [render] at hf
    omega
  | j, h, rest, _, 0, hf => by
    have := (render_starts h).length_pos
    omega

theorem items_render : ∀ (j : Json) (items : List Json), Exact j → ExactItems items →
    ∀ (rest : List Char) (fuel : Nat), 3 * (renderItems (j :: items)).length + 1 ≤ fuel →
      item fuel (renderItems (j :: items) ++ ']' :: rest) =
        ⟨node j :: itemNodes items, {}, some rest⟩
  | j, [], hj, _, rest, fuel + 2, hf => by
    rw [renderItems] at hf
    have hv := value_render j hj (']' :: rest) (ends_cons (by decide) _) (fuel + 1) (by omega)
    rw [renderItems, item, hv]
    rfl
  | j, k :: items, hj, hi, rest, fuel + 2, hf => by
    rw [renderItems, List.length_append, List.length_cons] at hf
    have hv := value_render j hj (',' :: (renderItems (k :: items) ++ ']' :: rest))
      (ends_cons (by decide) _) (fuel + 1) (by omega)
    have hk := items_render k items hi.1 hi.2 rest fuel (by omega)
    have hs := (renderItems_starts hi.1 items).append (']' :: rest)
    rw [renderItems, List.append_assoc, List.cons_append, item, hv]
    simp only [moreItems_comma hs, hk]
    rfl
  | j, items, hj, _, rest, 0, hf => by omega
  | j, items, hj, _, rest, 1, hf => by
    have := (renderItems_starts hj items).length_pos
    omega

theorem entries_render : ∀ (k : String) (j : Json) (entries : List (String × Json)),
    Exact j → ExactEntries entries →
      ∀ (rest : List Char) (fuel : Nat), 3 * (renderEntries ((k, j) :: entries)).length + 1 ≤ fuel →
        entry fuel (renderEntries ((k, j) :: entries) ++ '\x7d' :: rest) =
          ⟨entryNodes ((k, j) :: entries), {}, some rest⟩
  | k, j, [], hj, _, rest, fuel + 2, hf => by
    obtain ⟨cs, hc, rfl⟩ := renderEntries_cons k j []
    rw [hc] at hf ⊢
    have hv := value_render j hj ('\x7d' :: rest) (ends_cons (by decide) _) (fuel + 1) (by
      simp at hf; omega)
    simp only [List.append_nil, List.cons_append, List.append_assoc]
    rw [entry, key_quote]
    simp only [hv]
    rfl
  | k, j, (l, m) :: entries, hj, hi, rest, fuel + 2, hf => by
    obtain ⟨cs, hc, rfl⟩ := renderEntries_cons k j ((l, m) :: entries)
    rw [hc] at hf ⊢
    have hv := value_render j hj (',' :: (renderEntries ((l, m) :: entries) ++ '\x7d' :: rest))
      (ends_cons (by decide) _) (fuel + 1) (by simp at hf; omega)
    have hk := entries_render l m entries hi.1 hi.2 rest fuel (by simp at hf; omega)
    obtain ⟨ds, hd, -⟩ := renderEntries_cons l m entries
    simp only [List.cons_append, List.append_assoc]
    rw [entry, key_quote]
    simp only [hv]
    rw [hd, List.cons_append] at hk ⊢
    rw [moreEntries_comma, hk]
    rfl
  | k, j, entries, _, _, rest, 0, hf => by omega
  | k, j, entries, _, _, rest, 1, hf => by
    obtain ⟨cs, hc, -⟩ := renderEntries_cons k j entries
    simp [hc] at hf

end

/-- **The text of an exact value is read as the node of the value.** -/
theorem ofChars_render {j : Json} (h : Exact j) : ofChars (render j) = ⟨node j, false⟩ := by
  have hv := value_render j h [] ends_nil (3 * (render j).length + 3) (by omega)
  rw [List.append_nil] at hv
  simp [ofChars, hv, skipGap]

end Blueprint.Json.Text
