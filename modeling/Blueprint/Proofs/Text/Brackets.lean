import Blueprint.Text.Basic

/-!
# Brackets and commas

Texts with angle brackets, and commas between and inside of them.

* `depthAfter`: the brackets that are open behind a text; `IsBalanced`: none is.
* `pieces`: what commas outside of brackets separate; `argumentsIn`: the arguments that a text shows
  in its first brackets.
* `ClosedAt`: a text that leaves no bracket open and shows no comma outside of brackets, with lemmas
  on texts in brackets and texts joined by commas.
* **`pieces_joinWith`**: such texts are the pieces of the text that joins them.
-/

namespace Blueprint.Text

open Unicode

/-! ## Brackets -/

/-- The number of brackets that are open behind a text, if none is closed that is not open. -/
def depthAfter : Nat → List Char → Option Nat
  | d, [] => some d
  | d, c :: rest =>
    if c = '<' then depthAfter (d + 1) rest
    else if c = '>' then if d = 0 then none else depthAfter (d - 1) rest
    else depthAfter d rest

/-- A text that closes all brackets that it opens, and no others. -/
def IsBalanced (cs : List Char) : Prop := depthAfter 0 cs = some 0

/-- Characters in front of the first piece. -/
def extend (cs : List Char) : List (List Char) → List (List Char)
  | [] => [cs]
  | piece :: pieces => (cs ++ piece) :: pieces

/-- The pieces between the commas outside of brackets, up to a bracket that closes none of them.
There are `d` brackets open. -/
def pieces : Nat → List Char → List (List Char)
  | _, [] => [[]]
  | d, c :: rest =>
    if d = 0 ∧ c = '>' then [[]]
    else if d = 0 ∧ c = ',' then [] :: pieces 0 rest
    else extend [c] (pieces (if c = '<' then d + 1 else if c = '>' then d - 1 else d) rest)

/-- The arguments that a type shows, each without the blank before it. -/
def argumentsIn (cs : List Char) : List (List Char) :=
  match cs.dropWhile (· ≠ '<') with
  | [] => []
  | _ :: rest => (pieces 0 rest).map trimStart

theorem extend_append (cs ds : List Char) (ps : List (List Char)) :
    extend (cs ++ ds) ps = extend cs (extend ds ps) := by
  cases ps <;> simp [extend]

theorem pieces_ne_nil (d : Nat) (cs : List Char) : pieces d cs ≠ [] := by
  cases cs with
  | nil => simp [pieces]
  | cons c rest =>
    rw [pieces]
    split
    · simp
    · split
      · simp
      · cases pieces _ rest <;> simp [extend]

theorem extend_nil {ps : List (List Char)} (h : ps ≠ []) : extend [] ps = ps := by
  cases ps with
  | nil => exact absurd rfl h
  | cons p ps => rfl

/-- A text behind which as many brackets are open as before, and that no comma divides where there are
`d` open. -/
structure ClosedAt (d : Nat) (cs : List Char) : Prop where
  depth : ∀ rest, depthAfter d (cs ++ rest) = depthAfter d rest
  pieces : ∀ rest, Text.pieces d (cs ++ rest) = extend cs (Text.pieces d rest)

/-- A character that is neither a bracket nor a comma. -/
def IsInner (c : Char) : Prop := c ≠ '<' ∧ c ≠ '>' ∧ c ≠ ','

theorem closedAt_nil (d : Nat) : ClosedAt d [] where
  depth _ := rfl
  pieces rest := (extend_nil (pieces_ne_nil d rest)).symm

theorem ClosedAt.append {d : Nat} {cs ds : List Char} (hcs : ClosedAt d cs) (hds : ClosedAt d ds) :
    ClosedAt d (cs ++ ds) where
  depth rest := by rw [List.append_assoc, hcs.depth, hds.depth]
  pieces rest := by rw [List.append_assoc, hcs.pieces, hds.pieces, extend_append]

theorem closedAt_singleton {c : Char} (hc : IsInner c) (d : Nat) : ClosedAt d [c] where
  depth rest := by simp [depthAfter, hc.1, hc.2.1]
  pieces rest := by simp [Text.pieces, hc.1, hc.2.1, hc.2.2]

theorem closedAt_of_forall {cs : List Char} (h : ∀ c ∈ cs, IsInner c) (d : Nat) : ClosedAt d cs := by
  induction cs with
  | nil => exact closedAt_nil d
  | cons c rest ih =>
    exact (closedAt_singleton (h c List.mem_cons_self) d).append
      (ih fun x hx => h x (List.mem_cons_of_mem c hx))

theorem closedAt_comma (d : Nat) : ClosedAt (d + 1) [','] where
  depth rest := by simp [depthAfter]
  pieces rest := by simp [Text.pieces]

theorem ClosedAt.bracket {d : Nat} {cs : List Char} (h : ClosedAt (d + 1) cs) :
    ClosedAt d ('<' :: (cs ++ ['>'])) where
  depth rest := by
    simp [depthAfter, h.depth]
  pieces rest := by
    have hclose : Text.pieces (d + 1) ('>' :: rest) = extend ['>'] (Text.pieces d rest) := by
      simp [Text.pieces]
    have hopen : Text.pieces d ('<' :: (cs ++ '>' :: rest)) =
        extend ['<'] (Text.pieces (d + 1) (cs ++ '>' :: rest)) := by simp [Text.pieces]
    rw [List.cons_append, List.append_assoc, List.singleton_append, hopen, h.pieces, hclose,
      ← extend_append, ← extend_append]
    simp

theorem closedAt_joinWith {d : Nat} {ts : List (List Char)} (h : ∀ t ∈ ts, ClosedAt (d + 1) t) :
    ClosedAt (d + 1) (joinWith [',', ' '] ts) := by
  have hblank : ClosedAt (d + 1) [' '] := closedAt_singleton ⟨by decide, by decide, by decide⟩ _
  have hseparator : ClosedAt (d + 1) [',', ' '] := (closedAt_comma d).append hblank
  induction ts with
  | nil => exact closedAt_nil _
  | cons t rest ih =>
    have ht := h t List.mem_cons_self
    cases rest with
    | nil => exact ht
    | cons u rest =>
      exact (ht.append hseparator).append (ih fun x hx => h x (List.mem_cons_of_mem t hx))

theorem isInner_of_isAlphanum {c : Char} (hc : c.isAlphanum = true) : IsInner c := by
  refine ⟨?_, ?_, ?_⟩ <;> rintro rfl <;> exact absurd hc (by decide)

/-! ## Arguments -/

theorem map_trimStart_extend {ps : List (List Char)} (h : ps ≠ []) :
    (extend [' '] ps).map trimStart = ps.map trimStart := by
  obtain ⟨p, ps, rfl⟩ := List.exists_cons_of_ne_nil h
  have hblank : isWhiteSpace ' ' = true := by decide
  simp [extend, trimStart, hblank]

/-- Texts that are closed are the pieces of the text that joins them. -/
theorem pieces_joinWith {ts : List (List Char)} (hne : ts ≠ []) (hclosed : ∀ t ∈ ts, ClosedAt 0 t)
    (htrim : ∀ t ∈ ts, trimStart t = t) (rest : List Char) :
    (pieces 0 (joinWith [',', ' '] ts ++ '>' :: rest)).map trimStart = ts := by
  induction ts with
  | nil => exact absurd rfl hne
  | cons t ts ih =>
    have ht := hclosed t List.mem_cons_self
    cases ts with
    | nil =>
      have hend : pieces 0 ('>' :: rest) = [[]] := by simp [pieces]
      rw [joinWith, ht.pieces, hend]
      simp [extend, htrim]
    | cons u ts =>
      let more := joinWith [',', ' '] (u :: ts) ++ '>' :: rest
      have hjoin : joinWith [',', ' '] (t :: u :: ts) ++ '>' :: rest = t ++ ',' :: ' ' :: more := by
        simp [joinWith, more]
      have hcomma : pieces 0 (',' :: ' ' :: more) = [] :: extend [' '] (pieces 0 more) := by
        simp [pieces]
      have hmore := ih (List.cons_ne_nil u ts) (fun x hx => hclosed x (List.mem_cons_of_mem t hx))
        fun x hx => htrim x (List.mem_cons_of_mem t hx)
      rw [hjoin, ht.pieces, hcomma, extend, List.append_nil, List.map_cons,
        htrim t List.mem_cons_self, map_trimStart_extend (pieces_ne_nil 0 more), hmore]

end Blueprint.Text
