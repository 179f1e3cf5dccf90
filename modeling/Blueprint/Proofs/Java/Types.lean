import Blueprint.Java.Lexeme
import Blueprint.Proofs.Text.Lines
import Mathlib.Data.List.Forall2
import Mathlib.Data.List.TakeWhile

/-!
# Types with wrapper classes

* `Lexeme`, `Lexes`: the tokens of a text and the characters between them, each token as long as it
  can be; `IsRun`: a run of token characters that cannot be extended.
* `Lexes.token_mem`: every such run is among the lexemes.
* `wrapperClasses`: the primitive types of the language; `mem_wrappers_iff`: tokens are looked up
  among them. `Boxes`: what a lexeme becomes among type arguments.
* `Lexes.boxTokens_eq`: a text is boxed lexeme by lexeme; `Lexes.box`: the lexemes stay apart.
* **`typeText_boxes`**: a type stays up to its first bracket, and as a whole where it has none. From
  there on every run of letters, digits, underscores and points that cannot be extended becomes the
  wrapper class of the primitive type it names, if it names one; all else stays in place. No run
  behind the first bracket of the result names a primitive type, and boxing it again changes
  nothing.
-/

namespace Blueprint.Java

open Text

/-! ## Lexemes -/

/-- A token, or a character between tokens. -/
inductive Lexeme where
  | token (w : List Char)
  | mark (c : Char)
  deriving DecidableEq, Repr

/-- The characters of a lexeme. -/
def Lexeme.text : Lexeme → List Char
  | .token w => w
  | .mark c => [c]

/-- The text of lexemes, one behind the other. -/
def textOf (xs : List Lexeme) : List Char := xs.flatMap Lexeme.text

/-- One token character at least, and no other character. -/
def IsToken (w : List Char) : Prop := w ≠ [] ∧ ∀ c ∈ w, isTokenChar c = true

/-- A text that does not continue the token before it. -/
def StopsToken (cs : List Char) : Prop := ∀ c ∈ cs.head?, isTokenChar c = false

/-- A text and its lexemes. What follows a token does not continue it. -/
inductive Lexes : List Char → List Lexeme → Prop
  | nil : Lexes [] []
  | mark {c : Char} {cs : List Char} {xs : List Lexeme} :
      isTokenChar c = false → Lexes cs xs → Lexes (c :: cs) (.mark c :: xs)
  | token {w cs : List Char} {xs : List Lexeme} :
      IsToken w → StopsToken cs → Lexes cs xs → Lexes (w ++ cs) (.token w :: xs)

/-- `w` is a run of token characters between `before` and `after` that neither of them extends. -/
structure IsRun (cs before w after : List Char) : Prop where
  text : cs = before ++ (w ++ after)
  token : IsToken w
  starts : ∀ c ∈ before.getLast?, isTokenChar c = false
  stops : StopsToken after

variable {cs : List Char} {xs : List Lexeme}

theorem textOf_cons (x : Lexeme) (xs : List Lexeme) : textOf (x :: xs) = x.text ++ textOf xs :=
  List.flatMap_cons

theorem IsToken.cons {c : Char} {w : List Char} (hc : isTokenChar c = true)
    (hw : ∀ d ∈ w, isTokenChar d = true) : IsToken (c :: w) :=
  ⟨List.cons_ne_nil c w, List.forall_mem_cons.mpr ⟨hc, hw⟩⟩

theorem exists_lexes (cs : List Char) : ∃ xs, Lexes cs xs := by
  induction cs with
  | nil => exact ⟨[], .nil⟩
  | cons c cs ih =>
    obtain ⟨xs, h⟩ := ih
    cases hc : isTokenChar c
    · exact ⟨.mark c :: xs, .mark hc h⟩
    · have hone : IsToken [c] := .cons hc (by simp)
      cases h with
      | nil => exact ⟨[.token [c]], .token hone (by simp [StopsToken]) .nil⟩
      | @mark d cs xs hd h =>
        exact ⟨.token [c] :: .mark d :: xs,
          .token hone (by simpa [StopsToken] using hd) (.mark hd h)⟩
      | @token w cs xs hw hstop h =>
        exact ⟨.token (c :: w) :: xs, .token (.cons hc hw.2) hstop h⟩

/-- A run that cannot be extended is a token. -/
theorem Lexes.token_mem (h : Lexes cs xs) {before w after : List Char}
    (hrun : IsRun cs before w after) : .token w ∈ xs := by
  induction h generalizing before with
  | nil =>
    have hnil := List.append_eq_nil_iff.mp hrun.text.symm
    exact absurd (List.append_eq_nil_iff.mp hnil.2).1 hrun.token.1
  | @mark c cs xs hc h ih =>
    cases before with
    | nil =>
      obtain ⟨d, w, rfl⟩ := List.exists_cons_of_ne_nil hrun.token.1
      obtain ⟨rfl, -⟩ := List.cons.inj hrun.text
      exact absurd (hrun.token.2 c List.mem_cons_self) (by simp [hc])
    | cons b before =>
      obtain ⟨-, htext⟩ := List.cons.inj hrun.text
      refine List.mem_cons_of_mem _ (ih ⟨htext, hrun.token, fun d hd => ?_, hrun.stops⟩)
      exact hrun.starts d (by rw [List.getLast?_cons, hd]; rfl)
  | @token v cs xs hv hstop h ih =>
    rcases List.append_eq_append_iff.mp hrun.text with ⟨a, hbefore, htext⟩ | ⟨a, hv', htext⟩
    · -- the run lies behind the first token
      refine List.mem_cons_of_mem _ (ih ⟨htext, hrun.token, fun d hd => ?_, hrun.stops⟩)
      exact hrun.starts d (by rw [hbefore, List.getLast?_append, hd]; rfl)
    · -- it starts within the first token, and thus where that starts
      have hbefore : before = [] := by
        by_contra hne
        have hlast := hrun.starts _ (List.getLast?_eq_some_getLast hne)
        have htoken := hv.2 _ (hv' ▸ List.mem_append_left a (List.getLast_mem hne))
        exact absurd htoken (by simp [hlast])
      have hw : w = v := by
        rw [← takeWhile_run hrun.token.2 hrun.stops, htext, ← takeWhile_run hv.2 hstop, hv',
          hbefore, List.nil_append]
      exact hw ▸ List.mem_cons_self

/-! ## Boxed lexemes -/

/-- The primitive types of the language and their wrapper classes. -/
def wrapperClasses : List (String × String) := [
  ("boolean", "Boolean"), ("byte", "Byte"), ("short", "Short"), ("int", "Integer"),
  ("long", "Long"), ("char", "Character"), ("float", "Float"), ("double", "Double")]

/-- The names of the primitive types. -/
def primitives : List String := wrapperClasses.map (·.1)

/-- A lexeme and what it is among type arguments: a primitive type becomes its wrapper class, all
else stays. -/
inductive Boxes : Lexeme → Lexeme → Prop
  | mark (c : Char) : Boxes (.mark c) (.mark c)
  | wrapper {primitive wrapper : String} : (primitive, wrapper) ∈ wrapperClasses →
      Boxes (.token primitive.toList) (.token wrapper.toList)
  | token {w : List Char} : String.ofList w ∉ primitives → Boxes (.token w) (.token w)

/-- A lexeme, boxed. -/
def Lexeme.box : Lexeme → Lexeme
  | .token w => .token (boxed w)
  | .mark c => .mark c

theorem mem_wrappers_iff {p : String × String} : p ∈ wrappers ↔ p ∈ wrapperClasses := by
  have hsub : ∀ p ∈ wrappers, p ∈ wrapperClasses := by decide
  have hsup : ∀ p ∈ wrapperClasses, p ∈ wrappers := by decide
  exact ⟨hsub p, hsup p⟩

theorem boxed_wrapper : ∀ p ∈ wrapperClasses, boxed p.1.toList = p.2.toList := by decide

theorem boxed_nil : boxed [] = [] := by decide

theorem boxed_of_notMem {w : List Char} (h : String.ofList w ∉ primitives) : boxed w = w := by
  have hnone : wrappers.find? (·.1.toList = w) = none := by
    rw [List.find?_eq_none]
    intro p hp heq
    rw [decide_eq_true_eq] at heq
    rw [← heq, String.ofList_toList] at h
    exact h (List.mem_map_of_mem (mem_wrappers_iff.mp hp))
  rw [boxed, hnone]

theorem exists_or_boxed_eq (w : List Char) :
    (∃ p ∈ wrapperClasses, w = p.1.toList ∧ boxed w = p.2.toList) ∨
      (String.ofList w ∉ primitives ∧ boxed w = w) := by
  by_cases h : String.ofList w ∈ primitives
  · obtain ⟨p, hp, hw⟩ := List.mem_map.mp h
    have hw : w = p.1.toList := by rw [hw, String.toList_ofList]
    exact .inl ⟨p, hp, hw, by rw [hw, boxed_wrapper p hp]⟩
  · exact .inr ⟨h, boxed_of_notMem h⟩

theorem notMem_primitives : ∀ p ∈ wrapperClasses, p.2 ∉ primitives := by decide

theorem isToken_wrapper :
    ∀ p ∈ wrapperClasses, p.2.toList ≠ [] ∧ ∀ c ∈ p.2.toList, isTokenChar c = true := by
  have hall : ∀ p ∈ wrapperClasses, p.2.toList ≠ [] ∧ p.2.toList.all isTokenChar = true := by
    decide
  intro p hp
  obtain ⟨hne, hchars⟩ := hall p hp
  exact ⟨hne, List.all_eq_true.mp hchars⟩

theorem boxed_notMem (w : List Char) : String.ofList (boxed w) ∉ primitives := by
  rcases exists_or_boxed_eq w with ⟨p, hp, -, hboxed⟩ | ⟨hnot, hboxed⟩
  · rw [hboxed, String.ofList_toList]
    exact notMem_primitives p hp
  · rwa [hboxed]

theorem IsToken.boxed {w : List Char} (h : IsToken w) : IsToken (boxed w) := by
  rcases exists_or_boxed_eq w with ⟨p, hp, -, hboxed⟩ | ⟨-, hboxed⟩
  · rw [hboxed]
    exact isToken_wrapper p hp
  · rwa [hboxed]

theorem boxes_box (x : Lexeme) : Boxes x x.box := by
  cases x with
  | mark c => exact .mark c
  | token w =>
    rw [Lexeme.box]
    rcases exists_or_boxed_eq w with ⟨p, hp, hw, hboxed⟩ | ⟨hnot, hboxed⟩
    · rw [hboxed, hw]
      exact .wrapper hp
    · rw [hboxed]
      exact .token hnot

theorem box_box (x : Lexeme) : x.box.box = x.box := by
  cases x with
  | mark c => rfl
  | token w => rw [Lexeme.box, Lexeme.box, boxed_of_notMem (boxed_notMem w)]

/-! ## Boxed texts -/

theorem boxTokens_append {v : List Char} (hv : ∀ c ∈ v, isTokenChar c = true) (w rest : List Char) :
    boxTokens w (v ++ rest) = boxTokens (w ++ v) rest := by
  induction v generalizing w with
  | nil => simp
  | cons c v ih =>
    rw [List.cons_append, boxTokens, if_pos (hv c List.mem_cons_self),
      ih fun d hd => hv d (List.mem_cons_of_mem c hd)]
    simp

theorem boxTokens_of_stops (w : List Char) (h : StopsToken cs) :
    boxTokens w cs = boxed w ++ boxTokens [] cs := by
  cases cs with
  | nil => simp [boxTokens, boxed_nil]
  | cons c cs =>
    have hc : isTokenChar c = false := h c rfl
    simp [boxTokens, hc, boxed_nil]

/-- A text is boxed lexeme by lexeme. -/
theorem Lexes.boxTokens_eq (h : Lexes cs xs) : boxTokens [] cs = textOf (xs.map Lexeme.box) := by
  induction h with
  | nil => exact boxed_nil
  | mark hc _ ih =>
    rw [boxTokens, if_neg (by simp [hc]), boxed_nil, ih, List.map_cons, textOf_cons]
    rfl
  | token hw hstop _ ih =>
    rw [boxTokens_append hw.2, List.nil_append, boxTokens_of_stops _ hstop, ih, List.map_cons,
      textOf_cons]
    rfl

theorem Lexes.head?_box (h : Lexes cs xs) (hstop : StopsToken cs) :
    (textOf (xs.map Lexeme.box)).head? = cs.head? := by
  cases h with
  | nil => rfl
  | mark _ _ => rfl
  | @token w cs xs hw _ _ =>
    obtain ⟨c, w, rfl⟩ := List.exists_cons_of_ne_nil hw.1
    exact absurd (hstop c rfl) (by simp [hw.2 c List.mem_cons_self])

/-- Boxing moves no bound of a token. -/
theorem Lexes.box (h : Lexes cs xs) : Lexes (textOf (xs.map Lexeme.box)) (xs.map Lexeme.box) := by
  induction h with
  | nil => exact .nil
  | mark hc _ ih => exact .mark hc ih
  | token hw hstop h ih =>
    rw [List.map_cons, textOf_cons]
    exact .token hw.boxed (by rwa [StopsToken, h.head?_box hstop]) ih

/-! ## Types -/

theorem toList_typeText {base : List Char} (hbase : '<' ∉ base) (hcs : ∀ c ∈ cs.head?, c = '<') :
    (typeText (String.ofList (base ++ cs))).toList = base ++ boxTokens [] cs := by
  have hall : ∀ c ∈ base, (c != '<') = true := fun c hc =>
    bne_iff_ne.mpr fun heq => hbase (heq ▸ hc)
  have hstop : ∀ c ∈ cs.head?, (c != '<') = false := fun c hc => by simp [hcs c hc]
  rw [typeText, String.toList_ofList, String.toList_ofList, takeWhile_run hall hstop,
    dropWhile_run hall hstop]

/-- A text up to its first bracket, and from there on. -/
theorem exists_base (t : String) : ∃ base cs, t = String.ofList (base ++ cs) ∧ '<' ∉ base ∧
    ∀ c ∈ cs.head?, c = '<' := by
  refine ⟨t.toList.takeWhile (· != '<'), t.toList.dropWhile (· != '<'), ?_, fun h => ?_, ?_⟩
  · rw [List.takeWhile_append_dropWhile, String.ofList_toList]
  · simpa using List.mem_takeWhile_imp h
  · exact fun c hc => by simpa using head?_dropWhile hc

/-- **Type arguments are boxed token by token, and nothing before the first bracket is.** -/
theorem typeText_boxes (t : String) : ∃ base cs cs' xs ys,
    (t.toList = base ++ cs ∧ (typeText t).toList = base ++ cs') ∧
      ('<' ∉ base ∧ (∀ c ∈ cs.head?, c = '<') ∧ cs'.head? = cs.head?) ∧
      (Lexes cs xs ∧ List.Forall₂ Boxes xs ys ∧ Lexes cs' ys) ∧
      (∀ before w after, IsRun cs' before w after → String.ofList w ∉ primitives) ∧
      typeText (typeText t) = typeText t := by
  obtain ⟨base, cs, rfl, hbase, hcs⟩ := exists_base t
  obtain ⟨xs, hxs⟩ := exists_lexes cs
  have hhead : (textOf (xs.map Lexeme.box)).head? = cs.head? :=
    hxs.head?_box fun c hc => by rw [hcs c hc]; decide
  have hresult : (typeText (String.ofList (base ++ cs))).toList =
      base ++ textOf (xs.map Lexeme.box) := by
    rw [toList_typeText hbase hcs, hxs.boxTokens_eq]
  -- the lexemes of the result are the boxed ones, since boxing moves no bound of a token
  refine ⟨base, cs, textOf (xs.map Lexeme.box), xs, xs.map Lexeme.box,
    ⟨String.toList_ofList, hresult⟩, ⟨hbase, hcs, hhead⟩, ⟨hxs, ?_, hxs.box⟩,
    fun before w after hrun => ?_, ?_⟩
  · exact List.forall₂_map_right_iff.mpr (List.forall₂_same.mpr fun x _ => boxes_box x)
  · obtain ⟨x, -, hx⟩ := List.mem_map.mp (hxs.box.token_mem hrun)
    cases x with
    | mark c => exact nomatch hx
    | token v =>
      cases hx
      exact boxed_notMem v
  · have hagain : (xs.map Lexeme.box).map Lexeme.box = xs.map Lexeme.box := by
      rw [List.map_map]
      exact List.map_congr_left fun x _ => box_box x
    have htext : typeText (String.ofList (base ++ cs)) =
        String.ofList (base ++ textOf (xs.map Lexeme.box)) := by
      rw [← hresult, String.ofList_toList]
    apply String.toList_inj.mp
    rw [hresult, htext, toList_typeText hbase fun c hc => hcs c (hhead ▸ hc), hxs.box.boxTokens_eq,
      hagain]

example : typeText "Map<int, java.int<byte>long>" = "Map<Integer, java.int<Byte>Long>" := by
  decide

end Blueprint.Java
