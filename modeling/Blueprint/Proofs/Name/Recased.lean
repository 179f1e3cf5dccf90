import Blueprint.Proofs.Name.Casings

/-!
# Names that are cased again

A name in camel case that becomes a name again keeps a capital if its word is found again.

* `startsWord`, `recased`: the capitals of a text that start words, and the text with the others in
  small letters. `recased_append`: a text is cased again apart from what follows.
* **`camelized_humps`**, **`camel_ofString_eq_recased`**: a text of letters and digits, as a name in
  camel case, is the text cased again.
-/

namespace Blueprint

open Text Unicode

namespace Text

variable {c : Char} {cs : List Char} {h : Hump}

/-! ## Capitals that start words -/

/-- Whether a capital starts a word behind the first, by the case of the last letter before it and by
the character behind it. -/
def startsWord (h : Hump) (next : Option Char) : Bool :=
  match h with
  | .boundary => false
  | .lower => true
  | .upper => next.any Char.isLower

/-- A text with the capitals in small letters that start no word, where `h` is the case of the last letter
before it. -/
def recased (h : Hump) : List Char → List Char
  | [] => []
  | c :: rest =>
    (if c.isUpper && !startsWord h rest.head? then c.toLower else c) :: recased (h.after c) rest

theorem after_of_lt (hc : c.toNat < 128) (h : Hump) :
    h.after c = if c.isLower then .lower else if c.isUpper then .upper else h := by
  rw [Hump.after, isLowercase_of_lt hc, isUppercase_of_lt hc]

theorem after_of_isUpper (hc : c.isUpper = true) (h : Hump) : h.after c = .upper := by
  rw [after_of_lt (lt_of_isUpper hc), isLower_of_isUpper hc, hc]
  rfl

theorem after_of_isLower (hc : c.isLower = true) (h : Hump) : h.after c = .lower := by
  rw [after_of_lt (lt_of_isLower hc), hc]
  rfl

theorem after_of_isDigit (hc : c.isDigit = true) (h : Hump) : h.after c = h := by
  rw [after_of_lt (lt_of_isDigit hc), isLower_of_isDigit hc, isUpper_of_isDigit hc]
  rfl

theorem recased_cons_of_not_isUpper (hc : c.isUpper = false) (h : Hump) (cs : List Char) :
    recased h (c :: cs) = c :: recased (h.after c) cs := by
  simp [recased, hc]

theorem recased_cons_of_isUpper (hc : c.isUpper = true) (h : Hump) (cs : List Char) :
    recased h (c :: cs) =
      (if startsWord h cs.head? then c else c.toLower) :: recased .upper cs := by
  rw [recased, after_of_isUpper hc, hc]
  cases startsWord h cs.head? <;> rfl

theorem recased_cons_of_not_startsWord (hc : c.toNat < 128)
    (hstarts : c.isUpper = true → startsWord h cs.head? = false) :
    recased h (c :: cs) = c.toLower :: recased (h.after c) cs := by
  rw [recased]
  cases hcap : c.isUpper with
  | false => simp [toLower_of_not_isUpper hc hcap]
  | true => simp [hstarts hcap]

theorem length_recased (h : Hump) (cs : List Char) : (recased h cs).length = cs.length := by
  induction cs generalizing h with
  | nil => rfl
  | cons c rest ih => rw [recased, List.length_cons, ih, List.length_cons]

theorem map_toLower_recased (hcs : ∀ c ∈ cs, c.toNat < 128) (h : Hump) :
    (recased h cs).map Char.toLower = cs.map Char.toLower := by
  induction cs generalizing h with
  | nil => rfl
  | cons c rest ih =>
    have hc := toLower_toLower_of_lt (hcs c List.mem_cons_self)
    rw [recased, List.map_cons, List.map_cons, ih fun x hx => hcs x (List.mem_cons_of_mem c hx)]
    split
    · rw [hc]
    · rfl

theorem recased_of_forall (hcs : ∀ c ∈ cs, c.isUpper = false) (h : Hump) : recased h cs = cs := by
  induction cs generalizing h with
  | nil => rfl
  | cons c rest ih =>
    rw [recased_cons_of_not_isUpper (hcs c List.mem_cons_self),
      ih fun x hx => hcs x (List.mem_cons_of_mem c hx)]

theorem recased_cons_eq_self (hc : c.isUpper = true) (hcs : ∀ x ∈ cs, x.isUpper = false) :
    recased h (c :: cs) = c :: cs ↔ startsWord h cs.head? = true := by
  have hlost : c.toLower ≠ c := by
    intro heq
    have hsmall := isUpper_toLower_of_lt (lt_of_isUpper hc)
    rw [heq, hc] at hsmall
    exact nomatch hsmall
  rw [recased_cons_of_isUpper hc, recased_of_forall hcs, List.cons.injEq]
  cases startsWord h cs.head? with
  | true => exact iff_of_true ⟨rfl, rfl⟩ rfl
  | false => exact iff_of_false (fun heq => hlost heq.1) Bool.false_ne_true

theorem recased_append {ds : List Char} (hds : ∀ d ∈ ds.head?, d.isLower = false) (h : Hump) :
    recased h (cs ++ ds) = recased h cs ++ recased (cs.foldl Hump.after h) ds := by
  induction cs generalizing h with
  | nil => rfl
  | cons c rest ih =>
    -- the last capital looks at the first character of `ds`, which is not small
    have hstarts : startsWord h (rest ++ ds).head? = startsWord h rest.head? := by
      cases rest with
      | nil =>
        have hany : ds.head?.any Char.isLower = false := by
          cases hd : ds.head? with
          | none => rfl
          | some d => exact hds d hd
        cases h with
        | boundary => rfl
        | lower => rfl
        | upper => exact hany
      | cons d rest => rfl
    rw [List.cons_append, recased, recased, hstarts, ih, List.foldl_cons]
    rfl

/-! ## Names that are cased again -/

/-- Words in camel case: the first in small letters, the others capitalised. -/
def camelized : List (List Char) → List Char
  | [] => []
  | w :: ws => w.map Char.toLower ++ ws.flatMap capitalized

/-- Camel case, and the same with the first word capitalised, differ in the first letter alone. -/
theorem flatMap_capitalized_of_camelized {ws : List (List Char)} (hne : ∀ w ∈ ws, w ≠ [])
    (hascii : ∀ w ∈ ws, ∀ x ∈ w, x.toNat < 128) (h : camelized ws = c.toLower :: cs)
    (hc : c.isUpper = true) : ws.flatMap capitalized = c :: cs := by
  cases ws with
  | nil => exact nomatch h
  | cons first rest =>
    obtain ⟨d, w, rfl⟩ := List.exists_cons_of_ne_nil (hne first List.mem_cons_self)
    have hd : d.toNat < 128 := hascii _ List.mem_cons_self d List.mem_cons_self
    obtain ⟨hlower, hrest⟩ := List.cons.inj h
    have hupper : d.toUpper = c := by
      rw [← toUpper_toLower_of_lt hd, hlower, toUpper_toLower_of_lt (lt_of_isUpper hc),
        toUpper_of_isUpper hc]
    rw [List.flatMap_cons, capitalized, hupper, ← hrest]
    rfl

theorem lt_of_mem_humps {word : List Char} (hne : cs ≠ []) (hword : ∀ x ∈ word, x.toNat < 128)
    (hcs : ∀ x ∈ cs, x.toNat < 128) : ∀ w ∈ humps h word cs, ∀ x ∈ w, x.toNat < 128 := by
  intro w hw x hx
  have hmem : x ∈ (humps h word cs).flatten := List.mem_flatten.mpr ⟨w, hw, hx⟩
  rw [flatten_humps h word hne] at hmem
  rcases List.mem_append.mp hmem with hmem | hmem
  · exact hword x hmem
  · exact hcs x hmem

/-- The words behind a split are capitalised: with its first letter a capital, the rest is in camel case. -/
theorem flatMap_capitalized_humps {rest word : List Char} (hne : cs ≠ [])
    (hword : ∀ x ∈ word, x.toNat < 128) (hcs : ∀ x ∈ cs, x.toNat < 128) (hc : c.isUpper = true)
    (hcamel : camelized (humps .boundary word cs) = c.toLower :: rest) :
    (humps .boundary word cs).flatMap capitalized = c :: rest :=
  flatMap_capitalized_of_camelized (fun _ hw => ne_nil_of_mem_humps (by simp) hw)
    (lt_of_mem_humps hne hword hcs) hcamel hc

/-- **The words of a piece in camel case** are the piece, cased again. Here `word` has been read,
with last case `h`. -/
theorem camelized_humps (h : Hump) (word : List Char) (hne : cs ≠ [])
    (hword : ∀ x ∈ word, x.toNat < 128) (hcs : ∀ x ∈ cs, x.toNat < 128)
    (hstart : h = .lower → ∀ c ∈ cs.head?, c.isUpper = false) :
    camelized (humps h word cs) = word.map Char.toLower ++ recased h cs := by
  induction cs generalizing h word with
  | nil => exact absurd rfl hne
  | cons c rest ih =>
    have hc : c.toNat < 128 := hcs c List.mem_cons_self
    cases rest with
    | nil =>
      have hlast : recased h [c] = [c.toLower] := by
        refine recased_cons_of_not_startsWord hc fun hcap => ?_
        cases h with
        | boundary => rfl
        | lower => simp [hstart rfl c rfl] at hcap
        | upper => rfl
      simp [humps, camelized, hlast]
    | cons next rest =>
      have hnext : next.toNat < 128 := hcs next (by simp)
      have hrest : ∀ x ∈ next :: rest, x.toNat < 128 := fun x hx => hcs x (List.mem_cons_of_mem c hx)
      have hne' : next :: rest ≠ [] := List.cons_ne_nil next rest
      rw [humps, isUppercase_of_lt hc, isUppercase_of_lt hnext, isLowercase_of_lt hnext]
      split
      · -- a word ends with `c`, and the capital behind it starts the next one
        rename_i hsplit
        obtain ⟨hafter, hcap⟩ := hsplit
        have hcsmall : c.isUpper = false := by
          rw [Bool.eq_false_iff]
          intro hccap
          simp [after_of_isUpper hccap] at hafter
        have hcamel := ih .boundary [] hne' (by simp) hrest (by simp)
        rw [recased_cons_of_isUpper hcap] at hcamel
        have hpascal := flatMap_capitalized_humps hne' (by simp) hrest hcap hcamel
        rw [camelized, hpascal, recased_cons_of_not_isUpper hcsmall, hafter,
          recased_cons_of_isUpper hcap]
        simp [startsWord, toLower_of_not_isUpper hc hcsmall]
      · rename_i hstays
        split
        · -- the capital `c` ends a run of capitals and starts a word with the small letter behind it
          rename_i hsplit
          obtain ⟨rfl, hcap, hnextsmall⟩ := hsplit
          have hnextup : next.isUpper = false := isUpper_of_isLower hnextsmall
          have hcamel := ih .boundary [c] hne' (by simpa using hc) hrest (by simp)
          rw [recased_cons_of_not_isUpper hnextup, after_of_isLower hnextsmall] at hcamel
          have hpascal := flatMap_capitalized_humps hne' (by simpa using hc) hrest hcap hcamel
          rw [camelized, hpascal, recased_cons_of_isUpper hcap, recased_cons_of_not_isUpper hnextup,
            after_of_isLower hnextsmall]
          simp [startsWord, hnextsmall]
        · -- the word goes on
          rename_i hgoes
          have hcamel := ih (h.after c) (word ++ [c]) hne'
            (by simpa [or_imp, forall_and] using ⟨hword, hc⟩) hrest
            (by rintro hlow x ⟨⟩; simpa [hlow] using hstays)
          have hlow : recased h (c :: next :: rest) =
              c.toLower :: recased (h.after c) (next :: rest) := by
            refine recased_cons_of_not_startsWord hc fun hcap => ?_
            cases h with
            | boundary => rfl
            | lower => simp [hstart rfl c rfl] at hcap
            | upper => simpa [startsWord, hcap] using hgoes
          rw [hcamel, hlow]
          simp

end Text

namespace Name

/-- **A name of letters and digits in camel case** is its spelling, cased again. -/
theorem camel_ofString_eq_recased {s : String} (hne : s ≠ "")
    (hs : ∀ c ∈ s.toList, c.isAlphanum = true) :
    (Name.ofString s).camel.toList = recased .boundary s.toList := by
  have hascii : ∀ c ∈ s.toList, c.toNat < 128 := fun c hc => lt_of_isAlphanum (hs c hc)
  have hnil : s.toList ≠ [] := fun h => hne (String.toList_eq_nil_iff.mp h)
  have halpha : ∀ c ∈ s.toList, isAlphanumeric c = true := by
    intro c hc
    rw [isAlphanumeric_of_lt (hascii c hc), hs c hc]
  have hwords : words (sanitize s.toList) = humps .boundary [] s.toList := by
    have hpiece : splitWhere (fun c => !isAlphanumeric c) s.toList = [s.toList] :=
      splitWhere_of_forall fun c hc => by simp [halpha c hc]
    have hsome : s.toList.filter isAlphanumeric ≠ [] := by rwa [List.filter_eq_self.mpr halpha]
    rw [words_sanitize, if_neg hsome, words, hpiece, List.flatMap_singleton]
  obtain ⟨c, w, ws, hws⟩ := exists_words_eq s.toList
  have hlt : ∀ v ∈ (c :: w) :: ws, ∀ x ∈ v, x.toNat < 128 := by
    rw [← hws, hwords]
    exact lt_of_mem_humps hnil (by simp) hascii
  have hcamel := camelized_humps .boundary [] hnil (by simp) hascii (by simp)
  rw [← hwords, hws] at hcamel
  rw [(cased_of_words hws hlt).camel]
  exact hcamel

end Name

end Blueprint
