import Blueprint.Uri.Template
import Mathlib.Data.List.Basic

/-!
# The pieces of a URI template

A template is cut into groups, which are no part of its path, and single characters. Both scans of
it read the same pieces, as long as no brace opens between an opening brace and the closing one that
follows.

* `IsGroup`, `Cuts`: the groups, and the pieces of a text from left to right.
* `Cuts.pathFrom_eq`, `Cuts.bodies_eq`: what the two scans make of the pieces.
* `Unnested`: the texts in which no brace opens inside of braces; **`Cuts.occurs_iff`**: the groups
  in them are the groups among the pieces.
* `IsPlain`: a text without a group; **`Cuts.isPlain_pathOf`**: taking groups out makes no new one.
-/

namespace Blueprint.Uri

/-! ## Pieces -/

/-- What stands between the braces of a group that is no part of the path: a mark and a body. -/
structure IsGroup (mark : Char) (body : List Char) : Prop where
  marked : isExpansionMark mark = true
  filled : body ≠ []
  closed : '\x7d' ∉ body

/-- The text of a group and of what follows it. -/
def groupThen (mark : Char) (body rest : List Char) : List Char :=
  '\x7b' :: mark :: (body ++ '\x7d' :: rest)

theorem groupThen_eq (mark : Char) (body rest : List Char) :
    groupThen mark body rest = '\x7b' :: (mark :: (body ++ ['\x7d']) ++ rest) := by
  simp [groupThen]

/-- A piece of a template. -/
inductive Piece where
  | char (c : Char)
  | group (mark : Char) (body : List Char)

/-- The text of pieces. -/
def textOf : List Piece → List Char
  | [] => []
  | .char c :: ps => c :: textOf ps
  | .group mark body :: ps => groupThen mark body (textOf ps)

/-- The characters that are no part of a group. -/
def pathOf : List Piece → List Char
  | [] => []
  | .char c :: ps => c :: pathOf ps
  | .group _ _ :: ps => pathOf ps

/-- The bodies of the groups that name query variables. -/
def queryBodies : List Piece → List (List Char)
  | [] => []
  | .char _ :: ps => queryBodies ps
  | .group mark body :: ps => if isQueryMark mark then body :: queryBodies ps else queryBodies ps

/-- A text and its pieces, from left to right: a group where one starts, else a character. -/
inductive Cuts : List Char → List Piece → Prop
  | done : Cuts [] []
  | group {mark : Char} {body rest : List Char} {ps : List Piece} : IsGroup mark body → Cuts rest ps →
      Cuts (groupThen mark body rest) (.group mark body :: ps)
  | char {c : Char} {rest : List Char} {ps : List Piece} :
      (∀ mark body after, IsGroup mark body → c :: rest ≠ groupThen mark body after) → Cuts rest ps →
      Cuts (c :: rest) (.char c :: ps)

theorem textOf_append (ps qs : List Piece) : textOf (ps ++ qs) = textOf ps ++ textOf qs := by
  induction ps with
  | nil => rfl
  | cons p ps ih => cases p <;> simp [textOf, groupThen, ih]

theorem exists_cuts (cs : List Char) : ∃ ps, Cuts cs ps := by
  induction hn : cs.length using Nat.strongRecOn generalizing cs with
  | ind n ih =>
    cases cs with
    | nil => exact ⟨[], .done⟩
    | cons c rest =>
      by_cases hgroup : ∃ mark body after, IsGroup mark body ∧ c :: rest = groupThen mark body after
      · obtain ⟨mark, body, after, hbody, htext⟩ := hgroup
        have hlength : after.length < n := by
          rw [← hn, htext]
          simp only [groupThen, List.length_cons, List.length_append]
          omega
        obtain ⟨ps, hps⟩ := ih _ hlength after rfl
        rw [htext]
        exact ⟨_, .group hbody hps⟩
      · obtain ⟨ps, hps⟩ := ih rest.length (by simp [← hn]) rest rfl
        refine ⟨_, .char (fun mark body after hbody htext => ?_) hps⟩
        exact hgroup ⟨mark, body, after, hbody, htext⟩

theorem Cuts.textOf_eq {cs : List Char} {ps : List Piece} (h : Cuts cs ps) : textOf ps = cs := by
  induction h with
  | done => rfl
  | group _ _ ih => rw [textOf, ih]
  | char _ _ ih => rw [textOf, ih]

theorem Cuts.isGroup {cs : List Char} {ps : List Piece} (h : Cuts cs ps) {mark : Char}
    {body : List Char} (hmem : Piece.group mark body ∈ ps) : IsGroup mark body := by
  induction h with
  | done => exact nomatch hmem
  | group hbody _ ih =>
    rcases List.mem_cons.mp hmem with heq | hmem
    · obtain ⟨rfl, rfl⟩ := Piece.group.inj heq
      exact hbody
    · exact ih hmem
  | char _ _ ih =>
    rcases List.mem_cons.mp hmem with heq | hmem
    · exact nomatch heq
    · exact ih hmem

/-! ## The two scans -/

theorem isExpansionMark_of_isQueryMark {c : Char} (h : isQueryMark c = true) :
    isExpansionMark c = true := by
  simp only [isQueryMark, isExpansionMark, Bool.or_eq_true, decide_eq_true_iff] at h ⊢
  tauto

theorem ne_brace_of_isExpansionMark {c : Char} (h : isExpansionMark c = true) :
    c ≠ '\x7b' ∧ c ≠ '\x7d' := by
  constructor
  · rintro rfl
    exact absurd h (by decide)
  · rintro rfl
    exact absurd h (by decide)

theorem IsGroup.notMem {mark : Char} {body : List Char} (h : IsGroup mark body) :
    '\x7d' ∉ mark :: body := by
  rw [List.mem_cons, not_or]
  exact ⟨(ne_brace_of_isExpansionMark h.marked).2.symm, h.closed⟩

/-- A group opens at the front of its text, and nowhere else. -/
theorem opens_iff {marks : Char → Bool} {cs : List Char} : opens marks cs = true ↔
    ∃ mark body after, marks mark = true ∧ body ≠ [] ∧ '\x7d' ∉ body ∧
      cs = groupThen mark body after := by
  constructor
  · intro h
    unfold opens at h
    split at h
    · rename_i b m c rest
      simp only [Bool.and_eq_true, beq_iff_eq, bne_iff_ne, List.contains_iff_mem] at h
      obtain ⟨⟨⟨rfl, hmark⟩, hc⟩, hclosed⟩ := h
      obtain ⟨body, after, hbody, hnone⟩ := List.eq_append_cons_of_mem hclosed
      refine ⟨m, body, after, hmark, ?_, hnone, by rw [groupThen, ← hbody]⟩
      rintro rfl
      exact hc (List.cons.inj hbody).1
    · exact nomatch h
  · rintro ⟨mark, body, after, hmark, hbody, hclosed, rfl⟩
    obtain ⟨c, body, rfl⟩ := List.exists_cons_of_ne_nil hbody
    have hc : c ≠ '\x7d' := fun h => hclosed (h ▸ List.mem_cons_self)
    simp [opens, groupThen, hmark, hc]

theorem opens_eq_false {c : Char} {rest : List Char}
    (h : ∀ mark body after, IsGroup mark body → c :: rest ≠ groupThen mark body after)
    {marks : Char → Bool} (hmarks : ∀ m, marks m = true → isExpansionMark m = true) :
    opens marks (c :: rest) = false := by
  rw [Bool.eq_false_iff]
  intro hopens
  obtain ⟨mark, body, after, hmark, hbody, hclosed, htext⟩ := opens_iff.mp hopens
  exact h mark body after ⟨hmarks mark hmark, hbody, hclosed⟩ htext

theorem pathFrom_inside {cs : List Char} (h : '\x7d' ∉ cs) (rest : List Char) :
    pathFrom true (cs ++ '\x7d' :: rest) = pathFrom false rest := by
  induction cs with
  | nil => simp [pathFrom]
  | cons c cs ih =>
    rw [List.mem_cons, not_or] at h
    have hc : (c != '\x7d') = true := bne_iff_ne.mpr (Ne.symm h.1)
    rw [List.cons_append, pathFrom, if_pos rfl, hc, ih h.2]

/-- **The path of a text** is what is left of it without its groups. -/
theorem Cuts.pathFrom_eq {cs : List Char} {ps : List Piece} (h : Cuts cs ps) :
    pathFrom false cs = pathOf ps := by
  induction h with
  | done => rfl
  | @group mark body rest ps hbody _ ih =>
    have hopens : opens isExpansionMark (groupThen mark body rest) = true :=
      opens_iff.mpr ⟨mark, body, rest, hbody.marked, hbody.filled, hbody.closed, rfl⟩
    unfold groupThen at hopens ⊢
    rw [pathFrom, if_neg (by simp), if_pos hopens, ← List.cons_append, pathFrom_inside hbody.notMem, ih]
    rfl
  | @char c rest ps hchar _ ih =>
    rw [pathFrom, if_neg (by simp), if_neg (by simp [opens_eq_false hchar fun _ h => h]), ih]
    rfl

theorem bodies_inside {body : List Char} (h : '\x7d' ∉ body) (read rest : List Char) :
    bodies (.inside read) (body ++ '\x7d' :: rest) = (read ++ body) :: bodies .outside rest := by
  induction body generalizing read with
  | nil => simp [bodies]
  | cons c body ih =>
    rw [List.mem_cons, not_or] at h
    rw [List.cons_append, bodies, if_neg (Ne.symm h.1), ih h.2, List.append_assoc,
      List.singleton_append]

theorem bodies_outside {cs : List Char} (h : '\x7b' ∉ cs) (rest : List Char) :
    bodies .outside (cs ++ rest) = bodies .outside rest := by
  induction cs with
  | nil => rfl
  | cons c cs ih =>
    rw [List.mem_cons, not_or] at h
    have hopens : opens isQueryMark (c :: (cs ++ rest)) = false := by
      rw [Bool.eq_false_iff]
      intro hopens
      obtain ⟨mark, body, after, -, -, -, htext⟩ := opens_iff.mp hopens
      exact h.1 (List.cons.inj htext).1.symm
    rw [List.cons_append, bodies, if_neg (by simp [hopens]), ih h.2]

/-! ## Texts without braces inside of braces -/

/-- No brace opens between an opening brace and the closing one that follows. -/
def Unnested (cs : List Char) : Prop :=
  ∀ before body after, cs = before ++ '\x7b' :: (body ++ '\x7d' :: after) → '\x7d' ∉ body → '\x7b' ∉ body

theorem Unnested.of_append {before cs : List Char} (h : Unnested (before ++ cs)) : Unnested cs := by
  intro front body after htext
  refine h (before ++ front) body after ?_
  rw [htext, List.append_assoc]

theorem Unnested.of_cons {c : Char} {cs : List Char} (h : Unnested (c :: cs)) : Unnested cs := by
  have happend : Unnested ([c] ++ cs) := h
  exact happend.of_append

theorem takeWhile_closed {body : List Char} (h : '\x7d' ∉ body) (after : List Char) :
    (body ++ '\x7d' :: after).takeWhile (· ≠ '\x7d') = body := by
  have hbody : ∀ c ∈ body, decide (c ≠ '\x7d') = true := by
    intro c hc
    exact decide_eq_true fun heq => h (heq ▸ hc)
  rw [List.takeWhile_append_of_pos hbody, List.takeWhile_cons_of_neg (by simp), List.append_nil]

theorem unnested_cons {c : Char} {cs : List Char} : Unnested (c :: cs) ↔
    (c = '\x7b' → '\x7d' ∈ cs → '\x7b' ∉ cs.takeWhile (· ≠ '\x7d')) ∧ Unnested cs := by
  constructor
  · intro h
    refine ⟨?_, h.of_cons⟩
    rintro rfl hclosed
    obtain ⟨body, after, rfl, hnone⟩ := List.eq_append_cons_of_mem hclosed
    rw [takeWhile_closed hnone]
    exact h [] body after rfl hnone
  · rintro ⟨hfront, hcs⟩ before body after htext hnone
    cases before with
    | nil =>
      obtain ⟨rfl, rfl⟩ := List.cons.inj htext
      have hbody := hfront rfl (by simp)
      rwa [takeWhile_closed hnone] at hbody
    | cons b before => exact hcs before body after (List.cons.inj htext).2 hnone

/-- Whether no brace opens inside of braces, read from the front of a text. -/
def decidableUnnested : (cs : List Char) → Decidable (Unnested cs)
  | [] => .isTrue fun before _ _ htext => absurd htext (by simp)
  | _ :: cs => have := decidableUnnested cs; decidable_of_iff _ unnested_cons.symm

instance : DecidablePred Unnested := decidableUnnested

theorem Unnested.of_groupThen {mark : Char} {body rest : List Char}
    (h : Unnested (groupThen mark body rest)) : Unnested rest := by
  rw [groupThen_eq] at h
  exact h.of_cons.of_append

/-- No brace opens inside of a group. -/
theorem Unnested.notMem_group {mark : Char} {body rest : List Char}
    (h : Unnested (groupThen mark body rest)) (hbody : IsGroup mark body) :
    '\x7b' ∉ mark :: (body ++ ['\x7d']) := by
  have hinside : '\x7b' ∉ mark :: body := h [] (mark :: body) rest rfl hbody.notMem
  rw [← List.cons_append, List.mem_append, List.mem_singleton]
  rintro (h | h)
  · exact hinside h
  · exact absurd h (by decide)

/-- **The bodies that are read** are those of the groups that name query variables. -/
theorem Cuts.bodies_eq {cs : List Char} {ps : List Piece} (h : Cuts cs ps) (hcs : Unnested cs) :
    bodies .outside cs = queryBodies ps := by
  induction h with
  | done => rfl
  | @group mark body rest ps hbody _ ih =>
    have hrest := ih hcs.of_groupThen
    rw [queryBodies]
    by_cases hquery : isQueryMark mark = true
    · have hopens : opens isQueryMark (groupThen mark body rest) = true :=
        opens_iff.mpr ⟨mark, body, rest, hquery, hbody.filled, hbody.closed, rfl⟩
      unfold groupThen at hopens ⊢
      rw [if_pos hquery, bodies, if_pos hopens, bodies, bodies_inside hbody.closed, hrest]
      rfl
    · have hopens : ¬ opens isQueryMark (groupThen mark body rest) = true := by
        rw [opens_iff]
        rintro ⟨other, _, _, hother, -, -, htext⟩
        obtain rfl : mark = other := (List.cons.inj (List.cons.inj htext).2).1
        exact hquery hother
      -- the scan for query variables runs through a group of another mark without opening it
      rw [groupThen_eq] at hopens ⊢
      rw [if_neg hquery, bodies, if_neg hopens, bodies_outside (hcs.notMem_group hbody), hrest]
  | @char c rest ps hchar _ ih =>
    have hopens := opens_eq_false hchar fun _ => isExpansionMark_of_isQueryMark
    rw [bodies, if_neg (by simp [hopens]), ih hcs.of_cons]
    rfl

/-! ## Groups in a text -/

theorem append_cons_inj {x : Char} {as bs cs ds : List Char} (ha : x ∉ as) (hb : x ∉ bs)
    (h : as ++ x :: cs = bs ++ x :: ds) : as = bs ∧ cs = ds := by
  induction as generalizing bs with
  | nil =>
    cases bs with
    | nil => exact ⟨rfl, (List.cons.inj h).2⟩
    | cons b bs => exact absurd ((List.cons.inj h).1 ▸ List.mem_cons_self) hb
  | cons a as ih =>
    cases bs with
    | nil => exact absurd ((List.cons.inj h).1 ▸ List.mem_cons_self) ha
    | cons b bs =>
      rw [List.mem_cons, not_or] at ha hb
      obtain ⟨rfl, htail⟩ := List.cons.inj h
      obtain ⟨rfl, rfl⟩ := ih ha.2 hb.2 htail
      exact ⟨rfl, rfl⟩

theorem exists_of_append_eq {x : Char} {front rest before after : List Char} (hx : x ∉ front)
    (h : front ++ rest = before ++ x :: after) :
    ∃ between, before = front ++ between ∧ rest = between ++ x :: after := by
  induction front generalizing before with
  | nil => exact ⟨before, rfl, h⟩
  | cons c front ih =>
    rw [List.mem_cons, not_or] at hx
    cases before with
    | nil => exact absurd (List.cons.inj h).1.symm hx.1
    | cons b before =>
      obtain ⟨rfl, htail⟩ := List.cons.inj h
      obtain ⟨between, rfl, hrest⟩ := ih hx.2 htail
      exact ⟨between, rfl, hrest⟩

theorem groupThen_inj {mark other : Char} {body body' rest rest' : List Char}
    (hbody : IsGroup mark body) (hbody' : IsGroup other body')
    (h : groupThen mark body rest = groupThen other body' rest') :
    mark = other ∧ body = body' ∧ rest = rest' := by
  obtain ⟨rfl, htail⟩ := List.cons.inj (List.cons.inj h).2
  exact ⟨rfl, append_cons_inj hbody.closed hbody'.closed htail⟩

/-- **The groups in a text** are the groups among its pieces, each in its place. -/
theorem Cuts.occurs_iff {cs : List Char} {ps : List Piece} (h : Cuts cs ps) (hcs : Unnested cs)
    {mark : Char} {body : List Char} (hbody : IsGroup mark body) {before after : List Char} :
    cs = before ++ groupThen mark body after ↔
      ∃ qs rs, ps = qs ++ .group mark body :: rs ∧ textOf qs = before ∧ textOf rs = after := by
  constructor
  · intro htext
    -- along the pieces, of which one starts where the group does
    induction h generalizing before with
    | done => exact absurd htext (by simp [groupThen])
    | @group other body' rest ps hother hrest ih =>
      cases before with
      | nil =>
        obtain ⟨rfl, rfl, rfl⟩ := groupThen_inj hother hbody htext
        exact ⟨[], ps, rfl, rfl, hrest.textOf_eq⟩
      | cons c before =>
        have htail : other :: (body' ++ ['\x7d']) ++ rest = before ++ groupThen mark body after := by
          rw [groupThen_eq] at htext
          exact (List.cons.inj htext).2
        obtain rfl : '\x7b' = c := (List.cons.inj htext).1
        -- a group opens no other one, so it ends before the next opens
        obtain ⟨between, rfl, hbetween⟩ := exists_of_append_eq (hcs.notMem_group hother) htail
        obtain ⟨qs, rs, rfl, rfl, hafter⟩ := ih hcs.of_groupThen hbetween
        refine ⟨.group other body' :: qs, rs, rfl, ?_, hafter⟩
        simp [textOf, groupThen]
    | @char c rest ps hchar hrest ih =>
      cases before with
      | nil => exact absurd htext (hchar mark body after hbody)
      | cons b before =>
        obtain ⟨rfl, htail⟩ := List.cons.inj htext
        obtain ⟨qs, rs, rfl, rfl, hafter⟩ := ih hcs.of_cons htail
        exact ⟨.char c :: qs, rs, rfl, rfl, hafter⟩
  · rintro ⟨qs, rs, rfl, rfl, rfl⟩
    rw [← h.textOf_eq, textOf_append, textOf]

/-! ## What is left of a text -/

/-- A text without a group. -/
def IsPlain (cs : List Char) : Prop :=
  ∀ before mark body after, IsGroup mark body → cs ≠ before ++ groupThen mark body after

theorem IsPlain.of_cons {c : Char} {cs : List Char} (h : IsPlain (c :: cs)) : IsPlain cs := by
  intro before mark body after hbody htext
  exact h (c :: before) mark body after hbody (by rw [htext, List.cons_append])

theorem isPlain_cons {c : Char} {cs : List Char} (hcs : IsPlain cs)
    (hfront : ∀ mark body after, IsGroup mark body → c :: cs ≠ groupThen mark body after) :
    IsPlain (c :: cs) := by
  intro before mark body after hbody htext
  cases before with
  | nil => exact hfront mark body after hbody htext
  | cons b before => exact hcs before mark body after hbody (List.cons.inj htext).2

theorem IsPlain.opens_eq_false {c : Char} {cs : List Char} (h : IsPlain (c :: cs)) {marks : Char → Bool}
    (hmarks : ∀ m, marks m = true → isExpansionMark m = true) : opens marks (c :: cs) = false :=
  Uri.opens_eq_false (fun mark body after hbody => h [] mark body after hbody) hmarks

theorem IsPlain.pathFrom_eq {cs : List Char} (h : IsPlain cs) : pathFrom false cs = cs := by
  induction cs with
  | nil => rfl
  | cons c cs ih =>
    have hopens := h.opens_eq_false fun _ hm => hm
    rw [pathFrom, if_neg (by simp), if_neg (by simp [hopens]), ih h.of_cons]

theorem IsPlain.bodies_eq {cs : List Char} (h : IsPlain cs) : bodies .outside cs = [] := by
  induction cs with
  | nil => rfl
  | cons c cs ih =>
    have hopens := h.opens_eq_false fun _ => isExpansionMark_of_isQueryMark
    rw [bodies, if_neg (by simp [hopens]), ih h.of_cons]

theorem Cuts.mem_of_mem_pathOf {cs : List Char} {ps : List Piece} (h : Cuts cs ps) {x : Char}
    (hx : x ∈ pathOf ps) : x ∈ cs := by
  induction h with
  | done => exact nomatch hx
  | group _ _ ih =>
    have := ih hx
    simp [groupThen, this]
  | char _ _ ih =>
    rcases List.mem_cons.mp hx with rfl | hx
    · exact List.mem_cons_self
    · exact List.mem_cons_of_mem _ (ih hx)

/-- A front without an opening brace is no part of a group. -/
theorem Cuts.exists_of_append {front rest : List Char} {ps : List Piece} (h : Cuts (front ++ rest) ps)
    (hfront : '\x7b' ∉ front) : ∃ qs, Cuts rest qs ∧ pathOf ps = front ++ pathOf qs := by
  induction front generalizing ps with
  | nil => exact ⟨ps, h, rfl⟩
  | cons c front ih =>
    rw [List.mem_cons, not_or] at hfront
    generalize htext : c :: front ++ rest = cs at h
    cases h with
    | done => exact nomatch htext
    | group => exact absurd (List.cons.inj htext).1.symm hfront.1
    | char _ hrest =>
      obtain ⟨rfl, rfl⟩ := List.cons.inj htext
      obtain ⟨qs, hqs, hpath⟩ := ih hrest hfront.2
      exact ⟨qs, hqs, by rw [pathOf, hpath, List.cons_append]⟩

/-- **Taking the groups out of a text makes no new one.** -/
theorem Cuts.isPlain_pathOf {cs : List Char} {ps : List Piece} (h : Cuts cs ps) (hcs : Unnested cs) :
    IsPlain (pathOf ps) := by
  induction h with
  | done => exact fun before mark body after _ htext => absurd htext (by simp [pathOf, groupThen])
  | group _ _ ih => exact ih hcs.of_groupThen
  | @char c rest ps hchar hrest ih =>
    refine isPlain_cons (ih hcs.of_cons) fun mark body after hbody htext => ?_
    obtain ⟨rfl, hpath⟩ := List.cons.inj htext
    have hclosed : '\x7d' ∈ rest := hrest.mem_of_mem_pathOf (by rw [hpath]; simp)
    -- up to the first closing brace nothing is taken out, so the group was there before
    obtain ⟨front, tail, rfl, hnone⟩ := List.eq_append_cons_of_mem hclosed
    have hfront : '\x7b' ∉ front ++ ['\x7d'] := by
      rw [List.mem_append, List.mem_singleton]
      rintro (h | h)
      · exact hcs [] front tail rfl hnone h
      · exact absurd h (by decide)
    rw [List.append_cons] at hrest
    obtain ⟨qs, -, hkept⟩ := hrest.exists_of_append hfront
    rw [hpath, ← List.append_cons, ← List.cons_append] at hkept
    obtain ⟨rfl, -⟩ := append_cons_inj hbody.notMem hnone hkept
    exact hchar mark body tail hbody rfl

end Blueprint.Uri
