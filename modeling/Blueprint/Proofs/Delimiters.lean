import Blueprint.Api.Basic

/-!
# Marks of a list of parameters

The marks that tell where a comma precedes follow from the positions of the parameters.

* `Parameter.bare`, `Body.bare`, `Action.bare`: a parameter, a body, an action without their marks.
* `bare_assignDelimiters`: marking changes nothing but marks.
* `assignDelimiters_assignDelimiters`: what is marked is not marked anew.
* `Action.Delimited`: every mark says whether something precedes in the list.
* **`eq_assignDelimiters_iff`**: marking gives the one action that is marked so and differs in marks
  alone.
-/

namespace Blueprint.Api

/-- A parameter without its mark. -/
def Parameter.bare (p : Parameter) : Parameter := { p with delimited := false }

/-- A body without its mark. -/
def Body.bare (b : Body) : Body := { b with delimited := false }

/-- An action without marks. -/
def Action.bare (a : Action) : Action :=
  { a with parameters := a.parameters.map Parameter.bare, body := a.body.map Body.bare }

theorem map_bare_delimitFrom (first : Bool) (ps : List Parameter) :
    (delimitFrom first ps).map Parameter.bare = ps.map Parameter.bare := by
  induction ps generalizing first with
  | nil => rfl
  | cons p ps ih => rw [delimitFrom, List.map_cons, List.map_cons, ih]; rfl

theorem delimitFrom_delimitFrom (first : Bool) (ps : List Parameter) :
    delimitFrom first (delimitFrom first ps) = delimitFrom first ps := by
  induction ps generalizing first with
  | nil => rfl
  | cons p ps ih => rw [delimitFrom, delimitFrom, ih]

theorem isEmpty_delimitFrom (first : Bool) (ps : List Parameter) :
    (delimitFrom first ps).isEmpty = ps.isEmpty := by
  cases ps <;> rfl

theorem bare_assignDelimiters (a : Action) : a.assignDelimiters.bare = a.bare := by
  simp only [Action.bare, Action.assignDelimiters, map_bare_delimitFrom, Option.map_map]
  rfl

theorem assignDelimiters_assignDelimiters (a : Action) :
    a.assignDelimiters.assignDelimiters = a.assignDelimiters := by
  simp only [Action.assignDelimiters, delimitFrom_delimitFrom, isEmpty_delimitFrom, Option.map_map]
  rfl

/-! ## Marks that follow from positions -/

theorem getElem_delimitFrom {first : Bool} {ps : List Parameter} {i : Nat}
    (h : i < (delimitFrom first ps).length) (h' : i < ps.length) :
    (delimitFrom first ps)[i] = { ps[i] with delimited := !first || decide (0 < i) } := by
  induction ps generalizing first i with
  | nil => exact absurd h' (Nat.not_lt_zero i)
  | cons p ps ih =>
    cases i with
    | zero => simp [delimitFrom]
    | succ i =>
      have hi : i < ps.length := Nat.lt_of_succ_lt_succ h'
      simp only [delimitFrom, List.getElem_cons_succ]
      rw [ih _ hi]
      simp

theorem length_delimitFrom (first : Bool) (ps : List Parameter) :
    (delimitFrom first ps).length = ps.length := by
  induction ps generalizing first with
  | nil => rfl
  | cons p ps ih => rw [delimitFrom, List.length_cons, List.length_cons, ih]

/-- An action whose marks say what precedes an item in the list of its parameters and its body. -/
structure Action.Delimited (a : Action) : Prop where
  parameters : ∀ i (h : i < a.parameters.length), a.parameters[i].delimited = true ↔ 0 < i
  body : ∀ b ∈ a.body, b.delimited = true ↔ a.parameters ≠ []

theorem delimited_assignDelimiters (a : Action) : a.assignDelimiters.Delimited where
  parameters i h := by
    have hi : i < a.parameters.length := by
      rw [← length_delimitFrom true a.parameters]
      exact h
    have hp : a.assignDelimiters.parameters[i] =
        { a.parameters[i] with delimited := !true || decide (0 < i) } := getElem_delimitFrom h hi
    rw [hp]
    simp
  body b hb := by
    obtain ⟨c, -, rfl⟩ := Option.map_eq_some_iff.mp hb
    cases hps : a.parameters <;> simp [Action.assignDelimiters, delimitFrom, hps]

theorem Parameter.eq_of_bare {p q : Parameter} (h : p.bare = q.bare)
    (hd : p.delimited = q.delimited) : p = q := by
  cases p
  cases q
  simp_all [Parameter.bare]

theorem Body.eq_of_bare {b c : Body} (h : b.bare = c.bare) (hd : b.delimited = c.delimited) :
    b = c := by
  cases b
  cases c
  simp_all [Body.bare]

theorem Action.Delimited.parameters_eq {a b : Action} (ha : a.Delimited) (hb : b.Delimited)
    (h : a.parameters.map Parameter.bare = b.parameters.map Parameter.bare) :
    a.parameters = b.parameters := by
  have hlen : a.parameters.length = b.parameters.length := by
    simpa only [List.length_map] using congrArg List.length h
  refine List.ext_getElem hlen fun i hi hj => Parameter.eq_of_bare ?_ ?_
  · have hbare := List.getElem_of_eq h (by simpa using hi)
    simpa only [List.getElem_map] using hbare
  · exact Bool.eq_iff_iff.mpr ((ha.parameters i hi).trans (hb.parameters i hj).symm)

/-- The marks of an action that are right are right in one way. -/
theorem Action.Delimited.eq_of_bare {a b : Action} (ha : a.Delimited) (hb : b.Delimited)
    (h : a.bare = b.bare) : a = b := by
  have hps : a.parameters = b.parameters := ha.parameters_eq hb (congrArg Action.parameters h)
  have hbody : a.body.map Body.bare = b.body.map Body.bare := congrArg Action.body h
  have hbodies : a.body = b.body := by
    cases hx : a.body with
    | none => simpa [hx, eq_comm] using hbody
    | some x =>
      obtain ⟨y, hy, hxy⟩ : ∃ y, b.body = some y ∧ y.bare = x.bare := by
        simpa [hx, eq_comm] using hbody
      have hd : x.delimited = y.delimited :=
        Bool.eq_iff_iff.mpr ((ha.body x hx).trans (hps ▸ (hb.body y hy).symm))
      rw [hy, Body.eq_of_bare hxy.symm hd]
  cases a
  cases b
  simp_all [Action.bare]

/-- **Marking gives the one action whose marks are right** and which differs in marks alone. -/
theorem eq_assignDelimiters_iff {a b : Action} :
    b = a.assignDelimiters ↔ b.bare = a.bare ∧ b.Delimited := by
  constructor
  · rintro rfl
    exact ⟨bare_assignDelimiters a, delimited_assignDelimiters a⟩
  · rintro ⟨h, hb⟩
    exact hb.eq_of_bare (delimited_assignDelimiters a) (h.trans (bare_assignDelimiters a).symm)

theorem Action.Delimited.of_cons {a : Action} (h : a.Delimited) {p : Parameter}
    {ps : List Parameter} (hps : a.parameters = p :: ps) :
    p.delimited = false ∧ ∀ q ∈ ps, q.delimited = true := by
  constructor
  · have h₀ := h.parameters 0 (by simp [hps])
    rw [List.getElem_of_eq hps] at h₀
    simpa using h₀
  · intro q hq
    obtain ⟨i, hi, rfl⟩ := List.mem_iff_getElem.mp hq
    have hs := h.parameters (i + 1) (by simpa [hps] using hi)
    rw [List.getElem_of_eq hps] at hs
    simpa using hs

theorem delimited_of_assignDelimiters_eq {a : Action} (h : a.assignDelimiters = a) : a.Delimited :=
  h ▸ delimited_assignDelimiters a

end Blueprint.Api
