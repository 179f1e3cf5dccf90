import Blueprint.Proofs.Models.Inheritance

/-!
# The ancestors of a definition

What the chain above a definition holds, whether or not it comes back to a name.

* `Ascent`: the way up from a name, step by step; `exists_ascent`: the chain that is followed is
  such a way, and the number of definitions is fuel enough for it; `Ascent.unique`: there is one.
* `Above`: a definition is another one or one of its ancestors.
* **`mem_chainOf`**, **`nodup_chainOf`**: the chain of a definition holds all that is above it, each
  once.
-/

namespace Blueprint.Api

open Ast

variable {ds : Definitions}

/-! ## The way up -/

/-- The names that follow those visited on the way up from a name, and the name at which the way
comes back, if it does. -/
inductive Ascent (ds : Definitions) :
    List String → String → List String → Option String → Prop
  | out {visited : List String} {current : String} :
      ds.get? current = none → Ascent ds visited current [] none
  | back {visited : List String} {current : String} {e : Element} :
      ds.get? current = some e → current ∈ visited → Ascent ds visited current [] (some current)
  | up {visited further : List String} {current : String} {e : Element}
      {repeated : Option String} :
      ds.get? current = some e → current ∉ visited →
      Ascent ds (visited ++ [current]) e.kind further repeated →
      Ascent ds visited current (current :: further) repeated

theorem nodup_visit {visited : List String} {current : String} (hn : visited.Nodup)
    (hv : current ∉ visited) : (visited ++ [current]).Nodup := by
  rw [← List.concat_eq_append]
  exact hn.concat hv

/-- The chain that is followed is a way up, if there is fuel for every definition not visited. -/
theorem exists_ascent {visited : List String} {current : String} {fuel : Nat}
    (hn : visited.Nodup) (hsub : visited ⊆ ds.keys) (hf : ds.length < visited.length + fuel) :
    ∃ further repeated, Ascent ds visited current further repeated ∧
      ancestry ds fuel visited current = (visited ++ further, repeated) := by
  induction fuel generalizing visited current with
  -- without fuel more names were visited than there are definitions
  | zero =>
    have hle := (List.subperm_of_subset hn hsub).length_le
    rw [Dictionary.keys, List.length_map] at hle
    omega
  | succ fuel ih =>
    rw [ancestry]
    cases he : ds.get? current with
    | none => exact ⟨[], none, .out he, by simp⟩
    | some e =>
      by_cases hv : current ∈ visited
      · exact ⟨[], some current, .back he hv, by simp [hv]⟩
      · have hsub' : visited ++ [current] ⊆ ds.keys :=
          List.append_subset.mpr ⟨hsub, by simpa using Dictionary.mem_keys_of_get? he⟩
        obtain ⟨further, repeated, hup, heq⟩ := @ih _ e.kind (nodup_visit hn hv) hsub' (by simp; omega)
        refine ⟨current :: further, repeated, .up he hv hup, ?_⟩
        simp [hv, heq]

theorem ascent_chainOf (ds : Definitions) (name : String) :
    ∃ repeated, Ascent ds [] name (chainOf ds name) repeated := by
  obtain ⟨further, repeated, hup, heq⟩ : ∃ further repeated, Ascent ds [] name further repeated ∧
      ancestry ds (ds.length + 1) [] name = ([] ++ further, repeated) :=
    exists_ascent List.nodup_nil (List.nil_subset _) (by simp)
  refine ⟨repeated, ?_⟩
  rwa [chainOf, heq, List.nil_append]

namespace Ascent

variable {visited further : List String} {current : String} {repeated : Option String}

theorem nodup (h : Ascent ds visited current further repeated) (hn : visited.Nodup) :
    (visited ++ further).Nodup := by
  induction h with
  | out => simpa using hn
  | back => simpa using hn
  | @up visited further current e repeated _ hv _ ih =>
    simpa using ih (nodup_visit hn hv)

theorem mem_keys (h : Ascent ds visited current further repeated) {x : String} (hx : x ∈ further) :
    current ∈ ds.keys := by
  cases h with
  | out => exact nomatch hx
  | back => exact nomatch hx
  | up he => exact Dictionary.mem_keys_of_get? he

theorem reaches (h : Ascent ds visited current further repeated) :
    ∀ x ∈ further, Relation.ReflTransGen (Extends ds) current x := by
  induction h with
  | out => exact fun x hx => nomatch hx
  | back => exact fun x hx => nomatch hx
  | @up visited further current e repeated he hv hup ih =>
    intro x hx
    rcases List.mem_cons.mp hx with rfl | hx
    · exact .refl
    · -- a name follows, so the kind is a definition that has not been visited
      have hext : Extends ds current e.kind := by
        refine ⟨e, he, rfl, fun heq => ?_, hup.mem_keys hx⟩
        cases hup with
        | out => exact nomatch hx
        | back => exact nomatch hx
        | up _ hv' _ => exact hv' (by simp [heq])
      exact (ih x hx).head hext

/-- What a name on the way extends is on the way as well, or was visited before. -/
theorem closed (h : Ascent ds visited current further repeated) {x y : String} (hx : x ∈ further)
    (hxy : Extends ds x y) : y ∈ visited ++ further := by
  induction h with
  | out => exact nomatch hx
  | back => exact nomatch hx
  | @up visited further current e repeated he hv hup ih =>
    rcases List.mem_cons.mp hx with rfl | hx
    · obtain ⟨e', he', rfl, -, hkey⟩ := hxy
      obtain rfl : e = e' := Option.some.inj (he.symm.trans he')
      -- what the name extends is a definition, so it is next or was visited
      cases hup with
      | out hnone => exact absurd hkey (Dictionary.get?_eq_none.mp hnone)
      | back _ hback =>
        rw [List.mem_append, List.mem_singleton] at hback
        rcases hback with hback | hback
        · exact List.mem_append_left _ hback
        · simp [hback]
      | up => simp
    · simpa using ih hx

theorem unique {further' : List String} {repeated' : Option String}
    (h : Ascent ds visited current further repeated)
    (h' : Ascent ds visited current further' repeated') : further = further' := by
  induction h generalizing further' repeated' with
  | out hnone =>
    cases h' with
    | out => rfl
    | back => rfl
    | up he => exact nomatch hnone.symm.trans he
  | back _ hv =>
    cases h' with
    | out => rfl
    | back => rfl
    | up _ hv' => exact absurd hv hv'
  | up he hv _ ih =>
    cases h' with
    | out hnone => exact nomatch hnone.symm.trans he
    | back _ hv' => exact absurd hv' hv
    | up he' _ hup' =>
      obtain rfl := Option.some.inj (he.symm.trans he')
      rw [ih hup']

end Ascent

/-! ## What is above a definition -/

/-- The definition `b` is `a` or an ancestor of it. -/
def Above (ds : Definitions) (a b : String) : Prop :=
  a ∈ ds.keys ∧ Relation.ReflTransGen (Extends ds) a b

theorem Above.mem_right {a b : String} (h : Above ds a b) : b ∈ ds.keys := by
  obtain ⟨ha, hpath⟩ := h
  cases hpath with
  | refl => exact ha
  | tail _ hb => exact hb.mem_right

theorem nodup_chainOf (ds : Definitions) (name : String) : (chainOf ds name).Nodup := by
  obtain ⟨repeated, h⟩ := ascent_chainOf ds name
  exact h.nodup List.nodup_nil

/-- **The chain of a definition holds the definition and all its ancestors**, and nothing else. -/
theorem mem_chainOf {a b : String} : b ∈ chainOf ds a ↔ Above ds a b := by
  obtain ⟨repeated, h⟩ := ascent_chainOf ds a
  refine ⟨fun hb => ⟨h.mem_keys hb, h.reaches b hb⟩, ?_⟩
  rintro ⟨ha, hpath⟩
  induction hpath with
  | refl =>
    obtain ⟨e, he⟩ := Option.isSome_iff_exists.mp (Dictionary.isSome_get?.mpr ha)
    obtain ⟨above, habove⟩ := chainOf_eq_cons he
    simp [habove]
  | tail _ hxy ih => simpa using h.closed ih hxy

end Blueprint.Api
