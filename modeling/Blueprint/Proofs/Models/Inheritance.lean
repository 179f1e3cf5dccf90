import Blueprint.Proofs.Models.Extraction
import Mathlib.Data.Fintype.Card
import Mathlib.Data.Fintype.EquivFin
import Mathlib.Data.Fintype.Sets
import Mathlib.Data.List.Perm.Subperm

/-!
# Flattening and inheritance

* `Extends`: a definition extends another one; `Acyclic`: no chain of extensions comes back.
* `Lineage`: a definition and its ancestors; `exists_lineage`, `Lineage.unique`.
* `chainOf_eq`: where nothing comes back, the chain that is followed is the lineage.
* `Effective`: the fields that a model has, whether it holds them itself or inherits them.
* **`effective_flattenParents`**: whatever the run and the models choose on flattening, the
  effective fields of a model are the own fields of its lineage, those of the furthest ancestor
  first and its own last.
-/

namespace Blueprint.Api

open Ast

variable {o : Options} {d : Document} {ds : Definitions}

/-! ## Lineages -/

/-- The definition `a` extends the definition `b`: another one, which the kind of its element
names. -/
def Extends (ds : Definitions) (a b : String) : Prop :=
  ∃ e, ds.get? a = some e ∧ e.kind = b ∧ b ≠ a ∧ b ∈ ds.keys

/-- No definition extends itself by way of others. -/
def Acyclic (ds : Definitions) : Prop := ∀ a, ¬ Relation.TransGen (Extends ds) a a

/-- A definition followed by its ancestors, the nearest first. -/
inductive Lineage (ds : Definitions) : String → List String → Prop
  | top {a : String} : a ∈ ds.keys → (∀ b, ¬ Extends ds a b) → Lineage ds a [a]
  | step {a b : String} {chain : List String} :
      Extends ds a b → Lineage ds b chain → Lineage ds a (a :: chain)

theorem Extends.unique {a b c : String} (hb : Extends ds a b) (hc : Extends ds a c) : b = c := by
  obtain ⟨e, he, rfl, -⟩ := hb
  obtain ⟨e', he', rfl, -⟩ := hc
  rw [he] at he'
  rw [Option.some.inj he']

theorem Extends.mem_left {a b : String} (h : Extends ds a b) : a ∈ ds.keys := by
  obtain ⟨e, he, -⟩ := h
  exact Dictionary.mem_keys_of_get? he

theorem Extends.mem_right {a b : String} (h : Extends ds a b) : b ∈ ds.keys := by
  obtain ⟨e, -, -, -, hb⟩ := h
  exact hb

theorem acyclic_of_rank (rank : String → ℕ) (h : ∀ a b, Extends ds a b → rank b < rank a) :
    Acyclic ds := by
  have hlt : ∀ a b, Relation.TransGen (Extends ds) a b → rank b < rank a := by
    intro a b hab
    induction hab with
    | single hb => exact h _ _ hb
    | tail _ hb ih => exact (h _ _ hb).trans ih
  exact fun a ha => absurd (hlt a a ha) (Nat.lt_irrefl _)

theorem Lineage.unique {a : String} {chain chain' : List String} (h : Lineage ds a chain)
    (h' : Lineage ds a chain') : chain = chain' := by
  induction h generalizing chain' with
  | top _ hn =>
    cases h' with
    | top => rfl
    | step hb _ => exact absurd hb (hn _)
  | step hb _ ih =>
    cases h' with
    | top _ hn => exact absurd hb (hn _)
    | step hc hl => rw [ih (hb.unique hc ▸ hl)]

theorem Lineage.subset {a : String} {chain : List String} (h : Lineage ds a chain) :
    chain ⊆ ds.keys := by
  induction h with
  | top ha _ => exact List.cons_subset.mpr ⟨ha, List.nil_subset _⟩
  | step hb _ ih => exact List.cons_subset.mpr ⟨hb.mem_left, ih⟩

/-- All of a lineage but its start is reached by extensions. -/
theorem Lineage.reaches {a : String} {chain : List String} (h : Lineage ds a chain) :
    ∀ x ∈ chain, x = a ∨ Relation.TransGen (Extends ds) a x := by
  induction h with
  | top => intro x hx; exact .inl (List.mem_singleton.mp hx)
  | step hb _ ih =>
    intro x hx
    rcases List.mem_cons.mp hx with rfl | hx
    · exact .inl rfl
    · rcases ih x hx with rfl | hr
      · exact .inr (.single hb)
      · exact .inr (.head hb hr)

theorem Lineage.nodup (hac : Acyclic ds) {a : String} {chain : List String}
    (h : Lineage ds a chain) : chain.Nodup := by
  induction h with
  | top => exact List.nodup_singleton _
  | step hb hl ih =>
    refine List.nodup_cons.mpr ⟨fun hm => ?_, ih⟩
    rcases hl.reaches _ hm with h | h
    · exact hac _ (.single (h ▸ hb))
    · exact hac _ (.head hb h)

theorem Lineage.length_le (hac : Acyclic ds) {a : String} {chain : List String}
    (h : Lineage ds a chain) : chain.length ≤ ds.length := by
  have := (List.subperm_of_subset (h.nodup hac) h.subset).length_le
  rwa [Dictionary.keys, List.length_map] at this

/-- The ancestors of a definition, as a relation among the definitions. -/
theorem wellFounded_extends (hac : Acyclic ds) :
    WellFounded fun b a : {n // n ∈ ds.keys} => Relation.TransGen (Extends ds) a.1 b.1 := by
  have : IsTrans {n // n ∈ ds.keys} fun b a => Relation.TransGen (Extends ds) a.1 b.1 :=
    ⟨fun _ _ _ h₁ h₂ => h₂.trans h₁⟩
  have : Std.Irrefl fun b a : {n // n ∈ ds.keys} => Relation.TransGen (Extends ds) a.1 b.1 :=
    ⟨fun a h => hac a.1 h⟩
  exact Finite.wellFounded_of_trans_of_irrefl _

/-- Where no definition comes back to itself, every definition has a lineage. -/
theorem exists_lineage (hac : Acyclic ds) {a : String} (ha : a ∈ ds.keys) :
    ∃ chain, Lineage ds a chain := by
  refine (wellFounded_extends hac).induction (C := fun n => ∃ chain, Lineage ds n.1 chain)
    ⟨a, ha⟩ ?_
  rintro ⟨a, ha⟩ ih
  by_cases hb : ∃ b, Extends ds a b
  · obtain ⟨b, hb⟩ := hb
    obtain ⟨chain, hc⟩ := ih ⟨b, hb.mem_right⟩ (.single hb)
    exact ⟨a :: chain, .step hb hc⟩
  · exact ⟨[a], .top ha fun b h => hb ⟨b, h⟩⟩

/-! ## The chain that is followed -/

/-- The chain runs through a lineage as far as its end, where it stops on its own. -/
theorem ancestry_lineage {a : String} {chain : List String} (h : Lineage ds a chain)
    (hn : chain.Nodup) {visited : List String} (hv : ∀ x ∈ chain, x ∉ visited) {fuel : Nat}
    (hf : chain.length ≤ fuel) : (ancestry ds fuel visited a).1 = visited ++ chain := by
  -- along the lineage; the fuel is enough for what is left of it
  induction h generalizing visited fuel with
  | @top a ha hb =>
    obtain ⟨fuel, rfl⟩ : ∃ n, fuel = n + 1 := ⟨fuel - 1, by simp at hf; omega⟩
    obtain ⟨e, he⟩ := Option.isSome_iff_exists.mp (Dictionary.isSome_get?.mpr ha)
    have hva : visited.contains a = false := by simpa using hv a (by simp)
    simp only [ancestry, he, hva, Bool.false_eq_true, if_false]
    -- the kind names no definition, or the one that was visited last
    cases fuel with
    | zero => rfl
    | succ fuel =>
      rw [ancestry]
      by_cases hk : e.kind = a
      · simp [hk, he]
      · have hnone : ds.get? e.kind = none :=
          Dictionary.get?_eq_none.mpr fun hm => hb _ ⟨e, he, rfl, hk, hm⟩
        rw [hnone]
  | @step a b chain hb _ ih =>
    obtain ⟨fuel, rfl⟩ : ∃ n, fuel = n + 1 := ⟨fuel - 1, by simp at hf; omega⟩
    obtain ⟨e, he, rfl, -⟩ := hb
    rw [List.nodup_cons] at hn
    have hva : visited.contains a = false := by simpa using hv a (by simp)
    simp only [ancestry, he, hva, Bool.false_eq_true, if_false]
    rw [ih hn.2 (fun x hx => ?_) (by simpa using hf), List.append_assoc, List.singleton_append]
    rw [List.mem_append, List.mem_singleton, not_or]
    exact ⟨hv x (List.mem_cons_of_mem _ hx), fun h => hn.1 (h ▸ hx)⟩

theorem chainOf_eq (hac : Acyclic ds) {a : String} {chain : List String} (h : Lineage ds a chain) :
    chainOf ds a = chain := by
  have hf := h.length_le hac
  rw [chainOf, ancestry_lineage h (h.nodup hac) (fun _ _ => by simp) (by omega), List.nil_append]

/-! ## Effective fields -/

/-- The fields that a model has: its own list if it flattens, and otherwise those of the model that
its definition extends, if any, followed by its own. -/
inductive Effective (ds : Definitions) (ms : List Model) : Model → List Field → Prop
  | flat {m : Model} : m.flattens = true → Effective ds ms m m.fields
  | root {m : Model} : m.flattens = false → (∀ b, ¬ Extends ds m.name b) →
      Effective ds ms m m.fields
  | child {m p : Model} {fs : List Field} : m.flattens = false → p ∈ ms → Extends ds m.name p.name →
      Effective ds ms p fs → Effective ds ms m (fs ++ m.fields)

/-- The own fields along a chain of definitions, those of its end first. -/
def fieldsAlong (o : Options) (ds : Definitions) (chain : List String) : List Field :=
  chain.reverse.flatMap (fieldsNamed o ds)

theorem fieldsAlong_cons (o : Options) (ds : Definitions) (a : String) (chain : List String) :
    fieldsAlong o ds (a :: chain) = fieldsAlong o ds chain ++ fieldsNamed o ds a := by
  simp [fieldsAlong]

theorem fields_of_flattens (hac : Acyclic (collected o d)) {m : Model}
    (hm : m ∈ (extractModels o d).value) (hf : m.flattens = true) {chain : List String}
    (hl : Lineage (collected o d) m.name chain) :
    m.fields = fieldsAlong o (collected o d) chain := by
  obtain ⟨e, -, hme⟩ := mem_extractModels.mp hm
  rw [hme, flattens_modelOf] at hf
  rw [hme, fields_modelOf_of_flattens hf, chainOf_eq hac hl, fieldsAlong]

theorem fields_of_not_flattens {m : Model} (hm : m ∈ (extractModels o d).value)
    (hf : m.flattens = false) : m.fields = fieldsNamed o (collected o d) m.name := by
  obtain ⟨e, -, hme⟩ := mem_extractModels.mp hm
  rw [hme, flattens_modelOf] at hf
  rw [hme, fields_modelOf_of_not_flattens hf, name_modelOf]

theorem exists_model (o : Options) (d : Document) {a : String} (ha : a ∈ (collected o d).keys) :
    ∃ m ∈ (extractModels o d).value, m.name = a := by
  rwa [← names_extractModels, List.mem_map] at ha

/-- **The effective fields of a model are the own fields along its lineage**, and nothing else. -/
theorem effective_iff (hac : Acyclic (collected o d)) {a : String} {chain : List String}
    (hl : Lineage (collected o d) a chain) {m : Model} (hm : m ∈ (extractModels o d).value)
    (ha : m.name = a) {fs : List Field} :
    Effective (collected o d) (extractModels o d).value m fs ↔
      fs = fieldsAlong o (collected o d) chain := by
  -- along the lineage: what a model inherits is effective for its parent
  induction hl generalizing m fs with
  | top hmem hn =>
    subst ha
    have hfields : m.fields = fieldsAlong o (collected o d) [m.name] := by
      cases hf : m.flattens
      · rw [fields_of_not_flattens hm hf]; simp [fieldsAlong]
      · exact fields_of_flattens hac hm hf (.top hmem hn)
    rw [← hfields]
    constructor
    · intro h
      cases h with
      | flat => rfl
      | root => rfl
      | child _ _ hb _ => exact absurd hb (hn _)
    · rintro rfl
      cases hf : m.flattens
      · exact .root hf hn
      · exact .flat hf
  | @step a b chain hb hl ih =>
    subst ha
    obtain ⟨p, hp, rfl⟩ := exists_model o d hb.mem_right
    -- a model that flattens holds the fields of its whole lineage, and inherits none
    cases hf : m.flattens
    · rw [fieldsAlong_cons, ← fields_of_not_flattens hm hf]
      constructor
      · intro h
        cases h with
        | flat ht => rw [hf] at ht; exact absurd ht (by simp)
        | root _ hn => exact absurd hb (hn _)
        | child _ hq hq' he => rw [(ih hq (hq'.unique hb)).mp he]
      · rintro rfl
        exact .child hf hp hb ((ih hp rfl).mpr rfl)
    · rw [← fields_of_flattens hac hm hf (.step hb hl)]
      constructor
      · intro h
        cases h with
        | flat => rfl
        | root => rfl
        | child hn _ _ _ => rw [hf] at hn; exact absurd hn (by simp)
      · rintro rfl
        exact .flat hf

/-- The models of a document under the options, with a choice on flattening of its own. -/
def modelsFlattening (o : Options) (d : Document) (flatten : Bool) : List Model :=
  (extractModels { o with flattenParents := flatten } d).value

/-- **Flattening never changes what fields a model has.** -/
theorem effective_flattenParents (o : Options) (d : Document) (hac : Acyclic (collected o d))
    (b₁ b₂ : Bool) :
    (modelsFlattening o d b₁).map (·.name) = (modelsFlattening o d b₂).map (·.name) ∧
      ∀ m₁ ∈ modelsFlattening o d b₁, ∀ m₂ ∈ modelsFlattening o d b₂, m₁.name = m₂.name →
        ∃ chain, Lineage (collected o d) m₁.name chain ∧
          (∀ fs, Effective (collected o d) (modelsFlattening o d b₁) m₁ fs ↔
            fs = fieldsAlong o (collected o d) chain) ∧
          ∀ fs, Effective (collected o d) (modelsFlattening o d b₂) m₂ fs ↔
            fs = fieldsAlong o (collected o d) chain := by
  have hnames : ∀ b, (modelsFlattening o d b).map (·.name) = (collected o d).keys :=
    fun b => names_extractModels _ d
  refine ⟨(hnames b₁).trans (hnames b₂).symm, fun m₁ h₁ m₂ h₂ hn => ?_⟩
  have hmem : m₁.name ∈ (collected o d).keys := hnames b₁ ▸ List.mem_map_of_mem (f := (·.name)) h₁
  obtain ⟨chain, hl⟩ := exists_lineage hac hmem
  exact ⟨chain, hl, fun fs => effective_iff (o := { o with flattenParents := b₁ }) hac hl h₁ rfl,
    fun fs => effective_iff (o := { o with flattenParents := b₂ }) hac hl h₂ hn.symm⟩

/-- A definition of a name, a kind and one member. -/
def heir (name kind key : String) (description : Option String) : Element :=
  { kind, «meta» := some { id := some name, description }
    content := .elements [Element.member key none] }

/-- Three generations, of which the middle one flattens by a line of its own. -/
def threeGenerations : Document :=
  { content := [{ kind := "category", content := .elements [
      { kind := Element.dataStructure, content := .elements [heir "C" "B" "c" none] },
      { kind := Element.dataStructure
        content := .elements [heir "B" "A" "b" (some "+ flattenParentClasses: true"),
          heir "A" "object" "a" none] }] }] }

theorem extends_threeGenerations {a b : String} :
    Extends (collected {} threeGenerations) a b ↔ (a = "C" ∧ b = "B") ∨ (a = "B" ∧ b = "A") := by
  have hkeys : (collected {} threeGenerations).keys = ["C", "B", "A"] := by rfl
  constructor
  · intro h
    have ha : a = "C" ∨ a = "B" ∨ a = "A" := by simpa [hkeys] using h.mem_left
    obtain ⟨e, he, rfl, hne, hb⟩ := h
    rw [hkeys] at hb
    rcases ha with rfl | rfl | rfl
    · obtain rfl : heir "C" "B" "c" none = e := Option.some.inj he
      exact .inl ⟨rfl, rfl⟩
    · obtain rfl : heir "B" "A" "b" _ = e := Option.some.inj he
      exact .inr ⟨rfl, rfl⟩
    · obtain rfl : heir "A" "object" "a" none = e := Option.some.inj he
      exact absurd hb (by decide)
  · rintro (⟨rfl, rfl⟩ | ⟨rfl, rfl⟩)
    · exact ⟨_, rfl, rfl, by decide, by rw [hkeys]; decide⟩
    · exact ⟨_, rfl, rfl, by decide, by rw [hkeys]; decide⟩

theorem acyclic_threeGenerations : Acyclic (collected {} threeGenerations) :=
  acyclic_of_rank (fun n => if n = "C" then 2 else if n = "B" then 1 else 0) fun a b h => by
    rcases extends_threeGenerations.mp h with ⟨rfl, rfl⟩ | ⟨rfl, rfl⟩ <;> decide

/-- The last of three generations has the fields of all, held or inherited. -/
theorem effective_threeGenerations : Acyclic (collected {} threeGenerations) ∧
    ∃ m₁ ∈ modelsFlattening {} threeGenerations false,
    ∃ m₂ ∈ modelsFlattening {} threeGenerations true,
      m₁.name = "C" ∧ m₂.name = "C" ∧ m₁.flattens = false ∧ m₂.flattens = true ∧
        ∃ fs, fs.map (·.name.spelling) = ["a", "b", "c"] ∧
          Effective (collected {} threeGenerations)
            (modelsFlattening {} threeGenerations false) m₁ fs ∧
          Effective (collected {} threeGenerations)
            (modelsFlattening {} threeGenerations true) m₂ fs := by
  refine ⟨acyclic_threeGenerations, modelOf {} _ "C" (heir "C" "B" "c" none), List.mem_cons_self,
    modelOf { flattenParents := true } _ "C" (heir "C" "B" "c" none), List.mem_cons_self, rfl, rfl,
    by decide, by decide, ?_⟩
  obtain ⟨-, h⟩ := effective_flattenParents {} threeGenerations acyclic_threeGenerations false true
  obtain ⟨chain, hl, h₁, h₂⟩ := h _ List.mem_cons_self _ List.mem_cons_self rfl
  have hchain : Lineage (collected {} threeGenerations) "C" ["C", "B", "A"] :=
    .step (extends_threeGenerations.mpr (.inl ⟨rfl, rfl⟩)) <|
      .step (extends_threeGenerations.mpr (.inr ⟨rfl, rfl⟩)) <|
        .top (by decide) fun b hb => by
          rcases extends_threeGenerations.mp hb with ⟨h, -⟩ | ⟨h, -⟩ <;> exact absurd h (by decide)
  obtain rfl := hl.unique hchain
  exact ⟨_, by rfl, (h₁ _).mpr rfl, (h₂ _).mpr rfl⟩

end Blueprint.Api
