import Blueprint.Proofs.Ast.Nodes
import Blueprint.Proofs.Text.Brackets
import Blueprint.Proofs.TypeName.Basic

/-!
# Types are read back

The text of a type tells the kinds and the arguments that it is made of.

* `Skeleton`, `skeleton`: the types of the kinds of an element and its type arguments, as a tree.
* `closedAt_typeName`: a type leaves no bracket open and shows no comma outside of its brackets.
* `takeWhile_typeName`, **`argumentsIn_typeName`**: the kind and the arguments of a type are read
  back.
* **`typeName_eq_iff`**: elements whose kinds have ASCII letters, digits and blanks alone are shown
  as the same type exactly if they have one skeleton. Brackets balance, and the arguments shown are
  the types of the children, in order, unless these are a single plain value or member.
-/

namespace Blueprint

open Ast Text Unicode
open Ast.Element (mem_nodes nodes_subset nodes_subset_of_mem mem_children_of_mem_typeArguments)

/-! ## Skeletons -/

/-- The types that a type is made of, its arguments in order. -/
inductive Skeleton where
  | node (base : String) (arguments : List Skeleton)

mutual

/-- The skeleton of an element: the type of its kind, and the skeletons of its children unless these
are a single plain value or member. -/
def skeleton : Element → Skeleton
  | ⟨kind, _, _, _, .elements items⟩ =>
    .node (mapType kind) (if isWrapped items then [] else skeletons items)
  | ⟨kind, _, _, _, _⟩ => .node (mapType kind) []

/-- The skeletons of elements. -/
def skeletons : List Element → List Skeleton
  | [] => []
  | e :: rest => skeleton e :: skeletons rest

end

theorem skeletons_eq_map (es : List Element) : skeletons es = es.map skeleton := by
  induction es with
  | nil => rfl
  | cons e rest ih => rw [skeletons, ih, List.map_cons]

theorem skeleton_eq (e : Element) :
    skeleton e = .node (mapType e.kind) (e.typeArguments.map skeleton) := by
  obtain ⟨kind, name, info, description, content⟩ := e
  cases content with
  | elements items =>
    rw [skeleton, skeletons_eq_map, Element.typeArguments]
    change _ = Skeleton.node (mapType kind) ((if isWrapped items then [] else items).map skeleton)
    cases isWrapped items <;> rfl
  | absent => rfl
  | member key value => rfl
  | value json => rfl

/-! ## Types -/

theorem toList_typeName (e : Element) : (typeName e).toList = (mapType e.kind).toList ++
    if e.typeArguments = [] then []
    else '<' :: (joinWith [',', ' '] (e.typeArguments.map fun c => (typeName c).toList) ++ ['>']) := by
  have hlist : (e.typeArguments.map typeName).map String.toList =
      e.typeArguments.map fun c => (typeName c).toList := by rw [List.map_map]; rfl
  rw [typeName_eq, String.toList_append, bracketed]
  by_cases h : e.typeArguments = []
  · simp [h]
  · rw [if_neg (by simpa using h), if_neg h]
    simp [joined, hlist]

section Plain

variable {e : Element} (he : ∀ x ∈ e.nodes, IsPlainKind x.kind)
include he

theorem isInner_of_mem_mapType : ∀ c ∈ (mapType e.kind).toList, IsInner c :=
  fun c hc => isInner_of_isAlphanum (isAlphanum_of_mem_mapType (he e (mem_nodes e)) c hc)

omit he in
theorem plain_of_mem {c : Element} (he : ∀ x ∈ e.nodes, IsPlainKind x.kind)
    (hc : c ∈ e.typeArguments) : ∀ x ∈ c.nodes, IsPlainKind x.kind :=
  fun x hx => he x (nodes_subset (mem_children_of_mem_typeArguments hc) hx)

/-- **A type leaves no bracket open** and shows no comma outside of its brackets. -/
theorem closedAt_typeName (d : Nat) : ClosedAt d (typeName e).toList := by
  induction e using Element.children_induction generalizing d with
  | step e ih =>
    have hbase : ClosedAt d (mapType e.kind).toList :=
      closedAt_of_forall (isInner_of_mem_mapType he) d
    rw [toList_typeName]
    split
    · rw [List.append_nil]
      exact hbase
    · refine hbase.append (closedAt_joinWith fun t ht => ?_).bracket
      obtain ⟨c, hc, rfl⟩ := List.mem_map.mp ht
      exact ih c (mem_children_of_mem_typeArguments hc) (plain_of_mem he hc) (d + 1)

theorem takeWhile_typeName : (typeName e).toList.takeWhile (· ≠ '<') = (mapType e.kind).toList := by
  have hbase : ∀ c ∈ (mapType e.kind).toList, decide (c ≠ '<') = true :=
    fun c hc => decide_eq_true (isInner_of_mem_mapType he c hc).1
  rw [toList_typeName, List.takeWhile_append_of_pos hbase]
  split <;> simp

theorem trimStart_typeName : trimStart (typeName e).toList = (typeName e).toList := by
  obtain ⟨c, rest, hc⟩ := List.exists_cons_of_ne_nil
    fun h => mapType_ne_empty e.kind (String.toList_eq_nil_iff.mp h)
  have halpha := isAlphanum_of_mem_mapType (he e (mem_nodes e)) c (by simp [hc])
  rw [toList_typeName, hc, List.cons_append, trimStart, List.dropWhile_cons_of_neg]
  simp [isWhiteSpace_of_isAlphanum halpha]

end Plain

/-- **The arguments of a type are read back.** -/
theorem argumentsIn_typeName {e : Element} (he : ∀ x ∈ e.nodes, IsPlainKind x.kind) :
    argumentsIn (typeName e).toList = e.typeArguments.map fun c => (typeName c).toList := by
  have hbase : ∀ c ∈ (mapType e.kind).toList, decide (c ≠ '<') = true :=
    fun c hc => decide_eq_true (isInner_of_mem_mapType he c hc).1
  rw [argumentsIn, toList_typeName, List.dropWhile_append_of_pos hbase]
  by_cases h : e.typeArguments = []
  · simp [h]
  · rw [if_neg h, List.dropWhile_cons_of_neg (by simp)]
    refine pieces_joinWith (by simpa using h) ?_ ?_ []
    · intro t ht
      obtain ⟨c, hc, rfl⟩ := List.mem_map.mp ht
      exact closedAt_typeName (plain_of_mem he hc) 0
    · intro t ht
      obtain ⟨c, hc, rfl⟩ := List.mem_map.mp ht
      exact trimStart_typeName (plain_of_mem he hc)

/-! ## Equal types -/

theorem map_eq_map_of_imp {α β γ : Type} {f : α → β} {g : α → γ} {as bs : List α}
    (h : as.map f = bs.map f) (hfg : ∀ a ∈ as, ∀ b ∈ bs, f a = f b → g a = g b) :
    as.map g = bs.map g := by
  induction as generalizing bs with
  | nil => simp [List.map_eq_nil_iff.mp h.symm]
  | cons a as ih =>
    cases bs with
    | nil => exact nomatch h
    | cons b bs =>
      rw [List.map_cons, List.map_cons, List.cons.injEq] at h
      have hrest := ih h.2 fun x hx y hy =>
        hfg x (List.mem_cons_of_mem a hx) y (List.mem_cons_of_mem b hy)
      rw [List.map_cons, List.map_cons, hrest,
        hfg a List.mem_cons_self b List.mem_cons_self h.1]

theorem typeName_eq_of_skeleton_eq {a b : Element} (h : skeleton a = skeleton b) :
    typeName a = typeName b := by
  induction a using Element.children_induction generalizing b with
  | step a ih =>
    rw [skeleton_eq, skeleton_eq b, Skeleton.node.injEq] at h
    have harguments : a.typeArguments.map typeName = b.typeArguments.map typeName :=
      map_eq_map_of_imp h.2 fun c hc d _ => ih c (mem_children_of_mem_typeArguments hc)
    rw [typeName_eq, typeName_eq b, h.1, harguments]

/-- The type of the kind and the arguments are read back from the text, and so on for the
arguments. -/
theorem skeleton_eq_of_typeName_eq {a b : Element} (ha : ∀ x ∈ a.nodes, IsPlainKind x.kind)
    (hb : ∀ x ∈ b.nodes, IsPlainKind x.kind) (h : typeName a = typeName b) :
    skeleton a = skeleton b := by
  induction a using Element.children_induction generalizing b with
  | step a ih =>
    -- kind and arguments are read back from the text that both show
    have hbase : mapType a.kind = mapType b.kind := by
      rw [← String.toList_inj, ← takeWhile_typeName ha, ← takeWhile_typeName hb, h]
    have htexts : (a.typeArguments.map fun c => (typeName c).toList) =
        b.typeArguments.map fun c => (typeName c).toList := by
      rw [← argumentsIn_typeName ha, ← argumentsIn_typeName hb, h]
    have harguments : a.typeArguments.map skeleton = b.typeArguments.map skeleton :=
      map_eq_map_of_imp htexts fun c hc d hd hcd =>
        ih c (mem_children_of_mem_typeArguments hc) (plain_of_mem ha hc) (plain_of_mem hb hd)
          (String.toList_inj.mp hcd)
    rw [skeleton_eq, skeleton_eq b, hbase, harguments]

/-- **Types are unambiguous**: of elements of plain kinds, one type means one skeleton. -/
theorem typeName_eq_iff {a b : Element} (ha : ∀ x ∈ a.nodes, IsPlainKind x.kind)
    (hb : ∀ x ∈ b.nodes, IsPlainKind x.kind) :
    (typeName a = typeName b ↔ skeleton a = skeleton b) ∧
    ∀ x ∈ a.nodes, IsBalanced (typeName x).toList ∧
      argumentsIn (typeName x).toList =
        if isWrapped x.children then [] else x.children.map fun c => (typeName c).toList := by
  refine ⟨⟨skeleton_eq_of_typeName_eq ha hb, typeName_eq_of_skeleton_eq⟩, fun x hx => ?_⟩
  have hplain : ∀ y ∈ x.nodes, IsPlainKind y.kind := fun y hy => ha y (nodes_subset_of_mem hx hy)
  refine ⟨?_, ?_⟩
  · have hclosed := (closedAt_typeName hplain 0).depth []
    rw [List.append_nil] at hclosed
    exact hclosed
  · rw [argumentsIn_typeName hplain, Element.typeArguments]
    split <;> rfl

/-- A pair of a list and a number. -/
def pairElement : Element :=
  (Element.ofKind "pair").withChildren
    [(Element.ofKind "array").withChildren [.ofKind " coupon base"], .ofKind "long"]

/-- The same pair, of kinds that are spelled in another way. -/
def respelledPair : Element :=
  (Element.ofKind "Pair").withChildren
    [(Element.ofKind "list").withChildren [.ofKind "CouponBase"], .ofKind "Long"]

/-- Both pairs are shown as one type, so they have one skeleton, and the type shows two arguments. -/
theorem typeName_eq_iff_pair :
    typeName pairElement = "Pair<List<CouponBase>, Long>" ∧
    skeleton pairElement = skeleton respelledPair ∧
    IsBalanced "Pair<List<CouponBase>, Long>".toList ∧
    argumentsIn "Pair<List<CouponBase>, Long>".toList =
      ["List<CouponBase>".toList, "Long".toList] := by
  have htype : typeName pairElement = "Pair<List<CouponBase>, Long>" := by decide +kernel
  have hother : typeName respelledPair = "Pair<List<CouponBase>, Long>" := by decide +kernel
  have hchildren : (if isWrapped pairElement.children then []
      else pairElement.children.map fun c => (typeName c).toList) =
        ["List<CouponBase>".toList, "Long".toList] := by decide +kernel
  obtain ⟨hiff, hnodes⟩ := typeName_eq_iff (a := pairElement) (b := respelledPair)
    (by decide +kernel) (by decide +kernel)
  obtain ⟨hbalanced, harguments⟩ := hnodes pairElement (mem_nodes _)
  rw [htype] at hbalanced harguments
  exact ⟨htype, hiff.mp (htype.trans hother.symm), hbalanced, harguments.trans hchildren⟩

end Blueprint
