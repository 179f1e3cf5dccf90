import Blueprint.Ast.Element

/-!
# The elements below an element

* **`children_induction`**: what an element has if its children have it, every element has.
* `nodes`: an element and all elements below it; `mem_nodes_iff`, `nodes_subset_of_mem`.
-/

namespace Blueprint.Ast.Element

/-! ## Induction -/

mutual

/-- **What an element has if its children have it, every element has.** -/
theorem children_induction {P : Element → Prop}
    (step : ∀ e, (∀ c ∈ children e, P c) → P e) : ∀ e : Element, P e
  | ⟨kind, name, info, description, .elements items⟩ =>
    step ⟨kind, name, info, description, .elements items⟩ (children_induction_list step items)
  | ⟨kind, name, info, description, .absent⟩ =>
    step ⟨kind, name, info, description, .absent⟩ nofun
  | ⟨kind, name, info, description, .member key value⟩ =>
    step ⟨kind, name, info, description, .member key value⟩ nofun
  | ⟨kind, name, info, description, .value json⟩ =>
    step ⟨kind, name, info, description, .value json⟩ nofun

theorem children_induction_list {P : Element → Prop}
    (step : ∀ e, (∀ c ∈ children e, P c) → P e) : ∀ es : List Element, ∀ c ∈ es, P c
  | [] => nofun
  | e :: rest =>
    List.forall_mem_cons.mpr ⟨children_induction step e, children_induction_list step rest⟩

end

/-! ## Nodes -/

mutual

/-- An element and all elements below it. -/
def nodes : Element → List Element
  | ⟨kind, name, info, description, .elements items⟩ =>
    ⟨kind, name, info, description, .elements items⟩ :: nodesOf items
  | e => [e]

/-- Elements and all elements below them. -/
def nodesOf : List Element → List Element
  | [] => []
  | e :: rest => e.nodes ++ nodesOf rest

end

theorem mem_nodesOf {es : List Element} {x : Element} :
    x ∈ nodesOf es ↔ ∃ e ∈ es, x ∈ e.nodes := by
  induction es with
  | nil => simp [nodesOf]
  | cons e rest ih => simp [nodesOf, ih]

theorem mem_nodes_iff {e x : Element} : x ∈ e.nodes ↔ x = e ∨ ∃ c ∈ e.children, x ∈ c.nodes := by
  obtain ⟨kind, name, info, description, content⟩ := e
  cases content <;> simp [nodes, mem_nodesOf, Element.children]

theorem mem_nodes (e : Element) : e ∈ e.nodes := mem_nodes_iff.mpr (.inl rfl)

theorem nodes_subset {e c : Element} (hc : c ∈ e.children) : c.nodes ⊆ e.nodes :=
  fun _ hx => mem_nodes_iff.mpr (.inr ⟨c, hc, hx⟩)

theorem nodes_subset_of_mem {e x : Element} (hx : x ∈ e.nodes) : x.nodes ⊆ e.nodes := by
  induction e using children_induction with
  | step e ih =>
    rcases mem_nodes_iff.mp hx with rfl | ⟨c, hc, hx⟩
    · exact List.Subset.refl _
    · exact List.Subset.trans (ih c hc hx) (nodes_subset hc)

end Blueprint.Ast.Element
