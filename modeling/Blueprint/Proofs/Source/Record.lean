import Blueprint.Proofs.Json.Origin
import Blueprint.Source.Record

/-!
# Records

* `restore`: the fields that a record is written with, read one after the other.
* **`record_node_write`**: a written record is read back if its fields are.
* **`record_induction`**: what every field keeps when it is read holds of a record that was read.
* `list_node_map`, `exists_of_list`: the same for lists.
-/

namespace Blueprint.Source

open Json (node entryNodes itemNodes)

variable {σ α : Type}

/-- The frame inside a list or record that may be entered. -/
abbrev Frame.inner (fr : Frame) : Frame := { fr with levels := fr.levels - 1 }

theorem inner_of_enter {fr inner : Frame} (h : fr.enter = .ok inner) :
    0 < fr.levels ∧ inner = fr.inner := by
  obtain ⟨levels, positional⟩ := fr
  cases levels with
  | zero => exact nomatch h
  | succ n => exact ⟨Nat.succ_pos n, (Except.ok.inj h).symm⟩

/-! ## Reading what was written -/

/-- Reads the fields that a record is written with, one after the other. -/
def restore (fr : Frame) (r : σ) : List (Field σ) → σ → Except Fault σ
  | [], acc => .ok acc
  | f :: fields, acc =>
    match f.write r with
    | none => restore fr r fields acc
    | some j => do restore fr r fields (← f.read fr (node j) acc)

/-- The entries that a record is written with. -/
abbrev written (fields : List (Field σ)) (r : σ) : List (String × Json) :=
  fields.filterMap fun f => (f.write r).map (f.key, ·)

theorem find?_key {all : List (Field σ)} (hall : (all.map (·.key)).Nodup) {f : Field σ}
    (hf : f ∈ all) : all.find? (·.key == f.key) = some f := by
  induction all with
  | nil => exact nomatch hf
  | cons g rest ih =>
    obtain ⟨hg, hrest⟩ := List.nodup_cons.mp hall
    rcases List.mem_cons.mp hf with rfl | hf
    · exact List.find?_cons_of_pos (beq_self_eq_true _)
    · have hne : g.key ≠ f.key := fun e => hg (List.mem_map.mpr ⟨f, hf, e.symm⟩)
      rw [List.find?_cons_of_neg (by simpa using hne)]
      exact ih hrest hf

/-- The entries of the fields `fields` among `all` are read into what the fields restore. -/
theorem readEntries_written {all : List (Field σ)} (hall : (all.map (·.key)).Nodup) {fr : Frame}
    {r : σ} {fields : List (Field σ)} : ∀ {acc r' : σ} {seen : List String},
      (∀ f ∈ fields, f ∈ all) → (fields.map (·.key)).Nodup → (∀ f ∈ fields, f.key ∉ seen) →
      restore fr r fields acc = .ok r' →
        ∃ seen', readEntries all fr acc seen (entryNodes (written fields r)) = .ok (r', seen') ∧
          (∀ k ∈ seen, k ∈ seen') ∧ ∀ f ∈ fields, (f.write r).isSome → f.key ∈ seen' := by
  -- along the fields, which are written in their own order: none that remains has been seen
  induction fields with
  | nil =>
    intro acc r' seen _ _ _ h
    obtain rfl := Except.ok.inj h
    exact ⟨seen, rfl, fun _ hk => hk, fun _ hf => nomatch hf⟩
  | cons f fields ih =>
    intro acc r' seen hsub hnd hseen h
    obtain ⟨hf, hnd⟩ := List.nodup_cons.mp hnd
    have hsub' : ∀ g ∈ fields, g ∈ all := fun g hg => hsub g (List.mem_cons_of_mem _ hg)
    rw [restore] at h
    cases hw : f.write r with
    | none =>
      rw [hw] at h
      have hseen' : ∀ g ∈ fields, g.key ∉ seen := fun g hg => hseen g (List.mem_cons_of_mem _ hg)
      obtain ⟨seen', hr, hkeep, hnew⟩ := ih hsub' hnd hseen' h
      have hwritten : written (f :: fields) r = written fields r := by simp [written, hw]
      refine ⟨seen', hwritten ▸ hr, hkeep, fun g hg hs => ?_⟩
      rcases List.mem_cons.mp hg with rfl | hg
      · rw [hw] at hs
        exact nomatch hs
      · exact hnew g hg hs
    | some j =>
      rw [hw] at h
      obtain ⟨acc', hread, h⟩ := Fault.exists_of_bind_eq_ok h
      have hdisjoint : ∀ g ∈ fields, g.key ∉ f.key :: seen := fun g hg hmem => by
        rcases List.mem_cons.mp hmem with e | hmem
        · exact hf (List.mem_map.mpr ⟨g, hg, e⟩)
        · exact hseen g (List.mem_cons_of_mem _ hg) hmem
      obtain ⟨seen', hr, hkeep, hnew⟩ := ih hsub' hnd hdisjoint h
      have hwritten : written (f :: fields) r = (f.key, j) :: written fields r := by
        simp [written, hw]
      have hfind := find?_key hall (hsub f List.mem_cons_self)
      have hcontains : seen.contains f.key = false := by
        simpa using hseen f List.mem_cons_self
      have htext : text fr (.scalar (.ofString (.ok f.key))) = .ok f.key := rfl
      refine ⟨seen', ?_, fun k hk => hkeep k (List.mem_cons_of_mem _ hk), fun g hg hs => ?_⟩
      · rw [hwritten, entryNodes, readEntries, htext, Fault.ok_bind]
        simp only [hfind, hcontains, Bool.false_eq_true, if_false, hread, Fault.ok_bind]
        exact hr
      · rcases List.mem_cons.mp hg with rfl | hg
        · exact hkeep _ List.mem_cons_self
        · exact hnew g hg hs

/-- **A written record is read back if its fields are.** -/
theorem record_node_write {initial r : σ} {fields : List (Field σ)} {fr : Frame}
    (hkeys : (fields.map (·.key)).Nodup)
    (hreq : ∀ f ∈ fields, f.presence = .required → (f.write r).isSome) (hlv : 0 < fr.levels)
    (h : restore fr.inner r fields initial = .ok r) :
    record initial fields fr (node (write fields r)) = .ok r := by
  obtain ⟨seen, hr, -, hnew⟩ := readEntries_written hkeys (fun f hf => hf) hkeys
    (fun _ _ => List.not_mem_nil) h
  have hmissing : (fields.any fun f => f.presence = .required && !seen.contains f.key) = false := by
    rw [List.any_eq_false]
    intro f hf hmiss
    rw [Bool.and_eq_true, decide_eq_true_eq, Bool.not_eq_true'] at hmiss
    have hmem := hnew f hf (hreq f hf hmiss.1)
    rw [← List.contains_iff_mem, hmiss.2] at hmem
    exact nomatch hmem
  rw [write, node, record, Json.enter_of_pos hlv, Fault.ok_bind, hr, Fault.ok_bind]
  simp only [checkClose, Fault.ok_bind, hmissing]
  rfl

theorem items_nodes {r : Reader α} {fr : Frame} {toJson : α → Json} {as : List α}
    (h : ∀ a ∈ as, r fr (node (toJson a)) = .ok a) :
    items r fr (itemNodes (as.map toJson)) = .ok as := by
  induction as with
  | nil => rfl
  | cons a rest ih =>
    have hrest := ih fun b hb => h b (List.mem_cons_of_mem _ hb)
    rw [List.map_cons, itemNodes, items, h a List.mem_cons_self, Fault.ok_bind, hrest]
    rfl

theorem list_node_map {r : Reader α} {fr : Frame} {toJson : α → Json} {as : List α}
    (hlv : 0 < fr.levels) (h : ∀ a ∈ as, r fr.inner (node (toJson a)) = .ok a) :
    list r fr (node (.array (as.map toJson))) = .ok as := by
  rw [node, list, Json.enter_of_pos hlv, Fault.ok_bind, items_nodes h]
  rfl

/-! ## What was read -/

/-- A property of nodes that their parts have as well, and no scalar that stands for a list or a
record. -/
structure Hereditary (S : Node → Prop) : Prop where
  scalar : ∀ {s : Scalar}, S (.scalar s) → s.blank = false
  list : ∀ {ns : List Node} {c : Close}, S (.list ns c) → ∀ n ∈ ns, S n
  record : ∀ {es : List (Node × Node)} {c : Close}, S (.record es c) → ∀ p ∈ es, S p.2

/-- Reading a field keeps a property of the record. -/
def Field.Keeps (S : Node → Prop) (I : σ → Prop) (fr : Frame) (f : Field σ) : Prop :=
  ∀ n acc acc', S n → I acc → f.read fr n acc = .ok acc' → I acc'

variable {S : Node → Prop} {I : σ → Prop} {fr : Frame} {fields : List (Field σ)}

theorem readEntries_keeps {es : List (Node × Node)} : ∀ {acc r : σ} {seen seen' : List String},
    (∀ f ∈ fields, f.Keeps S I fr) → (∀ p ∈ es, S p.2) → I acc →
      readEntries fields fr acc seen es = .ok (r, seen') → I r := by
  induction es with
  | nil =>
    intro acc r seen seen' _ _ hacc h
    obtain ⟨rfl, -⟩ := Prod.mk.inj (Except.ok.inj h)
    exact hacc
  | cons p rest ih =>
    intro acc r seen seen' hf hS hacc h
    obtain ⟨k, n⟩ := p
    have hrest : ∀ q ∈ rest, S q.2 := fun q hq => hS q (List.mem_cons_of_mem _ hq)
    rw [readEntries] at h
    obtain ⟨key, -, h⟩ := Fault.exists_of_bind_eq_ok h
    -- an unknown key is skipped; a known one is given to its field
    split at h
    · obtain ⟨-, -, h⟩ := Fault.exists_of_bind_eq_ok h
      exact ih hf hrest hacc h
    · rename_i f hfind
      split at h
      · exact nomatch h
      · obtain ⟨-, -, h⟩ := Fault.exists_of_bind_eq_ok h
        obtain ⟨acc', hread, h⟩ := Fault.exists_of_bind_eq_ok h
        have hkeep :=
          hf f (List.mem_of_find?_eq_some hfind) n acc acc' (hS _ List.mem_cons_self) hacc hread
        exact ih hf hrest hkeep h

theorem readPositions_keeps {c : Close} : ∀ {ns : List Node} {acc r : σ},
    (∀ f ∈ fields, f.Keeps S I fr) → (∀ n ∈ ns, S n) → I acc →
      readPositions fr c acc fields ns = .ok r → I r := by
  induction fields with
  | nil =>
    intro ns acc r _ _ hacc h
    cases ns with
    | nil =>
      rw [readPositions] at h
      obtain ⟨-, -, h⟩ := Fault.exists_of_bind_eq_ok h
      exact Except.ok.inj h ▸ hacc
    | cons n rest => exact nomatch h
  | cons f fields ih =>
    intro ns acc r hf hS hacc h
    have hfields : ∀ g ∈ fields, g.Keeps S I fr := fun g hg => hf g (List.mem_cons_of_mem _ hg)
    cases ns with
    | nil =>
      rw [readPositions] at h
      obtain ⟨-, -, h⟩ := Fault.exists_of_bind_eq_ok h
      split at h
      · exact ih hfields hS hacc h
      · exact nomatch h
    | cons n rest =>
      rw [readPositions] at h
      obtain ⟨acc', hread, h⟩ := Fault.exists_of_bind_eq_ok h
      have hkeep := hf f List.mem_cons_self n acc acc' (hS n List.mem_cons_self) hacc hread
      exact ih hfields (fun m hm => hS m (List.mem_cons_of_mem _ hm)) hkeep h

/-- **What every field keeps when it is read holds of a record that was read.** -/
theorem record_induction {initial r : σ} {n : Node} (hS : Hereditary S) (hn : S n) (h0 : I initial)
    (hf : ∀ f ∈ fields, f.Keeps S I fr.inner) (h : record initial fields fr n = .ok r) :
    0 < fr.levels ∧ I r := by
  cases n with
  | scalar s =>
    rw [record, if_neg (by simp [hS.scalar hn])] at h
    exact nomatch h
  | record es c =>
    rw [record] at h
    obtain ⟨inner, hi, h⟩ := Fault.exists_of_bind_eq_ok h
    obtain ⟨hlv, rfl⟩ := inner_of_enter hi
    obtain ⟨⟨r', seen⟩, hr, h⟩ := Fault.exists_of_bind_eq_ok h
    have hkeep := readEntries_keeps hf (hS.record hn) h0 hr
    obtain ⟨-, -, h⟩ := Fault.exists_of_bind_eq_ok h
    split at h
    · exact nomatch h
    · obtain rfl := Except.ok.inj h
      exact ⟨hlv, hkeep⟩
  | list ns c =>
    rw [record] at h
    split at h
    · obtain ⟨inner, hi, h⟩ := Fault.exists_of_bind_eq_ok h
      obtain ⟨hlv, rfl⟩ := inner_of_enter hi
      exact ⟨hlv, readPositions_keeps hf (hS.list hn) h0 h⟩
    · exact nomatch h
  | broken f g => exact nomatch h

theorem mem_items {r : Reader α} {ns : List Node} {as : List α} (h : items r fr ns = .ok as) :
    ∀ a ∈ as, ∃ n ∈ ns, r fr n = .ok a := by
  induction ns generalizing as with
  | nil => obtain rfl := Except.ok.inj h; exact fun _ ha => nomatch ha
  | cons n ns ih =>
    rw [items] at h
    obtain ⟨first, hf, h⟩ := Fault.exists_of_bind_eq_ok h
    obtain ⟨rest, hr, h⟩ := Fault.exists_of_bind_eq_ok h
    obtain rfl := Except.ok.inj h
    intro a ha
    rcases List.mem_cons.mp ha with rfl | ha
    · exact ⟨n, List.mem_cons_self, hf⟩
    · obtain ⟨m, hm, hma⟩ := ih hr a ha
      exact ⟨m, List.mem_cons_of_mem _ hm, hma⟩

theorem exists_of_list {r : Reader α} {n : Node} {as : List α} (hS : Hereditary S) (hn : S n)
    (h : list r fr n = .ok as) : ∀ a ∈ as, ∃ m, S m ∧ r fr.inner m = .ok a := by
  cases n with
  | scalar s =>
    rw [list, if_neg (by simp [hS.scalar hn])] at h
    exact nomatch h
  | list ns c =>
    rw [list] at h
    obtain ⟨inner, hi, h⟩ := Fault.exists_of_bind_eq_ok h
    obtain ⟨hlv, rfl⟩ := inner_of_enter hi
    obtain ⟨read, hr, h⟩ := Fault.exists_of_bind_eq_ok h
    obtain ⟨-, -, h⟩ := Fault.exists_of_bind_eq_ok h
    obtain rfl := Except.ok.inj h
    intro a ha
    obtain ⟨m, hm, hma⟩ := mem_items hr a ha
    exact ⟨m, hS.list hn m hm, hma⟩
  | record es c => exact nomatch h
  | broken f g => exact nomatch h

theorem of_optional {r : Reader α} {n : Node} {a : α} (h : optional r fr n = .ok (some a)) :
    r fr n = .ok a := by
  cases n with
  | scalar s =>
    rw [optional] at h
    obtain ⟨absent, -, h⟩ := Fault.exists_of_bind_eq_ok h
    split at h
    · exact nomatch h
    · obtain ⟨b, hb, h⟩ := Fault.exists_of_bind_eq_ok h
      exact Option.some.inj (Except.ok.inj h) ▸ hb
  | _ =>
    obtain ⟨b, hb, h⟩ := Fault.exists_of_bind_eq_ok h
    exact Option.some.inj (Except.ok.inj h) ▸ hb

end Blueprint.Source
