import Blueprint.Proofs.Dictionary
import Blueprint.Proofs.Json.Origin

/-!
# Entries by ascending key

* `Ascending`: entries by strictly ascending key; `ascending_sortEntries`, and `sortEntries_eq`:
  such entries are left as they are.
* `get?_sortEntries`: distinct keys keep their values.
* **`toJson?_ofJson`**: a value that was read as any value is read as itself again.
* `sound_of_toJson?`: a value without doubles lies within the levels of the text it is read from.
-/

namespace Blueprint

namespace Json

open Dictionary (keys get?_cons get?_eq_none)

variable {key : String} {value : Json} {entries : List (String × Json)}

/-- The entries of the keys after the first. -/
abbrev Ascending (entries : List (String × Json)) : Prop :=
  entries.Pairwise fun p q => p.1 < q.1

theorem lt_of_not_lt {k l : String} (hne : k ≠ l) (h : ¬ k < l) : l < k := by
  by_contra hlt
  exact hne (String.le_antisymm (String.not_lt.mp hlt) (String.not_lt.mp h))

theorem mem_insert {p : String × Json} (h : p ∈ insert key value entries) :
    p = (key, value) ∨ p ∈ entries := by
  induction entries with
  | nil => exact .inl (List.mem_singleton.mp h)
  | cons q rest ih =>
    rw [insert] at h
    split at h
    · exact (List.mem_cons.mp h).imp_right (List.mem_cons_of_mem _)
    split at h
    · exact List.mem_cons.mp h
    · rcases List.mem_cons.mp h with h | h
      · exact .inr (h ▸ List.mem_cons_self)
      · exact (ih h).imp_right (List.mem_cons_of_mem _)

theorem get?_insert (k : String) :
    Dictionary.get? k (insert key value entries) =
      if key = k then some value else Dictionary.get? k entries := by
  induction entries with
  | nil => rfl
  | cons q rest ih =>
    rw [insert]
    split
    · rename_i hq
      rw [get?_cons, get?_cons]
      by_cases hk : key = k
      · rw [if_pos hk, if_pos hk]
      · rw [if_neg hk, if_neg hk, if_neg (hq ▸ hk)]
    split
    · exact get?_cons _ _ _
    · rename_i hne _
      rw [get?_cons, get?_cons, ih]
      by_cases hk : key = k
      · rw [if_neg fun h => hne (hk.trans h.symm), if_pos hk, if_pos hk]
      · rw [if_neg hk, if_neg hk]

theorem ascending_insert (h : Ascending entries) : Ascending (insert key value entries) := by
  induction entries with
  | nil => exact List.pairwise_singleton _ _
  | cons q rest ih =>
    obtain ⟨hq, hrest⟩ := List.pairwise_cons.mp h
    rw [insert]
    split
    · rename_i hk
      exact List.pairwise_cons.mpr ⟨fun p hp => hk ▸ hq p hp, hrest⟩
    split
    · rename_i hlt
      refine List.pairwise_cons.mpr ⟨fun p hp => ?_, h⟩
      rcases List.mem_cons.mp hp with rfl | hp
      · exact hlt
      · exact String.lt_trans hlt (hq p hp)
    · rename_i hne hlt
      refine List.pairwise_cons.mpr ⟨fun p hp => ?_, ih hrest⟩
      rcases mem_insert hp with rfl | hp
      · exact lt_of_not_lt hne hlt
      · exact hq p hp

theorem insert_of_last (value : Json) (h : ∀ p ∈ entries, p.1 < key) :
    insert key value entries = entries ++ [(key, value)] := by
  induction entries with
  | nil => rfl
  | cons q rest ih =>
    have hq : q.1 < key := h q List.mem_cons_self
    have hne : key ≠ q.1 := fun e => String.lt_irrefl _ (e ▸ hq)
    have hlt : ¬ key < q.1 := fun e => String.lt_irrefl _ (String.lt_trans e hq)
    rw [insert, if_neg hne, if_neg hlt, ih fun p hp => h p (List.mem_cons_of_mem _ hp)]
    rfl

/-- Entries put in their places among sorted ones. -/
abbrev insertAll (entries sorted : List (String × Json)) : List (String × Json) :=
  entries.foldl (fun sorted p => insert p.1 p.2 sorted) sorted

section InsertAll

variable {sorted : List (String × Json)}

theorem ascending_insertAll (h : Ascending sorted) : Ascending (insertAll entries sorted) := by
  induction entries generalizing sorted with
  | nil => exact h
  | cons p rest ih => exact ih (ascending_insert h)

theorem mem_insertAll {p : String × Json} (h : p ∈ insertAll entries sorted) :
    p ∈ sorted ∨ p ∈ entries := by
  induction entries generalizing sorted with
  | nil => exact .inl h
  | cons q rest ih =>
    rcases ih h with hp | hp
    · rcases mem_insert hp with rfl | hp
      · exact .inr List.mem_cons_self
      · exact .inl hp
    · exact .inr (List.mem_cons_of_mem _ hp)

theorem insertAll_eq_append (h : Ascending (sorted ++ entries)) :
    insertAll entries sorted = sorted ++ entries := by
  induction entries generalizing sorted with
  | nil => simp
  | cons p rest ih =>
    have hp : ∀ q ∈ sorted, q.1 < p.1 := fun q hq =>
      (List.pairwise_append.mp h).2.2 q hq p List.mem_cons_self
    have hrest : insertAll rest (sorted ++ [p]) = sorted ++ [p] ++ rest := ih (by simpa using h)
    rw [List.append_assoc, List.singleton_append] at hrest
    rw [insertAll, List.foldl_cons, insert_of_last p.2 hp]
    exact hrest

theorem get?_insertAll (k : String) (h : (keys entries).Nodup) :
    Dictionary.get? k (insertAll entries sorted) =
      (Dictionary.get? k entries).or (Dictionary.get? k sorted) := by
  induction entries generalizing sorted with
  | nil => rfl
  | cons p rest ih =>
    obtain ⟨hp, hrest⟩ := List.nodup_cons.mp h
    rw [insertAll, List.foldl_cons]
    refine (ih hrest).trans ?_
    rw [get?_insert, get?_cons]
    by_cases hk : p.1 = k
    · rw [if_pos hk, if_pos hk, get?_eq_none.mpr (hk ▸ hp), Option.none_or, Option.some_or]
    · rw [if_neg hk, if_neg hk]

end InsertAll

theorem sortEntries_eq_insertAll (entries : List (String × Json)) :
    sortEntries entries = insertAll entries [] := rfl

theorem ascending_sortEntries (entries : List (String × Json)) :
    Ascending (sortEntries entries) := ascending_insertAll .nil

theorem nodup_keys_of_ascending (h : Ascending entries) : (entries.map (·.1)).Nodup :=
  List.pairwise_map.mpr (h.imp String.ne_of_lt)

theorem mem_of_mem_sortEntries {p : String × Json} (h : p ∈ sortEntries entries) : p ∈ entries :=
  (mem_insertAll h).resolve_left List.not_mem_nil

theorem sortEntries_eq (h : Ascending entries) : sortEntries entries = entries :=
  insertAll_eq_append h

theorem get?_sortEntries (k : String) (h : (keys entries).Nodup) :
    Dictionary.get? k (sortEntries entries) = Dictionary.get? k entries := by
  rw [sortEntries_eq_insertAll, get?_insertAll k h]
  simp

end Json

/-! ## Values read as any value -/

namespace Datum

open Json

theorem itemsToJson?_eq_some {items : List Datum} {js : List Json} :
    itemsToJson? items = some js ↔ List.Forall₂ (fun d j => d.toJson? = some j) items js := by
  induction items generalizing js with
  | nil => simp [itemsToJson?, eq_comm]
  | cons d rest ih =>
    rw [itemsToJson?]
    simp only [Option.bind_eq_bind, Option.bind_eq_some_iff, Option.pure_def, Option.some.injEq,
      List.forall₂_cons_left_iff]
    constructor
    · rintro ⟨j, hj, js, hjs, rfl⟩
      exact ⟨j, js, hj, ih.mp hjs, rfl⟩
    · rintro ⟨j, js, hj, hjs, rfl⟩
      exact ⟨j, hj, js, ih.mpr hjs, rfl⟩

/-- Entries with texts for keys. -/
def textEntries {α : Type} (entries : List (String × α)) : List (Key × α) :=
  entries.map fun p => (.text p.1, p.2)

theorem entriesToJson?_eq_some {es : List (Key × Datum)} {js : List (String × Json)} :
    entriesToJson? es = some js ↔ ∃ entries, es = textEntries entries ∧
      List.Forall₂ (fun p q => p.1 = q.1 ∧ p.2.toJson? = some q.2) entries js := by
  induction es generalizing js with
  | nil =>
    constructor
    · intro h
      obtain rfl := Option.some.inj h
      exact ⟨[], rfl, .nil⟩
    · rintro ⟨entries, he, h⟩
      obtain rfl := List.map_eq_nil_iff.mp he.symm
      cases h
      rfl
  | cons p rest ih =>
    obtain ⟨k, d⟩ := p
    constructor
    · intro h
      cases k with
      | position n => exact nomatch h
      | other => exact nomatch h
      | text k =>
        rw [entriesToJson?] at h
        simp only [Option.bind_eq_bind, Option.bind_eq_some_iff, Option.pure_def,
          Option.some.injEq] at h
        obtain ⟨j, hj, js, hjs, rfl⟩ := h
        obtain ⟨entries, rfl, he⟩ := ih.mp hjs
        exact ⟨(k, d) :: entries, rfl, .cons ⟨rfl, hj⟩ he⟩
    · rintro ⟨entries, he, h⟩
      obtain ⟨q, entries, rfl, hq, rfl⟩ := List.map_eq_cons_iff.mp he.symm
      obtain ⟨rfl, rfl⟩ := Prod.mk.inj hq
      cases h with
      | cons hj h =>
        rename_i q' js
        obtain ⟨hk, hj⟩ := hj
        rw [entriesToJson?, ih.mpr ⟨entries, rfl, h⟩, hj, hk]
        rfl

theorem exists_of_mem_right {α β : Type} {R : α → β → Prop} {l : List α} {m : List β}
    (h : List.Forall₂ R l m) {b : β} (hb : b ∈ m) : ∃ a ∈ l, R a b := by
  induction h with
  | nil => exact nomatch hb
  | cons hr _ ih =>
    rcases List.mem_cons.mp hb with rfl | hb
    · exact ⟨_, List.mem_cons_self, hr⟩
    · obtain ⟨a, ha, hab⟩ := ih hb
      exact ⟨a, List.mem_cons_of_mem _ ha, hab⟩

theorem list_of_toJson? {items : List Datum} {j : Json} (h : (list items).toJson? = some j) :
    ∃ js, List.Forall₂ (fun d j => d.toJson? = some j) items js ∧ j = .array js := by
  rw [toJson?] at h
  obtain ⟨js, hjs, rfl⟩ := Option.map_eq_some_iff.mp h
  exact ⟨js, itemsToJson?_eq_some.mp hjs, rfl⟩

theorem map_of_toJson? {es : List (Key × Datum)} {j : Json} (h : (map es).toJson? = some j) :
    ∃ entries js, es = textEntries entries ∧ j = .object (sortEntries js) ∧
      List.Forall₂ (fun p q => p.1 = q.1 ∧ p.2.toJson? = some q.2) entries js := by
  rw [toJson?] at h
  obtain ⟨js, hjs, rfl⟩ := Option.map_eq_some_iff.mp h
  obtain ⟨entries, rfl, he⟩ := entriesToJson?_eq_some.mp hjs
  exact ⟨entries, js, rfl, rfl, he⟩

theorem mem_parts_textEntries {p : String × Datum} {entries : List (String × Datum)}
    (h : p ∈ entries) : p.2 ∈ (map (textEntries entries)).parts :=
  List.mem_map.mpr ⟨(.text p.1, p.2), List.mem_map.mpr ⟨p, h, rfl⟩, rfl⟩

/-- **A value that was read as any value is read as itself again.** -/
theorem toJson?_ofJson (d : Datum) :
    ∀ {j : Json}, d.toJson? = some j → (ofJson j).toJson? = some j := by
  induction d using induction_parts with
  | step d ih =>
  intro j h
  cases d with
  | null => obtain rfl := Option.some.inj h; rfl
  | bool b => obtain rfl := Option.some.inj h; rfl
  | text s => obtain rfl := Option.some.inj h; rfl
  | number n =>
    cases n with
    | int n => obtain rfl := Option.some.inj h; rfl
    | float bits =>
      obtain rfl := Option.some.inj h
      by_cases hb : isFiniteDouble bits
      · simp [hb, ofJson, toJson?]
      · simp [hb, ofJson, toJson?]
  | list items =>
    obtain ⟨js, hjs, rfl⟩ := list_of_toJson? h
    have hall : List.Forall₂ (fun d j => d.toJson? = some j) (itemsOfJson js) js := by
      rw [itemsOfJson_eq, List.forall₂_map_left_iff, List.forall₂_same]
      intro k hk
      obtain ⟨d, hd, hdk⟩ := exists_of_mem_right hjs hk
      exact ih d hd hdk
    rw [ofJson, toJson?, itemsToJson?_eq_some.mpr hall]
    rfl
  | map es =>
    obtain ⟨entries, js, rfl, rfl, hjs⟩ := map_of_toJson? h
    have hall : entriesToJson? (entriesOfJson (sortEntries js)) = some (sortEntries js) := by
      refine entriesToJson?_eq_some.mpr ⟨(sortEntries js).map fun p => (p.1, ofJson p.2), ?_, ?_⟩
      · rw [entriesOfJson_eq, textEntries, List.map_map]
        rfl
      · rw [List.forall₂_map_left_iff, List.forall₂_same]
        intro q hq
        obtain ⟨p, hp, -, hpq⟩ := exists_of_mem_right hjs (mem_of_mem_sortEntries hq)
        exact ⟨rfl, ih p.2 (mem_parts_textEntries hp) hpq⟩
    -- the entries were put in order when the value was kept, so they stay as they are
    rw [ofJson, toJson?, hall, Option.map_some, ofEntries,
      sortEntries_eq (ascending_sortEntries js)]

/-- A value without doubles lies within the levels of the text that it is read from. -/
theorem sound_of_toJson? (d : Datum) : ∀ {lv : Nat} {j : Json}, d.OfText lv → d.toJson? = some j →
    j.FloatFree → Sound lv j := by
  induction d using induction_parts with
  | step d ih =>
  intro lv j hd h hf
  cases hd with
  | null => obtain rfl := Option.some.inj h; trivial
  | bool _ b => obtain rfl := Option.some.inj h; trivial
  | text _ s => obtain rfl := Option.some.inj h; trivial
  | @number n _ hn =>
    cases n with
    | int n => obtain rfl := Option.some.inj h; exact hn
    | float bits =>
      have hn : isFiniteDouble bits = true := hn
      rw [toJson?, hn] at h
      obtain rfl := Option.some.inj h
      exact hf.elim
  | list hi =>
    obtain ⟨js, hjs, rfl⟩ := list_of_toJson? h
    have hf := floatFreeItems_iff.mp hf
    refine ⟨Nat.succ_pos _, soundItems_iff.mpr fun k hk => ?_⟩
    obtain ⟨e, he, hek⟩ := exists_of_mem_right hjs hk
    exact ih e he (hi e he) hek (hf k hk)
  | map _ hv =>
    obtain ⟨entries, js, rfl, rfl, hjs⟩ := map_of_toJson? h
    have hf := floatFreeEntries_iff.mp hf
    refine ⟨Nat.succ_pos _, nodup_keys_of_ascending (ascending_sortEntries js),
      soundEntries_iff.mpr fun q hq => ?_⟩
    obtain ⟨p, hp, -, hpq⟩ := exists_of_mem_right hjs (mem_of_mem_sortEntries hq)
    exact ih p.2 (mem_parts_textEntries hp) (hv _ (List.mem_map_of_mem hp)) hpq (hf q hq)

end Datum

end Blueprint
