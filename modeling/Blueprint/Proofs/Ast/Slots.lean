import Blueprint.Ast.Reading
import Blueprint.Proofs.Json.Ordered

/-!
# Fields of a value

* **`Slots.ofEntries_text`**: among entries with distinct texts for keys, each field has the value
  of its key.
* `Slots.mem_of_ofEntries`, `Slots.mem_of_ofItems`: a field is one of the parts of the value.
* `Slots.Rel`: fields that are related one by one; `Rel.required`, `Rel.optional`, `Rel.defaulted`:
  related fields are read alike.
-/

namespace Blueprint.Ast

open Datum (textEntries)
open Dictionary (keys get?)

variable {α β γ : Type} {names : List String}

theorem filter_namesField {entries : List (String × α)} (h : (keys entries).Nodup) (name : String)
    (i : Nat) : (textEntries entries).filter (fun e => namesField name i e.1) =
      match get? name entries with
      | none => []
      | some a => [(.text name, a)] := by
  induction entries with
  | nil => rfl
  | cons p rest ih =>
    obtain ⟨k, a⟩ := p
    obtain ⟨hk, hrest⟩ := List.nodup_cons.mp h
    have ih := ih hrest
    rw [Dictionary.get?_cons]
    by_cases hn : k = name
    · have hnone : get? name rest = none := Dictionary.get?_eq_none.mpr (hn ▸ hk)
      rw [hnone] at ih
      simpa [textEntries, namesField, hn] using ih
    · rw [if_neg hn, ← ih]
      simp [textEntries, namesField, hn]

theorem mapM_eq_some {f : α → Option β} {l : List α} {m : List β} :
    l.mapM f = some m ↔ List.Forall₂ (fun a b => f a = some b) l m := by
  induction l generalizing m with
  | nil => simp [eq_comm]
  | cons a rest ih =>
    simp only [List.mapM_cons, Option.bind_eq_bind, Option.bind_eq_some_iff, Option.pure_def,
      Option.some.injEq, List.forall₂_cons_left_iff]
    constructor
    · rintro ⟨b, hb, m, hm, rfl⟩
      exact ⟨b, m, hb, ih.mp hm, rfl⟩
    · rintro ⟨b, m, hb, hm, rfl⟩
      exact ⟨b, hb, m, ih.mpr hm, rfl⟩

namespace Slots

/-- The field among entries that has a name or a position; no answer if there are several. -/
def sole (entries : List (Datum.Key × α)) (field : String × Nat) : Option (Option α) :=
  match entries.filter (fun e => namesField field.1 field.2 e.1) with
  | [] => some none
  | [e] => some (some e.2)
  | _ => none

theorem ofEntries_eq (entries : List (Datum.Key × α)) : ofEntries names entries =
    if entries.any (·.1 = .other) then none
    else (names.zipIdx.mapM (sole entries)).map (⟨false, ·⟩) := by
  rw [ofEntries]
  split
  · rfl
  · exact Option.map_eq_bind.symm

theorem sole_textEntries {entries : List (String × α)} (h : (keys entries).Nodup)
    (field : String × Nat) : sole (textEntries entries) field = some (get? field.1 entries) := by
  rw [sole, filter_namesField h]
  cases get? field.1 entries <;> rfl

/-- **Among entries with distinct texts for keys, each field has the value of its key.** -/
theorem ofEntries_text {entries : List (String × α)} (h : (keys entries).Nodup) :
    ofEntries names (textEntries entries) =
      some ⟨false, names.map fun name => get? name entries⟩ := by
  have hany : (textEntries entries).any (fun e => e.1 = .other) = false := by
    simp [textEntries]
  have hmap : names.zipIdx.mapM (sole (textEntries entries)) =
      some (names.map fun name => get? name entries) := by
    have hn : (names.zipIdx.map fun field => get? field.1 entries) =
        names.map fun name => get? name entries :=
      (List.map_map (f := Prod.fst) (g := fun name => get? name entries)).symm.trans
        (congrArg _ (List.zipIdx_map_fst 0 names))
    rw [mapM_eq_some, ← hn, List.forall₂_map_right_iff, List.forall₂_same]
    exact fun field _ => sole_textEntries h field
  rw [ofEntries_eq, hany, hmap]
  rfl

theorem get_mk_map (positional : Bool) (f : String → Option α) (i : Nat) :
    Slots.get ⟨positional, names.map f⟩ i = names[i]?.bind f := by
  rw [Slots.get, List.getElem?_map]
  cases names[i]? <;> rfl

theorem mem_values_of_get {s : Slots α} {i : Nat} {a : α} (h : s.get i = some a) :
    some a ∈ s.values :=
  List.mem_of_getElem? (Option.join_eq_some_iff.mp h)

theorem mem_of_ofEntries {entries : List (Datum.Key × α)} {s : Slots α} {i : Nat} {a : α}
    (hs : ofEntries names entries = some s) (h : s.get i = some a) : a ∈ entries.map (·.2) := by
  rw [ofEntries_eq] at hs
  split at hs
  · exact nomatch hs
  · obtain ⟨values, hv, rfl⟩ := Option.map_eq_some_iff.mp hs
    obtain ⟨field, -, hf⟩ := Datum.exists_of_mem_right (mapM_eq_some.mp hv) (mem_values_of_get h)
    rw [sole] at hf
    split at hf
    · exact nomatch hf
    · rename_i e he
      obtain rfl := Option.some.inj (Option.some.inj hf)
      have hmem : e ∈ entries.filter (fun e => namesField field.1 field.2 e.1) :=
        he ▸ List.mem_cons_self
      exact List.mem_map_of_mem (List.mem_of_mem_filter hmem)
    · exact nomatch hf

theorem mem_of_ofItems {items : List α} {s : Slots α} {i : Nat} {a : α}
    (hs : ofItems names items = some s) (h : s.get i = some a) : a ∈ items := by
  rw [ofItems] at hs
  split at hs
  · obtain rfl := Option.some.inj hs
    obtain ⟨b, hb, hab⟩ := List.mem_map.mp (mem_values_of_get h)
    exact Option.some.inj hab ▸ hb
  · exact nomatch hs

/-- Fields that are related one by one. -/
structure Rel (R : α → β → Prop) (s : Slots α) (t : Slots β) : Prop where
  positional : s.positional = t.positional
  get : ∀ i, Option.Rel R (s.get i) (t.get i)

variable {R : α → β → Prop} {s : Slots α} {t : Slots β}

theorem Rel.required (h : Rel R s t) {i : Nat} {f : α → Option γ} {g : β → Option γ}
    (hfg : ∀ a b, R a b → f a = g b) : s.required i f = t.required i g := by
  rw [Slots.required, Slots.required]
  match s.get i, t.get i, h.get i with
  | _, _, .none => rfl
  | _, _, .some hr => exact hfg _ _ hr

theorem Rel.optional (h : Rel R s t) {i : Nat} {f : α → Option (Option γ)}
    {g : β → Option (Option γ)} (hfg : ∀ a b, R a b → f a = g b) :
    s.optional i f = t.optional i g := by
  rw [Slots.optional, Slots.optional, h.positional]
  match s.get i, t.get i, h.get i with
  | _, _, .none => rfl
  | _, _, .some hr => exact hfg _ _ hr

theorem Rel.defaulted (h : Rel R s t) {i : Nat} {c : γ} {f : α → Option γ} {g : β → Option γ}
    (hfg : ∀ a b, R a b → f a = g b) : s.defaulted i c f = t.defaulted i c g := by
  rw [Slots.defaulted, Slots.defaulted]
  match s.get i, t.get i, h.get i with
  | _, _, .none => rfl
  | _, _, .some hr => exact hfg _ _ hr

theorem rel_getElem? {items : List α} {others : List β} (h : List.Forall₂ R items others)
    (i : Nat) : Option.Rel R items[i]? others[i]? := by
  induction h generalizing i with
  | nil => exact .none
  | cons hr _ ih =>
    cases i with
    | zero => exact .some hr
    | succ i => exact ih i

theorem get_mk_some (positional : Bool) (items : List α) (i : Nat) :
    Slots.get ⟨positional, items.map some⟩ i = items[i]? := by
  rw [Slots.get, List.getElem?_map]
  cases items[i]? <;> rfl

theorem rel_ofItems (names : List String) {items : List α} {others : List β}
    (h : List.Forall₂ R items others) :
    Option.Rel (Rel R) (ofItems names items) (ofItems names others) := by
  rw [ofItems, ofItems, h.length_eq]
  split
  · refine .some ⟨rfl, fun i => ?_⟩
    rw [get_mk_some, get_mk_some]
    exact rel_getElem? h i
  · exact .none

theorem rel_ofEntries (names : List String) {entries : List (String × α)}
    {others : List (String × β)} (he : (keys entries).Nodup) (ho : (keys others).Nodup)
    (h : ∀ k, Option.Rel R (get? k entries) (get? k others)) :
    Option.Rel (Rel R) (ofEntries names (textEntries entries))
      (ofEntries names (textEntries others)) := by
  rw [ofEntries_text he, ofEntries_text ho]
  refine .some ⟨rfl, fun i => ?_⟩
  rw [get_mk_map, get_mk_map]
  cases names[i]? with
  | none => exact .none
  | some name => exact h name

end Slots

end Blueprint.Ast
