import Blueprint.Json.Decode
import Blueprint.Proofs.Json.Numeral

/-!
# Values as nodes and as data

* `node`: the node that a printed value is read as; `Datum.ofJson`: the datum of a value.
* `Exact`: a value whose text is read as its node; `Sound`: one that can be read back, within some
  levels of nesting.
* **`datum_node`**: the node of a sound value reads as the datum of that value.
-/

namespace Blueprint

mutual

/-- The datum of a JSON value. -/
def Datum.ofJson : Json → Datum
  | .null => .null
  | .bool b => .bool b
  | .number n => .number n
  | .string s => .text s
  | .array items => .list (Datum.itemsOfJson items)
  | .object entries => .map (Datum.entriesOfJson entries)

/-- The data of items. -/
def Datum.itemsOfJson : List Json → List Datum
  | [] => []
  | j :: rest => Datum.ofJson j :: Datum.itemsOfJson rest

/-- The data of entries. -/
def Datum.entriesOfJson : List (String × Json) → List (Datum.Key × Datum)
  | [] => []
  | (k, j) :: rest => (.text k, Datum.ofJson j) :: Datum.entriesOfJson rest

end

namespace Json

open Source

mutual

/-- The node of a printed value. -/
def node : Json → Node
  | .null => .scalar .null
  | .bool b => .scalar (.ofBool b)
  | .number n => .scalar (.ofNumber (.ok n))
  | .string s => .scalar (.ofString (.ok s))
  | .array items => .list (itemNodes items) {}
  | .object entries => .record (entryNodes entries) {}

/-- The nodes of printed items. -/
def itemNodes : List Json → List Node
  | [] => []
  | j :: rest => node j :: itemNodes rest

/-- The nodes of printed entries. -/
def entryNodes : List (String × Json) → List (Node × Node)
  | [] => []
  | (k, j) :: rest => (.scalar (.ofString (.ok k)), node j) :: entryNodes rest

end

mutual

/-- With integers of 64 bits and no doubles. -/
def Exact : Json → Prop
  | .number n => n.Exact
  | .array items => ExactItems items
  | .object entries => ExactEntries entries
  | _ => True

/-- Exact items. -/
def ExactItems : List Json → Prop
  | [] => True
  | j :: rest => Exact j ∧ ExactItems rest

/-- Entries with exact values. -/
def ExactEntries : List (String × Json) → Prop
  | [] => True
  | (_, j) :: rest => Exact j ∧ ExactEntries rest

end

mutual

/-- Within `lv` levels of nesting, with integers of 64 bits, no doubles and distinct keys. -/
def Sound (lv : Nat) : Json → Prop
  | .null => True
  | .bool _ => True
  | .number n => n.Exact
  | .string _ => True
  | .array items => 0 < lv ∧ SoundItems (lv - 1) items
  | .object entries => 0 < lv ∧ (entries.map (·.1)).Nodup ∧ SoundEntries (lv - 1) entries

/-- Sound items. -/
def SoundItems (lv : Nat) : List Json → Prop
  | [] => True
  | j :: rest => Sound lv j ∧ SoundItems lv rest

/-- Entries with sound values. -/
def SoundEntries (lv : Nat) : List (String × Json) → Prop
  | [] => True
  | (_, j) :: rest => Sound lv j ∧ SoundEntries lv rest

end

mutual

/-- Without doubles. -/
def FloatFree : Json → Prop
  | .number (.float _) => False
  | .array items => FloatFreeItems items
  | .object entries => FloatFreeEntries entries
  | _ => True

/-- Items without doubles. -/
def FloatFreeItems : List Json → Prop
  | [] => True
  | j :: rest => FloatFree j ∧ FloatFreeItems rest

/-- Entries without doubles. -/
def FloatFreeEntries : List (String × Json) → Prop
  | [] => True
  | (_, j) :: rest => FloatFree j ∧ FloatFreeEntries rest

end

mutual

theorem exact_of_sound {lv : Nat} : ∀ {j : Json}, Sound lv j → Exact j
  | .null, _ => trivial
  | .bool _, _ => trivial
  | .number _, h => h
  | .string _, _ => trivial
  | .array _, h => exactItems_of_sound h.2
  | .object _, h => exactEntries_of_sound h.2.2

theorem exactItems_of_sound {lv : Nat} :
    ∀ {items : List Json}, SoundItems lv items → ExactItems items
  | [], _ => trivial
  | _ :: _, h => ⟨exact_of_sound h.1, exactItems_of_sound h.2⟩

theorem exactEntries_of_sound {lv : Nat} : ∀ {entries : List (String × Json)},
    SoundEntries lv entries → ExactEntries entries
  | [], _ => trivial
  | _ :: _, h => ⟨exact_of_sound h.1, exactEntries_of_sound h.2⟩

end

theorem soundItems_iff {lv : Nat} {items : List Json} :
    SoundItems lv items ↔ ∀ j ∈ items, Sound lv j := by
  induction items with
  | nil => simp [SoundItems]
  | cons j rest ih => simp [SoundItems, ih]

theorem soundEntries_iff {lv : Nat} {entries : List (String × Json)} :
    SoundEntries lv entries ↔ ∀ p ∈ entries, Sound lv p.2 := by
  induction entries with
  | nil => simp [SoundEntries]
  | cons p rest ih => simp [SoundEntries, ih]

theorem floatFreeItems_iff {items : List Json} :
    FloatFreeItems items ↔ ∀ j ∈ items, FloatFree j := by
  induction items with
  | nil => simp [FloatFreeItems]
  | cons j rest ih => simp [FloatFreeItems, ih]

theorem floatFreeEntries_iff {entries : List (String × Json)} :
    FloatFreeEntries entries ↔ ∀ p ∈ entries, FloatFree p.2 := by
  induction entries with
  | nil => simp [FloatFreeEntries]
  | cons p rest ih => simp [FloatFreeEntries, ih]

theorem itemsOfJson_eq (items : List Json) : Datum.itemsOfJson items = items.map Datum.ofJson := by
  induction items with
  | nil => rfl
  | cons j rest ih => rw [Datum.itemsOfJson, ih]; rfl

theorem entriesOfJson_eq (entries : List (String × Json)) :
    Datum.entriesOfJson entries = entries.map fun p => (.text p.1, Datum.ofJson p.2) := by
  induction entries with
  | nil => rfl
  | cons p rest ih => rw [Datum.entriesOfJson, ih]; rfl

theorem enter_of_pos {fr : Frame} (h : 0 < fr.levels) :
    fr.enter = .ok { fr with levels := fr.levels - 1 } := by
  obtain ⟨levels, positional⟩ := fr
  cases levels with
  | zero => exact absurd h (Nat.lt_irrefl _)
  | succ n => rfl

mutual

/-- **The node of a sound value reads as the datum of the value.** -/
theorem datum_node (fr : Frame) :
    ∀ j : Json, Sound fr.levels j → datum fr (node j) = .ok (.ofJson j)
  | .null, _ => rfl
  | .bool _, _ => rfl
  | .number _, _ => rfl
  | .string _, _ => rfl
  | .array items, h => by
    have hi := datumItems_nodes { fr with levels := fr.levels - 1 } items h.2
    rw [node, datum, enter_of_pos h.1, Fault.ok_bind]
    simp only [Bool.false_eq_true, if_false, Fault.pure_eq_ok, Fault.ok_bind, hi]
    rfl
  | .object entries, h => by
    have hi := datumEntries_nodes { fr with levels := fr.levels - 1 } entries h.2.2
    rw [node, datum, enter_of_pos h.1, Fault.ok_bind]
    simp only [Bool.false_eq_true, if_false, Fault.pure_eq_ok, Fault.ok_bind, hi]
    rfl

theorem datumItems_nodes (fr : Frame) : ∀ items : List Json, SoundItems fr.levels items →
    datumItems fr (itemNodes items) = .ok (Datum.itemsOfJson items)
  | [], _ => rfl
  | j :: rest, h => by
    rw [itemNodes, datumItems, datum_node fr j h.1, Fault.ok_bind, datumItems_nodes fr rest h.2]
    rfl

theorem datumEntries_nodes (fr : Frame) : ∀ entries : List (String × Json),
    SoundEntries fr.levels entries →
      datumEntries fr (entryNodes entries) = .ok (Datum.entriesOfJson entries)
  | [], _ => rfl
  | (k, j) :: rest, h => by
    have hk : datum fr (.scalar (.ofString (.ok k))) = .ok (.text k) := rfl
    rw [entryNodes, datumEntries, hk, Fault.ok_bind, datum_node fr j h.1, Fault.ok_bind,
      datumEntries_nodes fr rest h.2]
    rfl

end

end Json

end Blueprint
