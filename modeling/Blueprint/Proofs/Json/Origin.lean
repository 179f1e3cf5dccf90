import Blueprint.Proofs.Json.Tree
import Mathlib.Data.List.Nodup

/-!
# Nodes of texts

* `Node.OfText`: a node as a JSON text may have it; **`ofText_root`**: every text has such a node.
* `Node.NoRepeats`: no record lists a key twice; `ofText_node`: as in every printed value.
* `Datum.OfText`: a value read from such a node, within some levels; `ofText_datum`.
* `Datum.induction_parts`: induction on the parts of a value.
-/

namespace Blueprint

/-- A scalar of a JSON text. -/
inductive Scalar.OfText : Scalar → Prop
  | null : OfText .null
  | bool (b : Bool) : OfText (.ofBool b)
  | number {x : Except Fault Json.Number} : (∀ n, x = .ok n → n.Fits) → OfText (.ofNumber x)
  | string (x : Except Fault String) : OfText (.ofString x)

/-- A key of a JSON text. -/
inductive Node.IsKey : Node → Prop
  | string (x : Except Fault String) : IsKey (.scalar (.ofString x))
  | broken (f : Fault) (g : Option Fault) : IsKey (.broken f g)

/-- A node of a JSON text. -/
inductive Node.OfText : Node → Prop
  | scalar {s : Scalar} : s.OfText → OfText (.scalar s)
  | list {items : List Node} {c : Close} : (∀ n ∈ items, OfText n) → OfText (.list items c)
  | record {entries : List (Node × Node)} {c : Close} : (∀ p ∈ entries, p.1.IsKey) →
      (∀ p ∈ entries, OfText p.2) → OfText (.record entries c)
  | broken (f : Fault) (g : Option Fault) : OfText (.broken f g)

/-- The text of a key. -/
def Node.keyText? : Node → Option String
  | .scalar s => s.text.toOption
  | _ => none

/-- No record lists a key twice. -/
inductive Node.NoRepeats : Node → Prop
  | scalar (s : Scalar) : NoRepeats (.scalar s)
  | list {items : List Node} {c : Close} : (∀ n ∈ items, NoRepeats n) → NoRepeats (.list items c)
  | record {entries : List (Node × Node)} {c : Close} :
      (entries.filterMap fun p => p.1.keyText?).Nodup → (∀ p ∈ entries, NoRepeats p.2) →
        NoRepeats (.record entries c)
  | broken (f : Fault) (g : Option Fault) : NoRepeats (.broken f g)

/-- A value as it is read from a JSON text, within `lv` levels of nesting. -/
inductive Datum.OfText : Nat → Datum → Prop
  | null (lv : Nat) : OfText lv .null
  | bool (lv : Nat) (b : Bool) : OfText lv (.bool b)
  | number {n : Json.Number} (lv : Nat) : n.Fits → OfText lv (.number n)
  | text (lv : Nat) (s : String) : OfText lv (.text s)
  | list {lv : Nat} {items : List Datum} :
      (∀ d ∈ items, OfText lv d) → OfText (lv + 1) (.list items)
  | map {lv : Nat} {entries : List (Datum.Key × Datum)} : (∀ p ∈ entries, ∃ k, p.1 = .text k) →
      (∀ p ∈ entries, OfText lv p.2) → OfText (lv + 1) (.map entries)

/-- No map has a key twice. -/
inductive Datum.NoRepeats : Datum → Prop
  | null : NoRepeats .null
  | bool (b : Bool) : NoRepeats (.bool b)
  | number (n : Json.Number) : NoRepeats (.number n)
  | text (s : String) : NoRepeats (.text s)
  | list {items : List Datum} : (∀ d ∈ items, NoRepeats d) → NoRepeats (.list items)
  | map {entries : List (Datum.Key × Datum)} : (entries.map (·.1)).Nodup →
      (∀ p ∈ entries, NoRepeats p.2) → NoRepeats (.map entries)

namespace Datum

/-- The items of a list or the values of a map. -/
def parts : Datum → List Datum
  | .list items => items
  | .map entries => entries.map (·.2)
  | _ => []

theorem sizeOf_lt_of_mem_parts {d e : Datum} (h : e ∈ d.parts) : sizeOf e < sizeOf d := by
  cases d with
  | list items =>
    have hlt := List.sizeOf_lt_of_mem (show e ∈ items from h)
    simp only [list.sizeOf_spec]
    omega
  | map entries =>
    obtain ⟨p, hp, rfl⟩ := List.mem_map.mp h
    have hlt := List.sizeOf_lt_of_mem hp
    have hp2 : sizeOf p = 1 + sizeOf p.1 + sizeOf p.2 := by cases p; rfl
    simp only [map.sizeOf_spec]
    omega
  | _ => exact nomatch h

/-- What holds of a value whenever it holds of its parts holds of every value. -/
theorem induction_parts {P : Datum → Prop} (step : ∀ d, (∀ e ∈ d.parts, P e) → P d) (d : Datum) :
    P d :=
  step d fun e _ => induction_parts step e
termination_by sizeOf d
decreasing_by exact sizeOf_lt_of_mem_parts ‹_›

theorem OfText.parts {lv : Nat} {d e : Datum} (h : d.OfText lv) (he : e ∈ d.parts) :
    0 < lv ∧ e.OfText (lv - 1) := by
  cases h with
  | list hi => exact ⟨Nat.succ_pos _, hi e he⟩
  | map _ hv =>
    obtain ⟨p, hp, rfl⟩ := List.mem_map.mp he
    exact ⟨Nat.succ_pos _, hv p hp⟩
  | _ => exact nomatch he

theorem NoRepeats.parts {d e : Datum} (h : d.NoRepeats) (he : e ∈ d.parts) : e.NoRepeats := by
  cases h with
  | list hi => exact hi e he
  | map _ hv =>
    obtain ⟨p, hp, rfl⟩ := List.mem_map.mp he
    exact hv p hp
  | _ => exact nomatch he

end Datum

/-! ## Texts -/

namespace Json.Text

open Source

theorem ofText_stopped (f : Fault) : (stopped f).OfText := .broken _ _

theorem ofText_word {s : Scalar} (hs : s.OfText) (w cs : List Char) : (word s w cs).1.OfText := by
  induction w generalizing cs with
  | nil => exact .scalar hs
  | cons c w ih =>
    cases cs with
    | nil => exact ofText_stopped _
    | cons d cs =>
      rw [word]
      split
      · exact ih cs
      · exact ofText_stopped _

theorem ofText_numeral (cs : List Char) : (numeral cs).1.OfText := by
  rw [numeral]
  split
  · exact .scalar (.number fun n hn => Numeral.fits_toNumber hn)
  · exact .broken _ _

theorem isKey_quoted (cs : List Char) : (quoted cs).1.IsKey := by
  simp only [quoted]
  split
  · exact .string _
  · split <;> exact .broken _ _

theorem ofText_of_isKey {n : Node} (h : n.IsKey) : n.OfText := by
  cases h with
  | string x => exact .scalar (.string x)
  | broken f g => exact .broken f g

theorem isKey_key (cs : List Char) : (key cs).1.IsKey := by
  rw [key.eq_def]
  split
  · exact .broken _ _
  · rename_i c rest
    split
    · exact .broken _ _
    · have hk := isKey_quoted rest
      split
      · rename_i hq; rw [hq] at hk; exact hk
      · rename_i hq
        rw [hq] at hk
        split
        · exact hk
        · split <;> exact hk

/-- What the readers of a text return with some fuel. -/
structure Reads (fuel : Nat) : Prop where
  value : ∀ cs, (Text.value fuel cs).1.OfText
  firstItem : ∀ cs, ∀ n ∈ (Text.firstItem fuel cs).items, n.OfText
  item : ∀ cs, ∀ n ∈ (Text.item fuel cs).items, n.OfText
  moreItems : ∀ cs, ∀ n ∈ (Text.moreItems fuel cs).items, n.OfText
  firstEntry : ∀ cs, ∀ p ∈ (Text.firstEntry fuel cs).items, p.1.IsKey ∧ p.2.OfText
  entry : ∀ cs, ∀ p ∈ (Text.entry fuel cs).items, p.1.IsKey ∧ p.2.OfText
  moreEntries : ∀ cs, ∀ p ∈ (Text.moreEntries fuel cs).items, p.1.IsKey ∧ p.2.OfText

theorem reads_zero : Reads 0 where
  value _ := ofText_stopped _
  firstItem _ _ h := nomatch h
  item _ _ h := nomatch h
  moreItems _ _ h := nomatch h
  firstEntry _ _ h := nomatch h
  entry _ _ h := nomatch h
  moreEntries _ _ h := nomatch h

theorem ofText_value_succ {fuel : Nat} (h : Reads fuel) (cs : List Char) :
    (Text.value (fuel + 1) cs).1.OfText := by
  rw [Text.value]
  split
  · exact ofText_stopped _
  · split
    · exact ofText_of_isKey (isKey_quoted _)
    split
    · exact .list (h.firstItem _)
    split
    · exact .record (fun p hp => (h.firstEntry _ p hp).1) fun p hp => (h.firstEntry _ p hp).2
    split
    · exact ofText_word .null _ _
    split
    · exact ofText_word (.bool true) _ _
    split
    · exact ofText_word (.bool false) _ _
    split
    · exact ofText_numeral _
    · exact ofText_stopped _

theorem ofText_item_succ {fuel : Nat} (h : Reads fuel) (cs : List Char) :
    ∀ n ∈ (Text.item (fuel + 1) cs).items, n.OfText := by
  have hv := h.value cs
  rw [Text.item]
  split
  · rename_i hc
    rw [hc] at hv
    exact fun n hn => List.mem_singleton.mp hn ▸ hv
  · rename_i hc
    rw [hc] at hv
    intro n hn
    rcases List.mem_cons.mp hn with rfl | hn
    · exact hv
    · exact h.moreItems _ n hn

theorem ofText_moreItems_succ {fuel : Nat} (h : Reads fuel) (cs : List Char) :
    ∀ n ∈ (Text.moreItems (fuel + 1) cs).items, n.OfText := by
  cases cs with
  | nil => exact fun _ hn => nomatch hn
  | cons c rest =>
    rw [Text.moreItems]
    split
    · exact fun _ hn => nomatch hn
    split
    · split
      · exact fun n hn => List.mem_singleton.mp hn ▸ ofText_stopped _
      · split
        · exact fun n hn => List.mem_singleton.mp hn ▸ ofText_stopped _
        · exact h.item _
    · exact fun _ hn => nomatch hn

theorem ofText_entry_succ {fuel : Nat} (h : Reads fuel) (cs : List Char) :
    ∀ p ∈ (Text.entry (fuel + 1) cs).items, p.1.IsKey ∧ p.2.OfText := by
  have hk := isKey_key cs
  rw [Text.entry]
  split
  · rename_i hc
    rw [hc] at hk
    exact fun p hp => List.mem_singleton.mp hp ▸ ⟨hk, ofText_stopped _⟩
  · rename_i rest hc
    rw [hc] at hk
    have hv := h.value rest
    split
    · rename_i hn
      rw [hn] at hv
      exact fun p hp => List.mem_singleton.mp hp ▸ ⟨hk, hv⟩
    · rename_i hn
      rw [hn] at hv
      intro p hp
      rcases List.mem_cons.mp hp with rfl | hp
      · exact ⟨hk, hv⟩
      · exact h.moreEntries _ p hp

theorem reads : ∀ fuel, Reads fuel
  | 0 => reads_zero
  -- each reader calls the others with less fuel
  | fuel + 1 =>
    have h := reads fuel
    { value := ofText_value_succ h
      firstItem := fun cs => by
        cases cs with
        | nil => exact fun _ hn => nomatch hn
        | cons c rest =>
          rw [Text.firstItem]
          split
          · exact fun _ hn => nomatch hn
          · exact h.item _
      item := ofText_item_succ h
      moreItems := ofText_moreItems_succ h
      firstEntry := fun cs => by
        cases cs with
        | nil => exact fun _ hn => nomatch hn
        | cons c rest =>
          rw [Text.firstEntry]
          split
          · exact fun _ hn => nomatch hn
          · exact h.entry _
      entry := ofText_entry_succ h
      moreEntries := fun cs => by
        cases cs with
        | nil => exact fun _ hn => nomatch hn
        | cons c rest =>
          rw [Text.moreEntries]
          split
          · exact fun _ hn => nomatch hn
          split
          · exact h.entry _
          · exact fun _ hn => nomatch hn }

/-- **Every text is read as a node of a text.** -/
theorem ofText_root (cs : List Char) : (ofChars cs).root.OfText := by
  have h := (reads (3 * cs.length + 3)).value cs
  rw [ofChars]
  split <;> rename_i hv <;> rw [hv] at h <;> exact h

end Json.Text

/-! ## What is read from a node -/

namespace Source

theorem exists_of_enter {fr inner : Frame} (h : fr.enter = .ok inner) :
    fr.levels = inner.levels + 1 := by
  obtain ⟨levels, positional⟩ := fr
  cases levels with
  | zero => exact nomatch h
  | succ n => obtain rfl := Except.ok.inj h; rfl

theorem datum_list {fr : Frame} {ns : List Node} {c : Close} {d : Datum}
    (h : datum fr (.list ns c) = .ok d) :
    ∃ inner ds, fr.enter = .ok inner ∧ datumItems inner ns = .ok ds ∧ d = .list ds := by
  rw [datum] at h
  obtain ⟨inner, hi, h⟩ := Fault.exists_of_bind_eq_ok h
  split at h
  · exact nomatch h
  · obtain ⟨-, -, h⟩ := Fault.exists_of_bind_eq_ok h
    obtain ⟨ds, hd, h⟩ := Fault.exists_of_bind_eq_ok h
    obtain ⟨-, -, h⟩ := Fault.exists_of_bind_eq_ok h
    exact ⟨inner, ds, hi, hd, (Except.ok.inj h).symm⟩

theorem datum_record {fr : Frame} {es : List (Node × Node)} {c : Close} {d : Datum}
    (h : datum fr (.record es c) = .ok d) :
    ∃ inner ds, fr.enter = .ok inner ∧ datumEntries inner es = .ok ds ∧ d = .map ds := by
  rw [datum] at h
  obtain ⟨inner, hi, h⟩ := Fault.exists_of_bind_eq_ok h
  split at h
  · exact nomatch h
  · obtain ⟨-, -, h⟩ := Fault.exists_of_bind_eq_ok h
    obtain ⟨ds, hd, h⟩ := Fault.exists_of_bind_eq_ok h
    obtain ⟨-, -, h⟩ := Fault.exists_of_bind_eq_ok h
    exact ⟨inner, ds, hi, hd, (Except.ok.inj h).symm⟩

theorem mem_datumItems {fr : Frame} {ns : List Node} {ds : List Datum}
    (h : datumItems fr ns = .ok ds) :
    ∀ d ∈ ds, ∃ n ∈ ns, datum fr n = .ok d := by
  induction ns generalizing ds with
  | nil => obtain rfl := Except.ok.inj h; exact fun _ hd => nomatch hd
  | cons n ns ih =>
    rw [datumItems] at h
    obtain ⟨first, hf, h⟩ := Fault.exists_of_bind_eq_ok h
    obtain ⟨rest, hr, h⟩ := Fault.exists_of_bind_eq_ok h
    obtain rfl := Except.ok.inj h
    intro d hd
    rcases List.mem_cons.mp hd with rfl | hd
    · exact ⟨n, List.mem_cons_self, hf⟩
    · obtain ⟨m, hm, hmd⟩ := ih hr d hd
      exact ⟨m, List.mem_cons_of_mem _ hm, hmd⟩

theorem mem_datumEntries {fr : Frame} {es : List (Node × Node)} {ds : List (Datum.Key × Datum)}
    (h : datumEntries fr es = .ok ds) : ∀ p ∈ ds, ∃ q ∈ es, datum fr q.2 = .ok p.2 := by
  induction es generalizing ds with
  | nil => obtain rfl := Except.ok.inj h; exact fun _ hd => nomatch hd
  | cons q es ih =>
    obtain ⟨k, n⟩ := q
    rw [datumEntries] at h
    obtain ⟨key, hk, h⟩ := Fault.exists_of_bind_eq_ok h
    obtain ⟨value, hv, h⟩ := Fault.exists_of_bind_eq_ok h
    obtain ⟨rest, hr, h⟩ := Fault.exists_of_bind_eq_ok h
    obtain rfl := Except.ok.inj h
    intro p hp
    rcases List.mem_cons.mp hp with rfl | hp
    · exact ⟨(k, n), List.mem_cons_self, hv⟩
    · obtain ⟨r, hm, hrd⟩ := ih hr p hp
      exact ⟨r, List.mem_cons_of_mem _ hm, hrd⟩

theorem datum_of_isKey {fr : Frame} {n : Node} {d : Datum} (hn : n.IsKey) (h : datum fr n = .ok d) :
    ∃ k, n.keyText? = some k ∧ d = .text k := by
  cases hn with
  | broken f g => exact nomatch h
  | string x =>
    cases x with
    | error f => exact nomatch h
    | ok k => exact ⟨k, rfl, (Except.ok.inj h).symm⟩

theorem keys_datumEntries {fr : Frame} {es : List (Node × Node)} {ds : List (Datum.Key × Datum)}
    (hk : ∀ q ∈ es, q.1.IsKey) (h : datumEntries fr es = .ok ds) :
    ds.map (·.1) = (es.filterMap fun q => q.1.keyText?).map .text := by
  induction es generalizing ds with
  | nil => obtain rfl := Except.ok.inj h; rfl
  | cons q es ih =>
    obtain ⟨k, n⟩ := q
    rw [datumEntries] at h
    obtain ⟨key, hkey, h⟩ := Fault.exists_of_bind_eq_ok h
    obtain ⟨value, -, h⟩ := Fault.exists_of_bind_eq_ok h
    obtain ⟨rest, hr, h⟩ := Fault.exists_of_bind_eq_ok h
    obtain rfl := Except.ok.inj h
    obtain ⟨s, hs, rfl⟩ := datum_of_isKey (hk _ List.mem_cons_self) hkey
    have ih := ih (fun q hq => hk q (List.mem_cons_of_mem _ hq)) hr
    have hs : k.keyText? = some s := hs
    simp only [List.filterMap_cons, hs, List.map_cons, ih]
    rfl

/-- **What is read from a node of a text** lies within the levels of its frame. -/
theorem ofText_datum {n : Node} (hn : n.OfText) :
    ∀ {fr : Frame} {d : Datum}, datum fr n = .ok d → d.OfText fr.levels := by
  induction hn with
  | @scalar s hs =>
    intro fr d h
    rw [datum] at h
    cases hs with
    | null => obtain rfl := Except.ok.inj h; exact .null _
    | bool b => obtain rfl := Except.ok.inj h; exact .bool _ b
    | @number x hx =>
      cases x with
      | error f => exact nomatch h
      | ok m => obtain rfl := Except.ok.inj h; exact .number _ (hx m rfl)
    | string x =>
      cases x with
      | error f => exact nomatch h
      | ok s => obtain rfl := Except.ok.inj h; exact .text _ s
  | list _ ih =>
    intro fr d h
    obtain ⟨inner, ds, hi, hd, rfl⟩ := datum_list h
    rw [exists_of_enter hi]
    refine .list fun e he => ?_
    obtain ⟨m, hm, hme⟩ := mem_datumItems hd e he
    exact ih m hm hme
  | record hk _ ih =>
    intro fr d h
    obtain ⟨inner, ds, hi, hd, rfl⟩ := datum_record h
    rw [exists_of_enter hi]
    refine .map (fun p hp => ?_) fun p hp => ?_
    · have hkey := List.mem_map_of_mem (f := (·.1)) hp
      rw [keys_datumEntries hk hd, List.mem_map] at hkey
      obtain ⟨k, -, hk⟩ := hkey
      exact ⟨k, hk.symm⟩
    · obtain ⟨q, hq, hqp⟩ := mem_datumEntries hd p hp
      exact ih q hq hqp
  | broken f g => intro fr d h; exact nomatch h

theorem noRepeats_datum {n : Node} (hn : n.OfText) :
    n.NoRepeats → ∀ {fr : Frame} {d : Datum}, datum fr n = .ok d → d.NoRepeats := by
  induction hn with
  | @scalar s hs =>
    intro _ fr d h
    rw [datum] at h
    cases hs with
    | null => obtain rfl := Except.ok.inj h; exact .null
    | bool b => obtain rfl := Except.ok.inj h; exact .bool b
    | @number x hx =>
      cases x with
      | error f => exact nomatch h
      | ok m => obtain rfl := Except.ok.inj h; exact .number m
    | string x =>
      cases x with
      | error f => exact nomatch h
      | ok s => obtain rfl := Except.ok.inj h; exact .text s
  | list _ ih =>
    intro hr fr d h
    cases hr with
    | list hr =>
      obtain ⟨inner, ds, -, hd, rfl⟩ := datum_list h
      refine .list fun e he => ?_
      obtain ⟨m, hm, hme⟩ := mem_datumItems hd e he
      exact ih m hm (hr m hm) hme
  | record hk _ ih =>
    intro hr fr d h
    cases hr with
    | record hnd hr =>
      obtain ⟨inner, ds, -, hd, rfl⟩ := datum_record h
      refine .map ?_ fun p hp => ?_
      · rw [keys_datumEntries hk hd]
        exact List.Nodup.map (fun a b hab => Datum.Key.text.inj hab) hnd
      · obtain ⟨q, hq, hqp⟩ := mem_datumEntries hd p hp
        exact ih q hq (hr q hq) hqp
  | broken f g => intro _ fr d h; exact nomatch h

end Source

/-! ## Printed values -/

namespace Json

theorem filterMap_keyText?_entryNodes (entries : List (String × Json)) :
    (entryNodes entries).filterMap (fun p => p.1.keyText?) = entries.map (·.1) := by
  induction entries with
  | nil => rfl
  | cons p rest ih =>
    rw [entryNodes, List.map_cons, ← ih]
    rfl

mutual

/-- A sound value is printed as a node of a text, without repetitions. -/
theorem ofText_node {lv : Nat} : ∀ j : Json, Sound lv j → (node j).OfText ∧ (node j).NoRepeats
  | .null, _ => ⟨.scalar .null, .scalar _⟩
  | .bool b, _ => ⟨.scalar (.bool b), .scalar _⟩
  | .number (.int n), h => ⟨.scalar (.number fun m hm => Except.ok.inj hm ▸ h), .scalar _⟩
  | .string s, _ => ⟨.scalar (.string _), .scalar _⟩
  | .array items, h =>
    have hi := ofText_itemNodes items h.2
    ⟨.list fun n hn => (hi n hn).1, .list fun n hn => (hi n hn).2⟩
  | .object entries, h =>
    have hi := ofText_entryNodes entries h.2.2
    ⟨.record (fun p hp => (hi p hp).1) fun p hp => (hi p hp).2.1,
      .record (by rw [filterMap_keyText?_entryNodes]; exact h.2.1) fun p hp => (hi p hp).2.2⟩

theorem ofText_itemNodes {lv : Nat} : ∀ items : List Json, SoundItems lv items →
    ∀ n ∈ itemNodes items, n.OfText ∧ n.NoRepeats
  | [], _, _, hn => nomatch hn
  | j :: rest, h, n, hn => by
    rcases List.mem_cons.mp hn with rfl | hn
    · exact ofText_node j h.1
    · exact ofText_itemNodes rest h.2 n hn

theorem ofText_entryNodes {lv : Nat} : ∀ entries : List (String × Json), SoundEntries lv entries →
    ∀ p ∈ entryNodes entries, p.1.IsKey ∧ p.2.OfText ∧ p.2.NoRepeats
  | [], _, _, hp => nomatch hp
  | (k, j) :: rest, h, p, hp => by
    rcases List.mem_cons.mp hp with rfl | hp
    · exact ⟨.string _, ofText_node j h.1⟩
    · exact ofText_entryNodes rest h.2 p hp

end

end Json

end Blueprint
