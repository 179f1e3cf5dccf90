import Blueprint.Proofs.Ast.Slots

/-!
# Printed elements

* `Element.values`: the plain values that an element and the elements below it hold.
* `Json.IsPlain`: a value that is neither null, nor a list of elements, nor a member.
* **`ofDatum?_toJson`**: an element that holds plain values only is what its JSON value stands for.
-/

namespace Blueprint

open Ast

/-- A value that fits no form of content but the plain value. -/
def Json.IsPlain (j : Json) : Prop := Content.ofDatum? (Datum.ofJson j) = some (.value j)

namespace Ast

open Datum (textEntries ofJson)
open Dictionary (keys get?)
open Source (write)

mutual

/-- The plain values that an element and the elements below it hold. -/
def Element.values : Element → List Json
  | ⟨_, _, _, _, content⟩ => contentValues content

/-- The plain values in a content. -/
def contentValues : Content Element → List Json
  | .absent => []
  | .elements items => elementsValues items
  | .member key none => key.values
  | .member key (some value) => key.values ++ value.values
  | .value json => [json]

/-- The plain values in elements. -/
def elementsValues : List Element → List Json
  | [] => []
  | e :: rest => e.values ++ elementsValues rest

end

theorem elementsToJson_eq (items : List Element) :
    elementsToJson items = items.map Element.toJson := by
  induction items with
  | nil => rfl
  | cons e rest ih => rw [elementsToJson, ih]; rfl

theorem elementsValues_eq (items : List Element) :
    elementsValues items = items.flatMap Element.values := by
  induction items with
  | nil => rfl
  | cons e rest ih => rw [elementsValues, ih]; rfl

/-! ## Objects -/

section Objects

variable {α : Type} {entries : List (String × Option α)}

/-- The entries that have a value. -/
def present (entries : List (String × Option α)) : List (String × α) :=
  entries.filterMap fun p => p.2.map (p.1, ·)

theorem keys_present_sublist (entries : List (String × Option α)) :
    (keys (present entries)).Sublist (keys entries) := by
  induction entries with
  | nil => exact .slnil
  | cons p rest ih =>
    obtain ⟨k, v⟩ := p
    cases v with
    | none => exact ih.cons k
    | some a => exact ih.cons_cons k

theorem get?_present (h : (keys entries).Nodup) (k : String) :
    get? k (present entries) = (get? k entries).join := by
  induction entries with
  | nil => rfl
  | cons p rest ih =>
    obtain ⟨l, v⟩ := p
    obtain ⟨hl, hrest⟩ := List.nodup_cons.mp h
    rw [Dictionary.get?_cons]
    cases v with
    | none =>
      refine (ih hrest).trans ?_
      split
      · rename_i hk
        rw [Dictionary.get?_eq_none.mpr (hk ▸ hl)]
        rfl
      · rfl
    | some a =>
      refine (Dictionary.get?_cons k (l, a) (present rest)).trans ?_
      split
      · rfl
      · exact ih hrest

end Objects

theorem write_eq {σ : Type} (fields : List (Source.Field σ)) (r : σ) :
    write fields r = objectOf (fields.map fun f => (f.key, f.write r)) := by
  rw [write, objectOf, List.filterMap_map]
  rfl

/-! ## Readings -/

theorem ofDatum_datum (d : Datum) : (Reading.ofDatum d).datum = d := by
  cases d <;> rfl

theorem ofItems_eq (items : List Datum) : Reading.ofItems items = items.map Reading.ofDatum := by
  induction items with
  | nil => rfl
  | cons d rest ih => rw [Reading.ofItems, ih]; rfl

theorem ofEntries_eq (entries : List (Datum.Key × Datum)) :
    Reading.ofEntries entries = entries.map fun p => (p.1, Reading.ofDatum p.2) := by
  induction entries with
  | nil => rfl
  | cons p rest ih => rw [Reading.ofEntries, ih]; rfl

variable {items : List Datum}

theorem content_of_elements {es : List Element}
    (h : (Reading.ofItems items).mapM Reading.element = some es) :
    (Reading.ofDatum (.list items)).content = some (.elements es) := by
  rw [Reading.ofDatum, listReading, h]

theorem content_of_not_elements (h : (Reading.ofItems items).mapM Reading.element = none) :
    (Reading.ofDatum (.list items)).content =
      memberOrPlain (.list items) (Slots.ofItems memberFields (Reading.ofItems items)) := by
  rw [Reading.ofDatum, listReading, h]

/-- The reading of a JSON value. -/
abbrev readingOf (j : Json) : Reading := Reading.ofDatum (ofJson j)

/-- The fields of an object in which values may be missing, each value being changed by `f`. -/
structure Slots.Of {α β : Type} (s : Slots β) (names : List String)
    (entries : List (String × Option α))
    (f : α → β) : Prop where
  positional : s.positional = false
  get : ∀ i name, names[i]? = some name → s.get i = ((get? name entries).join).map f

theorem slots_present {α β : Type} {entries : List (String × Option α)} (h : (keys entries).Nodup)
    (names : List String) (f : α → β) :
    ∃ s,
      Slots.ofEntries names (textEntries ((present entries).map fun p => (p.1, f p.2))) = some s ∧
      s.Of names entries f := by
  have hp : (keys (present entries)).Nodup := h.sublist (keys_present_sublist entries)
  have hk : keys ((present entries).map fun p => (p.1, f p.2)) = keys (present entries) := by
    rw [keys, List.map_map]
    rfl
  refine ⟨_, Slots.ofEntries_text (hk ▸ hp), rfl, fun i name hi => ?_⟩
  rw [Slots.get_mk_map, hi, Option.bind_some, Dictionary.get?_map fun _ => f, get?_present h]

theorem slots_ofJson (entries : List (String × Option Json)) (h : (keys entries).Nodup)
    (names : List String) :
    ∃ s, Slots.ofEntries names (Datum.entriesOfJson (present entries)) = some s ∧
      s.Of names entries ofJson := by
  obtain ⟨s, hs, hof⟩ := slots_present h names ofJson
  refine ⟨s, ?_, hof⟩
  rw [← hs, Json.entriesOfJson_eq, textEntries, List.map_map]
  rfl

theorem slots_readingOf (entries : List (String × Option Json)) (h : (keys entries).Nodup)
    (names : List String) :
    ∃ s,
      Slots.ofEntries names (Reading.ofEntries (Datum.entriesOfJson (present entries))) = some s ∧
      s.Of names entries readingOf := by
  obtain ⟨s, hs, hof⟩ := slots_present h names readingOf
  refine ⟨s, ?_, hof⟩
  rw [← hs, ofEntries_eq, Json.entriesOfJson_eq, textEntries, List.map_map, List.map_map]
  rfl

theorem optional_eq {α β γ : Type} {s : Slots γ} {i : Nat} {x : Option α} {p : α → β} {f : β → γ}
    {read : γ → Option (Option α)} (hp : s.positional = false) (hs : s.get i = (x.map p).map f)
    (hr : ∀ a, read (f (p a)) = some (some a)) : s.optional i read = some x := by
  rw [Slots.optional, hs]
  cases x with
  | none => simp [hp]
  | some a => exact hr a

/-! ## Labels and metadata -/

/-- The fields of a symbol with their values. -/
def symbolEntries (literal : String) (variable_ : Bool) : List (String × Option Json) :=
  [("literal", some (.string literal)), ("variable", some (.bool variable_))]

theorem nullable_label (l : Label) : nullable Label.ofDatum? (ofJson l.toJson) = some (some l) := by
  cases l with
  | literal s => rfl
  | symbol s v =>
    obtain ⟨t, ht, hof⟩ := slots_ofJson (symbolEntries s v) (by simp [symbolEntries])
      ["literal", "variable"]
    have hl : ofJson (Label.symbol s v).toJson =
        .map (Datum.entriesOfJson (present (symbolEntries s v))) := rfl
    have hs : t.required 0 textOf? = some s := by
      rw [Slots.required, hof.get 0 "literal" rfl]
      rfl
    have hv : t.defaulted 1 false flagOf? = some v := by
      rw [Slots.defaulted, hof.get 1 "variable" rfl]
      rfl
    rw [hl, nullable, Label.ofDatum?, ht, Option.bind_eq_bind, Option.bind_some, hs, hv]
    · rfl
    · simp

/-- The fields of metadata with their values. -/
def Meta.entries (m : Meta) : List (String × Option Json) :=
  [("id", m.id.map .string), ("description", m.description.map .string)]

theorem Meta.write_eq (m : Meta) : write Meta.fields m = objectOf m.entries := Ast.write_eq _ _

theorem nullable_meta (m : Meta) :
    nullable Meta.ofDatum? (ofJson (write Meta.fields m)) = some (some m) := by
  obtain ⟨t, ht, hof⟩ := slots_ofJson m.entries (by simp [Meta.entries]) ["id", "description"]
  have hl : ofJson (objectOf m.entries) = .map (Datum.entriesOfJson (present m.entries)) := rfl
  have hid : t.optional 0 (nullable textOf?) = some m.id :=
    optional_eq hof.positional (hof.get 0 "id" rfl) fun _ => rfl
  have hd : t.optional 1 (nullable textOf?) = some m.description :=
    optional_eq hof.positional (hof.get 1 "description" rfl) fun _ => rfl
  rw [Meta.write_eq, hl, nullable, Meta.ofDatum?, slots, ht, Option.bind_eq_bind, Option.bind_some,
    hid, hd]
  · rfl
  · simp

/-! ## Elements -/

theorem contentToJson?_eq_none {c : Content Element} (h : contentToJson? c = none) :
    c = .absent := by
  cases c with
  | absent => rfl
  | elements items => exact nomatch h
  | member key value => cases value <;> exact nomatch h
  | value json => exact nomatch h

/-- The fields of an element with their values. -/
def Element.entries (e : Element) : List (String × Option Json) :=
  [("element", some (.string e.kind)), ("name", e.name.map Label.toJson),
    ("meta", e.meta.map (write Meta.fields)), ("description", e.description.map .string),
    ("content", contentToJson? e.content)]

theorem Element.toJson_eq (e : Element) : e.toJson = objectOf e.entries := by
  obtain ⟨kind, name, m, description, content⟩ := e
  rfl

theorem Element.nodup_entries (e : Element) : (keys e.entries).Nodup := by
  simp [Element.entries]

theorem element_readingOf {e : Element}
    (h : ∀ j, contentToJson? e.content = some j → (readingOf j).content = some e.content) :
    (readingOf e.toJson).element = some e := by
  have hs : (readingOf e.toJson).element = (Slots.ofEntries elementFields
      (Reading.ofEntries (Datum.entriesOfJson (present e.entries)))).bind elementOfSlots := by
    rw [Element.toJson_eq]
    rfl
  obtain ⟨t, ht, hof⟩ := slots_readingOf e.entries e.nodup_entries elementFields
  have hkind : t.required 0 (fun r => textOf? r.datum) = some e.kind := by
    rw [Slots.required, hof.get 0 "element" rfl]
    rfl
  have hname : t.optional 1 (fun r => nullable Label.ofDatum? r.datum) = some e.name :=
    optional_eq hof.positional (hof.get 1 "name" rfl) fun l => by
      rw [ofDatum_datum]
      exact nullable_label l
  have hmeta : t.optional 2 (fun r => nullable Meta.ofDatum? r.datum) = some e.meta :=
    optional_eq hof.positional (hof.get 2 "meta" rfl) fun m => by
      rw [ofDatum_datum]
      exact nullable_meta m
  have hdesc : t.optional 3 (fun r => nullable textOf? r.datum) = some e.description :=
    optional_eq hof.positional (hof.get 3 "description" rfl) fun _ => rfl
  have hget : t.get 4 = (contentToJson? e.content).map readingOf := hof.get 4 "content" rfl
  have hcontent : ∃ c,
      t.optional 4 (fun r => r.content.map some) = some c ∧ c.getD .absent = e.content := by
    rw [Slots.optional, hget]
    cases hc : contentToJson? e.content with
    | none => exact ⟨none, by simp [hof.positional], (contentToJson?_eq_none hc).symm⟩
    | some j => exact ⟨some e.content, by simp [h j hc], rfl⟩
  obtain ⟨c, hc, hce⟩ := hcontent
  rw [hs, ht, Option.bind_some, elementOfSlots, hkind, hname, hmeta, hdesc, hc]
  simp only [Option.bind_eq_bind, Option.bind_some, Option.pure_def, hce]
  cases e
  rfl

/-- The fields of a member with their values. -/
def memberEntries (key : Element) (value : Option Element) : List (String × Option Json) :=
  [("key", some key.toJson), ("value", value.map Element.toJson)]

theorem contentToJson?_member (key : Element) (value : Option Element) :
    contentToJson? (.member key value) = some (objectOf (memberEntries key value)) := by
  cases value <;> rfl

theorem elementOrNull_readingOf {e : Element} (h : (readingOf e.toJson).element = some e) :
    elementOrNull (readingOf e.toJson) = some (some e) := by
  rw [elementOrNull]
  split
  · rename_i hd
    rw [ofDatum_datum, Element.toJson_eq] at hd
    exact nomatch hd
  · rw [h]
    rfl

theorem member_readingOf {key : Element} {value : Option Element}
    (hk : (readingOf key.toJson).element = some key)
    (hv : ∀ v, value = some v → (readingOf v.toJson).element = some v) :
    (readingOf (objectOf (memberEntries key value))).content = some (.member key value) := by
  obtain ⟨t, ht, hof⟩ := slots_readingOf (memberEntries key value) (by simp [memberEntries])
    memberFields
  have hkey : t.required 0 Reading.element = some key := by
    rw [Slots.required, hof.get 0 "key" rfl]
    exact hk
  have hget : t.get 1 = (value.map Element.toJson).map readingOf := hof.get 1 "value" rfl
  have hvalue : t.defaulted 1 none elementOrNull = some value := by
    rw [Slots.defaulted, hget]
    cases value with
    | none => rfl
    | some v => exact elementOrNull_readingOf (hv v rfl)
  have hmember : memberOfSlots t = some (.member key value) := by
    rw [memberOfSlots, hkey, hvalue]
    rfl
  change memberOrPlain _ (Slots.ofEntries memberFields
    (Reading.ofEntries (Datum.entriesOfJson (present (memberEntries key value))))) = _
  rw [memberOrPlain, ht, Option.bind_some, hmember]

mutual

/-- **An element that holds plain values only is what its JSON value stands for.** -/
theorem ofDatum?_toJson : ∀ e : Element, (∀ j ∈ e.values, j.IsPlain) →
    (readingOf e.toJson).element = some e
  | ⟨_, _, _, _, content⟩, h => element_readingOf (content_toJson content h)

theorem content_toJson : ∀ c : Content Element, (∀ j ∈ contentValues c, j.IsPlain) →
    ∀ j, contentToJson? c = some j → (readingOf j).content = some c
  | .absent, _, _, hj => nomatch hj
  | .elements items, h, j, hj => by
    obtain rfl := Option.some.inj hj
    have hi := elements_toJson items h
    exact content_of_elements hi
  | .member key none, h, j, hj => by
    obtain rfl := Option.some.inj ((contentToJson?_member key none).symm.trans hj)
    exact member_readingOf (ofDatum?_toJson key h) nofun
  | .member key (some value), h, j, hj => by
    obtain rfl := Option.some.inj ((contentToJson?_member key (some value)).symm.trans hj)
    have hk := ofDatum?_toJson key fun j hj => h j (List.mem_append_left _ hj)
    have hv := ofDatum?_toJson value fun j hj => h j (List.mem_append_right _ hj)
    exact member_readingOf hk fun v hvv => Option.some.inj hvv ▸ hv
  | .value json, h, j, hj => by
    obtain rfl := Option.some.inj hj
    exact h json (List.mem_singleton_self json)

theorem elements_toJson : ∀ items : List Element, (∀ j ∈ elementsValues items, j.IsPlain) →
    (Reading.ofItems (Datum.itemsOfJson (elementsToJson items))).mapM Reading.element = some items
  | [], _ => rfl
  | e :: rest, h => by
    have he := ofDatum?_toJson e fun j hj => h j (List.mem_append_left _ hj)
    have hr := elements_toJson rest fun j hj => h j (List.mem_append_right _ hj)
    rw [elementsToJson, Datum.itemsOfJson, Reading.ofItems, List.mapM_cons, he, hr]
    rfl

end

end Ast

end Blueprint
