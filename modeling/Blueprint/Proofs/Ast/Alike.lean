import Blueprint.Proofs.Ast.Parts

/-!
# Values that are read alike

* `Alike`: two values that are read the same way in every place; `alike_list`, `alike_map`: as are
  values with parts that are read alike.
* **`alike_ofJson`**: without repeated keys a value is read like the JSON value kept of it.
* **`isPlain_of_datum`**: a plain value of an element read from such a value is plain on its own.
-/

namespace Blueprint.Ast

open Datum (textEntries ofJson)
open Dictionary (keys get?)

/-- Two values that are read the same way in every place. -/
structure Alike (d d' : Datum) : Prop where
  isNull : d = .null ↔ d' = .null
  text : textOf? d = textOf? d'
  flag : flagOf? d = flagOf? d'
  label : Label.ofDatum? d = Label.ofDatum? d'
  info : Meta.ofDatum? d = Meta.ofDatum? d'
  element : (Reading.ofDatum d).element = (Reading.ofDatum d').element
  content : (Reading.ofDatum d).content = (Reading.ofDatum d').content

theorem Alike.refl (d : Datum) : Alike d d := ⟨.rfl, rfl, rfl, rfl, rfl, rfl, rfl⟩

/-- The readings of two values that are read alike. -/
def AlikeReadings (r r' : Reading) : Prop :=
  ∃ d d', Reading.ofDatum d = r ∧ Reading.ofDatum d' = r' ∧ Alike d d'

/-! ## Places of a value -/

theorem nullable_of_ne {β : Type} {read : Datum → Option β} {d : Datum} (h : d ≠ .null) :
    nullable read d = (read d).map some := by
  rw [nullable.eq_def]
  split
  · exact absurd rfl h
  · rfl

theorem nullable_congr {β : Type} {read : Datum → Option β} {d d' : Datum}
    (hn : d = .null ↔ d' = .null) (h : read d = read d') : nullable read d = nullable read d' := by
  by_cases hd : d = .null
  · rw [hd, hn.mp hd]
  · rw [nullable_of_ne hd, nullable_of_ne fun e => hd (hn.mpr e), h]

theorem elementOrNull_of_ne {r : Reading} (h : r.datum ≠ .null) :
    elementOrNull r = r.element.map some := by
  rw [elementOrNull]
  split
  · rename_i hd
    exact absurd hd h
  · rfl

theorem elementOrNull_congr {r r' : Reading} (h : AlikeReadings r r') :
    elementOrNull r = elementOrNull r' := by
  obtain ⟨d, d', rfl, rfl, h⟩ := h
  by_cases hd : d = .null
  · rw [hd, h.isNull.mp hd]
  · have hd' : d' ≠ .null := fun e => hd (h.isNull.mpr e)
    rw [elementOrNull_of_ne (by rwa [ofDatum_datum]), elementOrNull_of_ne (by rwa [ofDatum_datum]),
      h.element]

variable {s t : Slots Reading}

theorem elementOfSlots_congr (h : Slots.Rel AlikeReadings s t) :
    elementOfSlots s = elementOfSlots t := by
  rw [elementOfSlots, elementOfSlots]
  rw [h.required (i := 0) (g := fun r => textOf? r.datum), h.optional (i := 1)
    (g := fun r => nullable Label.ofDatum? r.datum), h.optional (i := 2)
    (g := fun r => nullable Meta.ofDatum? r.datum), h.optional (i := 3)
    (g := fun r => nullable textOf? r.datum), h.optional (i := 4)
    (g := fun r => r.content.map some)]
  · rintro _ _ ⟨d, d', rfl, rfl, h⟩
    rw [h.content]
  · rintro _ _ ⟨d, d', rfl, rfl, h⟩
    rw [ofDatum_datum, ofDatum_datum, nullable_congr h.isNull h.text]
  · rintro _ _ ⟨d, d', rfl, rfl, h⟩
    rw [ofDatum_datum, ofDatum_datum, nullable_congr h.isNull h.info]
  · rintro _ _ ⟨d, d', rfl, rfl, h⟩
    rw [ofDatum_datum, ofDatum_datum, nullable_congr h.isNull h.label]
  · rintro _ _ ⟨d, d', rfl, rfl, h⟩
    rw [ofDatum_datum, ofDatum_datum, h.text]

theorem memberOfSlots_congr (h : Slots.Rel AlikeReadings s t) :
    memberOfSlots s = memberOfSlots t := by
  rw [memberOfSlots, memberOfSlots]
  rw [h.required (i := 0) (g := Reading.element), h.defaulted (i := 1) (g := elementOrNull)]
  · exact fun _ _ => elementOrNull_congr
  · rintro _ _ ⟨d, d', rfl, rfl, h⟩
    exact h.element

theorem bind_congr {α β γ : Type} {R : α → β → Prop} {x : Option α} {y : Option β}
    (h : Option.Rel R x y) {f : α → Option γ} {g : β → Option γ} (hfg : ∀ a b, R a b → f a = g b) :
    x.bind f = y.bind g := by
  cases h with
  | none => rfl
  | some hr => exact hfg _ _ hr

theorem rel_map {α β γ δ : Type} {R : α → β → Prop} {S : γ → δ → Prop} {x : Option α} {y : Option β}
    (h : Option.Rel R x y) {f : α → γ} {g : β → δ} (hfg : ∀ a b, R a b → S (f a) (g b)) :
    Option.Rel S (x.map f) (y.map g) := by
  cases h with
  | none => exact .none
  | some hr => exact .some (hfg _ _ hr)

theorem memberOrPlain_congr {x y : Option (Slots Reading)} {d d' : Datum}
    (h : Option.Rel (Slots.Rel AlikeReadings) x y) (hp : plainContent d = plainContent d') :
    memberOrPlain d x = memberOrPlain d' y := by
  rw [memberOrPlain, memberOrPlain, bind_congr h fun _ _ => memberOfSlots_congr, hp]

theorem mapM_congr {α β γ : Type} {f : α → Option γ} {g : β → Option γ} {l : List α} {m : List β}
    (h : List.Forall₂ (fun a b => f a = g b) l m) : l.mapM f = m.mapM g := by
  induction h with
  | nil => rfl
  | cons hab _ ih => rw [List.mapM_cons, List.mapM_cons, hab, ih]

/-- The metadata that fields stand for. -/
def metaOfSlots (s : Slots Datum) : Option Meta := do
  return { id := ← s.optional 0 (nullable textOf?)
           description := ← s.optional 1 (nullable textOf?) }

/-- The symbol that fields stand for. -/
def symbolOfSlots (s : Slots Datum) : Option Label := do
  return .symbol (← s.required 0 textOf?) (← s.defaulted 1 false flagOf?)

theorem metaOfSlots_congr {s t : Slots Datum} (h : Slots.Rel Alike s t) :
    metaOfSlots s = metaOfSlots t := by
  have htext : ∀ d d', Alike d d' → nullable textOf? d = nullable textOf? d' :=
    fun d d' hd => nullable_congr hd.isNull hd.text
  rw [metaOfSlots, metaOfSlots, h.optional htext, h.optional htext]

theorem symbolOfSlots_congr {s t : Slots Datum} (h : Slots.Rel Alike s t) :
    symbolOfSlots s = symbolOfSlots t := by
  rw [symbolOfSlots, symbolOfSlots, h.required fun d d' hd => hd.text,
    h.defaulted fun d d' hd => hd.flag]

/-! ## Lists and maps -/

theorem alikeReadings_ofDatum {d d' : Datum} (h : Alike d d') :
    AlikeReadings (Reading.ofDatum d) (Reading.ofDatum d') := ⟨d, d', rfl, rfl, h⟩

theorem alike_list {items others : List Datum} (h : List.Forall₂ Alike items others)
    (hp : plainContent (.list items) = plainContent (.list others)) :
    Alike (.list items) (.list others) := by
  have hr : List.Forall₂ AlikeReadings (Reading.ofItems items) (Reading.ofItems others) := by
    rw [ofItems_eq, ofItems_eq, List.forall₂_map_left_iff, List.forall₂_map_right_iff]
    exact h.imp fun _ _ => alikeReadings_ofDatum
  refine ⟨by simp, rfl, rfl, rfl, ?_, ?_, ?_⟩
  · exact bind_congr (Slots.rel_ofItems _ h) fun _ _ => metaOfSlots_congr
  · exact bind_congr (Slots.rel_ofItems _ hr) fun _ _ => elementOfSlots_congr
  · have hm : (Reading.ofItems items).mapM Reading.element =
        (Reading.ofItems others).mapM Reading.element :=
      mapM_congr (hr.imp fun _ _ ⟨_, _, hd, hd', ha⟩ => hd ▸ hd' ▸ ha.element)
    cases ho : (Reading.ofItems others).mapM Reading.element with
    | none =>
      rw [content_of_not_elements (hm.trans ho), content_of_not_elements ho]
      exact memberOrPlain_congr (Slots.rel_ofItems memberFields hr) hp
    | some es => rw [content_of_elements (hm.trans ho), content_of_elements ho]

theorem ofEntries_textEntries (entries : List (String × Datum)) :
    Reading.ofEntries (textEntries entries) =
      textEntries (entries.map fun p => (p.1, Reading.ofDatum p.2)) := by
  rw [ofEntries_eq, textEntries, textEntries, List.map_map, List.map_map]
  rfl

theorem alike_map {entries others : List (String × Datum)} (he : (keys entries).Nodup)
    (ho : (keys others).Nodup) (h : ∀ k, Option.Rel Alike (get? k entries) (get? k others))
    (hp : plainContent (.map (textEntries entries)) = plainContent (.map (textEntries others))) :
    Alike (.map (textEntries entries)) (.map (textEntries others)) := by
  have hkeys : ∀ l : List (String × Datum),
      keys (l.map fun p => (p.1, Reading.ofDatum p.2)) = keys l := by
    intro l
    rw [keys, List.map_map]
    rfl
  -- the readings of a map go by its slots, and these by its keys
  have hr : ∀ names, Option.Rel (Slots.Rel AlikeReadings)
      (Slots.ofEntries names (Reading.ofEntries (textEntries entries)))
      (Slots.ofEntries names (Reading.ofEntries (textEntries others))) := by
    intro names
    rw [ofEntries_textEntries, ofEntries_textEntries]
    refine Slots.rel_ofEntries names ((hkeys entries).symm ▸ he) ((hkeys others).symm ▸ ho)
      fun k => ?_
    rw [Dictionary.get?_map fun _ => Reading.ofDatum, Dictionary.get?_map fun _ => Reading.ofDatum]
    exact rel_map (h k) fun _ _ => alikeReadings_ofDatum
  refine ⟨by simp, rfl, rfl, ?_, ?_, ?_, ?_⟩
  · exact bind_congr (Slots.rel_ofEntries _ he ho h) fun _ _ => symbolOfSlots_congr
  · exact bind_congr (Slots.rel_ofEntries _ he ho h) fun _ _ => metaOfSlots_congr
  · exact bind_congr (hr _) fun _ _ => elementOfSlots_congr
  · exact memberOrPlain_congr (hr _) hp

/-! ## The value that is kept -/

theorem plainContent_ofJson {d : Datum} {j : Json} (h : d.toJson? = some j) :
    plainContent d = plainContent (ofJson j) := by
  rw [plainContent, plainContent, h, Datum.toJson?_ofJson d h]

theorem rel_get? {R : Datum → Json → Prop} {entries : List (String × Datum)}
    {js : List (String × Json)} (h : List.Forall₂ (fun p q => p.1 = q.1 ∧ R p.2 q.2) entries js)
    (k : String) :
    Option.Rel R (get? k entries) (get? k js) := by
  induction h with
  | nil => exact .none
  | cons hpq _ ih =>
    rw [Dictionary.get?_cons, Dictionary.get?_cons, hpq.1]
    split
    · exact .some hpq.2
    · exact ih

theorem nodup_keys_of_noRepeats {entries : List (String × Datum)}
    (h : (Datum.map (textEntries entries)).NoRepeats) : (keys entries).Nodup := by
  cases h with
  | map hk _ =>
    rw [textEntries, List.map_map] at hk
    refine List.Nodup.of_map Datum.Key.text ?_
    rw [keys, List.map_map]
    exact hk

/-- **Without repeated keys a value is read like the JSON value kept of it.** -/
theorem alike_ofJson (d : Datum) : ∀ {lv : Nat} {j : Json}, d.OfText lv → d.NoRepeats →
    d.toJson? = some j → Alike d (ofJson j) := by
  induction d using Datum.induction_parts with
  | step d ih =>
  intro lv j hd hr h
  have hplain := plainContent_ofJson h
  cases hd with
  | null => obtain rfl := Option.some.inj h; exact .refl _
  | bool _ b => obtain rfl := Option.some.inj h; exact .refl _
  | text _ s => obtain rfl := Option.some.inj h; exact .refl _
  | @number n _ hn =>
    cases n with
    | int n => obtain rfl := Option.some.inj h; exact .refl _
    | float bits =>
      have hn : isFiniteDouble bits = true := hn
      rw [Datum.toJson?, hn] at h
      obtain rfl := Option.some.inj h
      exact .refl _
  | @list lv items hi =>
    obtain ⟨js, hjs, rfl⟩ := Datum.list_of_toJson? h
    have hitems : List.Forall₂ Alike items (Datum.itemsOfJson js) := by
      rw [Json.itemsOfJson_eq, List.forall₂_map_right_iff]
      refine List.Forall₂.imp ?_ ((List.forall₂_and_left items js).mpr ⟨fun e he => he, hjs⟩)
      rintro e k ⟨he, hek⟩
      exact ih e he (hi e he) (hr.parts he) hek
    exact alike_list hitems hplain
  | @map lv es hk hv =>
    obtain ⟨entries, js, rfl, rfl, hjs⟩ := Datum.map_of_toJson? h
    have hentries : (keys entries).Nodup := nodup_keys_of_noRepeats hr
    have hkeys : keys js = keys entries := by
      have hk := List.forall₂_map_left_iff.mpr <|
        List.forall₂_map_right_iff.mpr (hjs.imp fun _ _ h => h.1)
      exact (List.forall₂_eq_eq_eq ▸ hk : keys entries = keys js).symm
    have hparts : List.Forall₂ (fun p q => p.1 = q.1 ∧ Alike p.2 (ofJson q.2)) entries js := by
      refine List.Forall₂.imp ?_ ((List.forall₂_and_left entries js).mpr ⟨fun p hp => hp, hjs⟩)
      rintro p q ⟨hp, hpq, hj⟩
      have hmem := Datum.mem_parts_textEntries hp
      exact ⟨hpq, ih p.2 hmem (hv _ (List.mem_map_of_mem hp)) (hr.parts hmem) hj⟩
    have hmap : ofJson (.object (Json.sortEntries js)) =
        .map (textEntries ((Json.sortEntries js).map fun p => (p.1, ofJson p.2))) := by
      rw [ofJson, Json.entriesOfJson_eq, textEntries, List.map_map]
      rfl
    rw [hmap] at hplain ⊢
    refine alike_map hentries ?_ (fun k => ?_) hplain
    · rw [keys, List.map_map]
      exact Json.nodup_keys_of_ascending (Json.ascending_sortEntries js)
    · rw [Dictionary.get?_map fun _ => ofJson, Json.get?_sortEntries k (hkeys ▸ hentries)]
      -- the value that is kept has its entries in another order, which no look-up tells
      have hrel := rel_get? (R := fun d j => Alike d (ofJson j)) hparts k
      simpa using rel_map hrel (f := id) (g := ofJson) fun _ _ ha => ha

/-- **A plain value of an element read from a value without repeated keys is plain on its own.** -/
theorem isPlain_of_datum {d : Datum} {lv : Nat} (hd : d.OfText lv) (hr : d.NoRepeats) :
    (∀ e, (Reading.ofDatum d).element = some e → ∀ j ∈ e.values, j.IsPlain) ∧
      ∀ c, (Reading.ofDatum d).content = some c → ∀ j ∈ contentValues c, j.IsPlain := by
  refine values_of_parts (S := fun d => (∃ lv, d.OfText lv) ∧ d.NoRepeats)
    (fun d p ⟨⟨lv, hd⟩, hr⟩ hp => ⟨⟨lv - 1, (hd.parts hp).2⟩, hr.parts hp⟩)
    (fun d j ⟨⟨lv, hd⟩, hr⟩ hc => ?_) d ⟨⟨lv, hd⟩, hr⟩
  have hj : d.toJson? = some j := from_of_content hc
  exact (alike_ofJson d hd hr hj).content.symm.trans hc

end Blueprint.Ast
