import Blueprint.Proofs.Ast.Printed

/-!
# Elements and the parts of a value

* `Element.From`, `Content.From`: what an element or a content takes from the parts of the value
  that it stands for; **`from_of_element`**, **`from_of_content`**: nothing else is read.
* `values_of_parts`: a property of plain values that holds where they stand holds of those below.
* **`sound_of_datum`**: an element is printed within the levels of the text that it is read from.
-/

namespace Blueprint.Ast

open Datum (textEntries ofJson)
open Dictionary (keys get?)
open Json (Sound)
open Source (write)

/-! ## Fields that were read -/

section Fields

variable {α β : Type} {s : Slots α} {i : Nat} {b : β}

theorem exists_of_required {read : α → Option β} (h : s.required i read = some b) :
    ∃ a, s.get i = some a ∧ read a = some b :=
  Option.bind_eq_some_iff.mp h

theorem exists_of_optional {read : α → Option (Option β)} (h : s.optional i read = some (some b)) :
    ∃ a, s.get i = some a ∧ read a = some (some b) := by
  rw [Slots.optional] at h
  split at h
  · rename_i a ha
    exact ⟨a, ha, h⟩
  · split at h <;> cases h

theorem exists_of_defaulted {read : α → Option (Option β)}
    (h : s.defaulted i none read = some (some b)) :
    ∃ a, s.get i = some a ∧ read a = some (some b) := by
  rw [Slots.defaulted] at h
  split at h
  · rename_i a ha
    exact ⟨a, ha, h⟩
  · cases h

theorem of_nullable {read : Datum → Option β} {d : Datum} (h : nullable read d = some (some b)) :
    read d = some b := by
  rw [nullable.eq_def] at h
  split at h
  · cases h
  · obtain ⟨c, hc, hcb⟩ := Option.map_eq_some_iff.mp h
    exact Option.some.inj hcb ▸ hc

theorem of_elementOrNull {r : Reading} {e : Element} (h : elementOrNull r = some (some e)) :
    r.element = some e := by
  rw [elementOrNull] at h
  split at h
  · cases h
  · obtain ⟨c, hc, hce⟩ := Option.map_eq_some_iff.mp h
    exact Option.some.inj hce ▸ hc

end Fields

/-! ## Parts -/

/-- The label, the metadata and the content of an element are read from some of the values `ds`. -/
structure Element.From (ds : List Datum) (e : Element) : Prop where
  kind : ∃ d, d ∈ ds
  name : ∀ l, e.name = some l → ∃ d ∈ ds, Label.ofDatum? d = some l
  info : ∀ m, e.meta = some m → ∃ d ∈ ds, Meta.ofDatum? d = some m
  content : e.content = .absent ∨ ∃ d ∈ ds, (Reading.ofDatum d).content = some e.content

/-- What a content takes from the value that it stands for. -/
def Content.From (d : Datum) : Content Element → Prop
  | .absent => True
  | .elements items => (∃ ds, d = .list ds) ∧
      ∀ e ∈ items, ∃ p ∈ d.parts, (Reading.ofDatum p).element = some e
  | .member key other => (∃ p ∈ d.parts, (Reading.ofDatum p).element = some key) ∧
      ∀ e, other = some e → ∃ p ∈ d.parts, (Reading.ofDatum p).element = some e
  | .value json => d.toJson? = some json

theorem from_of_elementOfSlots {s : Slots Reading} {e : Element} {ds : List Datum}
    (hs : ∀ i r, s.get i = some r → ∃ d ∈ ds, Reading.ofDatum d = r)
    (h : elementOfSlots s = some e) :
    e.From ds := by
  rw [elementOfSlots] at h
  simp only [Option.bind_eq_bind, Option.bind_eq_some_iff, Option.pure_def, Option.some.injEq] at h
  obtain ⟨kind, hkind, name, hname, m, hm, desc, -, content, hcontent, rfl⟩ := h
  refine ⟨?_, fun l hl => ?_, fun m' hm' => ?_, ?_⟩
  · obtain ⟨r, hr, -⟩ := exists_of_required hkind
    obtain ⟨d, hd, -⟩ := hs 0 r hr
    exact ⟨d, hd⟩
  · obtain rfl : name = some l := hl
    obtain ⟨r, hr, hread⟩ := exists_of_optional hname
    obtain ⟨d, hd, rfl⟩ := hs 1 r hr
    rw [ofDatum_datum] at hread
    exact ⟨d, hd, of_nullable hread⟩
  · obtain rfl : m = some m' := hm'
    obtain ⟨r, hr, hread⟩ := exists_of_optional hm
    obtain ⟨d, hd, rfl⟩ := hs 2 r hr
    rw [ofDatum_datum] at hread
    exact ⟨d, hd, of_nullable hread⟩
  · cases content with
    | none => exact .inl rfl
    | some c =>
      obtain ⟨r, hr, hread⟩ := exists_of_optional hcontent
      obtain ⟨d, hd, rfl⟩ := hs 4 r hr
      obtain ⟨c', hc', hcc⟩ := Option.map_eq_some_iff.mp hread
      exact .inr ⟨d, hd, hc'.trans (congrArg some (Option.some.inj hcc))⟩

theorem part_of_ofItems {items : List Datum} {names : List String} {s : Slots Reading}
    (h : Slots.ofItems names (Reading.ofItems items) = some s) (i : Nat) (r : Reading)
    (hr : s.get i = some r) : ∃ d ∈ (Datum.list items).parts, Reading.ofDatum d = r := by
  have hmem := Slots.mem_of_ofItems h hr
  rw [ofItems_eq] at hmem
  exact List.mem_map.mp hmem

theorem part_of_ofEntries {entries : List (Datum.Key × Datum)} {names : List String}
    {s : Slots Reading} (h : Slots.ofEntries names (Reading.ofEntries entries) = some s) (i : Nat)
    (r : Reading) (hr : s.get i = some r) :
    ∃ d ∈ (Datum.map entries).parts, Reading.ofDatum d = r := by
  have hmem := Slots.mem_of_ofEntries h hr
  rw [ofEntries_eq, List.map_map] at hmem
  obtain ⟨p, hp, rfl⟩ := List.mem_map.mp hmem
  exact ⟨p.2, List.mem_map_of_mem hp, rfl⟩

/-- **An element is read from the parts of its value.** -/
theorem from_of_element {d : Datum} {e : Element} (h : (Reading.ofDatum d).element = some e) :
    e.From d.parts := by
  cases d with
  | list items =>
    obtain ⟨s, hs, he⟩ := Option.bind_eq_some_iff.mp h
    exact from_of_elementOfSlots (part_of_ofItems hs) he
  | map entries =>
    obtain ⟨s, hs, he⟩ := Option.bind_eq_some_iff.mp h
    exact from_of_elementOfSlots (part_of_ofEntries hs) he
  | _ => exact nomatch h

theorem from_of_plainContent {d : Datum} {c : Content Element} (h : plainContent d = some c) :
    c.From d := by
  obtain ⟨j, hj, rfl⟩ := Option.map_eq_some_iff.mp h
  exact hj

theorem from_of_memberOrPlain {d : Datum} {c : Content Element} {s : Option (Slots Reading)}
    (hs : ∀ t, s = some t → ∀ i r, t.get i = some r → ∃ p ∈ d.parts, Reading.ofDatum p = r)
    (h : memberOrPlain d s = some c) : c.From d := by
  rw [memberOrPlain] at h
  split at h
  · rename_i c' hc
    obtain rfl := Option.some.inj h
    obtain ⟨t, ht, hm⟩ := Option.bind_eq_some_iff.mp hc
    rw [memberOfSlots] at hm
    simp only [Option.bind_eq_bind, Option.bind_eq_some_iff, Option.pure_def,
      Option.some.injEq] at hm
    obtain ⟨key, hkey, value, hvalue, rfl⟩ := hm
    refine ⟨?_, fun e he => ?_⟩
    · obtain ⟨r, hr, hread⟩ := exists_of_required hkey
      obtain ⟨p, hp, rfl⟩ := hs t ht 0 r hr
      exact ⟨p, hp, hread⟩
    · subst he
      obtain ⟨r, hr, hread⟩ := exists_of_defaulted hvalue
      obtain ⟨p, hp, rfl⟩ := hs t ht 1 r hr
      exact ⟨p, hp, of_elementOrNull hread⟩
  · exact from_of_plainContent h

theorem from_of_content {d : Datum} {c : Content Element}
    (h : (Reading.ofDatum d).content = some c) : c.From d := by
  cases d with
  | null => obtain rfl := Option.some.inj h; trivial
  | list items =>
    cases hes : (Reading.ofItems items).mapM Reading.element with
    | none =>
      rw [content_of_not_elements hes] at h
      exact from_of_memberOrPlain (fun t ht => part_of_ofItems ht) h
    | some es =>
      obtain rfl := Option.some.inj ((content_of_elements hes).symm.trans h)
      refine ⟨⟨items, rfl⟩, fun e he => ?_⟩
      rw [ofItems_eq, mapM_eq_some, List.forall₂_map_left_iff] at hes
      exact Datum.exists_of_mem_right hes he
  | map entries => exact from_of_memberOrPlain (fun t ht => part_of_ofEntries ht) h
  | bool b => exact from_of_plainContent h
  | number n => exact from_of_plainContent h
  | text s => exact from_of_plainContent h

/-! ## Plain values below -/

/-- **A property of plain values that holds where they stand holds of those below.** -/
theorem values_of_parts {P : Json → Prop} {S : Datum → Prop}
    (hS : ∀ d p, S d → p ∈ d.parts → S p)
    (hP : ∀ d j, S d → (Reading.ofDatum d).content = some (.value j) → P j) (d : Datum) : S d →
      (∀ e, (Reading.ofDatum d).element = some e → ∀ j ∈ e.values, P j) ∧
        ∀ c, (Reading.ofDatum d).content = some c → ∀ j ∈ contentValues c, P j := by
  -- an element and a content are read from the parts of a value
  induction d using Datum.induction_parts with
  | step d ih =>
  intro hd
  have hparts : ∀ p ∈ d.parts, ∀ e, (Reading.ofDatum p).element = some e → ∀ j ∈ e.values, P j :=
    fun p hp => (ih p hp (hS d p hd hp)).1
  refine ⟨fun e he j hj => ?_, fun c hc j hj => ?_⟩
  · obtain ⟨kind, name, m, desc, content⟩ := e
    rcases (from_of_element he).content with habsent | ⟨p, hp, hcontent⟩
    · obtain rfl : content = .absent := habsent
      exact nomatch hj
    · exact (ih p hp (hS d p hd hp)).2 content hcontent j hj
  · have hfrom := from_of_content hc
    cases c with
    | absent => exact nomatch hj
    | elements items =>
      rw [contentValues, elementsValues_eq] at hj
      obtain ⟨e, he, hje⟩ := List.mem_flatMap.mp hj
      obtain ⟨p, hp, hpe⟩ := hfrom.2 e he
      exact hparts p hp e hpe j hje
    | member key value =>
      obtain ⟨⟨p, hp, hkey⟩, hvalue⟩ := hfrom
      cases value with
      | none => exact hparts p hp key hkey j hj
      | some v =>
        obtain ⟨q, hq, hv⟩ := hvalue v rfl
        rcases List.mem_append.mp hj with hj | hj
        · exact hparts p hp key hkey j hj
        · exact hparts q hq v hv j hj
    -- only here a value is one of `d` itself; above it is one of a part
    | value json =>
      obtain rfl := List.mem_singleton.mp hj
      exact hP d _ hd hc

/-! ## Nesting -/

theorem sound_objectOf {lv : Nat} {entries : List (String × Option Json)}
    (hk : (keys entries).Nodup) (hlv : 0 < lv)
    (h : ∀ p ∈ entries, ∀ j, p.2 = some j → Sound (lv - 1) j) :
    Sound lv (objectOf entries) := by
  refine ⟨hlv, hk.sublist (keys_present_sublist entries), Json.soundEntries_iff.mpr fun q hq => ?_⟩
  obtain ⟨p, hp, hpq⟩ := List.mem_filterMap.mp hq
  obtain ⟨j, hj, rfl⟩ := Option.map_eq_some_iff.mp hpq
  exact h p hp j hj

theorem sound_write {σ : Type} {lv : Nat} {fields : List (Source.Field σ)} {r : σ}
    (hk : (fields.map (·.key)).Nodup) (hlv : 0 < lv)
    (h : ∀ f ∈ fields, ∀ j, f.write r = some j → Sound (lv - 1) j) : Sound lv (write fields r) := by
  rw [write_eq]
  refine sound_objectOf (by rw [keys, List.map_map]; exact hk) hlv fun p hp j hj => ?_
  obtain ⟨f, hf, rfl⟩ := List.mem_map.mp hp
  exact h f hf j hj

theorem sound_of_write {σ : Type} {lv : Nat} {fields : List (Source.Field σ)} {r : σ}
    (h : Sound lv (write fields r)) :
    0 < lv ∧ ∀ f ∈ fields, ∀ j, f.write r = some j → Sound (lv - 1) j := by
  refine ⟨h.1, fun f hf j hj => ?_⟩
  have hmem : (f.key, j) ∈ fields.filterMap fun f => (f.write r).map (f.key, ·) :=
    List.mem_filterMap.mpr ⟨f, hf, by rw [hj]; rfl⟩
  exact Json.soundEntries_iff.mp h.2.2 _ hmem

theorem sound_string {lv : Nat} {x : Option String} {j : Json} (h : x.map Json.string = some j) :
    Sound lv j := by
  obtain ⟨s, -, rfl⟩ := Option.map_eq_some_iff.mp h
  trivial

theorem sound_meta {lv : Nat} (hlv : 0 < lv) (m : Meta) : Sound lv (write Meta.fields m) := by
  refine sound_write (by simp [Meta.fields]) hlv fun f hf j hj => ?_
  simp only [Meta.fields, List.mem_cons, List.not_mem_nil, or_false] at hf
  rcases hf with rfl | rfl <;> exact sound_string hj

theorem sound_meta_of_datum {lv : Nat} {d : Datum} {m : Meta} (hd : d.OfText lv)
    (h : Meta.ofDatum? d = some m) : Sound lv (write Meta.fields m) := by
  cases hd with
  | list _ => exact sound_meta (Nat.succ_pos _) m
  | map _ _ => exact sound_meta (Nat.succ_pos _) m
  | _ => exact nomatch h

theorem sound_label {lv : Nat} {d : Datum} {l : Label} (hd : d.OfText lv)
    (h : Label.ofDatum? d = some l) : Sound lv l.toJson := by
  cases l with
  | literal s => trivial
  | symbol s v =>
    cases hd with
    | map _ _ => exact ⟨Nat.succ_pos _, by simp, trivial, trivial, trivial⟩
    | _ => exact nomatch h

/-- An element lies within some levels if its label, its metadata and its content do. -/
theorem sound_element {lv : Nat} {e : Element} (hlv : 0 < lv)
    (hname : ∀ l, e.name = some l → Sound (lv - 1) l.toJson)
    (hinfo : ∀ m, e.meta = some m → Sound (lv - 1) (write Meta.fields m))
    (hcontent : ∀ j, contentToJson? e.content = some j → Sound (lv - 1) j) : Sound lv e.toJson := by
  rw [Element.toJson_eq]
  refine sound_objectOf e.nodup_entries hlv fun p hp j hj => ?_
  simp only [Element.entries, List.mem_cons, List.not_mem_nil, or_false] at hp
  rcases hp with rfl | rfl | rfl | rfl | rfl
  · obtain rfl := Option.some.inj hj
    trivial
  · obtain ⟨l, hl, rfl⟩ := Option.map_eq_some_iff.mp hj
    exact hname l hl
  · obtain ⟨m, hm, rfl⟩ := Option.map_eq_some_iff.mp hj
    exact hinfo m hm
  · exact sound_string hj
  · exact hcontent j hj

/-- **An element without doubles is printed within the levels of the text that it is read from.** -/
theorem sound_of_datum (d : Datum) : ∀ {lv : Nat}, d.OfText lv →
    (∀ e, (Reading.ofDatum d).element = some e → (∀ j ∈ e.values, j.FloatFree) →
        Sound lv e.toJson) ∧
      ∀ c, (Reading.ofDatum d).content = some c → (∀ j ∈ contentValues c, j.FloatFree) →
        ∀ j, contentToJson? c = some j → Sound lv j := by
  induction d using Datum.induction_parts with
  | step d ih =>
  intro lv hd
  -- the parts of a value lie one level further in
  have hparts : ∀ p ∈ d.parts, ∀ e, (Reading.ofDatum p).element = some e →
      (∀ j ∈ e.values, j.FloatFree) → Sound (lv - 1) e.toJson :=
    fun p hp => (ih p hp (hd.parts hp).2).1
  refine ⟨fun e he hf => ?_, fun c hc hf j hj => ?_⟩
  · have hfrom := from_of_element he
    obtain ⟨p, hp⟩ := hfrom.kind
    refine sound_element (hd.parts hp).1 (fun l hl => ?_) (fun m hm => ?_) fun j hj => ?_
    · obtain ⟨p, hp, hpl⟩ := hfrom.name l hl
      exact sound_label (hd.parts hp).2 hpl
    · obtain ⟨p, hp, hpm⟩ := hfrom.info m hm
      exact sound_meta_of_datum (hd.parts hp).2 hpm
    · rcases hfrom.content with habsent | ⟨p, hp, hcontent⟩
      · rw [habsent] at hj
        cases hj
      · have hvalues : contentValues e.content = e.values := by cases e; rfl
        exact (ih p hp (hd.parts hp).2).2 e.content hcontent (hvalues ▸ hf) j hj
  · have hfrom := from_of_content hc
    cases c with
    | absent => cases hj
    | elements items =>
      obtain ⟨⟨ds, rfl⟩, hitems⟩ := hfrom
      obtain rfl := Option.some.inj hj
      rw [contentValues, elementsValues_eq] at hf
      cases hd with
      | list _ =>
        refine ⟨Nat.succ_pos _, Json.soundItems_iff.mpr fun k hk => ?_⟩
        rw [elementsToJson_eq, List.mem_map] at hk
        obtain ⟨e, he, rfl⟩ := hk
        obtain ⟨p, hp, hpe⟩ := hitems e he
        exact hparts p hp e hpe fun j hj => hf j (List.mem_flatMap.mpr ⟨e, he, hj⟩)
    | member key value =>
      obtain ⟨⟨p, hp, hkey⟩, hvalue⟩ := hfrom
      obtain rfl := Option.some.inj ((contentToJson?_member key value).symm.trans hj)
      refine sound_objectOf (by simp [memberEntries]) (hd.parts hp).1 fun q hq k hk => ?_
      simp only [memberEntries, List.mem_cons, List.not_mem_nil, or_false] at hq
      rcases hq with rfl | rfl
      · obtain rfl := Option.some.inj hk
        refine hparts p hp key hkey fun i hi => hf i ?_
        cases value with
        | none => exact hi
        | some v => exact List.mem_append_left _ hi
      · obtain ⟨v, rfl, rfl⟩ := Option.map_eq_some_iff.mp hk
        obtain ⟨r, hr, hv⟩ := hvalue v rfl
        exact hparts r hr v hv fun j hj => hf j (List.mem_append_right _ hj)
    | value json =>
      obtain rfl := Option.some.inj hj
      exact Datum.sound_of_toJson? d hd hfrom (hf _ (List.mem_singleton_self _))

end Blueprint.Ast
