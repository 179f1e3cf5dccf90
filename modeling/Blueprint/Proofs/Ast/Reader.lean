import Blueprint.Proofs.Ast.Alike
import Blueprint.Proofs.Source.Record

/-!
# Elements of a text

* **`reader_node`**: a printed element that holds plain values only is read back.
* **`isPlain_of_reader`**, **`sound_of_reader`**: what is known of an element read from a text.
-/

namespace Blueprint.Ast

open Datum (ofJson)
open Json (Sound node)
open Source

variable {α σ : Type} {fr : Frame}

/-! ## Reading what was printed -/

theorem optional_node {r : Reader α} {j : Json} {a : α} (hne : j ≠ .null)
    (h : r fr (node j) = .ok a) : Source.optional r fr (node j) = .ok (some a) := by
  have hsome : (do return some (← r fr (node j)) : Except Fault (Option α)) = .ok (some a) := by
    rw [h]
    rfl
  cases j with
  | null => exact absurd rfl hne
  | _ => exact hsome

theorem formed_node {form : Datum → Option α} {j : Json} {a : α} (hs : Sound fr.levels j)
    (h : form (ofJson j) = some a) : formed form fr (node j) = .ok a := by
  rw [formed, Json.datum_node fr j hs, Fault.ok_bind, h]
  rfl

theorem restore_field {r acc : σ} {f : Source.Field σ} {fields : List (Source.Field σ)} (j : Json)
    (acc' : σ) (hw : f.write r = some j) (hread : f.read fr (node j) acc = .ok acc') :
    restore fr r (f :: fields) acc = restore fr r fields acc' := by
  rw [restore, hw]
  simp only [hread, Fault.ok_bind]

/-- A field that is left out when it has no value. -/
theorem restore_option {r acc : σ} {f : Source.Field σ} {fields : List (Source.Field σ)}
    (x : Option α) (toJson : α → Json) (acc' : σ) (hw : f.write r = x.map toJson)
    (hnone : x = none → acc = acc')
    (hsome : ∀ a, x = some a → f.read fr (node (toJson a)) acc = .ok acc') :
    restore fr r (f :: fields) acc = restore fr r fields acc' := by
  rw [restore, hw]
  cases x with
  | none => rw [hnone rfl]; rfl
  | some a => simp only [Option.map_some, hsome a rfl, Fault.ok_bind]

theorem meta_node (fr : Frame) (hlv : 0 < fr.levels) (m : Meta) :
    record {} Meta.fields fr (node (write Meta.fields m)) = .ok m := by
  refine record_node_write (by simp [Meta.fields]) (by simp [Meta.fields]) hlv ?_
  obtain ⟨id, description⟩ := m
  rw [Meta.fields, restore_option id .string { id := id } rfl,
    restore_option description .string ⟨id, description⟩ rfl]
  · rfl
  · rintro rfl; rfl
  · rintro s rfl; rfl
  · rintro rfl; rfl
  · rintro s rfl; rfl

theorem toJson_ne_null (l : Label) : l.toJson ≠ .null := by
  cases l <;> exact nofun

theorem Element.toJson_eq_write (e : Element) : e.toJson = write Element.fields e :=
  (Element.toJson_eq e).trans (write_eq Element.fields e).symm

/-- **A printed element that holds plain values only is read back.** -/
theorem reader_node {e : Element} (hs : Sound fr.levels e.toJson) (h : ∀ j ∈ e.values, j.IsPlain) :
    Element.reader fr (node e.toJson) = .ok e := by
  rw [Element.toJson_eq_write] at hs ⊢
  obtain ⟨hlv, hparts⟩ := sound_of_write hs
  refine record_node_write (by simp [Element.fields, field]) (by simp [Element.fields, field])
    hlv ?_
  simp only [Element.fields, List.forall_mem_cons] at hparts
  obtain ⟨-, hname, hinfo, -, hcontent, -⟩ := hparts
  obtain ⟨kind, name, m, description, content⟩ := e
  have hc := content_toJson content h
  -- field by field, each put into what the fields before have restored
  rw [Element.fields, restore_field (.string kind) ⟨kind, none, none, none, .absent⟩ rfl rfl,
    restore_option name Label.toJson ⟨kind, name, none, none, .absent⟩ rfl,
    restore_option m (write Meta.fields) ⟨kind, name, m, none, .absent⟩ rfl,
    restore_option description .string ⟨kind, name, m, description, .absent⟩ rfl,
    restore_option (contentToJson? content) id ⟨kind, name, m, description, content⟩ (by simp)]
  · rfl
  · intro hnone
    rw [contentToJson?_eq_none hnone]
  · intro j hj
    have hne : j ≠ .null := by
      rintro rfl
      obtain rfl := Option.some.inj (hc .null hj)
      exact nomatch hj
    have hread : Source.optional (formed Content.ofDatum?) fr.inner (node j) = .ok (some content) :=
      optional_node hne (formed_node (hcontent j hj) (hc j hj))
    simp only [id, hread, Fault.ok_bind]
    rfl
  · rintro rfl; rfl
  · rintro s rfl; rfl
  · rintro rfl; rfl
  · rintro i rfl
    have hne : write Meta.fields i ≠ .null := nofun
    have hread := optional_node hne (meta_node fr.inner (hinfo _ rfl).1 i)
    simp only [hread, Fault.ok_bind]
    rfl
  · rintro rfl; rfl
  · rintro l rfl
    have hform : Label.ofDatum? (ofJson l.toJson) = some l := of_nullable (nullable_label l)
    have hread : Source.optional (formed Label.ofDatum?) fr.inner (node l.toJson) = .ok (some l) :=
      optional_node (toJson_ne_null l) (formed_node (hname _ rfl) hform)
    simp only [hread, Fault.ok_bind]
    rfl

/-! ## What was read -/

variable {S : Node → Prop} {I : σ → Prop}

theorem keeps_of_read {f : Source.Field σ} (r : Reader α) (set : α → σ → σ)
    (hf : f.read = fun fr n acc => do return set (← r fr n) acc)
    (h : ∀ n a acc, S n → r fr n = .ok a → I acc → I (set a acc)) : f.Keeps S I fr := by
  intro n acc acc' hn hacc hread
  rw [hf] at hread
  obtain ⟨a, ha, hread⟩ := Fault.exists_of_bind_eq_ok hread
  obtain rfl := Except.ok.inj hread
  exact h n a acc hn ha hacc

theorem exists_of_formed {form : Datum → Option α} {n : Node} {a : α}
    (h : formed form fr n = .ok a) : ∃ d, datum fr n = .ok d ∧ form d = some a := by
  rw [formed] at h
  obtain ⟨d, hd, h⟩ := Fault.exists_of_bind_eq_ok h
  split at h
  · rename_i b hb
    obtain rfl := Except.ok.inj h
    exact ⟨d, hd, hb⟩
  · exact nomatch h

theorem hereditary_ofText : Hereditary Node.OfText where
  scalar h := by
    cases h with
    | scalar hs => cases hs <;> rfl
  list h := by cases h with | list hi => exact hi
  record h := by cases h with | record _ hv => exact hv

theorem hereditary_noRepeats : Hereditary fun n => n.OfText ∧ n.NoRepeats where
  scalar h := hereditary_ofText.scalar h.1
  list h n hn := by
    cases h.2 with
    | list hi => exact ⟨hereditary_ofText.list h.1 n hn, hi n hn⟩
  record h p hp := by
    cases h.2 with
    | record _ hv => exact ⟨hereditary_ofText.record h.1 p hp, hv p hp⟩

theorem contentValues_content (e : Element) : contentValues e.content = e.values := by
  cases e
  rfl

theorem isPlain_of_reader {n : Node} {e : Element} (hn : n.OfText) (hr : n.NoRepeats)
    (h : Element.reader fr n = .ok e) : ∀ j ∈ e.values, j.IsPlain := by
  rw [← contentValues_content]
  have hrecord := record_induction (I := fun e => ∀ j ∈ contentValues e.content, j.IsPlain)
    hereditary_noRepeats ⟨hn, hr⟩ (fun _ hj => (List.not_mem_nil hj).elim) ?_ h
  · exact hrecord.2
  simp only [Element.fields, List.forall_mem_cons]
  refine ⟨keeps_of_read text (fun s e => { e with kind := s }) rfl fun _ _ _ _ _ h => h,
    keeps_of_read (Source.optional (formed Label.ofDatum?)) (fun l e => { e with name := l }) rfl
      fun _ _ _ _ _ h => h,
    keeps_of_read (Source.optional (record {} Meta.fields)) (fun m e => { e with «meta» := m }) rfl
      fun _ _ _ _ _ h => h,
    keeps_of_read (Source.optional text) (fun s e => { e with description := s }) rfl
      fun _ _ _ _ _ h => h,
    keeps_of_read (Source.optional (formed Content.ofDatum?))
      (fun c e => { e with content := c.getD .absent }) rfl fun n c e hn hc _ => ?_, nofun⟩
  cases c with
  | none => exact fun _ hj => (List.not_mem_nil hj).elim
  | some c =>
    obtain ⟨d, hd, hdc⟩ := exists_of_formed (of_optional hc)
    exact (isPlain_of_datum (ofText_datum hn.1 hd) (noRepeats_datum hn.1 hn.2 hd)).2 c hdc

/-- What is read of the parts of an element lies within some levels. -/
structure PartsSound (lv : Nat) (e : Element) : Prop where
  name : ∀ l, e.name = some l → Sound lv l.toJson
  info : ∀ m, e.meta = some m → Sound lv (write Meta.fields m)
  content : (∀ j ∈ contentValues e.content, j.FloatFree) →
    ∀ j, contentToJson? e.content = some j → Sound lv j

/-- **An element without doubles is printed within the levels of the place where it was read.** -/
theorem sound_of_reader {n : Node} {e : Element} (hn : n.OfText) (h : Element.reader fr n = .ok e)
    (hf : ∀ j ∈ e.values, j.FloatFree) : Sound fr.levels e.toJson := by
  have hrecord := record_induction (I := PartsSound fr.inner.levels) hereditary_ofText hn ?_ ?_ h
  · obtain ⟨hlv, hname, hinfo, hcontent⟩ := hrecord
    exact sound_element hlv hname hinfo (hcontent (contentValues_content e ▸ hf))
  · exact ⟨nofun, nofun, fun _ _ hj => nomatch hj⟩
  -- each field keeps what is said of the others
  simp only [Element.fields, List.forall_mem_cons]
  refine ⟨keeps_of_read text (fun s e => { e with kind := s }) rfl
      fun _ _ _ _ _ h => ⟨h.1, h.2, h.3⟩,
    keeps_of_read (Source.optional (formed Label.ofDatum?)) (fun l e => { e with name := l }) rfl
      fun n l e hn hl h => ⟨?_, h.2, h.3⟩,
    keeps_of_read (Source.optional (record {} Meta.fields)) (fun m e => { e with «meta» := m }) rfl
      fun n m e hn hm h => ⟨h.1, ?_, h.3⟩,
    keeps_of_read (Source.optional text) (fun s e => { e with description := s }) rfl
      fun _ _ _ _ _ h => ⟨h.1, h.2, h.3⟩,
    keeps_of_read (Source.optional (formed Content.ofDatum?))
      (fun c e => { e with content := c.getD .absent }) rfl fun n c e hn hc h => ⟨h.1, h.2, ?_⟩,
    List.forall_mem_nil _⟩
  · rintro l rfl
    obtain ⟨d, hd, hdl⟩ := exists_of_formed (of_optional hl)
    exact sound_label (ofText_datum hn hd) hdl
  · rintro m rfl
    have hlv := record_induction (I := fun _ => True) hereditary_ofText hn trivial
      (fun _ _ _ _ _ _ _ _ => trivial) (of_optional hm)
    exact sound_meta hlv.1 m
  · cases c with
    | none => exact fun _ _ hj => nomatch hj
    | some c =>
      obtain ⟨d, hd, hdc⟩ := exists_of_formed (of_optional hc)
      exact (sound_of_datum d (ofText_datum hn hd)).2 c hdc

end Blueprint.Ast
