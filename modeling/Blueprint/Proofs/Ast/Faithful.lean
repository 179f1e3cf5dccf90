import Blueprint.Ast.Document
import Blueprint.Proofs.Ast.Reader

/-!
# Parts of a document

* `Document.trees`: the elements that stand on top of the element trees of a document, each with
  the levels of nesting left where it stands; likewise for every part of a document.
* `Faithful`: a reader and a printer of one type that fit each other.
* `faithful_element`, …, **`faithful_document`**: those of elements, of every part of a document and
  of documents do.
-/

namespace Blueprint.Ast

open Json (Sound node)
open Source

variable {α σ : Type}

/-! ## Element trees -/

/-- Elements with the levels left where they stand. -/
abbrev Trees := List (Nat × Element)

/-- The trees of the items of a list that is a field of a record with `lv` levels left. -/
def below (trees : Nat → α → Trees) (lv : Nat) (items : List α) : Trees :=
  items.flatMap (trees (lv - 2))

def Element.trees (lv : Nat) (e : Element) : Trees := [(lv, e)]

def Payload.trees (lv : Nat) (p : Payload) : Trees := below Element.trees lv p.content

def Example.trees (lv : Nat) (x : Example) : Trees :=
  below Payload.trees lv x.requests ++ below Payload.trees lv x.responses

def Action.trees (lv : Nat) (a : Action) : Trees :=
  below Element.trees lv a.content ++ below Example.trees lv a.examples

def Resource.trees (lv : Nat) (r : Resource) : Trees :=
  below Action.trees lv r.actions ++ below Element.trees lv r.content

def Group.trees (lv : Nat) (g : Group) : Trees := below Resource.trees lv g.resources

def Document.trees (lv : Nat) (d : Document) : Trees :=
  below Group.trees lv d.groups ++ below Element.trees lv d.content

/-- No element trees. -/
def noTrees (_ : Nat) (_ : α) : Trees := []

/-! ## Readers and printers -/

/-- A property of elements that were read from a node, given the levels left there. -/
def ReadProperty (S : Node → Prop) (Q : Nat → Element → Prop) : Prop :=
  Hereditary S ∧ ∀ fr n e, S n → Element.reader fr n = .ok e → Q fr.levels e

/-- A reader and a printer that fit each other, for a type with the given element trees that needs
`depth` levels besides. -/
structure Faithful (r : Reader α) (toJson : α → Json) (trees : Nat → α → Trees) (depth : Nat) :
    Prop where
  /-- What is printed lies within the levels if the elements do. -/
  prints : ∀ {lv a}, depth ≤ lv → (∀ t ∈ trees lv a, Sound t.1 t.2.toJson) → Sound lv (toJson a)
  /-- The elements of what is read are elements that were read. -/
  reads : ∀ {S Q fr n a}, ReadProperty S Q → S n → r fr n = .ok a →
    ∀ t ∈ trees fr.levels a, Q t.1 t.2
  /-- What is printed is read back if the elements hold plain values only. -/
  restores : ∀ {fr : Frame} {a}, Sound fr.levels (toJson a) →
    (∀ t ∈ trees fr.levels a, ∀ j ∈ t.2.values, j.IsPlain) → r fr (node (toJson a)) = .ok a

theorem faithful_element : Faithful Element.reader Element.toJson Element.trees 0 where
  prints _ h := h _ (List.mem_singleton_self _)
  reads hQ hn hr t ht := by
    obtain rfl := List.mem_singleton.mp ht
    exact hQ.2 _ _ _ hn hr
  restores hs h := reader_node hs (h _ (List.mem_singleton_self _))

section Lists

variable {r : Reader α} {toJson : α → Json} {trees : Nat → α → Trees} {depth : Nat}
  (h : Faithful r toJson trees depth)
include h

theorem Faithful.prints_array {lv : Nat} {items : List α} (hlv : depth + 2 ≤ lv)
    (ht : ∀ t ∈ below trees lv items, Sound t.1 t.2.toJson) :
    Sound (lv - 1) (.array (items.map toJson)) := by
  refine ⟨by omega, Json.soundItems_iff.mpr fun j hj => ?_⟩
  obtain ⟨a, ha, rfl⟩ := List.mem_map.mp hj
  exact h.prints (by omega) fun t hta => ht t (List.mem_flatMap.mpr ⟨a, ha, hta⟩)

theorem Faithful.reads_list {S : Node → Prop} {Q : Nat → Element → Prop} {fr : Frame} {n : Node}
    {items : List α} (hQ : ReadProperty S Q) (hn : S n) (hr : list r fr.inner n = .ok items) :
    ∀ t ∈ below trees fr.levels items, Q t.1 t.2 := by
  intro t ht
  obtain ⟨a, ha, hta⟩ := List.mem_flatMap.mp ht
  obtain ⟨m, hm, hma⟩ := exists_of_list hQ.1 hn hr a ha
  exact h.reads hQ hm hma t hta

theorem Faithful.restores_list {fr : Frame} {items : List α}
    (hs : Sound fr.inner.levels (.array (items.map toJson)))
    (ht : ∀ t ∈ below trees fr.levels items, ∀ j ∈ t.2.values, j.IsPlain) :
    list r fr.inner (node (.array (items.map toJson))) = .ok items := by
  refine list_node_map hs.1 fun a ha => h.restores ?_ fun t hta => ?_
  · exact Json.soundItems_iff.mp hs.2 _ (List.mem_map_of_mem ha)
  · exact ht t (List.mem_flatMap.mpr ⟨a, ha, hta⟩)

end Lists

/-! ## Fields -/

section Fields

variable {key : String} {lv : Nat} {s : σ}

/-- The value that a field is written with lies within some levels. -/
def Fits (lv : Nat) (s : σ) (f : Source.Field σ) : Prop := ∀ j, f.write s = some j → Sound lv j

theorem fits_textField {set : String → σ → σ} {get : σ → String} :
    Fits lv s (textField key set get) :=
  fun _ h => Option.some.inj h ▸ trivial

theorem fits_requiredText {set : String → σ → σ} {get : σ → String} :
    Fits lv s (requiredText key set get) :=
  fun _ h => Option.some.inj h ▸ trivial

variable {r : Reader α} {toJson : α → Json} {set : List α → σ → σ} {get : σ → List α}

theorem fits_listField (h : Sound lv (.array ((get s).map toJson))) :
    Fits lv s (listField key r toJson set get) :=
  fun _ hj => Option.some.inj hj ▸ h

theorem fits_sparseListField (h : Sound lv (.array ((get s).map toJson))) :
    Fits lv s (sparseListField key r toJson set get) := by
  intro j hj
  simp only [sparseListField] at hj
  split at hj
  · exact nomatch hj
  · exact Option.some.inj hj ▸ h

theorem contentField_eq {set : List Element → σ → σ} {get : σ → List Element} :
    contentField set get = listField "content" Element.reader Element.toJson set get := by
  simp only [contentField, listField, elementsToJson_eq]

variable {S : Node → Prop} {I : σ → Prop} {fr : Frame} {fields : List (Source.Field σ)} {acc : σ}

theorem keeps_textField {set : String → σ → σ} {get : σ → String}
    (h : ∀ t acc, I acc → I (set t acc)) : (textField key set get).Keeps S I fr :=
  keeps_of_read text set rfl fun _ t acc _ _ => h t acc

theorem keeps_listField
    (h : ∀ n items acc, S n → list r fr n = .ok items → I acc → I (set items acc)) :
    (listField key r toJson set get).Keeps S I fr :=
  keeps_of_read (list r) set rfl h

theorem keeps_sparseListField
    (h : ∀ n items acc, S n → list r fr n = .ok items → I acc → I (set items acc)) :
    (sparseListField key r toJson set get).Keeps S I fr :=
  keeps_of_read (list r) set rfl h

theorem restore_of_read {p : Presence} {r : Reader α} {set : α → σ → σ} {get : σ → Json} {a : α}
    (h : r fr (node (get s)) = .ok a) :
    restore fr s (field key p r set get :: fields) acc = restore fr s fields (set a acc) :=
  restore_field _ _ rfl (congrArg (· >>= fun a => pure (set a acc)) h)

theorem restore_textField {set : String → σ → σ} {get : σ → String} :
    restore fr s (textField key set get :: fields) acc = restore fr s fields (set (get s) acc) :=
  rfl

theorem restore_requiredText {set : String → σ → σ} {get : σ → String} :
    restore fr s (requiredText key set get :: fields) acc = restore fr s fields (set (get s) acc) :=
  rfl

theorem restore_listField (h : list r fr (node (.array ((get s).map toJson))) = .ok (get s)) :
    restore fr s (listField key r toJson set get :: fields) acc =
      restore fr s fields (set (get s) acc) :=
  restore_of_read h

theorem write_sparseListField : (sparseListField key r toJson set get).write s =
    if get s = [] then none else some (.array ((get s).map toJson)) := by
  simp only [sparseListField]
  cases get s <;> rfl

theorem restore_sparseListField (h0 : set [] acc = acc)
    (h : get s ≠ [] → list r fr (node (.array ((get s).map toJson))) = .ok (get s)) :
    restore fr s (sparseListField key r toJson set get :: fields) acc =
      restore fr s fields (set (get s) acc) := by
  by_cases hget : get s = []
  · rw [restore, write_sparseListField, if_pos hget, hget, h0]
  · exact restore_field _ _ (write_sparseListField.trans (if_neg hget))
      (congrArg (· >>= fun items => pure (set items acc)) (h hget))

end Fields

/-! ## Parts without elements -/

theorem faithful_metadata :
    Faithful (record {} Metadata.fields) (write Metadata.fields) noTrees 1 where
  prints hlv _ := sound_write (by decide) hlv <| by
    simp only [Metadata.fields, List.forall_mem_cons]
    exact ⟨fits_requiredText, fits_textField, List.forall_mem_nil _⟩
  reads _ _ _ := List.forall_mem_nil _
  restores hs _ := record_node_write (by decide)
    (by simp [Metadata.fields, requiredText, textField, field]) (sound_of_write hs).1 rfl

theorem faithful_choice : Faithful (record {} Choice.fields) (write Choice.fields) noTrees 1 where
  prints hlv _ := sound_write (by decide) hlv <| by
    simp only [Choice.fields, List.forall_mem_cons]
    exact ⟨fits_requiredText, List.forall_mem_nil _⟩
  reads _ _ _ := List.forall_mem_nil _
  restores hs _ := record_node_write (by decide)
    (by simp [Choice.fields, requiredText, field]) (sound_of_write hs).1 rfl

theorem faithful_header : Faithful (record {} Header.fields) (write Header.fields) noTrees 1 where
  prints hlv _ := sound_write (by decide) hlv <| by
    simp only [Header.fields, List.forall_mem_cons]
    exact ⟨fits_requiredText, fits_textField, List.forall_mem_nil _⟩
  reads _ _ _ := List.forall_mem_nil _
  restores hs _ := record_node_write (by decide)
    (by simp [Header.fields, requiredText, textField, field]) (sound_of_write hs).1 rfl

theorem faithful_attributes :
    Faithful (record {} Attributes.fields) (write Attributes.fields) noTrees 1 where
  prints hlv _ := sound_write (by decide) hlv <| by
    simp only [Attributes.fields, List.forall_mem_cons]
    exact ⟨fits_textField, fits_textField, List.forall_mem_nil _⟩
  reads _ _ _ := List.forall_mem_nil _
  restores hs _ := record_node_write (by decide)
    (by simp [Attributes.fields, textField, field]) (sound_of_write hs).1 rfl

theorem no_below {lv : Nat} {items : List α} {P : Nat × Element → Prop} :
    ∀ t ∈ below (noTrees : Nat → α → Trees) lv items, P t := by
  intro t ht
  obtain ⟨a, -, hta⟩ := List.mem_flatMap.mp ht
  cases hta

theorem faithful_parameter :
    Faithful (record {} Parameter.fields) (write Parameter.fields) noTrees 3 where
  prints hlv _ := sound_write (by decide) (by omega) <| by
    simp only [Parameter.fields, List.forall_mem_cons]
    exact ⟨fits_requiredText, fits_textField, fits_textField,
      fun _ h => Option.some.inj h ▸ trivial,
      fits_textField, fits_textField,
      fits_sparseListField (faithful_choice.prints_array hlv no_below),
      List.forall_mem_nil _⟩
  reads _ _ _ := List.forall_mem_nil _
  restores {fr p} hs _ := by
    obtain ⟨hlv, hparts⟩ := sound_of_write hs
    refine record_node_write (by decide) (by simp [Parameter.fields, requiredText, textField,
      sparseListField, listField, field]) hlv ?_
    simp only [Parameter.fields, List.forall_mem_cons] at hparts
    obtain ⟨-, -, -, -, -, -, hvalues, -⟩ := hparts
    have hflag : flag fr.inner (node (.bool p.required)) = .ok p.required := rfl
    rw [Parameter.fields, restore_requiredText, restore_textField, restore_textField,
      restore_of_read (s := p) hflag, restore_textField, restore_textField,
      restore_sparseListField rfl fun hne => ?_]
    · rfl
    · exact faithful_choice.restores_list (hvalues _ (write_sparseListField.trans (if_neg hne)))
        no_below

/-! ## Parts with elements -/

theorem faithful_payload :
    Faithful (record {} Payload.fields) (write Payload.fields) Payload.trees 3 where
  prints {lv p} hlv ht := sound_write (by decide) (by omega) <| by
    simp only [Payload.fields, contentField_eq, List.forall_mem_cons]
    exact ⟨fits_textField, fits_textField,
      fits_listField (faithful_header.prints_array hlv no_below),
      fits_textField, fits_textField, fits_listField (faithful_element.prints_array (by omega) ht),
      List.forall_mem_nil _⟩
  reads {S Q fr n p} hQ hn hr := by
    have hkeep := record_induction (I := fun p => ∀ t ∈ Payload.trees fr.levels p, Q t.1 t.2) hQ.1
      hn (fun _ ht => (List.not_mem_nil ht).elim) ?_ hr
    · exact hkeep.2
    simp only [Payload.fields, contentField_eq, List.forall_mem_cons]
    exact ⟨keeps_textField fun _ _ h => h, keeps_textField fun _ _ h => h,
      keeps_listField fun _ _ _ _ _ h => h, keeps_textField fun _ _ h => h,
      keeps_textField fun _ _ h => h,
      keeps_listField fun _ _ _ hn hr _ => faithful_element.reads_list hQ hn hr,
      List.forall_mem_nil _⟩
  restores {fr p} hs ht := by
    obtain ⟨hlv, hparts⟩ := sound_of_write hs
    refine record_node_write (by decide) (by simp [Payload.fields, textField, listField,
      contentField, field]) hlv ?_
    simp only [Payload.fields, contentField_eq, List.forall_mem_cons] at hparts
    obtain ⟨-, -, hheaders, -, -, hcontent, -⟩ := hparts
    rw [Payload.fields, contentField_eq, restore_textField, restore_textField,
      restore_listField (faithful_header.restores_list (hheaders _ rfl) no_below),
      restore_textField,
      restore_textField, restore_listField (faithful_element.restores_list (hcontent _ rfl) ht)]
    rfl

theorem faithful_example :
    Faithful (record {} Example.fields) (write Example.fields) Example.trees 5 where
  prints {lv x} hlv ht := sound_write (by decide) (by omega) <| by
    obtain ⟨hrequests, hresponses⟩ := List.forall_mem_append.mp ht
    simp only [Example.fields, List.forall_mem_cons]
    exact ⟨fits_textField, fits_textField,
      fits_listField (faithful_payload.prints_array hlv hrequests),
      fits_listField (faithful_payload.prints_array hlv hresponses), List.forall_mem_nil _⟩
  reads {S Q fr n x} hQ hn hr := by
    have hkeep := record_induction (I := fun x => ∀ t ∈ Example.trees fr.levels x, Q t.1 t.2) hQ.1
      hn (fun _ ht => (List.not_mem_nil ht).elim) ?_ hr
    · exact hkeep.2
    simp only [Example.fields, List.forall_mem_cons]
    exact ⟨keeps_textField fun _ _ h => h, keeps_textField fun _ _ h => h,
      keeps_listField fun _ _ _ hn hr h => List.forall_mem_append.mpr
        ⟨faithful_payload.reads_list hQ hn hr, (List.forall_mem_append.mp h).2⟩,
      keeps_listField fun _ _ _ hn hr h => List.forall_mem_append.mpr
        ⟨(List.forall_mem_append.mp h).1, faithful_payload.reads_list hQ hn hr⟩,
      List.forall_mem_nil _⟩
  restores {fr x} hs ht := by
    obtain ⟨hrequests, hresponses⟩ := List.forall_mem_append.mp ht
    obtain ⟨hlv, hparts⟩ := sound_of_write hs
    refine record_node_write (by decide) (by simp [Example.fields, textField, listField, field])
      hlv ?_
    simp only [Example.fields, List.forall_mem_cons] at hparts
    obtain ⟨-, -, hsrequests, hsresponses, -⟩ := hparts
    rw [Example.fields, restore_textField, restore_textField,
      restore_listField (faithful_payload.restores_list (hsrequests _ rfl) hrequests),
      restore_listField (faithful_payload.restores_list (hsresponses _ rfl) hresponses)]
    rfl

theorem faithful_action :
    Faithful (record {} Action.fields) (write Action.fields) Action.trees 7 where
  prints {lv a} hlv ht := sound_write (by decide) (by omega) <| by
    obtain ⟨hcontent, hexamples⟩ := List.forall_mem_append.mp ht
    simp only [Action.fields, contentField_eq, List.forall_mem_cons]
    refine ⟨fits_textField, fits_textField, fits_textField,
      fits_listField (faithful_parameter.prints_array (by omega) no_below), fun j hj => ?_,
      fits_listField (faithful_element.prints_array (by omega) hcontent),
      fits_listField (faithful_example.prints_array hlv hexamples), List.forall_mem_nil _⟩
    obtain rfl := Option.some.inj hj
    exact faithful_attributes.prints (by omega) (List.forall_mem_nil _)
  reads {S Q fr n a} hQ hn hr := by
    have hkeep := record_induction (I := fun a => ∀ t ∈ Action.trees fr.levels a, Q t.1 t.2) hQ.1
      hn (fun _ ht => (List.not_mem_nil ht).elim) ?_ hr
    · exact hkeep.2
    simp only [Action.fields, contentField_eq, List.forall_mem_cons]
    exact ⟨keeps_textField fun _ _ h => h, keeps_textField fun _ _ h => h,
      keeps_textField fun _ _ h => h,
      keeps_listField fun _ _ _ _ _ h => h,
      keeps_of_read (record {} Attributes.fields) (fun x a => { a with attributes := x }) rfl
        fun _ _ _ _ _ h => h,
      keeps_listField fun _ _ _ hn hr h => List.forall_mem_append.mpr
        ⟨faithful_element.reads_list hQ hn hr, (List.forall_mem_append.mp h).2⟩,
      keeps_listField fun _ _ _ hn hr h => List.forall_mem_append.mpr
        ⟨(List.forall_mem_append.mp h).1, faithful_example.reads_list hQ hn hr⟩,
      List.forall_mem_nil _⟩
  restores {fr a} hs ht := by
    obtain ⟨hcontent, hexamples⟩ := List.forall_mem_append.mp ht
    obtain ⟨hlv, hparts⟩ := sound_of_write hs
    refine record_node_write (by decide) (by simp [Action.fields, textField, listField,
      contentField, field]) hlv ?_
    simp only [Action.fields, contentField_eq, List.forall_mem_cons] at hparts
    obtain ⟨-, -, -, hsparameters, hsattributes, hscontent, hsexamples, -⟩ := hparts
    have hsattributes : Sound fr.inner.levels (write Attributes.fields a.attributes) :=
      hsattributes _ rfl
    have hattributes := faithful_attributes.restores hsattributes (List.forall_mem_nil _)
    rw [Action.fields, contentField_eq, restore_textField, restore_textField, restore_textField,
      restore_listField (faithful_parameter.restores_list (hsparameters _ rfl) no_below),
      restore_of_read (s := a) hattributes,
      restore_listField (faithful_element.restores_list (hscontent _ rfl) hcontent),
      restore_listField (faithful_example.restores_list (hsexamples _ rfl) hexamples)]
    rfl

theorem faithful_resource :
    Faithful (record {} Resource.fields) (write Resource.fields) Resource.trees 9 where
  prints {lv r} hlv ht := sound_write (by decide) (by omega) <| by
    obtain ⟨hactions, hcontent⟩ := List.forall_mem_append.mp ht
    simp only [Resource.fields, contentField_eq, List.forall_mem_cons]
    exact ⟨fits_textField, fits_textField, fits_textField,
      fits_listField (faithful_parameter.prints_array (by omega) no_below),
      fits_listField (faithful_action.prints_array hlv hactions),
      fits_listField (faithful_element.prints_array (by omega) hcontent), List.forall_mem_nil _⟩
  reads {S Q fr n r} hQ hn hr := by
    have hkeep := record_induction (I := fun r => ∀ t ∈ Resource.trees fr.levels r, Q t.1 t.2) hQ.1
      hn (fun _ ht => (List.not_mem_nil ht).elim) ?_ hr
    · exact hkeep.2
    simp only [Resource.fields, contentField_eq, List.forall_mem_cons]
    exact ⟨keeps_textField fun _ _ h => h, keeps_textField fun _ _ h => h,
      keeps_textField fun _ _ h => h,
      keeps_listField fun _ _ _ _ _ h => h,
      keeps_listField fun _ _ _ hn hr h => List.forall_mem_append.mpr
        ⟨faithful_action.reads_list hQ hn hr, (List.forall_mem_append.mp h).2⟩,
      keeps_listField fun _ _ _ hn hr h => List.forall_mem_append.mpr
        ⟨(List.forall_mem_append.mp h).1, faithful_element.reads_list hQ hn hr⟩,
      List.forall_mem_nil _⟩
  restores {fr r} hs ht := by
    obtain ⟨hactions, hcontent⟩ := List.forall_mem_append.mp ht
    obtain ⟨hlv, hparts⟩ := sound_of_write hs
    refine record_node_write (by decide) (by simp [Resource.fields, textField, listField,
      contentField, field]) hlv ?_
    simp only [Resource.fields, contentField_eq, List.forall_mem_cons] at hparts
    obtain ⟨-, -, -, hsparameters, hsactions, hscontent, -⟩ := hparts
    rw [Resource.fields, contentField_eq, restore_textField, restore_textField, restore_textField,
      restore_listField (faithful_parameter.restores_list (hsparameters _ rfl) no_below),
      restore_listField (faithful_action.restores_list (hsactions _ rfl) hactions),
      restore_listField (faithful_element.restores_list (hscontent _ rfl) hcontent)]
    rfl

theorem faithful_group : Faithful (record {} Group.fields) (write Group.fields) Group.trees 11 where
  prints {lv g} hlv ht := sound_write (by decide) (by omega) <| by
    simp only [Group.fields, List.forall_mem_cons]
    exact ⟨fits_textField, fits_textField, fits_listField (faithful_resource.prints_array hlv ht),
      List.forall_mem_nil _⟩
  reads {S Q fr n g} hQ hn hr := by
    have hkeep := record_induction (I := fun g => ∀ t ∈ Group.trees fr.levels g, Q t.1 t.2) hQ.1
      hn (fun _ ht => (List.not_mem_nil ht).elim) ?_ hr
    · exact hkeep.2
    simp only [Group.fields, List.forall_mem_cons]
    exact ⟨keeps_textField fun _ _ h => h, keeps_textField fun _ _ h => h,
      keeps_listField fun _ _ _ hn hr _ => faithful_resource.reads_list hQ hn hr,
      List.forall_mem_nil _⟩
  restores {fr g} hs ht := by
    obtain ⟨hlv, hparts⟩ := sound_of_write hs
    refine record_node_write (by decide) (by simp [Group.fields, textField, listField, field])
      hlv ?_
    simp only [Group.fields, List.forall_mem_cons] at hparts
    obtain ⟨-, -, hsresources, -⟩ := hparts
    rw [Group.fields, restore_textField, restore_textField,
      restore_listField (faithful_resource.restores_list (hsresources _ rfl) ht)]
    rfl

/-- **A printed document is read back if its elements hold plain values only.** -/
theorem faithful_document : Faithful Document.reader Document.toJson Document.trees 13 where
  prints {lv d} hlv ht := sound_write (by decide) (by omega) <| by
    obtain ⟨hgroups, hcontent⟩ := List.forall_mem_append.mp ht
    simp only [Document.fields, contentField_eq, List.forall_mem_cons]
    exact ⟨fun _ => sound_string, fits_textField, fits_textField,
      fits_sparseListField (faithful_metadata.prints_array (by omega) no_below),
      fits_listField (faithful_group.prints_array hlv hgroups),
      fits_listField (faithful_element.prints_array (by omega) hcontent), List.forall_mem_nil _⟩
  reads {S Q fr n d} hQ hn hr := by
    have hkeep := record_induction (I := fun d => ∀ t ∈ Document.trees fr.levels d, Q t.1 t.2) hQ.1
      hn (fun _ ht => (List.not_mem_nil ht).elim) ?_ hr
    · exact hkeep.2
    simp only [Document.fields, contentField_eq, List.forall_mem_cons]
    exact ⟨keeps_of_read (Source.optional text) (fun v d => { d with version := v }) rfl
        fun _ _ _ _ _ h => h,
      keeps_textField fun _ _ h => h, keeps_textField fun _ _ h => h,
      keeps_sparseListField fun _ _ _ _ _ h => h,
      keeps_listField fun _ _ _ hn hr h => List.forall_mem_append.mpr
        ⟨faithful_group.reads_list hQ hn hr, (List.forall_mem_append.mp h).2⟩,
      keeps_listField fun _ _ _ hn hr h => List.forall_mem_append.mpr
        ⟨(List.forall_mem_append.mp h).1, faithful_element.reads_list hQ hn hr⟩,
      List.forall_mem_nil _⟩
  restores {fr d} hs ht := by
    obtain ⟨hgroups, hcontent⟩ := List.forall_mem_append.mp ht
    obtain ⟨hlv, hparts⟩ := sound_of_write hs
    refine record_node_write (by decide) (by simp [Document.fields, textField, listField,
      sparseListField, contentField, field]) hlv ?_
    simp only [Document.fields, contentField_eq, List.forall_mem_cons] at hparts
    obtain ⟨-, -, -, hsmetadata, hsgroups, hscontent, -⟩ := hparts
    obtain ⟨version, name, description, metadata, groups, content⟩ := d
    rw [Document.fields, contentField_eq, restore_option version .string { version := version } rfl,
      restore_textField, restore_textField, restore_sparseListField rfl fun hne => ?_,
      restore_listField (faithful_group.restores_list (hsgroups _ rfl) hgroups),
      restore_listField (faithful_element.restores_list (hscontent _ rfl) hcontent)]
    · rfl
    · exact faithful_metadata.restores_list (hsmetadata _ (write_sparseListField.trans (if_neg hne)))
        no_below
    · rintro rfl; rfl
    · rintro s rfl; rfl

end Blueprint.Ast
