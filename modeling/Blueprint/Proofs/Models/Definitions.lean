import Blueprint.Api.Models
import Blueprint.Proofs.Dictionary
import Blueprint.Proofs.Noted

/-!
# The definitions among the elements of a document

* `Walk`: the walk over a document that stops at each data structure and takes its children;
  `walk_iff`: it ends in `candidatesOf`, and in nothing else.
* `kept?`: the entry of a candidate that has a name and is not left out.
* `collected`: the definitions of a document; **`value_definitions`**: they are the first entries
  of the candidates.
* `notes_definitions`: one error for each candidate without a name, and no other remark.
-/

namespace Blueprint.Api

open Ast

/-! ## The walk -/

/-- The candidates met on a walk over elements: the children of a data structure, and below any
other element those below its children. -/
inductive Walk : List Element → List Element → Prop
  | done : Walk [] []
  | take {e : Element} {rest found : List Element} :
      e.isDataStructure = true → Walk rest found → Walk (e :: rest) (e.children ++ found)
  | descend {e : Element} {rest inner found : List Element} :
      e.isDataStructure = false → Walk e.children inner → Walk rest found →
        Walk (e :: rest) (inner ++ found)

theorem candidates_eq (e : Element) :
    candidates e = if e.isDataStructure then e.children else candidatesOf e.children := by
  obtain ⟨kind, name, m, description, content⟩ := e
  cases content <;> simp [candidates, candidatesOf, Element.isDataStructure, Element.children]

mutual

theorem walk_children : ∀ e : Element, Walk e.children (candidatesOf e.children)
  | ⟨_, _, _, _, .elements items⟩ => walk_candidatesOf items
  | ⟨_, _, _, _, .absent⟩ => .done
  | ⟨_, _, _, _, .member _ _⟩ => .done
  | ⟨_, _, _, _, .value _⟩ => .done

theorem walk_candidatesOf : ∀ es : List Element, Walk es (candidatesOf es)
  | [] => .done
  | e :: rest => by
    rw [candidatesOf, candidates_eq]
    split
    · rename_i h
      exact .take h (walk_candidatesOf rest)
    · rename_i h
      exact .descend (by simpa using h) (walk_children e) (walk_candidatesOf rest)

end

/-- **A walk ends in the candidates**, and in nothing else. -/
theorem walk_iff {es found : List Element} : Walk es found ↔ found = candidatesOf es := by
  refine ⟨fun h => ?_, fun h => h ▸ walk_candidatesOf es⟩
  induction h with
  | done => rfl
  | take hs _ ih => rw [candidatesOf, candidates_eq, if_pos hs, ih]
  | descend hs _ _ ih₁ ih₂ => rw [candidatesOf, candidates_eq, if_neg (by simp [hs]), ih₁, ih₂]

/-! ## Candidates that become models -/

/-- The entry of a candidate that has a name and is not left out. -/
def kept? (o : Options) (e : Element) : Option (String × Element) :=
  (e.id.filter fun name => !isSkipped o name).map (·, e)

theorem kept?_of_none (o : Options) {e : Element} (h : e.id = none) : kept? o e = none := by
  rw [kept?, h]; rfl

theorem kept?_of_some (o : Options) {e : Element} {name : String} (h : e.id = some name) :
    kept? o e = if isSkipped o name then none else some (name, e) := by
  rw [kept?, h, Option.filter_some]
  cases isSkipped o name <;> rfl

theorem keys_entries (o : Options) (es : List Element) :
    Dictionary.keys (es.filterMap (kept? o)) =
      (es.filterMap Element.id).filter fun name => !isSkipped o name := by
  induction es with
  | nil => rfl
  | cons e rest ih =>
    rw [List.filterMap_cons, List.filterMap_cons]
    cases hid : e.id with
    | none => rw [kept?_of_none o hid, ih]
    | some name =>
      rw [kept?_of_some o hid, List.filter_cons]
      cases isSkipped o name <;> simp [ih]

theorem get?_entries (o : Options) (name : String) (es : List Element) :
    Dictionary.get? name (es.filterMap (kept? o)) =
      if isSkipped o name then none else es.find? fun e => e.id = some name := by
  induction es with
  | nil => simp
  | cons e rest ih =>
    rw [List.filterMap_cons, List.find?_cons]
    cases hid : e.id with
    | none => simp [kept?_of_none o hid, ih]
    | some other =>
      rw [kept?_of_some o hid]
      by_cases hn : other = name
      · subst hn
        cases h : isSkipped o other <;> simp [h, Dictionary.get?_cons, ih]
      · cases isSkipped o other <;> simp [Dictionary.get?_cons, hn, ih]

/-! ## Collecting -/

theorem value_addCandidate (o : Options) (ds : Definitions) (e : Element) :
    (addCandidate o ds e).value = ds.putAllNew (kept? o e).toList := by
  unfold addCandidate
  cases hid : e.id with
  | none => rw [kept?_of_none o hid]; rfl
  | some name =>
    rw [kept?_of_some o hid]
    cases h : isSkipped o name <;> simp [h]

theorem notes_addCandidate (o : Options) (ds : Definitions) (e : Element) :
    (addCandidate o ds e).notes = if e.id = none then [unnamedModel e] else [] := by
  unfold addCandidate
  cases e.id with
  | none => rfl
  | some name => cases h : isSkipped o name <;> simp [h]

/-- The definitions are the first entries of the candidates. -/
theorem value_definitions (o : Options) (ds : Definitions) (es : List Element) :
    (definitions o ds es).value = ds.putAllNew (es.filterMap (kept? o)) := by
  induction es generalizing ds with
  | nil => rfl
  | cons e rest ih =>
    rw [definitions, Noted.value_bind, ih, value_addCandidate, List.filterMap_cons]
    cases kept? o e <;> rfl

theorem notes_definitions (o : Options) (ds : Definitions) (es : List Element) :
    (definitions o ds es).notes = (es.filter fun e => e.id = none).map unnamedModel := by
  induction es generalizing ds with
  | nil => rfl
  | cons e rest ih =>
    rw [definitions, Noted.notes_bind, ih, notes_addCandidate]
    by_cases h : e.id = none <;> simp [h]

/-- The definitions of a document by name. -/
def collected (o : Options) (d : Document) : Definitions :=
  Dictionary.ofFirst ((candidatesOf d.content).filterMap (kept? o))

theorem definitions_document (o : Options) (d : Document) :
    (definitions o [] (candidatesOf d.content)).value = collected o d := value_definitions o [] _

theorem keys_collected (o : Options) (d : Document) :
    (collected o d).keys = (((candidatesOf d.content).filterMap Element.id).filter
      fun name => !isSkipped o name).eraseDups := by
  rw [collected, Dictionary.keys_ofFirst, keys_entries]

theorem nodup_keys_collected (o : Options) (d : Document) : (collected o d).keys.Nodup :=
  Dictionary.nodup_keys_ofFirst _

theorem get?_collected (o : Options) (d : Document) (name : String) :
    (collected o d).get? name = if isSkipped o name then none else
      (candidatesOf d.content).find? fun e => e.id = some name := by
  rw [collected, Dictionary.get?_ofFirst, get?_entries]

/-- A definition is the first candidate of its name. -/
theorem find?_of_get?_collected {o : Options} {d : Document} {name : String} {e : Element}
    (h : (collected o d).get? name = some e) :
    (candidatesOf d.content).find? (fun e => e.id = some name) = some e := by
  rw [get?_collected] at h
  split at h
  · exact absurd h (by simp)
  · exact h

end Blueprint.Api
