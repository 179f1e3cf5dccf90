import Blueprint.Pattern.Reader
import Blueprint.Proofs.Groups.Kept
import Blueprint.Proofs.Modifiers.Applying

/-!
# Marks under modifiers

* `Reachable`: the groups that those of a document become by any number of lists of modifiers.
* `Revised.delimited`: a modifier keeps the marks right; `delimited_applyModifiers`: so does a list.
* **`delimited_of_reachable`**: the marks of every action in reach are right, and marking makes them
  so whatever they were before.
-/

namespace Blueprint.Api

/-- The groups that those of a document become by lists of modifiers, one after the other. -/
inductive Reachable (o : Options) (d : Ast.Document) : List Group → Prop
  | normal : Reachable o d (normalizeGroups o d.groups).value
  | modified {gs : List Group} (ms : List Modifier) :
      Reachable o d gs → Reachable o d (applyModifiers ms gs)

theorem Revised.delimited {ms : List Modifier} {a b : Action} (h : Revised ms a b)
    (ha : a.Delimited) : b.Delimited := by
  by_cases hms : ms = []
  · rw [h.untouched hms]
    exact ha
  · exact delimited_of_assignDelimiters_eq (h.marked hms)

theorem delimited_applyModifiers {gs : List Group} (hgs : ∀ g ∈ gs, ∀ a ∈ g.actions, a.Delimited)
    (ms : List Modifier) : ∀ g ∈ applyModifiers ms gs, ∀ a ∈ g.actions, a.Delimited := by
  intro h hh b hb
  obtain ⟨g, hg, -, hactions⟩ := exists_of_mem_applyModifiers hh
  rw [hactions] at hb
  obtain ⟨a, ha, rfl⟩ := List.mem_map.mp hb
  exact (revised_applyAll g.controllerClass ms a).delimited (hgs g hg a ha)

theorem Reachable.delimited {o : Options} {d : Ast.Document} {gs : List Group}
    (h : Reachable o d gs) : ∀ g ∈ gs, ∀ a ∈ g.actions, a.Delimited := by
  induction h with
  | normal => exact fun g hg a ha => delimited_normalizeGroups hg ha
  | modified ms _ ih => exact delimited_applyModifiers ih ms

/-- **The marks of every action in reach are right**, and marking makes them so. -/
theorem delimited_of_reachable (o : Options) (d : Ast.Document) :
    (∀ gs, Reachable o d gs → ∀ g ∈ gs, ∀ a ∈ g.actions, a.Delimited) ∧
      ∀ a : Action, (∀ b : Action, b = a.assignDelimiters ↔ b.bare = a.bare ∧ b.Delimited) ∧
        a.assignDelimiters.assignDelimiters = a.assignDelimiters := by
  refine ⟨fun gs h => h.delimited, fun a => ⟨fun b => eq_assignDelimiters_iff, ?_⟩⟩
  exact assignDelimiters_assignDelimiters a

/-- A document with one action, which has two parameters and a body. -/
def notesDocument : Ast.Document :=
  { groups := [
      { name := "Notes"
        resources := [
          { name := "Note"
            uriTemplate := "/notes/\x7bid\x7d\x7b?tag\x7d"
            parameters := [{ name := "id" }, { name := "tag", type := "string" }]
            actions := [
              { name := "Update"
                method := "PUT"
                examples := [{ requests := [{}], responses := [{ name := "204" }] }] }] }] }] }

/-- A rule that puts a parameter in front of those of an action. -/
def principalRule : Rule :=
  { pattern := "^NotesController"
    prepended := [{ name := some "principal", type := some "Principal" }] }

/-- The rule applied twice, in two runs. -/
theorem delimited_notesDocument :
    ∃ ms gs, (compileModifiersWith Pattern.test? [principalRule]).value = .ok ms ∧
      gs = applyModifiers ms (applyModifiers ms (normalizeGroups {} notesDocument.groups).value) ∧
      Reachable {} notesDocument gs ∧
      gs.map (fun g => g.actions.map fun a => (a.parameters.map (·.name.camel), a.body.isSome)) =
        [[(["principal", "principal", "id", "tag"], true)]] ∧
      ∀ g ∈ gs, ∀ a ∈ g.actions, a.Delimited := by
  have hreach (ms : List Modifier) : Reachable {} notesDocument
      (applyModifiers ms (applyModifiers ms (normalizeGroups {} notesDocument.groups).value)) :=
    (Reachable.normal.modified ms).modified ms
  refine ⟨_, _, rfl, rfl, hreach _, by rfl, ?_⟩
  exact (delimited_of_reachable {} notesDocument).1 _ (hreach _)

end Blueprint.Api
