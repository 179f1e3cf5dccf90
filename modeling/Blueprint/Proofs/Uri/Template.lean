import Blueprint.Proofs.Text.Words
import Blueprint.Proofs.Uri.Pieces
import Mathlib.Data.List.Forall2
import Mathlib.Data.List.TakeWhile

/-!
# Templates split into path and query variables

* `IsVariable`, `ListsNames`: the name in an item, and the names in the body of a group.
* `listsNames_namesIn`: they are the names that are read.
* **`ofString_unnested`**: where no brace opens inside of braces, the path of a template is what is
  left without its groups, its query variables are the names in these groups, and splitting the path
  again gives the path alone.
-/

namespace Blueprint.Uri

open Text

/-! ## Names in a body -/

/-- The name in an item: what is between its blanks, without the asterisks at its end. -/
def IsVariable (item name : List Char) : Prop :=
  ∃ n, trim item = name ++ List.replicate n '*' ∧ name.getLast? ≠ some '*'

/-- The names in a body: one for each item between commas, and none for an item without one. -/
def ListsNames (body : List Char) (names : List (List Char)) : Prop :=
  ∃ items found, body = joinWith [','] items ∧ (∀ item ∈ items, ',' ∉ item) ∧
    List.Forall₂ IsVariable items found ∧ names = found.filter (· ≠ [])

theorem isVariable_variableName (item : List Char) : IsVariable item (variableName item) := by
  let stars := (trim item).reverse.takeWhile (· = '*')
  refine ⟨stars.length, ?_, ?_⟩
  · have hstars : stars = List.replicate stars.length '*' := by
      rw [List.eq_replicate_iff]
      exact ⟨rfl, fun c hc => by simpa using List.mem_takeWhile_imp hc⟩
    have hsplit : stars ++ (trim item).reverse.dropWhile (· = '*') = (trim item).reverse :=
      List.takeWhile_append_dropWhile
    have hreverse := congrArg List.reverse hsplit
    rw [List.reverse_append, List.reverse_reverse, hstars, List.reverse_replicate] at hreverse
    exact hreverse.symm
  · rw [variableName, List.getLast?_reverse]
    intro hhead
    have hnot := List.head?_dropWhile_not (fun c => decide (c = '*')) (trim item).reverse
    rw [hhead] at hnot
    exact absurd hnot (by decide)

theorem listsNames_namesIn (body : List Char) : ListsNames body (namesIn body) := by
  refine ⟨splitOn ',' body, (splitOn ',' body).map variableName, (joinWith_splitOn ',' body).symm,
    fun item hitem => notMem_of_mem_splitOn hitem, ?_, rfl⟩
  exact List.forall₂_map_right_iff.mpr (List.forall₂_same.mpr fun item _ => isVariable_variableName item)

/-! ## Templates -/

/-- **Where no brace opens inside of braces, both scans of a template read the same groups.** -/
theorem ofString_unnested (t : String) (h : Unnested t.toList) :
    ∃ ps names, textOf ps = t.toList ∧
      (∀ mark body, .group mark body ∈ ps → IsGroup mark body) ∧
      (∀ before mark body after, IsGroup mark body →
        (t.toList = before ++ groupThen mark body after ↔
          ∃ qs rs, ps = qs ++ .group mark body :: rs ∧ textOf qs = before ∧ textOf rs = after)) ∧
      (Template.ofString t).path = String.ofList (pathOf ps) ∧
      List.Forall₂ ListsNames (queryBodies ps) names ∧
      (Template.ofString t).queryNames = names.flatten.map String.ofList ∧
      IsPlain (Template.ofString t).path.toList ∧
      Template.ofString (Template.ofString t).path =
        { path := (Template.ofString t).path, queryNames := [] } := by
  obtain ⟨ps, hps⟩ := exists_cuts t.toList
  have hpath : (Template.ofString t).path = String.ofList (pathOf ps) := by
    rw [Template.ofString, hps.pathFrom_eq]
  have hplain : IsPlain (Template.ofString t).path.toList := by
    rw [hpath, String.toList_ofList]
    exact hps.isPlain_pathOf h
  refine ⟨ps, (queryBodies ps).map namesIn, hps.textOf_eq, fun mark body => hps.isGroup,
    fun before mark body after hbody => hps.occurs_iff h hbody, hpath, ?_, ?_, hplain, ?_⟩
  · exact List.forall₂_map_right_iff.mpr (List.forall₂_same.mpr fun body _ => listsNames_namesIn body)
  · rw [Template.ofString, hps.bodies_eq h, List.flatMap_def]
  · rw [Template.ofString, hplain.pathFrom_eq, hplain.bodies_eq, String.ofList_toList]
    rfl

/-- A template with groups of all sorts, some of which stay, and with a brace that is not closed. -/
def mixedTemplate : String :=
  "/coupons/\x7bid\x7d\x7b?limit,offset*\x7d\x7b#top\x7d/\x7b?\x7d\x7b+x\x7d\x7b& page ,\x7d\x7b"

/-- Three groups are taken out, of which two name three query variables. -/
theorem ofString_unnested_mixed :
    Unnested mixedTemplate.toList ∧
      Template.ofString mixedTemplate =
        { path := "/coupons/\x7bid\x7d/\x7b?\x7d\x7b+x\x7d\x7b"
          queryNames := ["limit", "offset", "page"] } ∧
      IsPlain "/coupons/\x7bid\x7d/\x7b?\x7d\x7b+x\x7d\x7b".toList ∧
      Template.ofString "/coupons/\x7bid\x7d/\x7b?\x7d\x7b+x\x7d\x7b" =
        { path := "/coupons/\x7bid\x7d/\x7b?\x7d\x7b+x\x7d\x7b", queryNames := [] } := by
  have hunnested : Unnested mixedTemplate.toList := by decide +kernel
  have hsplit : Template.ofString mixedTemplate =
      { path := "/coupons/\x7bid\x7d/\x7b?\x7d\x7b+x\x7d\x7b"
        queryNames := ["limit", "offset", "page"] } := by decide +kernel
  obtain ⟨ps, names, -, -, -, -, -, -, hplain, hagain⟩ := ofString_unnested mixedTemplate hunnested
  rw [hsplit] at hplain hagain
  exact ⟨hunnested, hsplit, hplain, hagain⟩

/-- A brace inside of braces makes a group of what is left around another one. -/
example : (Template.ofString "\x7b\x7b?x\x7d?y\x7d").path = "\x7b?y\x7d" := by decide +kernel

end Blueprint.Uri
