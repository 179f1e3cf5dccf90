import Blueprint.Command.Path
import Blueprint.Proofs.Text.Words

/-!
# Paths below a directory

* **`pathNames_joinPath`**: the names of a path below a directory are those of the directory and
  then those of the path, unless it is written from the root.
* `isAbsolute_joinPath`: it starts where the directory does.
* `parentPath_slash`, `joinPath_append`: the directory of a path that ends with a name is what
  stands before it, below any directory.
-/

namespace Blueprint.Command

open Text

theorem pathNames_empty : pathNames "" = [] := rfl

theorem pathNames_slash (a b : String) : pathNames (a ++ "/" ++ b) = pathNames a ++ pathNames b := by
  have htext : (a ++ "/" ++ b).toList = a.toList ++ '/' :: b.toList := by simp
  rw [pathNames, htext, splitOn, splitWhere_append (by simp), List.filter_append]
  rfl

theorem exists_of_getLast? {path : String} (h : path.toList.getLast? = some '/') :
    ∃ outer : String, path = outer ++ "/" := by
  obtain ⟨cs, hcs⟩ := List.getLast?_eq_some_iff.mp h
  refine ⟨String.ofList cs, String.toList_inj.mp ?_⟩
  simp [hcs]

/-- **The names of a path below a directory**: first those of the directory. -/
theorem pathNames_joinPath (dir : String) {file : String} (h : isAbsolute file = false) :
    pathNames (joinPath dir file) = pathNames dir ++ pathNames file := by
  rw [joinPath, h, Bool.or_false]
  by_cases hempty : dir = ""
  · simp [hempty, pathNames_empty]
  rw [if_neg (by simpa using hempty)]
  by_cases hslash : dir.toList.getLast? = some '/'
  · obtain ⟨outer, rfl⟩ := exists_of_getLast? hslash
    have houter : pathNames (outer ++ "/") = pathNames outer := by
      have h := pathNames_slash outer ""
      rwa [String.append_empty, pathNames_empty, List.append_nil] at h
    rw [if_pos hslash, pathNames_slash, houter]
  · rw [if_neg hslash, pathNames_slash]

theorem isAbsolute_append {a : String} (ha : a ≠ "") (b : String) :
    isAbsolute (a ++ b) = isAbsolute a := by
  have hne : a.toList ≠ [] := fun h => ha (String.toList_inj.mp h)
  obtain ⟨c, cs, hcs⟩ := List.exists_cons_of_ne_nil hne
  simp [isAbsolute, hcs]

theorem isAbsolute_joinPath (dir : String) {file : String} (h : isAbsolute file = false) :
    isAbsolute (joinPath dir file) = isAbsolute dir := by
  rw [joinPath, h, Bool.or_false]
  by_cases hempty : dir = ""
  · subst hempty
    exact h
  rw [if_neg (by simpa using hempty)]
  split
  · exact isAbsolute_append hempty file
  · rw [String.append_assoc]
    exact isAbsolute_append hempty _

theorem parentPath_slash (a : String) {b : String} (hb : '/' ∉ b.toList) :
    parentPath (a ++ "/" ++ b) = a := by
  have htext : (a ++ "/" ++ b).toList.reverse = b.toList.reverse ++ '/' :: a.toList.reverse := by simp
  have hname : ∀ c ∈ b.toList.reverse, decide (c ≠ '/') = true := by
    intro c hc
    rw [List.mem_reverse] at hc
    exact decide_eq_true fun h => hb (h ▸ hc)
  rw [parentPath, htext, List.dropWhile_append_of_pos hname, List.dropWhile_cons_of_neg (by simp),
    List.drop_one, List.tail_cons, List.reverse_reverse, String.ofList_toList]

theorem joinPath_append (dir : String) {a : String} (ha : a ≠ "") (hrelative : isAbsolute a = false)
    (b : String) : joinPath dir (a ++ b) = joinPath dir a ++ b := by
  rw [joinPath, joinPath, isAbsolute_append ha, hrelative, Bool.or_false]
  split
  · rfl
  · split <;> simp only [String.append_assoc]

end Blueprint.Command
