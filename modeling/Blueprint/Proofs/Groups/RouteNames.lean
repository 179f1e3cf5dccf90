import Blueprint.Proofs.Groups.Kept
import Blueprint.Proofs.Name.Together

/-!
# The names of unnamed actions

An action without a name is named after its route: a verb, and the capitalised words of the path
behind it. This name becomes a name again, whose camel case is what patterns and signatures show.

* `routeWords`: the words of a path; `toList_routeName`: the name from a route, by its words.
* `isWord_of_mem_routeWords`: the words of a path in ASCII are letters and digits.
* **`camel_ofString_routeName_eq_iff`**, **`normalizeAction_routeName`**: an unnamed action shows
  the name from its route, with the capitals in small letters that start no word; so it shows that
  name exactly if no words of its path run together.
-/

namespace Blueprint.Api

open Text Unicode

variable {m : Method} {path : String} {single : Bool}

/-! ## The words of a route -/

/-- The words of the segments of a name; `single` makes the last segment singular. -/
def segmentWords (single : Bool) : List (List Char) → List (List Char)
  | [] => []
  | [s] => words (if single then singular s else s)
  | s :: t :: rest => words s ++ segmentWords single (t :: rest)

/-- The words of a path: those of its segments that are no variables. -/
def routeWords (path : String) : List (List Char) :=
  segmentWords (endsWithVariable path.toList)
    ((segments path.toList).filter fun s => !isVariable s)

theorem nameSegments_eq (single : Bool) (ss : List (List Char)) :
    nameSegments single ss = pascal (segmentWords single ss) := by
  induction ss using nameSegments.induct with
  | case1 => rfl
  | case2 s => rfl
  | case3 s t rest ih =>
    rw [nameSegments, segmentWords, ih, pascal, pascal, pascal, List.flatMap_append]

/-! ## Paths in ASCII -/

theorem mem_of_mem_segments {cs s : List Char} {c : Char} (hs : s ∈ segments cs) (hc : c ∈ s) :
    c ∈ cs := by
  have hmem : c ∈ (splitOn '/' cs).flatten :=
    List.mem_flatten_of_mem (List.mem_filter.mp hs).1 hc
  rw [splitOn, flatten_splitWhere] at hmem
  exact (List.mem_filter.mp hmem).1

/-- The singular of a word has no other letters, but perhaps a `y` at its end. -/
theorem mem_singular {w : List Char} {c : Char} (hc : c ∈ singular w) : c ∈ w ∨ c = 'y' := by
  unfold singular at hc
  split at hc
  · rcases List.mem_append.mp hc with hc | hc
    · exact .inl (List.mem_of_mem_take hc)
    · exact .inr (List.mem_singleton.mp hc)
  · split at hc
    · exact .inl (List.mem_of_mem_take hc)
    · split at hc
      · exact .inl (List.mem_of_mem_take hc)
      · exact .inl hc

theorem isWord_of_mem_words {cs w : List Char} (hcs : ∀ c ∈ cs, c.toNat < 128) (hw : w ∈ words cs) :
    IsWord w where
  ne_nil := ne_nil_of_mem_words hw
  alphanum c hc := by
    have hmem : c ∈ (words cs).flatten := List.mem_flatten_of_mem hw hc
    rw [flatten_words, List.mem_filter] at hmem
    rw [← isAlphanumeric_of_lt (hcs c hmem.1), hmem.2]

theorem isWord_of_mem_segmentWords {ss : List (List Char)} (hss : ∀ s ∈ ss, ∀ c ∈ s, c.toNat < 128) :
    ∀ w ∈ segmentWords single ss, IsWord w := by
  induction ss using nameSegments.induct with
  | case1 => exact fun w hw => nomatch hw
  -- only the last segment may be put in the singular
  | case2 s =>
    have hs := hss s List.mem_cons_self
    have hlast : ∀ c ∈ (if single then singular s else s), c.toNat < 128 := by
      split
      · intro c hc
        rcases mem_singular hc with hc | rfl
        · exact hs c hc
        · decide
      · exact hs
    exact fun w hw => isWord_of_mem_words hlast hw
  | case3 s t rest ih =>
    intro w hw
    rcases List.mem_append.mp hw with hw | hw
    · exact isWord_of_mem_words (hss s List.mem_cons_self) hw
    · exact ih (fun x hx => hss x (List.mem_cons_of_mem s hx)) w hw

theorem isWord_of_mem_routeWords (hpath : IsAscii path) : ∀ w ∈ routeWords path, IsWord w :=
  isWord_of_mem_segmentWords fun _ hs c hc =>
    hpath c (mem_of_mem_segments (List.mem_filter.mp hs).1 hc)

/-! ## Names from routes -/

theorem isLower_of_mem_verb (m : Method) (single : Bool) :
    ∀ c ∈ (verb m single).toList, c.isLower = true := by
  have hall : (verb m single).toList.all Char.isLower = true := by
    cases m <;> cases single <;> decide
  exact List.all_eq_true.mp hall

theorem foldl_after_verb (m : Method) (single : Bool) :
    (verb m single).toList.foldl Hump.after .boundary = .lower := by
  cases m <;> cases single <;> decide

/-- **The name from a route** is a verb in small letters and the capitalised words of the path. -/
theorem toList_routeName (hpath : IsAscii path) : (routeName m path).toList =
    (verb m (endsWithVariable path.toList)).toList ++ (routeWords path).flatMap capitalized := by
  have hcapital : ∀ w ∈ routeWords path, capitalize w = capitalized w := fun w hw =>
    capitalize_eq fun c hc =>
      lt_of_isAlphanum ((isWord_of_mem_routeWords hpath w hw).alphanum c hc)
  rw [routeName, String.toList_append, String.toList_ofList, nameSegments_eq, pascal]
  exact congrArg _ (List.flatMap_congr hcapital)

theorem isAlphanum_of_mem_routeName (hpath : IsAscii path) :
    ∀ c ∈ (routeName m path).toList, c.isAlphanum = true := by
  intro c hc
  rw [toList_routeName hpath, List.mem_append] at hc
  rcases hc with hc | hc
  · exact isAlphanum_of_isAlpha (isAlpha_of_isLower (isLower_of_mem_verb m _ c hc))
  · obtain ⟨w, hw, hc⟩ := List.mem_flatMap.mp hc
    exact isAlphanum_of_mem_capitalized (isWord_of_mem_routeWords hpath w hw).alphanum c hc

theorem routeName_ne_empty (m : Method) (path : String) : routeName m path ≠ "" := by
  have hverb : verb m (endsWithVariable path.toList) ≠ "" := by
    cases m <;> cases endsWithVariable path.toList <;> decide
  rw [routeName]
  exact fun h => hverb (String.append_eq_empty_iff.mp h).1

/-- The name from a route, as a name again, keeps the verb and the capital behind it. -/
theorem recased_routeName (hpath : IsAscii path) : recased .boundary (routeName m path).toList =
    (verb m (endsWithVariable path.toList)).toList ++
      recased .lower ((routeWords path).flatMap capitalized) := by
  have hsmall : ∀ c ∈ (verb m (endsWithVariable path.toList)).toList, c.isUpper = false :=
    fun c hc => isUpper_of_isLower (isLower_of_mem_verb m _ c hc)
  rw [toList_routeName hpath,
    recased_append (isLower_head?_flatMap_capitalized (isWord_of_mem_routeWords hpath)),
    recased_of_forall hsmall, foldl_after_verb]

/-- **The name from a route is in camel case already**, unless words of the path run together. -/
theorem camel_ofString_routeName_eq_iff (hpath : IsAscii path) :
    (Name.ofString (routeName m path)).camel = routeName m path ↔ ¬ RunTogether (routeWords path) := by
  have hwords := isWord_of_mem_routeWords hpath
  rw [← String.toList_inj, Name.camel_ofString_eq_recased (routeName_ne_empty m path)
    (isAlphanum_of_mem_routeName hpath), recased_routeName hpath, toList_routeName hpath,
    List.append_right_inj, recased_flatMap_eq_self hwords (by simp)]
  simp

/-! ## Unnamed actions -/

/-- **An unnamed action is named after its route** exactly if no words of the path run together. -/
theorem normalizeAction_routeName (o : Options) {r : Ast.Resource} {a : Ast.Action}
    (hname : isBlank a.name = true) (hmethod : Method.ofString? a.method = some m)
    (hascii : IsAscii (Uri.Template.ofString (effectiveTemplate r a)).path) :
    ∃ b, (normalizeAction o r a).value = some b ∧ b.method = m ∧
      b.path = (Uri.Template.ofString (effectiveTemplate r a)).path ∧
      b.name.spelling = routeName m b.path ∧
      b.name.camel.toList = recased .boundary (routeName m b.path).toList ∧
      b.name.camel.toList.map Char.toLower = (routeName m b.path).toList.map Char.toLower ∧
      (b.name.camel = routeName m b.path ↔ ¬ RunTogether (routeWords b.path)) := by
  have hvalue : (normalizeAction o r a).value = some (buildAction r a m o.defaultType).value := by
    rw [value_normalizeAction, hmethod, Option.map_some]
  refine ⟨_, hvalue, ?_⟩
  obtain ⟨-, hm, -, hpath, hnamed⟩ := actionOf_normalizeAction hvalue
  generalize (buildAction r a m o.defaultType).value = b at hm hpath hnamed ⊢
  obtain rfl : m = b.method := Option.some.inj (hmethod.symm.trans hm)
  rw [← hpath] at hascii
  rw [actionName, if_pos hname] at hnamed
  have halphanum := isAlphanum_of_mem_routeName (m := b.method) hascii
  have hcamel := Name.camel_ofString_eq_recased (routeName_ne_empty b.method b.path) halphanum
  -- its name is made of that from the route, of letters and digits alone
  rw [hnamed]
  refine ⟨rfl, hpath, rfl, hcamel, ?_, camel_ofString_routeName_eq_iff hascii⟩
  rw [hcamel, map_toLower_recased fun c hc => lt_of_isAlphanum (halphanum c hc)]

/-- A path with a word of one letter, one of a letter and a digit, and one that starts with a digit. -/
def keyResource : Ast.Resource :=
  { uriTemplate := "/v1/customers/\x7bid\x7d/e-mails/2fa-keys/\x7bkey\x7d" }

/-- The words of this path do not run together: the name from the route is kept. -/
theorem normalizeAction_routeName_key :
    ∃ b, (normalizeAction {} keyResource { method := "GET" }).value = some b ∧
      b.name.camel = "getV1CustomersEMails2faKey" := by
  obtain ⟨b, hb, -, hpath, -, -, -, hkept⟩ := normalizeAction_routeName {} (m := .get) (r := keyResource)
    (a := { method := "GET" }) (by decide) (by decide) (by decide +kernel)
  refine ⟨b, hb, ?_⟩
  rw [hkept.mpr (by rw [hpath]; decide +kernel), hpath]
  decide +kernel

/-- An action on `/a/b` shows `listAb`, as one on `/ab` does, for the name `listAB` from its
route. -/
theorem exists_run_together :
    ∃ b, (normalizeAction {} { uriTemplate := "/a/b" } { method := "GET" }).value = some b ∧
      routeName b.method b.path = "listAB" ∧ b.name.camel = "listAb" :=
  ⟨_, rfl, by decide +kernel, by decide +kernel⟩

end Blueprint.Api
