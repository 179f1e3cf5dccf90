import Blueprint.Proofs.Ast.Faithful
import Blueprint.Proofs.Json.Text

/-!
# Printing and reading documents

* `Document.values`: the plain values that the elements of a document hold.
* `decode_render_of_isPlain`, `isPlain_of_decode_render`: a document is read back from its text if
  and only if each of these values is plain on its own; `isPlain_of_decode`: as it is in a document
  from a text without repeated keys.
* **`decode_render_iff`**: both together.
* `not_decode_render`: a document from a text that repeats a key need not be read back.
-/

namespace Blueprint.Ast

open Json (Exact Sound exact_of_sound node textFrame decode render)
open Source

/-- The plain values that the elements of a document hold. -/
def Document.values (d : Document) : List Json :=
  (d.trees textFrame.levels).flatMap fun t => t.2.values

theorem forall_values {d : Document} {P : Json → Prop} : (∀ j ∈ d.values, P j) ↔
    ∀ t ∈ d.trees textFrame.levels, ∀ j ∈ t.2.values, P j := by
  simp only [Document.values, List.mem_flatMap]
  exact ⟨fun h t ht j hj => h j ⟨t, ht, hj⟩, fun h j ⟨t, ht, hj⟩ => h t ht j hj⟩

/-! ## Texts -/

theorem decode_eq_ok {α : Type} {r : Reader α} {s : String} {a : α} : decode r s = .ok a ↔
    r textFrame (Json.Text.ofChars s.toList).root = .ok a ∧
      (Json.Text.ofChars s.toList).trailing = false := by
  constructor
  · intro h
    obtain ⟨b, hb, h⟩ := Fault.exists_of_bind_eq_ok h
    split at h
    · exact nomatch h
    · rename_i htrailing
      obtain rfl := Except.ok.inj h
      exact ⟨hb, Bool.eq_false_iff.mpr htrailing⟩
  · rintro ⟨ha, htrailing⟩
    rw [decode, ha, Fault.ok_bind, htrailing]
    rfl

theorem decode_render {α : Type} {r : Reader α} {j : Json} (h : Exact j) {a : α} :
    decode r (String.ofList (render j)) = .ok a ↔ r textFrame (node j) = .ok a := by
  rw [decode_eq_ok, String.toList_ofList, Json.Text.ofChars_render h]
  exact and_iff_left rfl

/-! ## Documents -/

variable {t : String} {d : Document}

/-- A document without doubles that was read from a text lies within the levels of a text. -/
theorem sound_of_decode (h : decode Document.reader t = .ok d) (hf : ∀ j ∈ d.values, j.FloatFree) :
    Sound textFrame.levels d.toJson := by
  have hroot := (decode_eq_ok.mp h).1
  refine faithful_document.prints (by decide) fun p hp => ?_
  have hsound := faithful_document.reads
    (Q := fun lv e => (∀ j ∈ e.values, j.FloatFree) → Sound lv e.toJson)
    ⟨hereditary_ofText, fun fr n e hn he => sound_of_reader hn he⟩
    (Json.Text.ofText_root t.toList) hroot p hp
  exact hsound (forall_values.mp hf p hp)

theorem isPlain_of_read {n : Node} (hn : n.OfText) (hr : n.NoRepeats)
    (h : Document.reader textFrame n = .ok d) : ∀ j ∈ d.values, j.IsPlain :=
  forall_values.mpr (faithful_document.reads (Q := fun _ e => ∀ j ∈ e.values, j.IsPlain)
    ⟨hereditary_noRepeats, fun _ _ _ hn he => isPlain_of_reader hn.1 hn.2 he⟩ ⟨hn, hr⟩ h)

/-- In a text without repeated keys every plain value is plain on its own. -/
theorem isPlain_of_decode (h : decode Document.reader t = .ok d)
    (hr : (Json.Text.ofChars t.toList).root.NoRepeats) : ∀ j ∈ d.values, j.IsPlain :=
  isPlain_of_read (Json.Text.ofText_root t.toList) hr (decode_eq_ok.mp h).1

theorem decode_render_of_isPlain (hs : Sound textFrame.levels d.toJson)
    (h : ∀ j ∈ d.values, j.IsPlain) :
    decode Document.reader (String.ofList (render d.toJson)) = .ok d :=
  (decode_render (exact_of_sound hs)).mpr (faithful_document.restores hs (forall_values.mp h))

/-- What is read back from a printed document is plain, for no printed object repeats a key. -/
theorem isPlain_of_decode_render (hs : Sound textFrame.levels d.toJson)
    (h : decode Document.reader (String.ofList (render d.toJson)) = .ok d) :
    ∀ j ∈ d.values, j.IsPlain := by
  obtain ⟨hn, hr⟩ := Json.ofText_node d.toJson hs
  exact isPlain_of_read hn hr ((decode_render (exact_of_sound hs)).mp h)

/-- **A document without doubles is read back from its text** exactly if each plain value in it is
plain on its own. -/
theorem decode_render_iff (t : String) (d : Document) (h : decode Document.reader t = .ok d)
    (hf : ∀ j ∈ d.values, j.FloatFree) :
    (decode Document.reader (String.ofList (render d.toJson)) = .ok d ↔ ∀ j ∈ d.values, j.IsPlain) ∧
      ((Json.Text.ofChars t.toList).root.NoRepeats →
        decode Document.reader (String.ofList (render d.toJson)) = .ok d) := by
  have hs := sound_of_decode h hf
  exact ⟨⟨isPlain_of_decode_render hs, decode_render_of_isPlain hs⟩,
    fun hr => decode_render_of_isPlain hs (isPlain_of_decode h hr)⟩

/-! ### A document with every form of content -/

/-- An element with a symbol for a name and a plain value, written as a list of its fields. -/
def listedElement : Json := .array [.string "string",
  .object [("literal", .string "s"), ("variable", .bool true)], .null, .string "text",
  .array [.number (.int 1), .null]]

/-- A member whose value has an empty list of elements. -/
def memberElement : Json := .object [("element", .string "member"), ("content",
  .object [("key", .object [("element", .string "k")]),
    ("value", .object [("element", .string "object"), ("content", .array [])])])]

def formsJson : Json := .object [
  ("resourceGroups", .array [.object [("resources", .array [.object [("actions", .array [.object [
    ("method", .string "GET"), ("content", .array [listedElement])]])]])]]),
  ("content", .array [memberElement])]

def formsDocument : Document where
  groups := [{ resources := [{ actions := [{
    method := "GET"
    content := [{ kind := "string", name := some (.symbol "s" true), description := some "text"
                  content := .value (.array [.number (.int 1), .null]) }] }] }] }]
  content := [{ kind := "member"
                content :=
                  .member (.ofKind "k") (some ((Element.ofKind "object").withChildren [])) }]

theorem sound_formsJson : Sound textFrame.levels formsJson := by
  simp [Sound, Json.SoundItems, Json.SoundEntries, formsJson, listedElement, memberElement,
    textFrame, Json.Number.Exact]

theorem values_formsDocument : formsDocument.values = [.array [.number (.int 1), .null]] := rfl

theorem decode_render_forms :
    decode Document.reader (String.ofList (render formsJson)) = .ok formsDocument ∧
      (∀ j ∈ formsDocument.values, j.FloatFree) ∧
      decode Document.reader (String.ofList (render formsDocument.toJson)) = .ok formsDocument := by
  have h : decode Document.reader (String.ofList (render formsJson)) = .ok formsDocument :=
    (decode_render (exact_of_sound sound_formsJson)).mpr rfl
  have hf : ∀ j ∈ formsDocument.values, j.FloatFree := by
    rw [values_formsDocument]
    simp [Json.FloatFree, Json.FloatFreeItems]
  have hr : (Json.Text.ofChars (String.ofList (render formsJson)).toList).root.NoRepeats := by
    rw [String.toList_ofList, Json.Text.ofChars_render (exact_of_sound sound_formsJson)]
    exact (Json.ofText_node formsJson sound_formsJson).2
  exact ⟨h, hf, (decode_render_iff _ _ h hf).2 hr⟩

/-! ### A document from a text that repeats a key -/

/-- The text of a member with two keys and a note. -/
def repeatedText : String := "\x7b\"content\":[\x7b\"element\":\"a\",\"content\":\x7b" ++
  "\"key\":\x7b\"element\":\"k\"\x7d,\"key\":\x7b\"element\":\"l\"\x7d,\"note\":1\x7d\x7d]\x7d"

def repeatedJson : Json := .object [("content", .array [.object [("element", .string "a"),
  ("content", .object [("key", .object [("element", .string "k")]),
    ("key", .object [("element", .string "l")]), ("note", .number (.int 1))])]])]

/-- The document read from it: the second key makes the content a plain value, which keeps the
last. -/
def keptDocument : Document where
  content := [(Element.ofKind "a").withValue
    (.object [("key", .object [("element", .string "l")]), ("note", .number (.int 1))])]

/-- The document read from the text of that one: the plain value is a member on its own. -/
def memberDocument : Document where
  content := [{ kind := "a", content := .member (.ofKind "l") none }]

theorem decode_repeatedText : decode Document.reader repeatedText = .ok keptDocument := by
  have hexact : Exact repeatedJson := by
    simp [Exact, Json.ExactItems, Json.ExactEntries, repeatedJson, Json.Number.Exact]
  have htext : repeatedText = String.ofList (render repeatedJson) := by decide
  rw [htext, decode_render hexact]
  rfl

theorem floatFree_keptDocument : ∀ j ∈ keptDocument.values, j.FloatFree := by
  have hvalues : keptDocument.values =
      [.object [("key", .object [("element", .string "l")]), ("note", .number (.int 1))]] := rfl
  rw [hvalues]
  simp [Json.FloatFree, Json.FloatFreeEntries]

theorem decode_render_keptDocument :
    decode Document.reader (String.ofList (render keptDocument.toJson)) = .ok memberDocument :=
  have hs := sound_of_decode decode_repeatedText floatFree_keptDocument
  (decode_render (exact_of_sound hs)).mpr rfl

/-- Not every document is read back from its text. -/
theorem not_decode_render : ¬ ∀ (t : String) (d : Document), decode Document.reader t = .ok d →
    (∀ j ∈ d.values, j.FloatFree) →
      decode Document.reader (String.ofList (render d.toJson)) = .ok d := by
  intro h
  have hread := h repeatedText keptDocument decode_repeatedText floatFree_keptDocument
  rw [decode_render_keptDocument] at hread
  exact nomatch Except.ok.inj hread

end Blueprint.Ast
