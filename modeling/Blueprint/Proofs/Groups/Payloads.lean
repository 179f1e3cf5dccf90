import Blueprint.Api.Payload
import Blueprint.Proofs.Noted

/-!
# The types of payloads

* `Shows`: the type that a list of elements shows; `contentType?_eq_some`: it is the one read.
* `Found`, `Overrides`, `Inferred`: the type that examples or the action show first, the type of the
  resource's own structure under that name, and what follows from both.
* `exampleType_append`, `exampleType_found`: the walk over the payloads, before and behind the first
  that shows a type other than the default.
* `inferType_congr`: what an inference depends on.
* **`inferType_firstShown`**: the type is the first other than the default that payloads show, or
  else the one that the action shows; a structure of the resource under that name takes its place if
  it shows one. There is one warning, with its position, for each payload behind that shows a type
  other than the default and the one found. So the type does not depend on these, and nothing
  depends on the examples behind the first.
-/

namespace Blueprint.Api

open Ast

/-! ## What a list of elements shows -/

/-- A data structure with a single child. -/
def Wraps (e only : Element) : Prop := e.kind = Element.dataStructure ∧ e.children = [only]

/-- The type that elements show: that of the child which the first of them with one wraps. -/
inductive Shows : List Element → String → Prop
  | here {e only : Element} {rest : List Element} : Wraps e only → Shows (e :: rest) (typeName only)
  | later {e : Element} {rest : List Element} {t : String} :
      (∀ only, ¬ Wraps e only) → Shows rest t → Shows (e :: rest) t

theorem wrappedType?_of_wraps {e only : Element} (h : Wraps e only) :
    wrappedType? e = some (typeName only) := by
  obtain ⟨hkind, hchildren⟩ := h
  have hstructure : e.isDataStructure = true := by simpa [Element.isDataStructure] using hkind
  rw [wrappedType?, if_pos hstructure, hchildren]

theorem wrappedType?_of_not_wraps {e : Element} (h : ∀ only, ¬ Wraps e only) :
    wrappedType? e = none := by
  unfold wrappedType?
  split
  · rename_i hstructure
    have hkind : e.kind = Element.dataStructure := by
      simpa [Element.isDataStructure] using hstructure
    split
    · rename_i only hchildren
      exact absurd ⟨hkind, hchildren⟩ (h only)
    · rfl
  · rfl

/-- **The type that is read is the one that elements show.** -/
theorem contentType?_eq_some {es : List Element} {t : String} :
    contentType? es = some t ↔ Shows es t := by
  induction es with
  | nil =>
    constructor
    · intro h
      exact nomatch h
    · intro h
      exact nomatch h
  | cons e rest ih =>
    rw [contentType?, List.findSome?_cons]
    -- the first element that wraps a single one decides
    by_cases hwraps : ∃ only, Wraps e only
    · obtain ⟨only, honly⟩ := hwraps
      rw [wrappedType?_of_wraps honly]
      constructor
      · intro h
        obtain rfl := Option.some.inj h
        exact .here honly
      · intro h
        cases h with
        | @here _ other _ hother =>
          have heq : [other] = [only] := hother.2.symm.trans honly.2
          rw [List.singleton_inj.mp heq]
        | later hnone => exact absurd honly (hnone only)
    · have hnone : ∀ only, ¬ Wraps e only := fun only h => hwraps ⟨only, h⟩
      rw [wrappedType?_of_not_wraps hnone]
      constructor
      · intro h
        exact .later hnone (ih.mp h)
      · intro h
        cases h with
        | here honly => exact absurd honly (hnone _)
        | later _ hrest => exact ih.mpr hrest

theorem contentType?_eq_none {es : List Element} :
    contentType? es = none ↔ ∀ t, ¬ Shows es t := by
  rw [Option.eq_none_iff_forall_ne_some]
  exact forall_congr' fun t => not_congr contentType?_eq_some

/-! ## What is inferred -/

/-- The type that a payload shows, unless it is the default. -/
def otherType? (default : String) (p : Payload) : Option String :=
  (contentType? p.content).filter (· ≠ default)

theorem otherType?_eq_some {default t : String} {p : Payload} :
    otherType? default p = some t ↔ Shows p.content t ∧ t ≠ default := by
  rw [otherType?, Option.filter_eq_some_iff, contentType?_eq_some, decide_eq_true_iff]

theorem otherType?_eq_none {default : String} {p : Payload} :
    otherType? default p = none ↔ ∀ t, Shows p.content t → t = default := by
  rw [Option.eq_none_iff_forall_ne_some]
  refine forall_congr' fun t => ?_
  rw [Ne, otherType?_eq_some, not_and, not_not]

/-- The type `t` is the first other than the default that payloads show; `before` and `after` are the
payloads around the one that shows it. -/
def FirstShown (default : String) (ps before after : List Payload) (t : String) : Prop :=
  ∃ p, ps = before ++ p :: after ∧ (Shows p.content t ∧ t ≠ default) ∧
    ∀ q ∈ before, ∀ u, Shows q.content u → u = default

/-- The type that payloads show first, or else the one that the action itself shows. -/
inductive Found (x : Context) (kind : PayloadKind) (default : String) : String → Prop
  | payload {before after : List Payload} {t : String} :
      FirstShown default (x.payloads kind) before after t → Found x kind default t
  | action {t : String} : (∀ p ∈ x.payloads kind, ∀ u, Shows p.content u → u = default) →
      Shows x.action.content t → Found x kind default t

/-- The first element under a name. -/
def FirstNamed (es : List Element) (name : String) (entry : Element) : Prop :=
  ∃ before after, es = before ++ entry :: after ∧ entry.literalName = some name ∧
    ∀ e ∈ before, e.literalName ≠ some name

/-- The type of the resource's own structure under a name: what its element shows, or else its
element's children. -/
inductive Overrides (r : Ast.Resource) (name : String) : String → Prop
  | itself {entry : Element} {t : String} :
      FirstNamed r.content name entry → Shows [entry] t → Overrides r name t
  | children {entry : Element} {t : String} : FirstNamed r.content name entry →
      (∀ u, ¬ Shows [entry] u) → Shows entry.children t → Overrides r name t

/-- The type of a kind of payload. -/
inductive Inferred (x : Context) (kind : PayloadKind) (default : String) : String → Prop
  | overridden {name t : String} :
      Found x kind default name → Overrides x.resource name t → Inferred x kind default t
  | found {name : String} : Found x kind default name →
      (∀ t, ¬ Overrides x.resource name t) → Inferred x kind default name

theorem Shows.exists_typeName {es : List Element} {t : String} (h : Shows es t) :
    ∃ e, t = typeName e := by
  induction h with
  | here => exact ⟨_, rfl⟩
  | later _ _ ih => exact ih

theorem Found.exists_typeName {x : Context} {kind : PayloadKind} {default t : String}
    (h : Found x kind default t) : ∃ e, t = typeName e := by
  cases h with
  | payload hfirst =>
    obtain ⟨p, -, hp, -⟩ := hfirst
    exact hp.1.exists_typeName
  | action _ hshows => exact hshows.exists_typeName

theorem Inferred.exists_typeName {x : Context} {kind : PayloadKind} {default t : String}
    (h : Inferred x kind default t) : ∃ e, t = typeName e := by
  cases h with
  | overridden _ hover =>
    cases hover with
    | itself _ hshows => exact hshows.exists_typeName
    | children _ _ hshows => exact hshows.exists_typeName
  | found hfound => exact hfound.exists_typeName

/-! ## The walk over payloads -/

section Walk

variable (x : Context) (kind : PayloadKind) (default : String)

/-- The warning about a payload at a position, if it shows another type than expected. -/
def mismatch? (expected : String) (entry : Payload × ℕ) : Option Diagnostic :=
  ((otherType? default entry.1).filter (· ≠ expected)).map
    (mismatchWarning x kind entry.2 expected)

theorem exampleType_cons_of_none {p : Payload} (h : otherType? default p = none)
    (found : Option String) (position : ℕ) (rest : List Payload) :
    exampleType x kind default found position (p :: rest) =
      exampleType x kind default found (position + 1) rest := by
  unfold otherType? at h
  rw [exampleType, h]

theorem exampleType_cons_of_some {p : Payload} {t : String} (h : otherType? default p = some t)
    (position : ℕ) (rest : List Payload) :
    exampleType x kind default none position (p :: rest) =
      exampleType x kind default (some t) (position + 1) rest := by
  unfold otherType? at h
  rw [exampleType, h]

theorem exampleType_append {before : List Payload} (h : ∀ q ∈ before, otherType? default q = none)
    (found : Option String) (position : ℕ) (rest : List Payload) :
    exampleType x kind default found position (before ++ rest) =
      exampleType x kind default found (position + before.length) rest := by
  induction before generalizing position with
  | nil => rfl
  | cons q before ih =>
    have hq := h q List.mem_cons_self
    have hbefore := fun p hp => h p (List.mem_cons_of_mem q hp)
    rw [List.cons_append, exampleType_cons_of_none x kind default hq, ih hbefore, List.length_cons]
    congr 1
    omega

/-- A type that is found stays, and each later payload that shows another is remarked on. -/
theorem exampleType_found (expected : String) (position : ℕ) (ps : List Payload) :
    exampleType x kind default (some expected) position ps =
      ⟨some expected, (ps.zipIdx position).filterMap (mismatch? x kind default expected)⟩ := by
  induction ps generalizing position with
  | nil => rfl
  | cons p rest ih =>
    rw [List.zipIdx_cons, List.filterMap_cons, mismatch?]
    cases hp : otherType? default p with
    | none =>
      rw [exampleType_cons_of_none x kind default hp, ih]
      rfl
    | some got =>
      unfold otherType? at hp
      rw [exampleType, hp, Option.filter_some]
      by_cases hgot : got = expected
      · simp [hgot, ih]
      · ext1 <;> simp [hgot, ih, Noted.note]

theorem exampleType_firstShown {ps before after : List Payload} {t : String}
    (h : FirstShown default ps before after t) :
    exampleType x kind default none 1 ps =
      ⟨some t, (after.zipIdx (before.length + 2)).filterMap (mismatch? x kind default t)⟩ := by
  obtain ⟨p, rfl, hp, hbefore⟩ := h
  have hnone := fun q hq => otherType?_eq_none.mpr (hbefore q hq)
  have hposition : 1 + before.length + 1 = before.length + 2 := by omega
  -- in front of the first only the position moves, behind it the type stays
  rw [exampleType_append x kind default hnone,
    exampleType_cons_of_some x kind default (otherType?_eq_some.mpr hp), exampleType_found,
    hposition]

theorem exampleType_of_none {ps : List Payload}
    (h : ∀ p ∈ ps, ∀ u, Shows p.content u → u = default) :
    exampleType x kind default none 1 ps = ⟨none, []⟩ := by
  have hnone := fun p hp => otherType?_eq_none.mpr (h p hp)
  have hwalk := exampleType_append x kind default hnone none 1 []
  rw [List.append_nil] at hwalk
  exact hwalk

end Walk

theorem FirstShown.append {default t : String} {ps before after : List Payload}
    (h : FirstShown default ps before after t) (more : List Payload) :
    FirstShown default (ps ++ more) before (after ++ more) t := by
  obtain ⟨p, rfl, hp, hbefore⟩ := h
  exact ⟨p, by simp, hp, hbefore⟩

/-- Some payload is the first that shows a type other than the default, or none does. -/
theorem exists_firstShown (default : String) (ps : List Payload) :
    (∃ before after t, FirstShown default ps before after t) ∨
      ∀ p ∈ ps, ∀ u, Shows p.content u → u = default := by
  cases h : ps.findSome? (otherType? default) with
  | none =>
    refine .inr fun p hp => ?_
    exact otherType?_eq_none.mp (List.findSome?_eq_none_iff.mp h p hp)
  | some t =>
    obtain ⟨before, p, after, hps, hp, hbefore⟩ := List.findSome?_eq_some_iff.mp h
    refine .inl ⟨before, after, t, p, hps, otherType?_eq_some.mp hp, fun q hq => ?_⟩
    exact otherType?_eq_none.mp (hbefore q hq)

/-! ## The inferred type -/

theorem find?_literalName {es : List Element} {name : String} {entry : Element} :
    es.find? (·.literalName = some name) = some entry ↔ FirstNamed es name entry := by
  rw [List.find?_eq_some_iff_append, FirstNamed]
  constructor
  · rintro ⟨hentry, before, after, hes, hbefore⟩
    exact ⟨before, after, hes, by simpa using hentry, fun e he => by simpa using hbefore e he⟩
  · rintro ⟨before, after, hes, hentry, hbefore⟩
    exact ⟨by simpa using hentry, before, after, hes, fun e he => by simpa using hbefore e he⟩

theorem overridingType?_eq_some {r : Ast.Resource} {name t : String} :
    overridingType? r name = some t ↔ Overrides r name t := by
  have hbind : overridingType? r name = (r.content.find? (·.literalName = some name)).bind
      fun entry => (contentType? [entry]).or (contentType? entry.children) := rfl
  rw [hbind, Option.bind_eq_some_iff]
  constructor
  · rintro ⟨entry, hentry, ht⟩
    have hfirst := find?_literalName.mp hentry
    cases hself : contentType? [entry] with
    | some u =>
      rw [hself, Option.some_or] at ht
      obtain rfl := Option.some.inj ht
      exact .itself hfirst (contentType?_eq_some.mp hself)
    | none =>
      rw [hself, Option.none_or] at ht
      exact .children hfirst (contentType?_eq_none.mp hself) (contentType?_eq_some.mp ht)
  · intro h
    cases h with
    | itself hfirst hshows =>
      refine ⟨_, find?_literalName.mpr hfirst, ?_⟩
      rw [contentType?_eq_some.mpr hshows, Option.some_or]
    | children hfirst hnone hshows =>
      refine ⟨_, find?_literalName.mpr hfirst, ?_⟩
      rw [contentType?_eq_none.mpr hnone, Option.none_or, contentType?_eq_some.mpr hshows]

theorem overridingType?_eq_none {r : Ast.Resource} {name : String} :
    overridingType? r name = none ↔ ∀ t, ¬ Overrides r name t := by
  rw [Option.eq_none_iff_forall_ne_some]
  exact forall_congr' fun t => not_congr overridingType?_eq_some

section Inference

variable {x : Context} {kind : PayloadKind} {default : String}

/-- The type that is found on the walk over the payloads, or else behind it. -/
def foundType? (x : Context) (kind : PayloadKind) (default : String) : Option String :=
  (exampleType x kind default none 1 (x.payloads kind)).value.or (contentType? x.action.content)

theorem foundType?_of_firstShown {before after : List Payload} {t : String}
    (h : FirstShown default (x.payloads kind) before after t) :
    foundType? x kind default = some t := by
  rw [foundType?, exampleType_firstShown x kind default h, Option.some_or]

theorem foundType?_of_none (h : ∀ p ∈ x.payloads kind, ∀ u, Shows p.content u → u = default) :
    foundType? x kind default = contentType? x.action.content := by
  rw [foundType?, exampleType_of_none x kind default h, Option.none_or]

theorem foundType?_eq_some {name : String} :
    foundType? x kind default = some name ↔ Found x kind default name := by
  constructor
  · intro h
    rcases exists_firstShown default (x.payloads kind) with ⟨before, after, t, hfirst⟩ | hnone
    · rw [foundType?_of_firstShown hfirst] at h
      obtain rfl := Option.some.inj h
      exact .payload hfirst
    · rw [foundType?_of_none hnone] at h
      exact .action hnone (contentType?_eq_some.mp h)
  · intro h
    cases h with
    | payload hfirst => exact foundType?_of_firstShown hfirst
    | action hnone hshows => rw [foundType?_of_none hnone, contentType?_eq_some.mpr hshows]

theorem value_inferType (x : Context) (kind : PayloadKind) (default : String) :
    (inferType x kind default).value =
      (foundType? x kind default).map fun name => (overridingType? x.resource name).getD name := by
  rw [inferType, Noted.value_bind, foundType?]
  cases (exampleType x kind default none 1 (x.payloads kind)).value.or
    (contentType? x.action.content) <;> rfl

theorem notes_inferType (x : Context) (kind : PayloadKind) (default : String) :
    (inferType x kind default).notes =
      (exampleType x kind default none 1 (x.payloads kind)).notes := by
  rw [inferType, Noted.notes_bind]
  split <;> exact List.append_nil _

theorem value_inferType_eq_some {t : String} :
    (inferType x kind default).value = some t ↔ Inferred x kind default t := by
  rw [value_inferType, Option.map_eq_some_iff]
  constructor
  · rintro ⟨name, hfound, hname⟩
    have hfound' := foundType?_eq_some.mp hfound
    cases hover : overridingType? x.resource name with
    | some u =>
      rw [hover, Option.getD_some] at hname
      exact .overridden hfound' (overridingType?_eq_some.mp (hname ▸ hover))
    | none =>
      rw [hover, Option.getD_none] at hname
      exact hname ▸ .found hfound' (overridingType?_eq_none.mp hover)
  · intro h
    cases h with
    | overridden hfound hover =>
      refine ⟨_, foundType?_eq_some.mpr hfound, ?_⟩
      rw [overridingType?_eq_some.mpr hover, Option.getD_some]
    | found hfound hnone =>
      refine ⟨_, foundType?_eq_some.mpr hfound, ?_⟩
      rw [overridingType?_eq_none.mpr hnone, Option.getD_none]

/-! ## What an inference depends on -/

theorem exampleType_congr {y : Context} (hmethod : x.method = y.method) (huri : x.uri = y.uri)
    (found : Option String) (position : ℕ) (ps : List Payload) :
    exampleType x kind default found position ps = exampleType y kind default found position ps := by
  have hwarning : ∀ n expected got,
      mismatchWarning x kind n expected got = mismatchWarning y kind n expected got := by
    intro n expected got
    rw [mismatchWarning, mismatchWarning, hmethod, huri]
  induction ps generalizing found position with
  | nil => rfl
  | cons p rest ih => simp only [exampleType, hwarning, ih]

/-- An inference depends on its payloads, the content of action and resource, and the warnings. -/
theorem inferType_congr {y : Context} (hmethod : x.method = y.method) (huri : x.uri = y.uri)
    (hpayloads : x.payloads kind = y.payloads kind)
    (haction : x.action.content = y.action.content)
    (hresource : x.resource.content = y.resource.content) :
    inferType x kind default = inferType y kind default := by
  have hover : ∀ name, overridingType? x.resource name = overridingType? y.resource name := by
    intro name
    rw [overridingType?, overridingType?, hresource]
  unfold inferType
  simp only [hpayloads, haction, hover, exampleType_congr hmethod huri]

theorem value_inferType_congr {y : Context} {before before' after after' : List Payload} {t : String}
    (hx : FirstShown default (x.payloads kind) before after t)
    (hy : FirstShown default (y.payloads kind) before' after' t)
    (hresource : x.resource.content = y.resource.content) :
    (inferType x kind default).value = (inferType y kind default).value := by
  rw [value_inferType, value_inferType, foundType?_of_firstShown hx, foundType?_of_firstShown hy]
  simp only [overridingType?, hresource]

theorem mismatch?_eq_some {expected : String} {p : Payload} {position : ℕ} {d : Diagnostic} :
    mismatch? x kind default expected (p, position) = some d ↔
      ∃ got, Shows p.content got ∧ got ≠ default ∧ got ≠ expected ∧
        d = mismatchWarning x kind position expected got := by
  rw [mismatch?, Option.map_eq_some_iff]
  refine exists_congr fun got => ?_
  rw [Option.filter_eq_some_iff, otherType?_eq_some, decide_eq_true_iff, and_assoc, and_assoc,
    eq_comm (a := d)]

end Inference

/-- **The first type other than the default that payloads show is the type of all of them.** -/
theorem inferType_firstShown (x : Context) (kind : PayloadKind) (default : String) :
    (∀ t, (inferType x kind default).value = some t ↔ Inferred x kind default t) ∧
    (∀ before after expected, FirstShown default (x.payloads kind) before after expected →
      (inferType x kind default).notes =
        (after.zipIdx (before.length + 2)).filterMap (mismatch? x kind default expected)) ∧
    ((∀ p ∈ x.payloads kind, ∀ t, Shows p.content t → t = default) →
      (inferType x kind default).notes = []) ∧
    (∀ expected p position d, mismatch? x kind default expected (p, position) = some d ↔
      ∃ got, Shows p.content got ∧ got ≠ default ∧ got ≠ expected ∧
        d = mismatchWarning x kind position expected got) ∧
    (∀ y before p after after' t, x.payloads kind = before ++ p :: after →
      y.payloads kind = before ++ p :: after' → Shows p.content t → t ≠ default →
      x.resource.content = y.resource.content →
      (inferType x kind default).value = (inferType y kind default).value) ∧
    ∀ first later later', x.action.examples = first :: later →
      inferType { x with action := { x.action with examples := first :: later' } } kind default =
        inferType x kind default := by
  refine ⟨fun t => value_inferType_eq_some, ?_, ?_, fun expected p position d => mismatch?_eq_some,
    ?_, ?_⟩
  · intro before after expected hfirst
    rw [notes_inferType, exampleType_firstShown x kind default hfirst]
  · intro hnone
    rw [notes_inferType, exampleType_of_none x kind default hnone]
  · intro y before p after after' t hx hy hshows hother hresource
    -- up to `p` the payloads are the same, and `p` shows a type
    rcases exists_firstShown default (before ++ [p]) with ⟨b, c, u, hfirst⟩ | hnone
    · have hx' := hfirst.append after
      have hy' := hfirst.append after'
      rw [← List.append_cons] at hx' hy'
      exact value_inferType_congr (hx ▸ hx') (hy ▸ hy') hresource
    · exact absurd (hnone p (by simp) t hshows) hother
  · intro first later later' hexamples
    refine inferType_congr rfl rfl ?_ rfl rfl
    rw [Context.payloads, Context.payloads, hexamples]

/-- A payload that shows an element of a kind. -/
def showing (kind : String) : Payload :=
  { content := [{ kind := Element.dataStructure, content := .elements [Element.ofKind kind] }] }

/-- An action whose first example shows the default, then `Widget`, `Gadget` and `Widget` again, on a
resource with a structure of its own under the name `Widget`. -/
def widgetContext : Context :=
  { resource := { content := [
      { kind := Element.dataStructure, name := some (.literal "Widget")
        content := .elements [(Element.ofKind "array").withChildren [Element.ofKind "Part"]] }] }
    action := { examples := [
      { responses := [showing "object", showing "Widget", showing "Gadget", showing "Widget"] }, {}] }
    method := "GET"
    uri := "/widgets" }

theorem shows_showing (kind : String) : Shows (showing kind).content (typeName (Element.ofKind kind)) :=
  .here ⟨rfl, rfl⟩

/-- The third payload alone is remarked on, and the structure of the resource gives the type. -/
theorem inferType_firstShown_widgets :
    FirstShown "Object" (widgetContext.payloads .response) [showing "object"]
        [showing "Gadget", showing "Widget"] "Widget" ∧
      Inferred widgetContext .response "Object" "List<Part>" ∧
      (inferType widgetContext .response "Object").notes =
        [mismatchWarning widgetContext .response 3 "Widget" "Gadget"] := by
  have hobject : typeName (Element.ofKind "object") = "Object" := by decide +kernel
  have hwidget : typeName (Element.ofKind "Widget") = "Widget" := by decide +kernel
  have hfirst : FirstShown "Object" (widgetContext.payloads .response) [showing "object"]
      [showing "Gadget", showing "Widget"] "Widget" := by
    refine ⟨showing "Widget", rfl, ⟨hwidget ▸ shows_showing "Widget", by decide⟩, ?_⟩
    intro q hq u hu
    obtain rfl := List.mem_singleton.mp hq
    have hread := contentType?_eq_some.mpr hu
    rw [contentType?_eq_some.mpr (shows_showing "object"), hobject] at hread
    exact (Option.some.inj hread).symm
  obtain ⟨hvalue, hnotes, -⟩ := inferType_firstShown widgetContext .response "Object"
  refine ⟨hfirst, (hvalue "List<Part>").mp (by decide +kernel), ?_⟩
  rw [hnotes _ _ _ hfirst]
  decide +kernel

end Blueprint.Api
