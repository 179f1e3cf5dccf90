import Blueprint.Proofs.Command.Session
import Blueprint.Proofs.Complete

/-!
# Strict runs

* `plan_eq_ok`: what a plan consists of.
* **`strict_complete`**: the API model of a strict run that succeeds has every group, resource and
  action of the document, and every candidate that is not left out for its name or for an earlier
  one. Each pair among the children of its element is a field of its own, and so is each member
  exactly if all have keys.
* `exists_strict_incomplete`: such a member is skipped without a remark.
-/

namespace Blueprint.Command

variable {s : Store} {config : String} {input output : Option String}

theorem result_eq_ok {settings : Settings} {path : String} {r : Result}
    (h : s.result settings path = .ok r) : ∃ d, readDocument path (s.read path) = .ok d ∧
      (Api.transform settings.options d).value = .ok r.api ∧
      r.notes = (Api.transform settings.options d).notes := by
  obtain ⟨d, hd, h⟩ := Fault.exists_of_bind_eq_ok h
  refine ⟨d, hd, ?_⟩
  rw [Result.ofDocument?] at h
  cases hvalue : (Api.transform settings.options d).value with
  | error e => simp [hvalue] at h
  | ok api =>
    simp only [hvalue, Except.ok.injEq] at h
    rw [← h]
    exact ⟨rfl, rfl⟩

theorem plan_eq_ok {strict : Bool} {p : Plan} (h : s.plan config input strict = .ok p) :
    s.settings config = .ok p.settings ∧ p.input = input.getD p.settings.input ∧
      s.result p.settings p.input = .ok p.result ∧
      sources p.settings p.input strict p.result = .ok p.files := by
  obtain ⟨settings, hsettings, h⟩ := Fault.exists_of_bind_eq_ok h
  obtain ⟨result, hresult, h⟩ := Fault.exists_of_bind_eq_ok h
  obtain ⟨files, hfiles, h⟩ := Fault.exists_of_bind_eq_ok h
  rw [← Except.ok.inj h]
  exact ⟨hsettings, rfl, hresult, hfiles⟩

theorem errors_of_sources_eq_ok {settings : Settings} {path : String} {r : Result}
    {files : List Java.File} (h : sources settings path true r = .ok files) :
    Diagnostic.errors r.notes = 0 := by
  rw [sources] at h
  split at h
  · exact nomatch h
  · rename_i hcount
    simpa using hcount

theorem exists_plan {strict : Bool}
    (h : ((run Store.files config (.generate input output strict)).run s).1.failed = false) :
    ∃ p, s.plan config input strict = .ok p := by
  rw [run_eq, session, on_generateSources] at h
  cases hp : s.plan config input strict with
  | ok p => exact ⟨p, rfl⟩
  | error e => simp [hp] at h

/-- **A strict run that succeeds has skipped nothing** but members without a key. -/
theorem strict_complete {s : Store} {config : String} {input output : Option String}
    (h : ((run Store.files config (.generate input output true)).run s).1.failed = false) :
    ∃ settings d api, s.settings config = .ok settings ∧
      readDocument (input.getD settings.input) (s.read (input.getD settings.input)) = .ok d ∧
      (Api.transform settings.options d).value = .ok api ∧
      Api.Complete settings.options d api ∧
      (Api.MembersKept settings.options d api ↔ Api.MembersKeyed d api) := by
  obtain ⟨p, hp⟩ := exists_plan h
  obtain ⟨hsettings, hinput, hresult, hfiles⟩ := plan_eq_ok hp
  obtain ⟨d, hd, hvalue, hnotes⟩ := result_eq_ok hresult
  have herrors := errors_of_sources_eq_ok hfiles
  rw [hnotes] at herrors
  rw [hinput] at hd
  have hcomplete := Api.complete_of_errors hvalue herrors
  exact ⟨p.settings, d, p.result.api, hsettings, hd, hvalue, hcomplete, hcomplete.membersKept_iff⟩

theorem exists_of_any {ε α : Type} {x : Except ε α} {p : α → Bool}
    (h : x.toOption.any p = true) : ∃ a, x = .ok a ∧ p a = true := by
  cases x with
  | error e => exact nomatch h
  | ok a => exact ⟨a, rfl, h⟩

/-- A store with a document and nothing else. -/
def storeWith (document : String) : Store := { entries := [(["a.yaml".toList], .text document)] }

/-- What a strict run on the document of a store comes to. -/
def strictRun (s : Store) : Outcome :=
  ((run Store.files ".apib.yaml" (.generate (some "a.yaml") (some "out") true)).run s).1

/-- A document with a group and an action. -/
def notesText : String :=
  "resourceGroups:\n- name: Notes\n  resources:\n  - name: Note\n    uriTemplate: /notes\n" ++
  "    actions:\n    - name: List\n      method: GET\n"

theorem strict_complete_notes : (strictRun (storeWith notesText)).failed = false ∧
    ∃ d api, readDocument "a.yaml" ((storeWith notesText).read "a.yaml") = .ok d ∧
      (Api.transform {} d).value = .ok api ∧ Api.Complete {} d api ∧
      (Api.MembersKept {} d api ↔ Api.MembersKeyed d api) := by
  have hok : (strictRun (storeWith notesText)).failed = false := by decide +kernel
  have hrun := hok
  rw [strictRun] at hrun
  obtain ⟨settings, d, api, hsettings, hd, hvalue, hcomplete⟩ := strict_complete hrun
  have hdefault : (storeWith notesText).settings ".apib.yaml" = .ok {} := by decide +kernel
  rw [hdefault] at hsettings
  obtain rfl := Except.ok.inj hsettings
  exact ⟨hok, d, api, hd, hvalue, hcomplete⟩

/-- A document with a model that has a member without a key. -/
def keylessText : String :=
  "content:\n- element: dataStructure\n  content:\n  - element: object\n    meta:\n      id: A\n" ++
  "    content:\n    - element: member\n"

/-- Whether a model has no field although its element has a member. -/
def LosesMember (d : Ast.Document) : Prop :=
  ∃ m ∈ (Api.extractModels {} d).value, m.fields = [] ∧ ∃ e ∈ Api.candidatesOf d.content,
    e.id = some m.name ∧ ∃ child ∈ e.children, child.kind = Ast.Element.memberKind

instance : DecidablePred LosesMember := fun _ => by
  unfold LosesMember
  infer_instance

/-- A strict run succeeds on it, and its member is no field of the model. -/
theorem exists_strict_incomplete : (strictRun (storeWith keylessText)).failed = false ∧
    ∃ d, readDocument "a.yaml" ((storeWith keylessText).read "a.yaml") = .ok d ∧ LosesMember d := by
  have hread : (readDocument "a.yaml" ((storeWith keylessText).read "a.yaml")).toOption.any
      (fun d => decide (LosesMember d)) = true := by decide +kernel
  obtain ⟨d, hd, hloses⟩ := exists_of_any hread
  exact ⟨by decide +kernel, d, hd, of_decide_eq_true hloses⟩

end Blueprint.Command
