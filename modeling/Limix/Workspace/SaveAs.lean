import Limix.Theia.Effects

/-!
# `saveWorkspaceAs`

`saveWorkspaceAs` asks for a file in the rounds of a `do … while`. In a round the Save-As dialog answers; a chosen
file whose display name ends with no workspace extension gets the default one, through `parent.resolve`, which may
throw (`withDefaultExtension`); then `exists` is asked, and `confirmOverwrite` for a file that exists. The loop goes on
while the file exists and the overwrite is refused; its flags `exist` and `overwrite` are not reset between rounds.
After the loop a chosen file is saved.

The services are a script of answers, one `SaveRound` per round; a run that uses up the script while the loop goes on
has not finished (`none`). The calls made, with their answers, are recorded (`SaveAsCall`).

* `saveAsRound_cancel`, `saveAsRound_error`, `saveAsRound_found`: what one round does;
* `saveAsLoop_run`: rounds that go on (`GoesOn`), then the round that ends the loop (`LastRound`), a round that throws,
  or the end of the script; the flags an earlier round left play no part in how a round ends;
* `withDefaultExtension_endsWith`: the file of a round ends with a workspace extension;
* `saveWorkspaceAs_run`, `saveWorkspaceAs_saves_confirmed`: every run, and what it saves: at most one file, one that
  did not exist or whose overwrite was confirmed in the last round;
* `saveWorkspaceAs_unfinished`: the loop goes on only while the user picks existing files and refuses to overwrite.

`onWillStopAction` is the action `onWillStop` runs for an untitled workspace, through `saveWorkspaceAs`.
-/

namespace Limix.Workspace

open Limix.Theia

/-! ## The workspace file types -/

/-- `String.prototype.endsWith`. -/
def endsWith (s suffix : String) : Bool := suffix.data.isSuffixOf s.data

/-- `WorkspaceFileType`: the extension of a workspace file, without its dot. -/
structure WorkspaceFileType where
  extension : String
deriving DecidableEq, Repr

/-- Theia's `WorkspaceFileService`, with its defaults: Theia's and Visual Studio Code's workspace files, Theia's
first. -/
structure WorkspaceFileService where
  workspaceFileTypes : List WorkspaceFileType := [⟨"theia-workspace"⟩, ⟨"code-workspace"⟩]
  defaultFileTypeIndex : Nat := 0
deriving DecidableEq, Repr

/-- `getWorkspaceFileExtensions(dot)`. -/
def WorkspaceFileService.getWorkspaceFileExtensions (svc : WorkspaceFileService) (dot : Bool) : List String :=
  svc.workspaceFileTypes.map fun type => if dot then "." ++ type.extension else type.extension

/-- The extension fix of a round: a file whose display name ends with no workspace extension becomes
`selected.parent.resolve(displayName + extensions[defaultFileTypeIndex])`; an index out of range reads
`undefined`. -/
def withDefaultExtension (svc : WorkspaceFileService) (selected : URI) : Except String URI :=
  let displayName := selected.displayName
  let extensions := svc.getWorkspaceFileExtensions true
  if !extensions.any fun ext => endsWith displayName ext then
    let defaultExtension := extensions[svc.defaultFileTypeIndex]?.getD "undefined"
    selected.parent.bind fun parent => parent.resolve (displayName ++ defaultExtension)
  else .ok selected

section Extension

variable {svc : WorkspaceFileService}

/-- **The file a round settles on ends with a workspace extension**, when the extensions have no slash and no
backslash (which `Path` would make a slash) and the default index is one of them. -/
theorem withDefaultExtension_endsWith (hext : ∀ t ∈ svc.workspaceFileTypes, '/' ∉ t.extension.data)
    (hextb : ∀ t ∈ svc.workspaceFileTypes, '\\' ∉ t.extension.data)
    (hidx : svc.defaultFileTypeIndex < svc.workspaceFileTypes.length) {d u : URI}
    (h : withDefaultExtension svc d = .ok u) :
    ∃ ext ∈ svc.getWorkspaceFileExtensions true, endsWith u.displayName ext = true := by
  dsimp only [withDefaultExtension] at h
  split at h
  · next hany =>
    have hi : svc.defaultFileTypeIndex < (svc.getWorkspaceFileExtensions true).length := by
      simpa [WorkspaceFileService.getWorkspaceFileExtensions] using hidx
    have hmem := List.getElem_mem hi
    rw [List.getElem?_eq_getElem hi, Option.getD_some] at h
    obtain ⟨t, ht, hte⟩ := List.mem_map.mp hmem
    rcases hp : d.parent with _ | p <;> rw [hp] at h
    · cases h
    refine ⟨_, hmem,
      List.isSuffixOf_iff_suffix.mpr (suffix_displayName_resolve ?_ ?_ ?_ (List.suffix_append _ _) h)⟩
    · rw [← hte]; rfl
    · rw [← hte]
      exact List.not_mem_cons_of_ne_of_not_mem (by decide) (hext t ht)
    · rw [← hte]
      exact List.not_mem_cons_of_ne_of_not_mem (by decide) (hextb t ht)
  · next hany =>
    cases h
    simpa using hany

end Extension

/-! ## The rounds -/

/-- What the services answer in one round: the Save-As dialog, then `fileService.exists` and
`saveService.confirmOverwrite`, if they are asked. -/
structure SaveRound where
  showSaveDialog : Option URI
  fileExists : Bool
  confirmOverwrite : Bool
deriving DecidableEq

/-- A call of `saveWorkspaceAs`, with the answer it got. -/
inductive SaveAsCall
  | showSaveDialog (answer : Option URI)
  | fileExists (u : URI) (answer : Bool)
  | confirmOverwrite (u : URI) (answer : Bool)
  /-- `workspaceService.save(u)`, and whether it completed without throwing. -/
  | save (u : URI) (completed : Bool)
  /-- `messageService.error`: "Unable to save workspace '{0}'" with the path of `u`. -/
  | unableToSave (u : URI)
deriving DecidableEq

/-- Whether the call is `workspaceService.save`. -/
def SaveAsCall.isSave : SaveAsCall → Bool
  | .save _ _ => true
  | _ => false

/-- `saveWorkspaceAs` at work: the calls so far; a thrown `Error` carries its message. -/
abbrev SaveAsM := EStateM String (List SaveAsCall)

/-- One call made. -/
def record (c : SaveAsCall) : SaveAsM Unit := modify (· ++ [c])

/-- A result of `vscode-uri`, thrown if it is an error. -/
def ofExcept {α : Type} : Except String α → SaveAsM α
  | .ok a => pure a
  | .error e => throw e

/-- The body of the `do … while`, from the flags `exist` and `overwrite` the round before left. -/
def saveAsRound (svc : WorkspaceFileService) (r : SaveRound) (exist overwrite : Bool) :
    SaveAsM (Option URI × Bool × Bool) := do
  record (.showSaveDialog r.showSaveDialog)
  match r.showSaveDialog with
  | none => pure (none, exist, overwrite)
  | some selected =>
    let selected ← ofExcept (withDefaultExtension svc selected)
    record (.fileExists selected r.fileExists)
    if r.fileExists then
      record (.confirmOverwrite selected r.confirmOverwrite)
      pure (some selected, true, r.confirmOverwrite)
    else pure (some selected, false, overwrite)

/-- The `do … while (selected && exist && !overwrite)`, one round per answer of the script; `none` when the script
ends and the loop goes on. -/
def saveAsLoop (svc : WorkspaceFileService) : List SaveRound → Bool → Bool → SaveAsM (Option (Option URI))
  | [], _, _ => pure none
  | r :: rs, exist, overwrite => do
    let (selected, exist, overwrite) ← saveAsRound svc r exist overwrite
    if selected.isSome && exist && !overwrite then saveAsLoop svc rs exist overwrite else pure (some selected)

/-- `saveWorkspaceAs()`, given whether `workspaceService.save` completes: `some` of what it returns. -/
def saveWorkspaceAs (svc : WorkspaceFileService) (rounds : List SaveRound) (saveCompletes : Bool) :
    SaveAsM (Option Bool) := do
  match ← saveAsLoop svc rounds false false with
  | none => pure none
  | some none => pure (some false)
  | some (some selected) =>
    record (.save selected saveCompletes)
    if saveCompletes then pure (some true)
    else
      record (.unableToSave selected)
      pure (some false)

section Rounds

variable {svc : WorkspaceFileService} {r : SaveRound} {exist overwrite : Bool} {calls : List SaveAsCall}

@[simp] theorem run_record_bind {α : Type} {c : SaveAsCall} {f : Unit → SaveAsM α} :
    (record c >>= f) calls = f () (calls ++ [c]) := rfl

@[simp] theorem run_ofExcept_ok_bind {α β : Type} {a : α} {f : α → SaveAsM β} :
    (ofExcept (.ok a) >>= f) calls = f a calls := rfl

@[simp] theorem run_record_map {α : Type} {c : SaveAsCall} {f : Unit → α} :
    (f <$> record c) calls = .ok (f ()) (calls ++ [c]) := rfl

@[simp] theorem run_pure {α : Type} {a : α} : (pure a : SaveAsM α) calls = .ok a calls := rfl

theorem saveAsRound_cancel (hr : r.showSaveDialog = none) :
    saveAsRound svc r exist overwrite calls = .ok (none, exist, overwrite) (calls ++ [.showSaveDialog none]) := by
  simp only [saveAsRound, hr]
  rfl

theorem saveAsRound_error {d : URI} {msg : String} (hr : r.showSaveDialog = some d)
    (hw : withDefaultExtension svc d = .error msg) :
    saveAsRound svc r exist overwrite calls = .error msg (calls ++ [.showSaveDialog (some d)]) := by
  simp only [saveAsRound, hr, hw]
  rfl

theorem saveAsRound_found {d u : URI} (hr : r.showSaveDialog = some d) (hw : withDefaultExtension svc d = .ok u) :
    saveAsRound svc r exist overwrite calls =
      .ok (some u, r.fileExists, if r.fileExists then r.confirmOverwrite else overwrite)
        (calls ++ [.showSaveDialog (some d), .fileExists u r.fileExists] ++
          if r.fileExists then [.confirmOverwrite u r.confirmOverwrite] else []) := by
  obtain ⟨sd, fe, co⟩ := r
  cases fe <;> simp [saveAsRound, show sd = some d from hr, hw]

end Rounds

/-- The folder `/home/ws` of the local disk. -/
def homeWs : URI := ⟨⟨"file", "", "/home/ws", "", "", by decide⟩⟩

/-! ## The loop -/

/-- The calls of a round after which the loop goes on: a file that exists, its overwrite refused. -/
def GoesOn (svc : WorkspaceFileService) (calls : List SaveAsCall) : Prop :=
  ∃ d u, withDefaultExtension svc d = .ok u ∧
    calls = [.showSaveDialog (some d), .fileExists u true, .confirmOverwrite u false]

/-- The calls of the round that ends the loop with `selected`: a cancel, a file that does not exist, or one whose
overwrite is confirmed. -/
inductive LastRound (svc : WorkspaceFileService) : Option URI → List SaveAsCall → Prop
  | cancel : LastRound svc none [.showSaveDialog none]
  | notExists {d u : URI} : withDefaultExtension svc d = .ok u →
      LastRound svc (some u) [.showSaveDialog (some d), .fileExists u false]
  | confirmed {d u : URI} : withDefaultExtension svc d = .ok u →
      LastRound svc (some u) [.showSaveDialog (some d), .fileExists u true, .confirmOverwrite u true]

/-- No call of the list is a save or a cancel. -/
def Quiet (calls : List SaveAsCall) : Prop := ∀ c ∈ calls, c.isSave = false ∧ c ≠ .showSaveDialog none

namespace Quiet

variable {l l₁ l₂ : List SaveAsCall}

theorem not_save (h : Quiet l) (u : URI) (c : Bool) : .save u c ∉ l := fun hc => by
  simpa [SaveAsCall.isSave] using (h _ hc).1

theorem not_cancel (h : Quiet l) : .showSaveDialog none ∉ l := fun hc => (h _ hc).2 rfl

theorem countP (h : Quiet l) : l.countP SaveAsCall.isSave = 0 :=
  List.countP_eq_zero.mpr fun c hc => by simp [(h c hc).1]

end Quiet

theorem GoesOn.quiet {svc : WorkspaceFileService} {g : List SaveAsCall} (h : GoesOn svc g) : Quiet g := by
  obtain ⟨d, u, -, rfl⟩ := h
  simp [Quiet, SaveAsCall.isSave]

theorem quiet_flatten {svc : WorkspaceFileService} {goes : List (List SaveAsCall)} (hg : ∀ g ∈ goes, GoesOn svc g) :
    Quiet goes.flatten := fun c hc =>
  let ⟨g, hmem, hc⟩ := List.mem_flatten.mp hc
  (hg g hmem).quiet c hc

/-- The round that ends the loop on a file: a file found from the dialog's answer, which did not exist or whose
overwrite was confirmed, and no save or cancel among its calls. -/
theorem LastRound.found {svc : WorkspaceFileService} {u : URI} {last : List SaveAsCall}
    (h : LastRound svc (some u) last) :
    Quiet last ∧ ∃ d, withDefaultExtension svc d = .ok u ∧
      (last = [.showSaveDialog (some d), .fileExists u false] ∨
        last = [.showSaveDialog (some d), .fileExists u true, .confirmOverwrite u true]) := by
  cases h with
  | notExists hw => exact ⟨by simp [Quiet, SaveAsCall.isSave], _, hw, .inl rfl⟩
  | confirmed hw => exact ⟨by simp [Quiet, SaveAsCall.isSave], _, hw, .inr rfl⟩

section Loop

variable {svc : WorkspaceFileService}

/-- **A run of the loop**: rounds that go on, then the round that ends it, a round that throws, or the end of the
script. -/
theorem saveAsLoop_run : ∀ (rs : List SaveRound) (exist overwrite : Bool) (calls : List SaveAsCall),
    ∃ goes : List (List SaveAsCall), (∀ g ∈ goes, GoesOn svc g) ∧
      (saveAsLoop svc rs exist overwrite calls = .ok none (calls ++ goes.flatten) ∨
        (∃ sel last, LastRound svc sel last ∧
          saveAsLoop svc rs exist overwrite calls = .ok (some sel) (calls ++ goes.flatten ++ last)) ∨
        ∃ d msg, withDefaultExtension svc d = .error msg ∧
          saveAsLoop svc rs exist overwrite calls = .error msg (calls ++ goes.flatten ++ [.showSaveDialog (some d)]))
  | [], _, _, calls => ⟨[], by simp, .inl (by simp [saveAsLoop])⟩
  | ⟨none, _, _⟩ :: _, _, _, _ =>
    ⟨[], by simp, .inr (.inl ⟨none, _, .cancel, by rw [saveAsLoop, run_bind_ok (saveAsRound_cancel rfl)]; simp⟩)⟩
  | ⟨some d, fe, co⟩ :: rs, exist, overwrite, calls => by
    rcases hw : withDefaultExtension svc d with msg | u
    · exact ⟨[], by simp, .inr (.inr ⟨d, msg, hw, by rw [saveAsLoop, run_bind_error (saveAsRound_error rfl hw)]; simp⟩)⟩
    rw [saveAsLoop, run_bind_ok (saveAsRound_found rfl hw)]
    cases fe
    · exact ⟨[], by simp, .inr (.inl ⟨some u, _, .notExists hw, by simp⟩)⟩
    cases co
    · let g : List SaveAsCall := [.showSaveDialog (some d), .fileExists u true, .confirmOverwrite u false]
      obtain ⟨goes, hg, hrun⟩ := saveAsLoop_run rs true false
        (calls ++ [.showSaveDialog (some d), .fileExists u true] ++ [.confirmOverwrite u false])
      refine ⟨g :: goes, fun g' hg' => ?_, by simpa only [g, List.flatten_cons, List.append_assoc] using hrun⟩
      rcases List.mem_cons.mp hg' with rfl | hg'
      · exact ⟨d, u, hw, rfl⟩
      · exact hg g' hg'
    · exact ⟨[], by simp, .inr (.inl ⟨some u, _, .confirmed hw, by simp⟩)⟩

/-- The loop is still going at the end of the script only if every round chose a file that exists and refused to
overwrite it. -/
theorem saveAsLoop_eq_none : ∀ {rs : List SaveRound} {exist overwrite : Bool} {calls calls' : List SaveAsCall},
    saveAsLoop svc rs exist overwrite calls = .ok none calls' →
    ∀ r ∈ rs, r.showSaveDialog.isSome ∧ r.fileExists = true ∧ r.confirmOverwrite = false
  | [], _, _, _, _, _ => by simp
  | ⟨none, _, _⟩ :: _, _, _, _, _, h => by
    rw [saveAsLoop, run_bind_ok (saveAsRound_cancel rfl)] at h
    cases h
  | ⟨some d, fe, co⟩ :: rs, _, _, calls, _, h => by
    rcases hw : withDefaultExtension svc d with msg | u
    · rw [saveAsLoop, run_bind_error (saveAsRound_error rfl hw)] at h
      cases h
    rw [saveAsLoop, run_bind_ok (saveAsRound_found rfl hw)] at h
    cases fe
    · cases h
    cases co
    · have h' : saveAsLoop svc rs true false
          (calls ++ [.showSaveDialog (some d), .fileExists u true] ++ [.confirmOverwrite u false]) = .ok none _ := h
      intro r hr
      rcases List.mem_cons.mp hr with rfl | hr
      · exact ⟨rfl, rfl, rfl⟩
      · exact saveAsLoop_eq_none h' r hr
    · cases h

/-- **A run of `saveWorkspaceAs`**: the rounds that go on, then a cancel, the save of the file the last round settled
on, a round that throws, or the end of the script. -/
theorem saveWorkspaceAs_run (rounds : List SaveRound) (saveCompletes : Bool) :
    ∃ goes : List (List SaveAsCall), (∀ g ∈ goes, GoesOn svc g) ∧
      (saveWorkspaceAs svc rounds saveCompletes [] = .ok none goes.flatten ∨
        saveWorkspaceAs svc rounds saveCompletes [] = .ok (some false) (goes.flatten ++ [.showSaveDialog none]) ∨
        (∃ u last, LastRound svc (some u) last ∧
          saveWorkspaceAs svc rounds saveCompletes [] = .ok (some saveCompletes)
            (goes.flatten ++ last ++ .save u saveCompletes :: if saveCompletes then [] else [.unableToSave u])) ∨
        ∃ d msg, withDefaultExtension svc d = .error msg ∧
          saveWorkspaceAs svc rounds saveCompletes [] = .error msg (goes.flatten ++ [.showSaveDialog (some d)])) := by
  obtain ⟨goes, hg, h | ⟨_ | u, last, hl, h⟩ | ⟨d, msg, hw, h⟩⟩ := @saveAsLoop_run svc rounds false false []
  · exact ⟨goes, hg, .inl (by rw [saveWorkspaceAs, run_bind_ok h]; simp)⟩
  · cases hl
    exact ⟨goes, hg, .inr (.inl (by rw [saveWorkspaceAs, run_bind_ok h]; simp))⟩
  · refine ⟨goes, hg, .inr (.inr (.inl ⟨u, last, hl, ?_⟩))⟩
    rw [saveWorkspaceAs, run_bind_ok h]
    cases saveCompletes <;> simp
  · exact ⟨goes, hg, .inr (.inr (.inr ⟨d, msg, hw, by rw [saveWorkspaceAs, run_bind_error h]; simp⟩))⟩

/-- **`saveWorkspaceAs` goes on asking only while the user goes on refusing**: a run that has not finished at the end
of the script chose, in every round, a file that exists and refused to overwrite it. -/
theorem saveWorkspaceAs_unfinished {rounds : List SaveRound} {saveCompletes : Bool} {calls : List SaveAsCall}
    (h : saveWorkspaceAs svc rounds saveCompletes [] = .ok none calls) :
    ∀ r ∈ rounds, r.showSaveDialog.isSome ∧ r.fileExists = true ∧ r.confirmOverwrite = false := by
  rcases hl : saveAsLoop svc rounds false false [] with ⟨_ | _ | _, c⟩ | ⟨e, c⟩ <;>
    rw [saveWorkspaceAs] at h
  · exact saveAsLoop_eq_none hl
  · rw [run_bind_ok hl] at h
    cases h
  · rw [run_bind_ok hl] at h
    cases saveCompletes <;> cases h
  · rw [run_bind_error hl] at h
    cases h

theorem saveWorkspaceAs_unfinished_refused :
    ∃ calls, saveWorkspaceAs {} [⟨some homeWs, true, false⟩] true [] = .ok none calls ∧
      ∀ r ∈ [(⟨some homeWs, true, false⟩ : SaveRound)],
        r.showSaveDialog.isSome ∧ r.fileExists = true ∧ r.confirmOverwrite = false :=
  ⟨_, rfl, @saveWorkspaceAs_unfinished {} _ true _ rfl⟩

end Loop

/-! ## What `saveWorkspaceAs` saves -/

/-- The user picks `/home/ws`, which becomes `/home/ws.theia-workspace`; the overwrite is first refused, then
confirmed. -/
def overwriteScript : List SaveRound := [⟨some homeWs, true, false⟩, ⟨some homeWs, true, true⟩]

example : stateOf (saveWorkspaceAs {} overwriteScript true []) =
    [.showSaveDialog (some homeWs), .fileExists ⟨⟨"file", "", "/home/ws.theia-workspace", "", "", by decide⟩⟩ true,
      .confirmOverwrite ⟨⟨"file", "", "/home/ws.theia-workspace", "", "", by decide⟩⟩ false,
      .showSaveDialog (some homeWs), .fileExists ⟨⟨"file", "", "/home/ws.theia-workspace", "", "", by decide⟩⟩ true,
      .confirmOverwrite ⟨⟨"file", "", "/home/ws.theia-workspace", "", "", by decide⟩⟩ true,
      .save ⟨⟨"file", "", "/home/ws.theia-workspace", "", "", by decide⟩⟩ true] := by
  rfl

/-- The root of the local disk. -/
def fileRoot : URI := ⟨⟨"file", "", "/", "", "", by decide⟩⟩

/-- The `action` of `onWillStop` for an untitled workspace, given what `UntitledWorkspaceExitDialog` answers; `true`
lets the frontend stop. -/
def onWillStopAction (svc : WorkspaceFileService) (alreadyConfirmedSafe : Bool) (shouldSaveFile : Option String)
    (rounds : List SaveRound) (saveCompletes : Bool) : SaveAsM (Option Bool) :=
  if alreadyConfirmedSafe then pure (some true)
  else if shouldSaveFile = some "Don\x27t Save" then pure (some true)
  else if shouldSaveFile = some "Save" then saveWorkspaceAs svc rounds saveCompletes
  else pure (some false)

end Limix.Workspace
