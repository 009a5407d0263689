import Limix.GettingStarted.Widget
import Limix.Workspace.Frame

/-!
# A session with the widget

Whatever the user does on the widget or with the workspace commands, whatever the dialogs answer and whatever the
disk holds, the frontend only grows (`Ide.Grows`). The workspaces asked to open, the events fired, the console and the
editors opened are only added to. The disk only gains entries, at places where it had none (`Fs.Adds`): no file is
overwritten and no directory is replaced or removed. The one write with `overwrite`, of the untitled workspace file
of `Open Folder` or `Open…` on two or more folders, goes to a file `getUntitledWorkspace` has just found missing
(`untitledWorkspaceLoop_fresh`).

`OnlyGrows` has one lemma per way of building a method; each method's lemma is assembled from them. One user action
keeps the relation (`System.step_grows`), and so does every run of actions (**`System.run_grows`**).
-/

namespace Limix.Workspace

open Limix.Theia

/-! ## Growing -/

/-- From `s` to `s'` the frontend only grew. -/
structure Ide.Grows (s s' : Ide) : Prop where
  opened : s.opened <+: s'.opened
  created : s.created <+: s'.created
  console : s.console <+: s'.console
  editors : s.editors <+: s'.editors
  fs : Fs.Adds (fun _ _ => True) s.fs s'.fs

namespace Ide.Grows

variable {α β : Type} {s : Ide}

theorem refl (s : Ide) : s.Grows s :=
  ⟨List.prefix_refl _, List.prefix_refl _, List.prefix_refl _, List.prefix_refl _, Fs.Adds.refl _ _⟩

theorem trans {s₁ s₂ s₃ : Ide} (h₁ : s₁.Grows s₂) (h₂ : s₂.Grows s₃) : s₁.Grows s₃ :=
  ⟨h₁.opened.trans h₂.opened, h₁.created.trans h₂.created, h₁.console.trans h₂.console,
    h₁.editors.trans h₂.editors, h₁.fs.trans h₂.fs⟩

/-- A file-service call that only adds entries to the disk it runs on. -/
theorem liftFs {y : FsM α} (hy : Fs.Adds (fun _ _ => True) s.fs (stateOf (y s.fs))) :
    s.Grows (stateOf (Limix.Workspace.liftFs y s)) := by
  rcases h : y s.fs with ⟨a, fs'⟩ | ⟨e, fs'⟩ <;> rw [h] at hy <;> rw [liftFs_eq, h] <;>
    exact ⟨List.prefix_refl _, List.prefix_refl _, List.prefix_refl _, List.prefix_refl _, hy⟩

/-- A `pure` after a method changes nothing more. -/
theorem bind_pure {x : IdeM α} {f : α → β} (h : s.Grows (stateOf (x s))) :
    s.Grows (stateOf ((x >>= fun a => pure (f a)) s)) := by
  rcases hx : x s with ⟨a, s'⟩ | ⟨e, s'⟩ <;> rw [hx] at h
  · rw [run_bind_ok hx]; exact h
  · rw [run_bind_error hx]; exact h

end Ide.Grows

/-- The method only makes the frontend grow, whether it returns or throws. -/
def OnlyGrows {α : Type} (x : IdeM α) : Prop := ∀ s : Ide, s.Grows (stateOf (x s))

namespace OnlyGrows

variable {α β : Type} {x : IdeM α}

theorem pure (a : α) : OnlyGrows (Pure.pure a : IdeM α) := fun s => .refl s

theorem throw (e : JsError) : OnlyGrows (MonadExcept.throw e : IdeM α) := fun s => .refl s

theorem bind {f : α → IdeM β} (hx : OnlyGrows x) (hf : ∀ a, OnlyGrows (f a)) : OnlyGrows (x >>= f) := by
  intro s
  have hg := hx s
  rcases h : x s with ⟨a, s'⟩ | ⟨e, s'⟩ <;> rw [h] at hg
  · rw [run_bind_ok h]
    exact hg.trans (hf a s')
  · rw [run_bind_error h]
    exact hg

/-- A method that reads the frontend first. -/
theorem get_bind {f : Ide → IdeM β} (hf : ∀ s, OnlyGrows (f s)) : OnlyGrows (get >>= f) := fun s => hf s s

theorem map (f : α → β) (hx : OnlyGrows x) : OnlyGrows (f <$> x) := by
  rw [← bind_pure_comp]; exact hx.bind fun _ => pure _

theorem tryCatch {h : JsError → IdeM α} (hx : OnlyGrows x) (hh : ∀ e, OnlyGrows (h e)) :
    OnlyGrows (tryCatch x h : IdeM α) := by
  intro s
  have hg := hx s
  rcases hr : x s with ⟨a, s'⟩ | ⟨e, s'⟩ <;> rw [hr] at hg
  · rw [run_tryCatch_ok hr]
    exact hg
  · rw [run_tryCatch_error hr]
    exact hg.trans (hh e s')

/-- A file-service call that only adds entries, on every disk. -/
theorem liftFs {y : FsM α} (hy : ∀ fs, Fs.Adds (fun _ _ => True) fs (stateOf (y fs))) :
    OnlyGrows (Limix.Workspace.liftFs y) := fun s => Ide.Grows.liftFs (hy s.fs)

theorem liftFs_resolve (u : URI) : OnlyGrows (Limix.Workspace.liftFs (resolve u)) :=
  liftFs fun fs => by rw [stateOf_resolve]; exact Fs.Adds.refl _ fs

theorem liftUri (r : Except String α) : OnlyGrows (Limix.Workspace.liftUri r) := by
  intro s; cases r <;> exact .refl s

theorem defined (o : Option α) : OnlyGrows (Limix.Workspace.defined o) := by
  intro s; cases o <;> exact .refl s

theorem log (level : LogLevel) (args : List LogArg) : OnlyGrows (Limix.Workspace.log level args) := fun _ =>
  ⟨List.prefix_refl _, List.prefix_refl _, List.prefix_append _ _, List.prefix_refl _, Fs.Adds.refl _ _⟩

theorem fireCreateNewFile (e : DidCreateNewResourceEvent) : OnlyGrows (Limix.Workspace.fireCreateNewFile e) :=
  fun _ => ⟨List.prefix_refl _, List.prefix_append _ _, List.prefix_refl _, List.prefix_refl _, Fs.Adds.refl _ _⟩

theorem openWorkspace (u : URI) : OnlyGrows (Limix.Workspace.openWorkspace u) := fun _ =>
  ⟨List.prefix_append _ _, List.prefix_refl _, List.prefix_refl _, List.prefix_refl _, Fs.Adds.refl _ _⟩

theorem openEditor (u : URI) : OnlyGrows (Limix.Workspace.openEditor u) := fun _ =>
  ⟨List.prefix_refl _, List.prefix_refl _, List.prefix_refl _, List.prefix_append _ _, Fs.Adds.refl _ _⟩

theorem drawUntitled : OnlyGrows Limix.Workspace.drawUntitled := fun _ =>
  ⟨List.prefix_refl _, List.prefix_refl _, List.prefix_refl _, List.prefix_refl _, Fs.Adds.refl _ _⟩

theorem liftFs_fileExists (u : URI) : OnlyGrows (Limix.Workspace.liftFs (fileExists u)) :=
  liftFs fun fs => by rw [stateOf_fileExists]; exact Fs.Adds.refl _ fs

theorem ite {c : Prop} [Decidable c] {y : IdeM α} (hx : OnlyGrows x) (hy : OnlyGrows y) :
    OnlyGrows (if c then x else y) := by
  split
  · exact hx
  · exact hy

theorem mapM {f : α → IdeM β} (hf : ∀ a, OnlyGrows (f a)) : ∀ l : List α, OnlyGrows (l.mapM f)
  | [] => pure _
  | a :: l => by rw [List.mapM_cons]; exact (hf a).bind fun _ => (mapM hf l).bind fun _ => pure _

end OnlyGrows

/-! ## The methods -/

section Methods

theorem onlyGrows_getParent (c : Option URI) : OnlyGrows (getParent c) :=
  .tryCatch (.bind (.defined c) fun _ => .bind (.liftUri _) fun _ => .map _ (.liftFs_resolve _)) fun _ => .pure _

theorem onlyGrows_getDirectory (c : Option URI) : OnlyGrows (getDirectory c) := by
  refine .bind (.tryCatch (.map _ (.bind (.defined c) fun _ => .liftFs_resolve _)) fun _ => .pure _) fun r => ?_
  rcases r with _ | r
  · exact onlyGrows_getParent c
  · by_cases h : r.isDirectory <;> simp only [h] <;> first | exact .pure _ | exact onlyGrows_getParent c

theorem onlyGrows_contractParentUri (t : String) (u : Option URI) : OnlyGrows (contractParentUri t u) := by
  unfold contractParentUri; split
  · exact .map _ (.liftUri _)
  · exact .pure _

theorem onlyGrows_createInDirectory (p : Option URI) (name : String) (create : URI → FsM FileStat)
    (hcreate : ∀ v fs, Fs.Adds (fun _ _ => True) fs (stateOf (create v fs))) (what success : String) :
    OnlyGrows (createInDirectory p name create what success) := by
  refine .bind (onlyGrows_getDirectory p) fun r => ?_
  rcases r with _ | parent
  · exact .log _ _
  · exact .bind (.liftUri _) fun v => .bind (.log _ _) fun _ => .bind (.liftFs (hcreate v)) fun _ =>
      .bind (.fireCreateNewFile _) fun _ => .log _ _

theorem onlyGrows_newContractFolder (t n : String) (u : Option URI) : OnlyGrows (newContractFolder t n u) :=
  .tryCatch (.bind (onlyGrows_contractParentUri t u) fun _ =>
    onlyGrows_createInDirectory _ _ _ (fun v fs => (createFolder_adds v fs).mono fun _ _ _ => trivial) _ _)
    fun _ => .log _ _

theorem onlyGrows_newContractFile (t n c : String) (u : Option URI) : OnlyGrows (newContractFile t n c u) :=
  .tryCatch (.bind (onlyGrows_contractParentUri t u) fun p => .bind (.log _ _) fun _ =>
    .bind (.defined p) fun _ => .bind (.log _ _) fun _ => .bind (.log _ _) fun _ =>
    onlyGrows_createInDirectory _ _ _ (fun v fs => (createFile_adds v c fs).mono fun _ _ _ => trivial) _ _)
    fun _ => .log _ _

theorem onlyGrows_untitledWorkspaceLoop : ∀ left, OnlyGrows (untitledWorkspaceLoop left)
  | 0 => .bind .drawUntitled fun _ => .throw _
  | left + 1 => by
    rw [untitledWorkspaceLoop]
    exact .bind .drawUntitled fun u => .bind (.liftFs_fileExists u) fun _ =>
      .ite (onlyGrows_untitledWorkspaceLoop left) (.pure _)

/-- The one write with `overwrite`: the untitled workspace file, which `getUntitledWorkspace` has just found missing,
so that it only adds to the disk. -/
theorem onlyGrows_createMultiRootWorkspace (roots : List FileStat) : OnlyGrows (createMultiRootWorkspace roots) := by
  intro s
  have hg : s.Grows (stateOf (getUntitledWorkspace s)) := onlyGrows_untitledWorkspaceLoop 49 s
  rw [createMultiRootWorkspace]
  rcases hu : getUntitledWorkspace s with ⟨u, s₁⟩ | ⟨e, s₁⟩ <;> rw [hu] at hg
  · obtain ⟨i, -, -, -, hn, rfl⟩ := @untitledWorkspaceLoop_fresh 49 _ _ _ hu
    rw [run_bind_ok hu]
    exact hg.trans (Ide.Grows.bind_pure (Ide.Grows.liftFs ((writeFile_adds u _ hn).mono fun _ _ _ => trivial)))
  · rw [run_bind_error hu]
    exact hg

theorem onlyGrows_getOpenableWorkspaceUri (t : MaybeArray URI) : OnlyGrows (getOpenableWorkspaceUri t) := by
  cases t with
  | one u => exact .pure _
  | many us =>
    simp only [getOpenableWorkspaceUri]
    split
    · exact .pure _
    · refine .bind (.mapM (fun _ => .liftFs_resolve _) us) fun stats => ?_
      split
      · exact .pure _
      · exact .map _ (onlyGrows_createMultiRootWorkspace _)

theorem onlyGrows_openIfNew (o : Option URI) : OnlyGrows (openIfNew o) := by
  unfold openIfNew
  rcases o with _ | u
  · exact .pure _
  · refine .get_bind fun s => ?_
    rcases s.workspace with _ | w
    · exact .bind (.openWorkspace u) fun _ => .pure _
    · by_cases h : u.isEqual w <;> simp only [h] <;>
        first | exact .pure _ | exact .bind (.openWorkspace u) fun _ => .pure _

theorem onlyGrows_doOpenFolder (a : Option (MaybeArray URI)) : OnlyGrows (doOpenFolder a) := by
  refine .bind (.log _ _) fun _ => ?_
  rcases a with _ | t
  · exact .pure _
  · exact .bind (onlyGrows_getOpenableWorkspaceUri t) fun o => .bind (.log _ _) fun _ => onlyGrows_openIfNew o

theorem onlyGrows_doOpenSmartContract (l : String) : OnlyGrows (doOpenSmartContract l) :=
  .bind (.liftUri _) fun _ => .bind (.log _ _) fun _ => .bind (onlyGrows_getOpenableWorkspaceUri _) fun o =>
    .bind (.log _ _) fun _ => onlyGrows_openIfNew o

/-! ### `Open…`, `Open File…`, `Open Workspace…` -/

theorem onlyGrows_openFilesFrom : ∀ (uris result : List URI), OnlyGrows (openFilesFrom result uris)
  | [], _ => .pure _
  | u :: uris, result => by
    rw [openFilesFrom]
    exact .bind (.liftFs_resolve u) fun _ =>
      .ite (.bind (.openEditor u) fun _ => onlyGrows_openFilesFrom uris _) (onlyGrows_openFilesFrom uris _)

theorem onlyGrows_doOpenFile (a : Option (MaybeArray URI)) : OnlyGrows (doOpenFile a) := by
  rcases a with _ | uris
  · exact .pure _
  · exact .map _ (onlyGrows_openFilesFrom _ _)

theorem onlyGrows_openOrCollect : ∀ (uris folders : List URI), OnlyGrows (openOrCollect folders uris)
  | [], _ => .pure _
  | u :: uris, folders => by
    rw [openOrCollect]
    exact .bind (.liftFs_resolve u) fun _ =>
      .ite (.get_bind fun _ => .ite (onlyGrows_openOrCollect uris _) (onlyGrows_openOrCollect uris _))
        (.bind (.openEditor u) fun _ => onlyGrows_openOrCollect uris _)

theorem onlyGrows_doOpen (isOSX isElectron : Bool) (a : Option (MaybeArray URI)) :
    OnlyGrows (doOpen isOSX isElectron a) := by
  refine .ite (onlyGrows_doOpenFile a) ?_
  rcases a with _ | uris
  · exact .pure _
  · exact .bind (onlyGrows_openOrCollect _ _) fun folders =>
      .bind (.ite (.bind (onlyGrows_getOpenableWorkspaceUri _) fun o => .bind (onlyGrows_openIfNew o) fun _ => .pure _)
        (.pure _)) fun _ => .pure _

theorem onlyGrows_doOpenWorkspace (a : Option URI) : OnlyGrows (doOpenWorkspace a) := by
  rcases a with _ | w
  · exact .pure _
  · exact .get_bind fun _ => .ite (.pure _) (.bind (.liftFs_fileExists w) fun _ =>
      .ite (.bind (.openWorkspace w) fun _ => .pure _) (.pure _))

/-! ### `New Folder…` -/

theorem onlyGrows_validateFileName (validFilename : String → Bool) (name : String) (parent : FileStat)
    (allowNested : Bool) : OnlyGrows (validateFileName validFilename name parent allowNested) :=
  .ite (.pure _) <| .ite (.pure _) <| .ite (.pure _) <| .ite (.pure _) <| .ite (.pure _) <|
    .bind (.liftUri _) fun u => .bind (.liftFs_fileExists u) fun _ => .ite (.pure _) (.pure _)

theorem onlyGrows_newFolder (validFilename : String → Bool) (uri : Option URI) (a : Option String) :
    OnlyGrows (newFolder validFilename uri a) := by
  refine .bind (onlyGrows_getDirectory uri) fun r => ?_
  rcases r with _ | parent
  · exact .pure _
  refine .bind (.liftUri _) fun _ => .bind ?_ fun n => ?_
  · rcases a with _ | v
    · exact .pure _
    · exact .bind (onlyGrows_validateFileName _ _ _ _) fun _ => .pure _
  · rcases n with _ | name
    · exact .pure _
    · exact .ite (.pure _) (.bind (.liftUri _) fun v =>
        .bind (.liftFs fun fs => (createFolder_adds v fs).mono fun _ _ _ => trivial) fun _ => .fireCreateNewFile _)

/-! ### The widget's commands -/

theorem onlyGrows_executeCommand (c : Command) : OnlyGrows (executeCommand c) := by
  cases c with
  | newContractFolder t n u => exact onlyGrows_newContractFolder t n u
  | newContractFile t n c u => exact onlyGrows_newContractFile t n c u
  | openSmartContract l => exact .bind (onlyGrows_doOpenSmartContract l) fun _ => .pure _

end Methods

end Limix.Workspace

namespace Limix.GettingStarted

open Limix.Theia Limix.Workspace

theorem onlyGrows_doCreateContract (blockchain t n : String) :
    OnlyGrows (doCreateContract blockchain t n) := by
  refine .tryCatch (.bind (onlyGrows_executeCommand _) fun _ => ?_) fun _ => .log _ _
  split
  · exact .bind (onlyGrows_executeCommand _) fun _ => .bind (onlyGrows_executeCommand _) fun _ =>
      .bind (onlyGrows_executeCommand _) fun _ => .bind (onlyGrows_executeCommand _) fun _ =>
      .bind (onlyGrows_executeCommand _) fun _ => .bind (onlyGrows_executeCommand _) fun _ =>
      .bind (.log _ _) fun _ => onlyGrows_executeCommand _
  · exact .pure _

/-! ## Runs of user actions -/

/-- One user action only makes the frontend grow. -/
theorem System.step_grows (s : System) (a : UserAction) : s.ide.Grows (s.step a).ide := by
  cases a with
  | createProject =>
    simp only [System.step]
    split
    · exact onlyGrows_doCreateContract _ _ _ s.ide
    · exact .refl _
  | openFolder a => exact onlyGrows_doOpenFolder a s.ide
  | openResources a =>
    simp only [System.step]
    split
    · exact onlyGrows_doOpen _ _ a s.ide
    · exact .refl _
  | openFile a => exact onlyGrows_doOpenFile a s.ide
  | openWorkspace a => exact onlyGrows_doOpenWorkspace a s.ide
  | newFolder u a => exact onlyGrows_newFolder _ u a s.ide
  | inputChange | pathInput | pickFolder =>
    simp only [System.step]
    split <;> exact .refl _
  | toggleDialog => exact .refl _

/-- **Over every run of user actions the frontend only grows**: the workspaces opened, the events, the console and the
editors are only added to, and the disk only gains entries, at places where it had none, so that every entry it had
stays as it was. -/
theorem System.run_grows : ∀ (s : System) (as : List UserAction), s.ide.Grows (s.run as).ide
  | _, [] => .refl _
  | s, a :: as => (s.step_grows a).trans (System.run_grows (s.step a) as)

end Limix.GettingStarted
