import Limix.Workspace.MultiRoot

/-!
# `Open`, `Open File` and `Open Folder`

Both `Open` and `Open File` resolve each resource of the selection in turn. `doOpenFile` opens the files among them
in editors and resolves to the files; `doOpen` opens the files too, and hands the folders that are not the workspace
open to `getOpenableWorkspaceUri`. A resource the file service cannot resolve makes either throw. `Open Folder` hands
its whole selection to `getOpenableWorkspaceUri`.

* `openFilesFrom_run`, `openOrCollect_run`: the two loops, over a selection every resource of which exists, open its
  files (`filesOf`) in order, and `doOpen`'s collects its folders (`foldersOf`) in order;
* `doOpenFile_opens`: `Open File` resolves to the files of the selection, `[]` for a selection of folders, and throws
  on a selection with a missing resource: it never resolves to `undefined` for a selection;
* `doOpen_opens`: `Open` with at most one such folder opens the files, then the folder as the workspace;
* `getOpenableWorkspaceUri_many`: on two or more resources that exist, the one directory among them (`dirsOf`), or
  else a new untitled workspace of the directories;
* `doOpen_opens_multiRoot`: `Open` with two or more such folders opens the files, then writes the folders into a new
  untitled workspace (`getOpenableWorkspaceUri_folders`, `createMultiRootWorkspace_eq_ok`) and opens it;
* `doOpenFolder_opens`: `Open Folder` on two or more resources that exist opens the one directory among them, or else
  a new untitled workspace written with the directories.

`doOpen` leaves out a folder whose `toString()` is the open workspace's (`Ide.isCurrentWorkspace`); `openIfNew` opens
what is not `isEqual` to it (`Ide.isWorkspace`), and the first test is the weaker (`Ide.isWorkspace_eq_false`).
-/

namespace Limix.Workspace

open Limix.Theia

/-! ## Running -/

section Run

variable {α β : Type} {s : Ide}

@[simp] theorem run_openEditor_bind {u : URI} {f : Unit → IdeM β} :
    (openEditor u >>= f) s = f () { s with editors := s.editors ++ [u] } := rfl

@[simp] theorem run_get_bind {f : Ide → IdeM β} : (get >>= f) s = f s s := rfl

theorem run_liftFs_resolve_bind {u : URI} {f : FileStat → IdeM β} (h : Resolves s.fs u) :
    (liftFs (resolve u) >>= f) s = f ⟨u, isFileEntry (s.fs.entry u.fsKey), isDirEntry (s.fs.entry u.fsKey)⟩ s :=
  run_bind_ok (by rw [liftFs_eq, resolve_of_resolves h])

theorem run_liftFs_resolve_error {u : URI} {f : FileStat → IdeM β} (h : ¬ Resolves s.fs u) :
    ∃ e, (liftFs (resolve u) >>= f) s = .error e s := by
  obtain ⟨e, he⟩ := resolve_of_not_resolves h
  exact ⟨_, run_bind_error (by rw [liftFs_eq, he])⟩

/-- `openIfNew` opens a URI that is not the workspace already open. -/
theorem openIfNew_some {u : URI} (hw : ∀ w, s.workspace = some w → u.isEqual w = false) :
    openIfNew (some u) s = .ok (some u) { s with opened := s.opened ++ [u] } := by
  rcases s with ⟨fs, _ | w, ud, dr, op, cr, co, ed⟩
  · rfl
  · simp only [openIfNew, run_get_bind, hw w rfl]
    rfl

end Run

/-- The test of `openIfNew`: a workspace is open, and the URI `isEqual` to it. -/
def Ide.isWorkspace (s : Ide) (u : URI) : Bool :=
  match s.workspace with
  | some w => u.isEqual w
  | none => false

/-- A URI whose `toString()` is not the open workspace's is not `isEqual` to it either. -/
theorem Ide.isWorkspace_eq_false {s : Ide} {u : URI} (h : s.isCurrentWorkspace u = false) :
    s.isWorkspace u = false := by
  rcases hw : s.workspace with _ | w <;> simp only [Ide.isCurrentWorkspace, Ide.isWorkspace, hw] at h ⊢
  exact URI.isEqual_eq_false_of_sameString (by rw [URI.sameString_comm, h])

/-! ## The selection -/

/-- The files of a selection, in order. -/
def filesOf (fs : Fs) (uris : List URI) : List URI :=
  uris.filter fun u => isFileEntry (fs.entry u.fsKey)

/-- The folders of a selection that are not the workspace open, in order. -/
def foldersOf (s : Ide) (uris : List URI) : List URI :=
  uris.filter fun u => isDirEntry (s.fs.entry u.fsKey) && !s.isCurrentWorkspace u

/-! ## `Open File` -/

/-- The loop of `doOpenFile` opens each file of a selection of existing resources, in order, and pushes it. -/
theorem openFilesFrom_run : ∀ (uris result : List URI) (s : Ide), (∀ u ∈ uris, Resolves s.fs u) →
    openFilesFrom result uris s =
      .ok (result ++ filesOf s.fs uris) { s with editors := s.editors ++ filesOf s.fs uris }
  | [], result, s, _ => by simp only [filesOf, List.filter_nil, List.append_nil]; rfl
  | u :: uris, result, s, h => by
    have hr : ∀ v ∈ uris, Resolves s.fs v := fun v hv => h v (List.mem_cons_of_mem _ hv)
    rw [openFilesFrom, run_liftFs_resolve_bind (h u (List.mem_cons_self _ _))]
    cases hf : isFileEntry (s.fs.entry u.fsKey)
    · simp only [Bool.false_eq_true, ↓reduceIte, filesOf, List.filter_cons, hf]
      exact openFilesFrom_run uris result s hr
    · simp only [↓reduceIte, run_openEditor_bind]
      rw [openFilesFrom_run uris _ { s with editors := s.editors ++ [u] } hr]
      simp only [filesOf, List.filter_cons, hf, ↓reduceIte, List.append_assoc, List.singleton_append]

/-- The loop of `doOpenFile` throws on a selection with a resource the file service cannot resolve. -/
theorem openFilesFrom_throws : ∀ (uris result : List URI) (s : Ide), (∃ u ∈ uris, ¬ Resolves s.fs u) →
    ∃ e s', openFilesFrom result uris s = .error e s'
  | [], _, _, ⟨_, h, _⟩ => absurd h (List.not_mem_nil _)
  | u :: uris, result, s, ⟨v, hv, hn⟩ => by
    rw [openFilesFrom]
    by_cases hu : Resolves s.fs u
    · have hr : ∃ v ∈ uris, ¬ Resolves s.fs v := by
        rcases List.mem_cons.mp hv with rfl | hv
        · exact absurd hu hn
        · exact ⟨v, hv, hn⟩
      rw [run_liftFs_resolve_bind hu]
      split
      · rw [run_openEditor_bind]; exact openFilesFrom_throws uris _ _ hr
      · exact openFilesFrom_throws uris _ _ hr
    · obtain ⟨e, he⟩ := run_liftFs_resolve_error hu
      exact ⟨e, s, he⟩

/-- **`Open File` opens the files of the selection**: when every selected resource exists, it opens each file in an
editor, in order, and resolves to them (`[]` for a selection of folders); when one does not, it throws. -/
theorem doOpenFile_opens (sel : MaybeArray URI) (s : Ide) :
    ((∀ u ∈ sel.toList, Resolves s.fs u) →
      doOpenFile (some sel) s =
        .ok (some (filesOf s.fs sel.toList)) { s with editors := s.editors ++ filesOf s.fs sel.toList }) ∧
    ((∃ u ∈ sel.toList, ¬ Resolves s.fs u) → ∃ e s', doOpenFile (some sel) s = .error e s') :=
  ⟨fun h => run_map_ok (openFilesFrom_run _ [] s h),
    fun h => by
      obtain ⟨e, s', he⟩ := openFilesFrom_throws _ [] s h
      exact ⟨e, s', run_map_error he⟩⟩

/-- A disk whose root holds the directory `/a` and the file `/b`. -/
def dirAFileB : Fs := (Fs.empty.put "" [] "a" (.dir true) rfl rfl).put "" [] "b" (.file "") rfl rfl

theorem doOpenFile_opens_b :
    (∀ u ∈ [uriA, uriB], Resolves dirAFileB u) ∧
      doOpenFile (some (.many [uriA, uriB])) (Ide.init dirAFileB untitledFile) =
        .ok (some (filesOf dirAFileB [uriA, uriB])) { Ide.init dirAFileB untitledFile with editors := [uriB] } :=
  ⟨by decide, (doOpenFile_opens (.many [uriA, uriB]) (Ide.init dirAFileB untitledFile)).1 (by decide)⟩

/-! ## `Open` -/

/-- The loop of `doOpen` opens each file of a selection of existing resources, in order, and collects its folders
that are not the workspace open. -/
theorem openOrCollect_run : ∀ (uris folders : List URI) (s : Ide), (∀ u ∈ uris, Resolves s.fs u) →
    openOrCollect folders uris s =
      .ok (folders ++ foldersOf s uris) { s with editors := s.editors ++ filesOf s.fs uris }
  | [], folders, s, _ => by simp only [foldersOf, filesOf, List.filter_nil, List.append_nil]; rfl
  | u :: uris, folders, s, h => by
    have hr : ∀ v ∈ uris, Resolves s.fs v := fun v hv => h v (List.mem_cons_of_mem _ hv)
    have hu := h u (List.mem_cons_self _ _)
    rw [openOrCollect, run_liftFs_resolve_bind hu]
    rcases hk : s.fs.entry u.fsKey with _ | ⟨w | c⟩
    · simp [Resolves, hk] at hu
    · simp only [isDirEntry, ↓reduceIte, run_get_bind]
      split
      · next hc =>
        rw [openOrCollect_run uris folders s hr]
        simp only [foldersOf, filesOf, List.filter_cons, hk, hc, isDirEntry, isFileEntry]
        rfl
      · next hc =>
        rw [openOrCollect_run uris _ s hr]
        simp only [foldersOf, filesOf, List.filter_cons, hk, hc, isDirEntry, isFileEntry, List.append_assoc]
        rfl
    · simp only [isDirEntry, Bool.false_eq_true, ↓reduceIte, run_openEditor_bind]
      rw [openOrCollect_run uris folders { s with editors := s.editors ++ [u] } hr]
      simp only [foldersOf, filesOf, List.filter_cons, hk, isDirEntry, isFileEntry, List.append_assoc]
      rfl

/-- The end of `doOpen` with at most one folder: the folder, if any, is opened. -/
theorem openFolders_of_length_le_one (s : Ide) {folders : List URI} (hl : folders.length ≤ 1)
    (hw : ∀ f ∈ folders, ∀ w, s.workspace = some w → f.isEqual w = false) :
    openFolders folders s = .ok () { s with opened := s.opened ++ folders } := by
  match folders, hl with
  | [], _ => rw [List.append_nil]; rfl
  | _ :: _ :: _, hl => exact absurd hl (by simp)
  | [f], _ =>
    simp only [openFolders, List.length_singleton, if_pos Nat.zero_lt_one, getOpenableWorkspaceUri,
      if_pos Nat.one_lt_two, List.head?_cons, pure_bind]
    rw [run_bind_ok (openIfNew_some (hw f (List.mem_singleton_self f)))]
    rfl

/-- **`Open` opens the files of the selection, then its folder**: off Electron or on macOS, when every selected
resource exists and at most one of them is a folder other than the workspace open, `doOpen` opens each file in an
editor, in order, then that folder as the workspace, and resolves to the whole selection. -/
theorem doOpen_opens (isOSX isElectron : Bool) (hp : (!isOSX && isElectron) = false) (sel : MaybeArray URI)
    (s : Ide) (h : ∀ u ∈ sel.toList, Resolves s.fs u) (hf : (foldersOf s sel.toList).length ≤ 1) :
    doOpen isOSX isElectron (some sel) s =
      .ok (some sel.toList) { s with editors := s.editors ++ filesOf s.fs sel.toList,
                                     opened := s.opened ++ foldersOf s sel.toList } := by
  have hw : ∀ f ∈ foldersOf s sel.toList, ∀ w, s.workspace = some w → f.isEqual w = false := by
    intro f hm w hs
    have hc : s.isCurrentWorkspace f = false := by simpa using (Bool.and_eq_true_iff.mp (List.mem_filter.mp hm).2).2
    simpa only [Ide.isWorkspace, hs] using Ide.isWorkspace_eq_false hc
  simp only [doOpen, hp, Bool.false_eq_true, ↓reduceIte]
  rw [run_bind_ok (openOrCollect_run _ [] s h), List.nil_append,
    run_bind_ok (openFolders_of_length_le_one { s with editors := s.editors ++ filesOf s.fs sel.toList } hf hw)]
  rfl

theorem doOpen_opens_a_b :
    (!false && false) = false ∧ (∀ u ∈ [uriA, uriB], Resolves dirAFileB u) ∧
      (foldersOf (Ide.init dirAFileB untitledFile) [uriA, uriB]).length ≤ 1 ∧
      doOpen false false (some (.many [uriA, uriB])) (Ide.init dirAFileB untitledFile) =
        .ok (some [uriA, uriB]) { Ide.init dirAFileB untitledFile with editors := [uriB], opened := [uriA] } :=
  ⟨rfl, by decide, by decide,
    doOpen_opens false false rfl (.many [uriA, uriB]) (Ide.init dirAFileB untitledFile) (by decide) (by decide)⟩

/-! ## `Open` with two or more folders -/

/-- Resolving each resource of a selection that exists gives their stats and changes nothing. -/
theorem mapM_liftFs_resolve_run : ∀ (us : List URI) (s : Ide), (∀ u ∈ us, Resolves s.fs u) →
    us.mapM (fun u => liftFs (resolve u)) s =
      .ok (us.map fun u => ⟨u, isFileEntry (s.fs.entry u.fsKey), isDirEntry (s.fs.entry u.fsKey)⟩) s
  | [], _, _ => rfl
  | u :: us, s, h => by
    rw [List.mapM_cons, run_liftFs_resolve_bind (h u (List.mem_cons_self _ _)),
      run_bind_ok (mapM_liftFs_resolve_run us s fun v hv => h v (List.mem_cons_of_mem _ hv))]
    rfl

/-- The stat of a folder. -/
def folderStat (u : URI) : FileStat := ⟨u, false, true⟩

/-- The stat of what is a directory is a folder's. -/
theorem stat_of_isDirEntry (u : URI) {e : Option Entry} (h : isDirEntry e = true) :
    (⟨u, isFileEntry e, isDirEntry e⟩ : FileStat) = folderStat u := by
  match e, h with
  | some (.dir _), _ => rfl

/-- The directories of a selection, in order. -/
def dirsOf (fs : Fs) (uris : List URI) : List URI :=
  uris.filter fun u => isDirEntry (fs.entry u.fsKey)

/-- `getOpenableWorkspaceUri` on two or more resources that exist: the one directory among them, or else an untitled
workspace of the directories. -/
theorem getOpenableWorkspaceUri_many {us : List URI} {s : Ide} (h : ∀ u ∈ us, Resolves s.fs u) (h2 : 2 ≤ us.length) :
    getOpenableWorkspaceUri (.many us) s =
      match dirsOf s.fs us with
      | [d] => .ok (some d) s
      | dirs => (some <$> createMultiRootWorkspace (dirs.map folderStat)) s := by
  have hst : (us.map fun u => (⟨u, isFileEntry (s.fs.entry u.fsKey), isDirEntry (s.fs.entry u.fsKey)⟩ : FileStat)).filter
      (·.isDirectory) = (dirsOf s.fs us).map folderStat := by
    rw [List.filter_map]
    exact List.map_congr_left fun u hu => stat_of_isDirEntry u (List.mem_filter.mp hu).2
  simp only [getOpenableWorkspaceUri, show ¬ us.length < 2 by omega, ↓reduceIte]
  rw [run_bind_ok (mapM_liftFs_resolve_run _ s h), hst]
  rcases dirsOf s.fs us with _ | ⟨d, _ | ⟨d', rest⟩⟩ <;> rfl

/-- `getOpenableWorkspaceUri` on two or more folders that exist makes them an untitled workspace. -/
theorem getOpenableWorkspaceUri_folders {us : List URI} {s : Ide}
    (h : ∀ u ∈ us, Resolves s.fs u ∧ isDirEntry (s.fs.entry u.fsKey) = true) (h2 : 2 ≤ us.length) :
    getOpenableWorkspaceUri (.many us) s = (some <$> createMultiRootWorkspace (us.map folderStat)) s := by
  rw [getOpenableWorkspaceUri_many (fun u hu => (h u hu).1) h2,
    show dirsOf s.fs us = us from List.filter_eq_self.mpr fun u hu => (h u hu).2]
  match us, h2 with
  | _ :: _ :: _, _ => rfl

/-- `createMultiRootWorkspace` that returns resolves to a new untitled workspace file, written with the paths of the
roots, and changes nothing but the disk and the draws. -/
theorem createMultiRootWorkspace_eq_ok {roots : List FileStat} {s s' : Ide} {r : URI}
    (h : createMultiRootWorkspace roots s = .ok r s') :
    s.NewUntitled s' r ∧ s' = { s with fs := s'.fs, drawn := s'.drawn } ∧
      s'.fs.entry r.fsKey = some (.file (WorkspaceData.stringify
        ⟨(firstOccurrences (roots.map fun stat => stat.resource.path.raw)).map WorkspaceFolder.mk⟩)) := by
  obtain ⟨u, _, hu, h⟩ := bind_eq_ok.mp h
  obtain ⟨i, hi, rfl, -, hn, rfl⟩ := @untitledWorkspaceLoop_fresh 49 _ _ _ hu
  obtain ⟨st, _, hl, ⟨⟩⟩ := bind_eq_ok.mp h
  obtain ⟨fs', hc, rfl⟩ := liftFs_eq_ok hl
  rw [← setFrom_eq_firstOccurrences, writeFile_resource hc]
  exact ⟨⟨i, hi, rfl, hn, rfl⟩, rfl, writeFile_entry hc⟩

/-- `openIfNew` opens a URI unless it is the workspace open. -/
theorem openIfNew_some_eq (u : URI) (s : Ide) :
    openIfNew (some u) s =
      if s.isWorkspace u then .ok none s else .ok (some u) { s with opened := s.opened ++ [u] } := by
  rcases s with ⟨fs, _ | w, ud, dr, op, cr, co, ed⟩
  · rfl
  · simp only [openIfNew, run_get_bind, Ide.isWorkspace]
    split <;> rfl

/-- `openIfNew` that returns has opened what it returns: the URI, unless it is the workspace open. -/
theorem openIfNew_some_eq_ok {u : URI} {s s' : Ide} {r : Option URI} (h : openIfNew (some u) s = .ok r s') :
    r = (if s.isWorkspace u then none else some u) ∧ s' = { s with opened := s.opened ++ r.toList } := by
  rw [openIfNew_some_eq] at h
  split at h <;> rename_i hw <;> cases h <;> simp [hw]

/-- **`Open` makes two or more folders one new untitled workspace**: off Electron or on macOS, when every selected
resource exists and two or more of them are folders other than the workspace open, a `doOpen` that returns has
opened each file in an editor, in order, written a new untitled workspace file with the path of each of those folders
once, in order, and opened it unless it is the workspace open; it resolves to the whole selection. -/
theorem doOpen_opens_multiRoot (isOSX isElectron : Bool) (hp : (!isOSX && isElectron) = false)
    (sel : MaybeArray URI) (s : Ide) (h : ∀ u ∈ sel.toList, Resolves s.fs u)
    (hf : 2 ≤ (foldersOf s sel.toList).length) {r : Option (List URI)} {s' : Ide}
    (hr : doOpen isOSX isElectron (some sel) s = .ok r s') :
    r = some sel.toList ∧ s'.editors = s.editors ++ filesOf s.fs sel.toList ∧
      ∃ w, s.NewUntitled s' w ∧
        s'.fs.entry w.fsKey = some (.file (WorkspaceData.stringify
          ⟨(firstOccurrences ((foldersOf s sel.toList).map fun u => u.path.raw)).map WorkspaceFolder.mk⟩)) ∧
        s'.opened = s.opened ++ if s.isWorkspace w then [] else [w] := by
  have hd : ∀ u ∈ foldersOf s sel.toList, Resolves s.fs u ∧ isDirEntry (s.fs.entry u.fsKey) = true :=
    fun u hm => ⟨h u (List.mem_filter.mp hm).1, (Bool.and_eq_true_iff.mp (List.mem_filter.mp hm).2).1⟩
  simp only [doOpen, hp, Bool.false_eq_true, ↓reduceIte] at hr
  rw [run_bind_ok (openOrCollect_run _ [] s h), List.nil_append] at hr
  obtain ⟨_, s₂, ho, ⟨⟩⟩ := bind_eq_ok.mp hr
  simp only [openFolders, show (foldersOf s sel.toList).length > 0 by omega, ↓reduceIte] at ho
  obtain ⟨_, s₃, hg, ho⟩ := bind_eq_ok.mp ho
  rw [@getOpenableWorkspaceUri_folders _ { s with editors := s.editors ++ filesOf s.fs sel.toList } hd hf] at hg
  obtain ⟨w, hc, rfl⟩ := map_eq_ok.mp hg
  obtain ⟨hnew, hs₃, he⟩ := createMultiRootWorkspace_eq_ok hc
  obtain ⟨_, s₄, hn, ⟨⟩⟩ := bind_eq_ok.mp ho
  rw [hs₃] at hn
  obtain ⟨rfl, rfl⟩ := openIfNew_some_eq_ok hn
  rw [List.map_map] at he
  refine ⟨rfl, rfl, w, hnew, he, ?_⟩
  show s.opened ++ (if s.isWorkspace w then none else some w).toList = _
  split <;> rfl

/-- A disk whose root holds the directories `/a` and `/b`. -/
def dirsAB : Fs := (Fs.empty.put "" [] "a" (.dir true) rfl rfl).put "" [] "b" (.dir true) rfl rfl

theorem doOpen_opens_multiRoot_a_b :
    ∃ r s', doOpen false false (some (.many [uriA, uriB])) (Ide.init dirsAB untitledFile) = .ok r s' ∧
      r = some (MaybeArray.many [uriA, uriB]).toList ∧
      s'.editors = (Ide.init dirsAB untitledFile).editors ++
        filesOf (Ide.init dirsAB untitledFile).fs (MaybeArray.many [uriA, uriB]).toList ∧
      ∃ w, (Ide.init dirsAB untitledFile).NewUntitled s' w ∧
        s'.fs.entry w.fsKey = some (.file (WorkspaceData.stringify
          ⟨(firstOccurrences ((foldersOf (Ide.init dirsAB untitledFile) (MaybeArray.many [uriA, uriB]).toList).map
            fun u => u.path.raw)).map WorkspaceFolder.mk⟩)) ∧
        s'.opened = (Ide.init dirsAB untitledFile).opened ++
          if (Ide.init dirsAB untitledFile).isWorkspace w then [] else [w] :=
  ⟨_, _, rfl, doOpen_opens_multiRoot false false rfl (.many [uriA, uriB]) (Ide.init dirsAB untitledFile) (by decide)
    (by decide) rfl⟩

/-- `Open` on the folders `/a` and `/b` writes them into the untitled workspace file it draws, and opens it. -/
example : (stateOf (doOpen false false (some (.many [uriA, uriB])) (Ide.init dirsAB untitledFile))).fs.entry
      untitledFile.fsKey = some (.file (WorkspaceData.stringify ⟨[⟨"/a"⟩, ⟨"/b"⟩]⟩)) ∧
    (stateOf (doOpen false false (some (.many [uriA, uriB])) (Ide.init dirsAB untitledFile))).opened =
      [untitledFile] := by
  decide

/-! ## `Open Folder` on two or more resources -/

/-- **`Open Folder` on two or more resources opens the one directory among them, or else a new untitled workspace of
the directories**: when every resource of the selection exists, a `doOpenFolder` that returns has logged the selection
and what it asks to open, `t`, opened `t` unless it is the workspace open, and resolved to what it opened. With
exactly one directory `t` is that directory, and the disk is left as it is; otherwise `t` is a new untitled workspace
file, written with the path of each directory once, in order, so that a selection of files gives a workspace of no
folders. -/
theorem doOpenFolder_opens (us : List URI) (s : Ide) (h : ∀ u ∈ us, Resolves s.fs u) (h2 : 2 ≤ us.length)
    {r : Option URI} {s' : Ide} (hr : doOpenFolder (some (.many us)) s = .ok r s') :
    ∃ t, r = (if s.isWorkspace t then none else some t) ∧
      s' = { s with fs := s'.fs, drawn := s'.drawn, opened := s.opened ++ r.toList, console := s.console ++
        [⟨.log, [.selection (some (.many us))]⟩, ⟨.log, [.maybeUri (some t)]⟩] } ∧
      (dirsOf s.fs us = [t] ∧ s'.fs = s.fs ∧ s'.drawn = s.drawn ∨
        (dirsOf s.fs us).length ≠ 1 ∧ s.NewUntitled s' t ∧
          s'.fs.entry t.fsKey = some (.file (WorkspaceData.stringify
            ⟨(firstOccurrences ((dirsOf s.fs us).map fun u => u.path.raw)).map WorkspaceFolder.mk⟩))) := by
  simp only [doOpenFolder, run_log_bind] at hr
  obtain ⟨o, s₁, hg, hr⟩ := bind_eq_ok.mp hr
  rw [@getOpenableWorkspaceUri_many us { s with console := s.console ++ [⟨.log, [.selection (some (.many us))]⟩] }
    h h2] at hg
  simp only [run_log_bind] at hr
  split at hg
  · rename_i d hd
    cases hg
    obtain ⟨rfl, rfl⟩ := openIfNew_some_eq_ok hr
    exact ⟨d, rfl, by rw [List.append_assoc]; rfl, .inl ⟨hd, rfl, rfl⟩⟩
  · rename_i hd
    obtain ⟨t, hc, rfl⟩ := map_eq_ok.mp hg
    obtain ⟨hnew, hs₁, he⟩ := createMultiRootWorkspace_eq_ok hc
    rw [hs₁] at hr
    obtain ⟨rfl, rfl⟩ := openIfNew_some_eq_ok hr
    rw [List.map_map] at he
    refine ⟨t, rfl, by rw [List.append_assoc]; rfl, .inr ⟨fun hl => ?_, hnew, he⟩⟩
    obtain ⟨d, hd'⟩ := List.length_eq_one.mp hl
    exact absurd hd' (hd d)

theorem doOpenFolder_opens_a_b :
    ∃ r s', doOpenFolder (some (.many [uriA, uriB])) (Ide.init dirAFileB untitledFile) = .ok r s' ∧
      ∃ t, r = (if (Ide.init dirAFileB untitledFile).isWorkspace t then none else some t) ∧
        s' = { Ide.init dirAFileB untitledFile with
          fs := s'.fs, drawn := s'.drawn, opened := (Ide.init dirAFileB untitledFile).opened ++ r.toList,
          console := (Ide.init dirAFileB untitledFile).console ++
            [⟨.log, [.selection (some (.many [uriA, uriB]))]⟩, ⟨.log, [.maybeUri (some t)]⟩] } ∧
        (dirsOf (Ide.init dirAFileB untitledFile).fs [uriA, uriB] = [t] ∧
            s'.fs = (Ide.init dirAFileB untitledFile).fs ∧ s'.drawn = (Ide.init dirAFileB untitledFile).drawn ∨
          (dirsOf (Ide.init dirAFileB untitledFile).fs [uriA, uriB]).length ≠ 1 ∧
            (Ide.init dirAFileB untitledFile).NewUntitled s' t ∧
            s'.fs.entry t.fsKey = some (.file (WorkspaceData.stringify
              ⟨(firstOccurrences ((dirsOf (Ide.init dirAFileB untitledFile).fs [uriA, uriB]).map
                fun u => u.path.raw)).map WorkspaceFolder.mk⟩))) :=
  ⟨_, _, rfl, doOpenFolder_opens [uriA, uriB] (Ide.init dirAFileB untitledFile) (by decide) (by decide) rfl⟩

/-- `Open Folder` on the folder `/a` and the file `/b` opens `/a` and leaves the disk as it is. -/
example : doOpenFolder (some (.many [uriA, uriB])) (Ide.init dirAFileB untitledFile) =
    .ok (some uriA) { Ide.init dirAFileB untitledFile with opened := [uriA], console :=
      [⟨.log, [.selection (some (.many [uriA, uriB]))]⟩, ⟨.log, [.maybeUri (some uriA)]⟩] } := rfl

end Limix.Workspace
