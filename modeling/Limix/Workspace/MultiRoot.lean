import Limix.Theia.Effects
import Limix.Workspace.Frame

/-!
# Opening several folders

`getOpenableWorkspaceUri` hands a single URI, or the only entry of a one-entry array, back as it is; for two or more
it opens the one directory among their stats, and otherwise writes a new untitled workspace file with
`createMultiRootWorkspace`, whatever the selection holds.

* `untitledWorkspaceLoop_fresh`: the file `getUntitledWorkspace` hands out is one of its draws, a `file` URI where the
  disk has nothing, and only the count of draws changes;
* `setFrom_eq_firstOccurrences`: `Array.from(new Set(paths))` keeps each path once, where it first comes;
* `createMultiRootWorkspace_folders`: the untitled file then holds the JSON of exactly those paths;
* `doOpenFolder_no_directory`: two files, or one, are opened although neither is a folder.
-/

namespace Limix.Workspace

open Limix.Theia

/-! ## `new Set` keeps first occurrences -/

section Dedup

variable {α : Type} [DecidableEq α]

/-- The entries of `l` in the order they first come, each once: the `i`-th is kept unless it is among the `i` before
it. -/
def firstOccurrences (l : List α) : List α :=
  (l.enum.filter fun p => p.2 ∉ l.take p.1).map Prod.snd

theorem firstOccurrences_append_singleton (l : List α) (x : α) :
    firstOccurrences (l ++ [x]) = firstOccurrences l ++ if x ∈ l then [] else [x] := by
  unfold firstOccurrences
  rw [List.enum_append, List.filter_append, List.map_append]
  congr 1
  · congr 1
    apply List.filter_congr
    intro p hp
    have : p.1 < l.length := (List.fst_lt_of_mem_enum hp)
    rw [List.take_append_of_le_length (by omega)]
  · by_cases h : x ∈ l <;> simp [List.enumFrom_singleton, h]

theorem setFrom_append_singleton (l : List α) (x : α) :
    setFrom (l ++ [x]) = if x ∈ setFrom l then setFrom l else setFrom l ++ [x] := by
  simp [setFrom, List.foldl_append]

theorem mem_firstOccurrences (l : List α) (y : α) : y ∈ firstOccurrences l ↔ y ∈ l := by
  induction l using List.reverseRecOn with
  | nil => rfl
  | append_singleton l x ih =>
    rw [firstOccurrences_append_singleton, List.mem_append, ih, List.mem_append, List.mem_singleton]
    split
    · next hx => simp only [List.not_mem_nil, or_false]; exact ⟨Or.inl, fun h => h.elim id (· ▸ hx)⟩
    · rw [List.mem_singleton]

theorem nodup_firstOccurrences (l : List α) : (firstOccurrences l).Nodup := by
  induction l using List.reverseRecOn with
  | nil => exact List.nodup_nil
  | append_singleton l x ih =>
    rw [firstOccurrences_append_singleton]
    split
    · simpa using ih
    · next hx => exact ih.append (List.nodup_singleton x) fun y hy hy' => hx (List.mem_singleton.mp hy' ▸ (mem_firstOccurrences l y).mp hy)

/-- **`new Set(l)` keeps the first occurrences**, in order. -/
theorem setFrom_eq_firstOccurrences (l : List α) : setFrom l = firstOccurrences l := by
  induction l using List.reverseRecOn with
  | nil => rfl
  | append_singleton l x ih =>
    rw [setFrom_append_singleton, firstOccurrences_append_singleton, ih]
    by_cases hx : x ∈ l <;> simp [hx, mem_firstOccurrences]

end Dedup

/-! ## A new untitled workspace file -/

@[simp] theorem run_drawUntitled_bind {β : Type} {f : URI → IdeM β} {s : Ide} :
    (drawUntitled >>= f) s = f (s.untitledDraws s.drawn) { s with drawn := s.drawn + 1 } := rfl

theorem run_liftFs_fileExists {u : URI} (hs : u.scheme = "file") (s : Ide) :
    liftFs (fileExists u) s = .ok (s.fs.entry u.fsKey).isSome s := by
  rw [liftFs_eq, fileExists_eq, if_pos hs]

/-- The fiftieth attempt throws. -/
theorem untitledWorkspaceLoop_zero (s : Ide) :
    untitledWorkspaceLoop 0 s =
      .error (.error "Workspace Service: too many attempts to find unused filename.") { s with drawn := s.drawn + 1 } :=
  rfl

/-- **`getUntitledWorkspace` hands out a new file**: the URI the loop returns is a draw not made before, a `file` URI
where the disk has nothing, and the loop changed nothing but the count of draws. -/
theorem untitledWorkspaceLoop_fresh :
    ∀ {left : Nat} {s s' : Ide} {r : URI}, untitledWorkspaceLoop left s = .ok r s' →
      ∃ i, s.drawn ≤ i ∧ r = s.untitledDraws i ∧ r.scheme = "file" ∧ s.fs.entry r.fsKey = none ∧
        s' = { s with drawn := i + 1 }
  | 0, s, _, _, h => by rw [untitledWorkspaceLoop_zero] at h; cases h
  | left + 1, s, s', r, h => by
    rw [untitledWorkspaceLoop, run_drawUntitled_bind] at h
    by_cases hs : (s.untitledDraws s.drawn).scheme = "file"
    · rw [run_bind_ok (run_liftFs_fileExists hs _)] at h
      split at h
      · obtain ⟨i, hi, rfl, hsch, hn, rfl⟩ := untitledWorkspaceLoop_fresh h
        exact ⟨i, Nat.le_of_succ_le hi, rfl, hsch, hn, rfl⟩
      · next hn =>
        cases h
        exact ⟨s.drawn, le_rfl, rfl, hs, Option.not_isSome_iff_eq_none.mp hn, rfl⟩
    · rw [run_bind_error (by rw [liftFs_eq, fileExists_eq, if_neg hs])] at h
      cases h

/-- `w` is a new untitled workspace file of the run from `s` to `s'`: a draw not made before `s`, where the disk of `s`
had nothing, and the last draw `s'` has made. -/
def Ide.NewUntitled (s s' : Ide) (w : URI) : Prop :=
  ∃ i, s.drawn ≤ i ∧ w = s.untitledDraws i ∧ s.fs.entry w.fsKey = none ∧ s'.drawn = i + 1

/-! ## Writing it -/

theorem liftFs_eq_ok {α : Type} {x : FsM α} {s s' : Ide} {a : α} (h : liftFs x s = .ok a s') :
    ∃ fs', x s.fs = .ok a fs' ∧ s' = { s with fs := fs' } := by
  unfold liftFs at h
  split at h
  · cases h; exact ⟨_, ‹_›, rfl⟩
  · cases h

/-- **The untitled workspace file lists every root path once, in the order the roots first give it.** -/
theorem createMultiRootWorkspace_folders (roots : List FileStat) (s s' : Ide) (r : URI)
    (h : createMultiRootWorkspace roots s = .ok r s') :
    s'.fs.entry r.fsKey = some (.file (WorkspaceData.stringify
      ⟨(firstOccurrences (roots.map fun stat => stat.resource.path.raw)).map WorkspaceFolder.mk⟩)) ∧
    (firstOccurrences (roots.map fun stat => stat.resource.path.raw)).Nodup ∧
    ∀ p, p ∈ firstOccurrences (roots.map fun stat => stat.resource.path.raw) ↔
      ∃ stat ∈ roots, stat.resource.path.raw = p := by
  obtain ⟨_, _, -, h⟩ := bind_eq_ok.mp h
  obtain ⟨st, _, hl, ⟨⟩⟩ := bind_eq_ok.mp h
  obtain ⟨fs', hc, rfl⟩ := liftFs_eq_ok hl
  refine ⟨?_, nodup_firstOccurrences _, fun p => by simp [mem_firstOccurrences]⟩
  rw [← setFrom_eq_firstOccurrences, writeFile_resource hc]
  exact writeFile_entry hc

/-- The untitled workspace file of the runs below. -/
def untitledFile : URI := ⟨⟨"file", "", "/Untitled.theia-workspace", "", "", by decide⟩⟩

/-- The resource `/a`. -/
def uriA : URI := ⟨⟨"file", "", "/a", "", "", by decide⟩⟩

/-- The resource `/b`. -/
def uriB : URI := ⟨⟨"file", "", "/b", "", "", by decide⟩⟩

/-- The folders `/a`, `/b` and `/a` again. -/
def rootsABA : List FileStat := [⟨uriA, false, true⟩, ⟨uriB, false, true⟩, ⟨uriA, false, true⟩]

theorem createMultiRootWorkspace_folders_aba :
    ∃ r s', createMultiRootWorkspace rootsABA (Ide.init Fs.empty untitledFile) = .ok r s' ∧
      (s'.fs.entry r.fsKey = some (.file (WorkspaceData.stringify
        ⟨(firstOccurrences (rootsABA.map fun stat => stat.resource.path.raw)).map WorkspaceFolder.mk⟩)) ∧
      (firstOccurrences (rootsABA.map fun stat => stat.resource.path.raw)).Nodup ∧
      ∀ p, p ∈ firstOccurrences (rootsABA.map fun stat => stat.resource.path.raw) ↔
        ∃ stat ∈ rootsABA, stat.resource.path.raw = p) :=
  ⟨_, _, rfl, createMultiRootWorkspace_folders _ (Ide.init Fs.empty untitledFile) _ _ rfl⟩

/-! ## Opening what is no folder -/

/-- A disk whose root holds the files `/a` and `/b`. -/
def filesAB : Fs := (Fs.empty.put "" [] "a" (.file "") rfl rfl).put "" [] "b" (.file "") rfl rfl

/-- `Open Folder` on the two files `/a` and `/b` writes an untitled workspace of no folders and opens it; on the one
file `/a` it opens `/a`. -/
theorem doOpenFolder_no_directory :
    (∃ s', doOpenFolder (some (.many [uriA, uriB])) (Ide.init filesAB untitledFile) = .ok (some untitledFile) s' ∧
      s'.opened = [untitledFile] ∧ s'.fs.entry untitledFile.fsKey = some (.file (WorkspaceData.stringify ⟨[]⟩))) ∧
    ∃ s', doOpenFolder (some (.many [uriA])) (Ide.init filesAB untitledFile) = .ok (some uriA) s' ∧
      s'.opened = [uriA] :=
  ⟨⟨_, rfl, by decide⟩, ⟨_, rfl, by decide⟩⟩

end Limix.Workspace
