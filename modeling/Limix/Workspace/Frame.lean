import Limix.Workspace.Contribution

/-!
# What the file commands leave alone

The handlers of `NEW_CONTRACT_FOLDER` and `NEW_CONTRACT_FILE` catch every error into the console, so running them
never throws (`newContractFolder_run`, `newContractFile_run`), and they never open a workspace, nor change which one is
open, nor draw an untitled workspace file: they keep the `Ide.view` (`KeepsView`), whatever the disk holds and whatever
they throw on the way.

`KeepsView` has one lemma per way of building a program; each handler's lemma is assembled from them.
-/

namespace Limix.Workspace

open Limix.Theia

/-! ## Running `IdeM` -/

section Run

variable {α β : Type} {x : IdeM α} {s s' : Ide}

theorem run_tryCatch_ok {h : JsError → IdeM α} {a : α} (hx : x s = .ok a s') : (tryCatch x h : IdeM α) s = .ok a s' := by
  simp only [tryCatch, tryCatchThe, MonadExceptOf.tryCatch, EStateM.tryCatch, hx]

theorem run_tryCatch_error {h : JsError → IdeM α} {e : JsError} (hx : x s = .error e s') :
    (tryCatch x h : IdeM α) s = h e s' := by
  simp only [tryCatch, tryCatchThe, MonadExceptOf.tryCatch, EStateM.tryCatch, hx]; rfl

theorem run_tryCatch_none {x : IdeM (Option α)} :
    (tryCatch x fun _ => pure none : IdeM (Option α)) s =
      match x s with
      | .ok a s' => .ok a s'
      | .error _ s' => .ok none s' := by
  rcases h : x s with ⟨a, s'⟩ | ⟨e, s'⟩
  · exact run_tryCatch_ok h
  · exact run_tryCatch_error h

@[simp] theorem run_liftUri_ok_bind {a : α} {f : α → IdeM β} : (liftUri (.ok a) >>= f) s = f a s := rfl

@[simp] theorem run_liftUri_error_bind {m : String} {f : α → IdeM β} :
    (liftUri (.error m) >>= f) s = .error (.uriError m) s := rfl

@[simp] theorem run_defined_some_bind {a : α} {f : α → IdeM β} : (defined (some a) >>= f) s = f a s := rfl

@[simp] theorem run_log_bind {level : LogLevel} {args : List LogArg} {f : Unit → IdeM β} :
    (log level args >>= f) s = f () { s with console := s.console ++ [⟨level, args⟩] } := rfl

theorem liftFs_eq (y : FsM α) (s : Ide) :
    liftFs y s = match y s.fs with
      | .ok a fs => .ok a { s with fs := fs }
      | .error e fs => .error (.fileOperation e) { s with fs := fs } := rfl

/-- A program whose errors all go to the console returns. -/
theorem tryCatch_log_ok (x : IdeM Unit) (level : LogLevel) (args : JsError → List LogArg) (s : Ide) :
    ∃ s', (tryCatch x fun e => log level (args e) : IdeM Unit) s = .ok () s' := by
  rcases h : x s with ⟨⟨⟩, s'⟩ | ⟨e, s'⟩
  · exact ⟨s', run_tryCatch_ok h⟩
  · exact ⟨_, (run_tryCatch_error h).trans rfl⟩

end Run

/-! ## The view -/

/-- What the file commands never touch: the workspace that is open, the draws of untitled workspace files, and the
workspaces asked to open. -/
def Ide.view (s : Ide) : Option URI × Nat × List URI := (s.workspace, s.drawn, s.opened)

/-- The program leaves the view as it finds it, whether it returns or throws. -/
def KeepsView {α : Type} (x : IdeM α) : Prop := ∀ s, (stateOf (x s)).view = s.view

namespace KeepsView

variable {α β : Type} {x : IdeM α}

theorem pure (a : α) : KeepsView (Pure.pure a : IdeM α) := fun _ => rfl

theorem throw (e : JsError) : KeepsView (MonadExcept.throw e : IdeM α) := fun _ => rfl

theorem get : KeepsView (MonadState.get : IdeM Ide) := fun _ => rfl

theorem bind {f : α → IdeM β} (hx : KeepsView x) (hf : ∀ a, KeepsView (f a)) : KeepsView (x >>= f) := by
  intro s
  rcases h : x s with ⟨a, s'⟩ | ⟨e, s'⟩
  · rw [run_bind_ok h]; exact (hf a s').trans (by simpa [h] using hx s)
  · rw [run_bind_error h]; simpa [h] using hx s

theorem map (f : α → β) (hx : KeepsView x) : KeepsView (f <$> x) := by
  rw [← bind_pure_comp]; exact hx.bind fun _ => pure _

theorem tryCatch {h : JsError → IdeM α} (hx : KeepsView x) (hh : ∀ e, KeepsView (h e)) :
    KeepsView (tryCatch x h : IdeM α) := by
  intro s
  rcases hr : x s with ⟨a, s'⟩ | ⟨e, s'⟩
  · rw [run_tryCatch_ok hr]; simpa [hr] using hx s
  · rw [run_tryCatch_error hr]; exact (hh e s').trans (by simpa [hr] using hx s)

theorem liftFs (y : FsM α) : KeepsView (Limix.Workspace.liftFs y) := by
  intro s; unfold Limix.Workspace.liftFs; split <;> rfl

theorem liftUri (r : Except String α) : KeepsView (Limix.Workspace.liftUri r) := by
  intro s; cases r <;> rfl

theorem defined (o : Option α) : KeepsView (Limix.Workspace.defined o) := by
  intro s; cases o <;> rfl

theorem log (level : LogLevel) (args : List LogArg) : KeepsView (Limix.Workspace.log level args) := fun _ => rfl

theorem fireCreateNewFile (e : DidCreateNewResourceEvent) : KeepsView (Limix.Workspace.fireCreateNewFile e) :=
  fun _ => rfl

end KeepsView

/-! ## The handlers -/

theorem keepsView_getParent (c : Option URI) : KeepsView (getParent c) :=
  .tryCatch (.bind (.defined c) fun _ => .bind (.liftUri _) fun _ => .map _ (.liftFs _)) fun _ => .pure _

theorem keepsView_tryResolve (c : Option URI) : KeepsView (tryResolve c) :=
  .tryCatch (.map _ (.bind (.defined c) fun _ => .liftFs _)) fun _ => .pure _

theorem keepsView_getDirectory (c : Option URI) : KeepsView (getDirectory c) := by
  refine .bind (keepsView_tryResolve c) fun r => ?_
  rcases r with _ | r
  · exact keepsView_getParent c
  · by_cases h : r.isDirectory <;> simp only [h] <;> first | exact .pure _ | exact keepsView_getParent c

theorem keepsView_contractParentUri (t : String) (u : Option URI) : KeepsView (contractParentUri t u) := by
  unfold contractParentUri; split
  · exact .map _ (.liftUri _)
  · exact .pure _

theorem keepsView_createInDirectory (p : Option URI) (name : String) (create : URI → FsM FileStat)
    (what success : String) : KeepsView (createInDirectory p name create what success) := by
  refine .bind (keepsView_getDirectory p) fun r => ?_
  rcases r with _ | parent
  · exact .log _ _
  · exact .bind (.liftUri _) fun _ => .bind (.log _ _) fun _ => .bind (.liftFs _) fun _ =>
      .bind (.fireCreateNewFile _) fun _ => .log _ _

theorem keepsView_newContractFolder (t n : String) (u : Option URI) : KeepsView (newContractFolder t n u) :=
  .tryCatch (.bind (keepsView_contractParentUri t u) fun _ => keepsView_createInDirectory _ _ _ _ _) fun _ => .log _ _

theorem keepsView_newContractFile (t n c : String) (u : Option URI) : KeepsView (newContractFile t n c u) :=
  .tryCatch (.bind (keepsView_contractParentUri t u) fun p => .bind (.log _ _) fun _ =>
    .bind (.defined p) fun _ => .bind (.log _ _) fun _ => .bind (.log _ _) fun _ =>
    keepsView_createInDirectory _ _ _ _ _) fun _ => .log _ _

/-- **`NEW_CONTRACT_FOLDER` returns**, and keeps the view. -/
theorem newContractFolder_run (t n : String) (u : Option URI) (s : Ide) :
    ∃ s', newContractFolder t n u s = .ok () s' ∧ s'.view = s.view := by
  obtain ⟨s', h⟩ : ∃ s', newContractFolder t n u s = .ok () s' := tryCatch_log_ok _ _ _ s
  exact ⟨s', h, by simpa [h] using keepsView_newContractFolder t n u s⟩

/-- **`NEW_CONTRACT_FILE` returns**, and keeps the view. -/
theorem newContractFile_run (t n c : String) (u : Option URI) (s : Ide) :
    ∃ s', newContractFile t n c u s = .ok () s' ∧ s'.view = s.view := by
  obtain ⟨s', h⟩ : ∃ s', newContractFile t n c u s = .ok () s' := tryCatch_log_ok _ _ _ s
  exact ⟨s', h, by simpa [h] using keepsView_newContractFile t n c u s⟩

end Limix.Workspace
