import Limix.GettingStarted.FolderPath
import Limix.Workspace.Open

/-!
# `Create Project` opens the project whatever was created

`doCreateContract` awaits each command, but the handlers catch their own errors (`newContractFolder_run`,
`newContractFile_run`), so the `catch` of `doCreateContract` never sees a failed step. Once the project folder's URI
parses and is not the workspace already open, the project folder is opened on every disk
(`doCreateContract_opens_project`), whether or not any folder or file was made.

On a disk that holds only its root, `home/missing` and `demo` make nothing, yet the success line is logged and
`/home/missing/demo` is opened (`doCreateContract_empty_disk`).
-/

namespace Limix.GettingStarted

open Limix.Js Limix.Theia Limix.Workspace

/-! ## Opening the project folder -/

/-- `OPEN_SMART_CONTRACT` opens the folder its argument parses to, without looking at the disk. -/
theorem doOpenSmartContract_run {l : String} {u : URI} (hu : URI.parse (contractUriString l) = .ok u) (s : Ide)
    (hw : ∀ w, s.workspace = some w → u.isEqual w = false) :
    ∃ s', doOpenSmartContract l s = .ok (some u) s' ∧ s'.opened = s.opened ++ [u] := by
  unfold doOpenSmartContract
  rw [hu]
  exact ⟨_, openIfNew_some hw, rfl⟩

/-- **`Create Project` opens the project folder on every disk**: the six steps before never throw and never open a
workspace, so the run reaches `OPEN_SMART_CONTRACT` however they ended. -/
theorem doCreateContract_opens_project (t n : String) (s : Ide) {u : URI}
    (hu : URI.parse (contractUriString (t ++ "/" ++ n)) = .ok u)
    (hw : ∀ w, s.workspace = some w → u.isEqual w = false) :
    ∃ s', doCreateContract "Solana" t n s = .ok () s' ∧ s'.opened = s.opened ++ [u] := by
  obtain ⟨s₁, h₁, v₁⟩ := newContractFolder_run t n none s
  obtain ⟨s₂, h₂, v₂⟩ := newContractFile_run (t ++ "/" ++ n) "Anchor.toml" (fillTemplate anchorTomlContent n) none s₁
  obtain ⟨s₃, h₃, v₃⟩ := newContractFile_run (t ++ "/" ++ n) "Cargo.toml" (fillTemplate cargoTomlContent n) none s₂
  obtain ⟨s₄, h₄, v₄⟩ := newContractFolder_run (t ++ "/" ++ n) "program" none s₃
  obtain ⟨s₅, h₅, v₅⟩ := newContractFile_run (t ++ "/" ++ n ++ "/program") (n ++ ".rs")
    (fillTemplate programRsContent n) none s₄
  obtain ⟨s₆, h₆, v₆⟩ := newContractFolder_run (t ++ "/" ++ n) "tests" none s₅
  obtain ⟨s₇, h₇, v₇⟩ := newContractFile_run (t ++ "/" ++ n ++ "/tests") (n ++ ".ts")
    (fillTemplate testTsContent n) none s₆
  have hv : s₇.view = s.view := v₇.trans <| v₆.trans <| v₅.trans <| v₄.trans <| v₃.trans <| v₂.trans v₁
  have hop : s₇.opened = s.opened := congrArg (fun v => v.2.2) hv
  have hws : s₇.workspace = s.workspace := congrArg Prod.fst hv
  obtain ⟨s₈, h₈, ho⟩ := doOpenSmartContract_run hu
    { s₇ with console := s₇.console ++ [⟨.log, [.str "Solana project structure created successfully."]⟩] }
    (hws ▸ hw)
  refine ⟨s₈, run_tryCatch_ok ?_, ho.trans (congrArg (· ++ [u]) hop)⟩
  simp only [executeCommand, run_bind_ok h₁, run_bind_ok h₂, run_bind_ok h₃, run_bind_ok h₄, run_bind_ok h₅,
    run_bind_ok h₆, run_bind_ok h₇, if_pos]
  exact (run_bind_ok rfl).trans ((run_bind_ok h₈).trans rfl)

/-- The project folder `/home/demo`. -/
def homeDemo : URI := ⟨⟨"file", "", "/home/demo", "", "", by decide⟩⟩

theorem doCreateContract_opens_project_home :
    URI.parse (contractUriString ("home" ++ "/" ++ "demo")) = .ok homeDemo ∧
      (∀ w, (Ide.init Fs.empty homeUser).workspace = some w → homeDemo.isEqual w = false) ∧
      ∃ s', doCreateContract "Solana" "home" "demo" (Ide.init Fs.empty homeUser) = .ok () s' ∧
        s'.opened = (Ide.init Fs.empty homeUser).opened ++ [homeDemo] :=
  ⟨rfl, fun _ h => Option.noConfusion h,
    doCreateContract_opens_project "home" "demo" _ rfl fun _ h => Option.noConfusion h⟩

/-! ## A target that is not there -/

/-- The project folder `/home/missing/demo`. -/
def missingProject : URI := ⟨⟨"file", "", "/home/missing/demo", "", "", by decide⟩⟩

/-- On a disk with nothing but its root, `Create Project` in `home/missing` makes no folder and no file, fires no
event, and still logs its success line and opens `/home/missing/demo`. -/
theorem doCreateContract_empty_disk :
    ∃ s', doCreateContract "Solana" "home/missing" "demo" (Ide.init Fs.empty homeUser) = .ok () s' ∧
      ⟨.log, [.str "Solana project structure created successfully."]⟩ ∈ s'.console ∧
      s'.opened = [missingProject] ∧ s'.created = [] ∧ s'.fs.entry ("", ["home", "missing", "demo"]) = none :=
  ⟨_, rfl, by decide⟩

end Limix.GettingStarted
