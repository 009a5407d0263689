import Limix.GettingStarted.Skeleton
import Limix.Workspace.NewFolder

/-!
# `GettingStartedWidget`

The widget keeps the project form (name, blockchain, language, target path, whether the dialog is open). The folder
button writes the chosen folder's path without its first character into the path field (`openFolderDialog`);
`Create Project`, enabled once name, blockchain and language are set, runs `doCreateContract` on the path and the
name. For `Solana` that is a fixed run of commands: the project folder, `Anchor.toml`, `Cargo.toml`, `program/` and
`<name>.rs`, `tests/` and `<name>.ts`, a console line, and `OPEN_SMART_CONTRACT` of the project folder; each file gets
its template with every `{folderName}` replaced by the name through `String.prototype.replace`.

`System.step` is one user action on the widget and the frontend behind it, with what the dialogs answer: the widget's
controls, and the workspace commands `Open…`, `Open File…`, `Open Workspace…` and `New Folder…` of the menus, each
when it is enabled on the platform. A run is a list of actions; each runs to its end before the next starts.
-/

namespace Limix.GettingStarted

open Limix.Js Limix.Theia Limix.Workspace

/-! ## The form -/

/-- The fields `handleInputChange` sets. -/
inductive FormField
  | projectName
  | blockchain
  | language
  | path
deriving DecidableEq, Repr

/-- The state of the widget the project dialog reads and writes, with its initial values. -/
structure GettingStartedWidget where
  projectName : String := ""
  blockchain : String := ""
  language : String := ""
  isDialogOpen : Bool := false
  path : String := "C:"
deriving DecidableEq, Repr

/-- `handleInputChange(field, value)`. -/
def GettingStartedWidget.handleInputChange (w : GettingStartedWidget) : FormField → String → GettingStartedWidget
  | .projectName, v => { w with projectName := v }
  | .blockchain, v => { w with blockchain := v }
  | .language, v => { w with language := v }
  | .path, v => { w with path := v }

/-- `toggleDialog`. -/
def GettingStartedWidget.toggleDialog (w : GettingStartedWidget) : GettingStartedWidget :=
  { w with isDialogOpen := !w.isDialogOpen }

/-- `openFolderDialog`, given the folder dialog's answer: `selectedFolder.path.toString().slice(1)`. -/
def GettingStartedWidget.openFolderDialog (w : GettingStartedWidget) : Option URI → GettingStartedWidget
  | some selectedFolder => { w with path := ⟨selectedFolder.path.raw.data.drop 1⟩ }
  | none => w

/-- `isCreateButtonDisabled`: a field of the three is empty. -/
def GettingStartedWidget.isCreateButtonDisabled (w : GettingStartedWidget) : Bool :=
  w.projectName = "" || w.blockchain = "" || w.language = ""

/-! ## `doCreateContract` -/

/-- The placeholder of the templates, `{folderName}`. -/
def placeholder : String := "\x7bfolderName\x7d"

/-- `template.replace(/{folderName}/g, folderName)`. -/
def fillTemplate (template folderName : String) : String := replaceGlobal template placeholder folderName

/-- A project name without `$` goes into a template verbatim. -/
theorem fillTemplate_eq_replaceLiteral (template folderName : String) (h : '$' ∉ folderName.data) :
    fillTemplate template folderName = replaceLiteral template placeholder folderName :=
  replaceGlobal_eq_replaceLiteral _ _ _ h

theorem fillTemplate_eq_replaceLiteral_demo :
    '$' ∉ "demo".data ∧ fillTemplate anchorTomlContent "demo" = replaceLiteral anchorTomlContent placeholder "demo" :=
  ⟨by decide, fillTemplate_eq_replaceLiteral _ _ (by decide)⟩

/-- The project name `$&` leaves every template as it is, where a verbatim replacement writes `$&` into
`Anchor.toml`. -/
theorem fillTemplate_dollar_amp :
    (∀ template, fillTemplate template "$&" = template) ∧
      replaceLiteral anchorTomlContent placeholder "$&" ≠ anchorTomlContent :=
  ⟨fun t => replaceGlobal_dollar_amp t placeholder (by decide),
    fun h => absurd (congrArg (fun s => s.data.take 22) h) (by decide)⟩

/-- `doCreateContract(targetDirectory, folderName)`, on the widget's `blockchain`. -/
def doCreateContract (blockchain targetDirectory folderName : String) : IdeM Unit :=
  try
    executeCommand (.newContractFolder targetDirectory folderName none)
    let projectFolderPath := targetDirectory ++ "/" ++ folderName
    let anchorToml := fillTemplate anchorTomlContent folderName
    let cargoToml := fillTemplate cargoTomlContent folderName
    let programRs := fillTemplate programRsContent folderName
    let testTs := fillTemplate testTsContent folderName
    if blockchain = "Solana" then
      executeCommand (.newContractFile projectFolderPath "Anchor.toml" anchorToml none)
      executeCommand (.newContractFile projectFolderPath "Cargo.toml" cargoToml none)
      executeCommand (.newContractFolder projectFolderPath "program" none)
      executeCommand (.newContractFile (projectFolderPath ++ "/program") (folderName ++ ".rs") programRs none)
      executeCommand (.newContractFolder projectFolderPath "tests" none)
      executeCommand (.newContractFile (projectFolderPath ++ "/tests") (folderName ++ ".ts") testTs none)
      log .log [.str "Solana project structure created successfully."]
      executeCommand (.openSmartContract projectFolderPath)
  catch error => log .error [.str "Error creating contract structure:", .error error]

/-! ## User actions -/

/-- What the frontend runs on: `isOSX`, `environment.electron.is()`, and the `validFilename` of `valid-filename`. -/
structure Platform where
  isOSX : Bool
  isElectron : Bool
  validFilename : String → Bool

/-- The widget and the frontend behind it, on its platform. -/
structure System where
  widget : GettingStartedWidget
  ide : Ide
  platform : Platform

/-- What the user does, with what a dialog answers. -/
inductive UserAction
  /-- The name box or one of the two selects. -/
  | inputChange (field : FormField) (value : String)
  /-- The path box, `onChange={e => this.path = e.target.value}`. -/
  | pathInput (value : String)
  /-- `New Smart Contract` or `Cancel`. -/
  | toggleDialog
  /-- The folder button of the dialog, with the folder dialog's answer. -/
  | pickFolder (answer : Option URI)
  /-- `Create Project`. -/
  | createProject
  /-- `Open Folder`, with the folder dialog's answer. -/
  | openFolder (answer : Option (MaybeArray URI))
  /-- `Open…`, with the dialog's answer. -/
  | openResources (answer : Option (MaybeArray URI))
  /-- `Open File…`, with the dialog's answer. -/
  | openFile (answer : Option (MaybeArray URI))
  /-- `Open Workspace…`, with the dialog's answer. -/
  | openWorkspace (answer : Option URI)
  /-- `New Folder…` on a resource, with the text the name dialog was accepted with. -/
  | newFolder (uri : Option URI) (answer : Option String)

/-- One user action. The dialog's controls act only while it is open, `Create Project` only when enabled, and `Open…`
only on macOS or outside Electron. -/
def System.step (s : System) : UserAction → System
  | .inputChange f v => if s.widget.isDialogOpen then { s with widget := s.widget.handleInputChange f v } else s
  | .pathInput v => if s.widget.isDialogOpen then { s with widget := { s.widget with path := v } } else s
  | .toggleDialog => { s with widget := s.widget.toggleDialog }
  | .pickFolder a => if s.widget.isDialogOpen then { s with widget := s.widget.openFolderDialog a } else s
  | .createProject =>
    if s.widget.isDialogOpen && !s.widget.isCreateButtonDisabled then
      { s with ide := stateOf (doCreateContract s.widget.blockchain s.widget.path s.widget.projectName s.ide) }
    else s
  | .openFolder a => { s with ide := stateOf (doOpenFolder a s.ide) }
  | .openResources a =>
    if s.platform.isOSX || !s.platform.isElectron then
      { s with ide := stateOf (doOpen s.platform.isOSX s.platform.isElectron a s.ide) }
    else s
  | .openFile a => { s with ide := stateOf (doOpenFile a s.ide) }
  | .openWorkspace a => { s with ide := stateOf (doOpenWorkspace a s.ide) }
  | .newFolder u a => { s with ide := stateOf (newFolder s.platform.validFilename u a s.ide) }

/-- A run of user actions. -/
def System.run (s : System) (as : List UserAction) : System := as.foldl System.step s

end Limix.GettingStarted
