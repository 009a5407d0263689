import Limix.Theia.Effects

/-!
# `WorkspaceFrontendContribution`: the commands

The frontend's state `Ide` is the disk, the workspace that is open, the draws of `Math.random()` that name untitled
workspace files, and what the code leaves behind: the workspaces it asked to open, the `DidCreateNewResourceEvent`s it fired,
the console and the editors it opened. `IdeM` runs a method on it; a thrown error keeps what was done before it, as in JavaScript.

The handlers of `NEW_CONTRACT_FOLDER` and `NEW_CONTRACT_FILE` turn the target directory into the URI
`file:///` + `encodeURIComponent` of it with backslashes made slashes (`contractUriString`), resolve the name against
the directory `getDirectory` finds, create, fire the event, and catch every error into the console. `OPEN_FOLDER` and
`OPEN_SMART_CONTRACT` open what `getOpenableWorkspaceUri` gives unless it is the workspace already open; for two or
more folders it writes a new untitled workspace file (`createMultiRootWorkspace`), one that `getUntitledWorkspace`
draws until the disk has nothing there, fifty times at most.
-/

namespace Limix.Workspace

open Limix.Js Limix.Theia

/-! ## State -/

/-- `MaybeArray<T>`. -/
inductive MaybeArray (α : Type)
  | one (a : α)
  | many (as : List α)
deriving DecidableEq

/-- What a method of the frontend throws. -/
inductive JsError
  /-- The `Error` of `vscode-uri`'s constructor. -/
  | uriError (message : String)
  /-- An error of the file service. -/
  | fileOperation (e : FileOperationError)
  /-- A property read on `undefined`. -/
  | typeError
  /-- An `Error` thrown with its message. -/
  | error (message : String)
deriving DecidableEq

/-- `DidCreateNewResourceEvent`. -/
structure DidCreateNewResourceEvent where
  uri : URI
  parent : Option URI
deriving DecidableEq

/-- A value handed to `console`. -/
inductive LogArg
  | str (s : String)
  | uri (u : URI)
  | maybeUri (u : Option URI)
  | selection (s : Option (MaybeArray URI))
  | error (e : JsError)
deriving DecidableEq

/-- `console.log`, `console.warn`, `console.error`. -/
inductive LogLevel
  | log
  | warn
  | error
deriving DecidableEq, Repr

/-- One console call. -/
structure LogEntry where
  level : LogLevel
  args : List LogArg
deriving DecidableEq

/-- The frontend: the disk, the open workspace, the draws that name untitled workspace files, and what the code leaves
behind. -/
structure Ide where
  fs : Fs
  /-- `workspaceService.workspace?.resource`. -/
  workspace : Option URI
  /-- The URIs `getUntitledWorkspaceUri` draws in turn, `Untitled-<n>.<extension>` in the `workspaces` directory of the
  configuration directory, `n` the turn's `Math.round(Math.random() * 1000)`. -/
  untitledDraws : Nat → URI
  /-- How many of them have been drawn. -/
  drawn : Nat
  /-- Every `workspaceService.open(uri)`, oldest first. -/
  opened : List URI
  /-- Every `DidCreateNewResourceEvent` fired, oldest first. -/
  created : List DidCreateNewResourceEvent
  /-- The console, oldest entry first. -/
  console : List LogEntry
  /-- Every `open(openerService, uri)`, an editor for the resource, oldest first. -/
  editors : List URI

/-- A frontend on the disk `fs` with no workspace open and nothing done yet, whose draws all name `untitled`. -/
def Ide.init (fs : Fs) (untitled : URI) : Ide := ⟨fs, none, fun _ => untitled, 0, [], [], [], []⟩

/-- A method of the frontend at work. -/
abbrev IdeM := EStateM JsError Ide

/-- A `vscode-uri` result; its `Error` is thrown. -/
def liftUri {α : Type} : Except String α → IdeM α
  | .ok a => pure a
  | .error m => throw (.uriError m)

/-- A file-service call on the disk. -/
def liftFs {α : Type} (x : FsM α) : IdeM α := fun ide =>
  match x ide.fs with
  | .ok a fs => .ok a { ide with fs := fs }
  | .error e fs => .error (.fileOperation e) { ide with fs := fs }

/-- A value that may be `undefined`: reading a property of `undefined` throws. -/
def defined {α : Type} : Option α → IdeM α
  | some a => pure a
  | none => throw .typeError

/-- A console call. -/
def log (level : LogLevel) (args : List LogArg) : IdeM Unit :=
  modify fun ide => { ide with console := ide.console ++ [⟨level, args⟩] }

/-- `fireCreateNewFile`. -/
def fireCreateNewFile (e : DidCreateNewResourceEvent) : IdeM Unit :=
  modify fun ide => { ide with created := ide.created ++ [e] }

/-- `workspaceService.open(uri)`. -/
def openWorkspace (u : URI) : IdeM Unit :=
  modify fun ide => { ide with opened := ide.opened ++ [u] }

/-- `open(openerService, uri)`: an editor for the resource. -/
def openEditor (u : URI) : IdeM Unit :=
  modify fun ide => { ide with editors := ide.editors ++ [u] }

/-! ## Directories -/

/-- `getParent`: the stat of the candidate's parent, whatever it is, or `undefined`. -/
def getParent (candidate : Option URI) : IdeM (Option FileStat) :=
  try
    let c ← defined candidate
    let p ← liftUri c.parent
    some <$> liftFs (resolve p)
  catch _ => pure none

/-- `try { stat = await this.fileService.resolve(candidate); } catch { }`: the stat, or `undefined`. -/
def tryResolve (candidate : Option URI) : IdeM (Option FileStat) :=
  try some <$> (defined candidate >>= fun c => liftFs (resolve c)) catch _ => pure none

/-- `getDirectory`: the candidate if it is a directory, otherwise `getParent`. -/
def getDirectory (candidate : Option URI) : IdeM (Option FileStat) := do
  match ← tryResolve candidate with
  | some s => if s.isDirectory then pure (some s) else getParent candidate
  | none => getParent candidate

/-! ## `NEW_CONTRACT_FOLDER` and `NEW_CONTRACT_FILE` -/

/-- `file:///${encodeURIComponent(targetDirectory.replace(/\\/g, '/'))}`. -/
def contractUriString (targetDirectory : String) : String :=
  "file:///" ++ encodeURIComponent (replaceBackslashes targetDirectory)

/-- The `parentUri` of both handlers: the URI of a non-empty target directory, otherwise the `uri` argument. -/
def contractParentUri (targetDirectory : String) (uri : Option URI) : IdeM (Option URI) :=
  if targetDirectory ≠ "" then some <$> liftUri (URI.parse (contractUriString targetDirectory)) else pure uri

/-- What both handlers do once they have `parentUri`: find the directory, resolve `name` against it, make the resource
with `create`, fire the event, and log the resource after `what` and after `success`. -/
def createInDirectory (parentUri : Option URI) (name : String) (create : URI → FsM FileStat) (what success : String) :
    IdeM Unit := do
  match ← getDirectory parentUri with
  | some parent =>
    let resourceUri ← liftUri (parent.resource.resolve name)
    log .log [.str what, .uri resourceUri]
    let _ ← liftFs (create resourceUri)
    fireCreateNewFile ⟨resourceUri, parentUri⟩
    log .log [.str success, .uri resourceUri]
  | none => log .warn [.str "Parent directory could not be found or is invalid."]

/-- The handler of `NEW_CONTRACT_FOLDER`. -/
def newContractFolder (targetDirectory folderName : String) (uri : Option URI) : IdeM Unit :=
  try
    let parentUri ← contractParentUri targetDirectory uri
    createInDirectory parentUri (if folderName = "" then "Untitled" else folderName) createFolder "folderUri ->"
      "Folder successfully created at:"
  catch error => log .error [.str "Error creating folder:", .error error]

/-- The handler of `NEW_CONTRACT_FILE`: the same, with three console lines first, and a `TypeError` for an undefined
`parentUri`. -/
def newContractFile (targetDirectory fileName content : String) (uri : Option URI) : IdeM Unit :=
  try
    let parentUri ← contractParentUri targetDirectory uri
    log .log [.str "targetDirectory ->", .str targetDirectory]
    let p ← defined parentUri
    log .log [.str "parentUri ->", .uri p]
    log .log [.str "fileName ->", .str fileName]
    createInDirectory parentUri fileName (fun u => createFile u content false) "fileUri ->"
      "File successfully created at:"
  catch error => log .error [.str "Error creating file:", .error error]

/-! ## The untitled workspace file -/

/-- One entry `{ path }` of `folders`. -/
structure WorkspaceFolder where
  path : String
deriving DecidableEq, Repr

/-- The object `createMultiRootWorkspace` writes, `{ folders }`. -/
structure WorkspaceData where
  folders : List WorkspaceFolder
deriving DecidableEq, Repr

/-- A lower-case hexadecimal digit, as `UnicodeEscape` writes it. -/
def lowerHexDigit (n : Nat) : Char := if n < 10 then Char.ofNat (48 + n) else Char.ofNat (87 + n)

/-- One character as `QuoteJSONString` writes it. -/
def quoteJSONChar (c : Char) : List Char :=
  if c = Char.ofNat 8 then ['\\', 'b'] else if c = '\t' then ['\\', 't'] else if c = '\n' then ['\\', 'n']
  else if c = Char.ofNat 12 then ['\\', 'f'] else if c = '\r' then ['\\', 'r'] else if c = '"' then ['\\', '"']
  else if c = '\\' then ['\\', '\\']
  else if c.toNat < 0x20 then ['\\', 'u', '0', '0', lowerHexDigit (c.toNat / 16), lowerHexDigit (c.toNat % 16)]
  else [c]

/-- `QuoteJSONString`. -/
def quoteJSONString (s : String) : String := "\"" ++ ⟨s.data.flatMap quoteJSONChar⟩ ++ "\""

/-- `JSON.stringify(data, null, 4)`: a member or an element on a line of its own, four more spaces in at each level,
and `[]` for no folders. -/
def WorkspaceData.stringify (d : WorkspaceData) : String :=
  "\x7b\n    \"folders\": " ++ folders d.folders ++ "\n\x7d"
where
  /-- The array `folders`, at the indent of its member. -/
  folders : List WorkspaceFolder → String
    | [] => "[]"
    | fs => "[\n        " ++ ",\n        ".intercalate (fs.map fun f =>
        "\x7b\n            \"path\": " ++ quoteJSONString f.path ++ "\n        \x7d") ++ "\n    ]"

/-- The entries of an array in the order `new Set(array)` keeps them: each the first time it comes. -/
def setFrom {α : Type} [DecidableEq α] (l : List α) : List α :=
  l.foldl (fun s x => if x ∈ s then s else s ++ [x]) []

/-- One draw of `getUntitledWorkspaceUri`: the next URI of the table. -/
def drawUntitled : IdeM URI :=
  modifyGet fun ide => (ide.untitledDraws ide.drawn, { ide with drawn := ide.drawn + 1 })

/-- The `do … while` of `getUntitledWorkspaceUri`, with `left` attempts before the fiftieth, which throws before its
URI is looked at; a URI where `fileService.exists` finds nothing ends it. -/
def untitledWorkspaceLoop : Nat → IdeM URI
  | 0 => do
    let _ ← drawUntitled
    throw (.error "Workspace Service: too many attempts to find unused filename.")
  | left + 1 => do
    let uri ← drawUntitled
    if ← liftFs (fileExists uri) then untitledWorkspaceLoop left else pure uri

/-- `workspaceService.getUntitledWorkspace()`: a new untitled workspace file, where the disk has nothing. -/
def getUntitledWorkspace : IdeM URI := untitledWorkspaceLoop 49

/-- `createMultiRootWorkspace`: a new untitled workspace file, written with the distinct root paths. -/
def createMultiRootWorkspace (roots : List FileStat) : IdeM URI := do
  let untitledWorkspace ← getUntitledWorkspace
  let folders := (setFrom (roots.map fun stat => stat.resource.path.raw)).map WorkspaceFolder.mk
  let workspaceStat ← liftFs (createFile untitledWorkspace (WorkspaceData.stringify ⟨folders⟩) true)
  pure workspaceStat.resource

/-! ## Opening -/

/-- `getOpenableWorkspaceUri`: a single URI or the entry of a one-entry array as it is; for more, the one directory
among them, or else a new untitled workspace of the directories. -/
def getOpenableWorkspaceUri : MaybeArray URI → IdeM (Option URI)
  | .one u => pure (some u)
  | .many us =>
    if us.length < 2 then pure us.head?
    else do
      let stats ← us.mapM fun u => liftFs (resolve u)
      match stats.filter (·.isDirectory) with
      | [folder] => pure (some folder.resource)
      | foldersToOpen => some <$> createMultiRootWorkspace foldersToOpen

/-- The common end of `doOpenFolder` and `doOpenSmartContract`: open what is openable unless it is the workspace
already open, and return it. -/
def openIfNew (openableUri : Option URI) : IdeM (Option URI) := do
  match openableUri with
  | some u =>
    match (← get).workspace with
    | some w => if u.isEqual w then pure none else do openWorkspace u; pure (some u)
    | none => do openWorkspace u; pure (some u)
  | none => pure none

/-- `doOpenFolder`, given what the `Open Folder` dialog returns. -/
def doOpenFolder (targetFolders : Option (MaybeArray URI)) : IdeM (Option URI) := do
  log .log [.selection targetFolders]
  match targetFolders with
  | some t =>
    let openableUri ← getOpenableWorkspaceUri t
    log .log [.maybeUri openableUri]
    openIfNew openableUri
  | none => pure none

/-- `if (!Array.isArray(uris)) uris = [uris]`. -/
def MaybeArray.toList {α : Type} : MaybeArray α → List α
  | .one a => [a]
  | .many as => as

/-- The loop of `doOpenFile`: each selected resource resolved, and a file opened and pushed onto `result`. -/
def openFilesFrom (result : List URI) : List URI → IdeM (List URI)
  | [] => pure result
  | uri :: uris => do
    let destination ← liftFs (resolve uri)
    if destination.isFile then
      openEditor uri
      openFilesFrom (result ++ [uri]) uris
    else openFilesFrom result uris

/-- `doOpenFile`, given what the `Open File` dialog returns: the files of the selection, each opened. -/
def doOpenFile (selectedFilesUris : Option (MaybeArray URI)) : IdeM (Option (List URI)) :=
  match selectedFilesUris with
  | some uris => some <$> openFilesFrom [] uris.toList
  | none => pure none

/-- `getCurrentWorkspaceUri()?.toString() === uri.toString()`. -/
def Ide.isCurrentWorkspace (ide : Ide) (uri : URI) : Bool :=
  match ide.workspace with
  | some w => w.sameString uri
  | none => false

/-- The loop of `doOpen`: a file is opened, and a directory other than the workspace open is pushed onto `folders`. -/
def openOrCollect (folders : List URI) : List URI → IdeM (List URI)
  | [] => pure folders
  | uri :: uris => do
    let destination ← liftFs (resolve uri)
    if destination.isDirectory then
      if (← get).isCurrentWorkspace uri then openOrCollect folders uris
      else openOrCollect (folders ++ [uri]) uris
    else
      openEditor uri
      openOrCollect folders uris

/-- The end of `doOpen`: the workspace `getOpenableWorkspaceUri` makes of the folders, if there are any, opened unless
it is the one open. -/
def openFolders (folders : List URI) : IdeM Unit :=
  if folders.length > 0 then do
    let openableURI ← getOpenableWorkspaceUri (.many folders)
    let _ ← openIfNew openableURI
  else pure ()

/-- `doOpen`, given the platform and what the dialog returns: on Windows and Linux in Electron it is `doOpenFile`;
elsewhere the files of the selection are opened and its folders become the workspace. -/
def doOpen (isOSX isElectron : Bool) (selectedUris : Option (MaybeArray URI)) : IdeM (Option (List URI)) :=
  if !isOSX && isElectron then doOpenFile selectedUris
  else
    match selectedUris with
    | some uris => do
      let folders ← openOrCollect [] uris.toList
      openFolders folders
      pure (some uris.toList)
    | none => pure none

/-- `doOpenWorkspace`, given what the `Open Workspace` dialog returns: the file, opened if it is not the workspace open
and exists. -/
def doOpenWorkspace (workspaceFileUri : Option URI) : IdeM (Option URI) :=
  match workspaceFileUri with
  | some w => do
    if (← get).isCurrentWorkspace w then pure none
    else if ← liftFs (fileExists w) then do
      openWorkspace w
      pure (some w)
    else pure none
  | none => pure none

/-- `doOpenSmartContract`. -/
def doOpenSmartContract (folderLink : String) : IdeM (Option URI) := do
  let targetFolderUri ← liftUri (URI.parse (contractUriString folderLink))
  log .log [.uri targetFolderUri]
  let openableUri ← getOpenableWorkspaceUri (.many [targetFolderUri])
  log .log [.maybeUri openableUri]
  openIfNew openableUri

/-! ## The command registry -/

/-- The commands the getting-started widget runs, with their arguments. -/
inductive Command
  | newContractFolder (targetDirectory folderName : String) (uri : Option URI)
  | newContractFile (targetDirectory fileName content : String) (uri : Option URI)
  | openSmartContract (folderLink : String)
deriving DecidableEq

/-- `commandRegistry.executeCommand`: the handler of the command. -/
def executeCommand : Command → IdeM Unit
  | .newContractFolder t n u => newContractFolder t n u
  | .newContractFile t n c u => newContractFile t n c u
  | .openSmartContract l => do let _ ← doOpenSmartContract l

end Limix.Workspace
