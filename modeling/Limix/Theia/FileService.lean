import Limix.Theia.Uri

/-!
# The disk and Theia's `FileService`

The disk provider reads a `file` URI as a place `URI.fsKey`: its authority (the host of a UNC path) and the names of
its `fsPath`, the path component as it stands, with the drive letter in lower case. On a POSIX disk a backslash is a
character of a name; Theia's `Path` makes it a slash, so the place of a URI's `Path`, `URI.pathKey`, is another place
when its path holds one (`URI.pathKey_eq_fsKey`).

The disk `Fs` holds a directory, writable or not, or a file with its text at a place; every host has a root
directory, and everything lies in a directory (`Fs.parent_dir`). Its two writes, `Fs.mkdir` and `Fs.writeFile`, put
one entry below a writable directory and never replace a directory.

`FsM` runs the file service on the disk; as in JavaScript, what an operation did before it throws stays done.
`resolve`, `fileExists`, `createFolder` (`mkdirp`: every missing directory down to the resource, an error at a file on
the way) and `createFile` (refused for an existing resource unless `overwrite`; missing parent directories made first)
follow `FileService` of `@theia/filesystem`.

Theia's `mkdirp` stats the resource, then walks up its `Path` to the first entry on the disk and creates downwards; as
nothing lies below a file, `mkdirpFrom` walks down from the root to the same entry.
-/

namespace Limix.Theia

/-! ## The disk -/

/-- What the disk holds at a place: a directory, which may be read-only, or a file and its text. -/
inductive Entry
  | dir (writable : Bool)
  | file (content : String)
deriving DecidableEq, Repr

/-- A place on the disk: the host of a UNC path (empty on the local disk) and the names of the path. -/
abbrev FsKey := String × List String

/-- Where the disk provider puts a URI: the names of `fsPath`. -/
def URI.fsKey (u : URI) : FsKey := (u.authority, segments (normalizeDrive u.codeUri.path.data))

/-- The place of the URI's `Path`, where `mkdirp` walks. -/
def URI.pathKey (u : URI) : FsKey := (u.authority, segments u.path.raw.data)

/-- Without a backslash in the path, the `Path` is at the URI's place. -/
theorem URI.pathKey_eq_fsKey {u : URI} (h : '\\' ∉ u.codeUri.path.data) : u.pathKey = u.fsKey := by
  simp only [URI.pathKey, URI.fsKey, URI.path, Path.ofString, normalizePathSeparator_of_not_mem h]

/-- A directory is at `k`. -/
def isDirEntry : Option Entry → Bool
  | some (.dir _) => true
  | _ => false

/-- A file is at `k`. -/
def isFileEntry : Option Entry → Bool
  | some (.file _) => true
  | _ => false

/-- The disk: every host has a root directory, and every entry lies in a directory. -/
structure Fs where
  entry : FsKey → Option Entry
  root_dir : ∀ a, isDirEntry (entry (a, [])) = true
  parent_dir : ∀ a k s, (entry (a, k ++ [s])).isSome → isDirEntry (entry (a, k)) = true

/-- The errors of the disk provider (`FileSystemProviderErrorCode`). -/
inductive DiskError
  | fileNotFound
  | fileExists
  | fileNotADirectory
  | fileIsADirectory
  | noPermissions
deriving DecidableEq, Repr

/-- `e` at `(a, k ++ [s])`, in the directory `k`, where no directory was. -/
def Fs.put (fs : Fs) (a : String) (k : List String) (s : String) (e : Entry)
    (hp : isDirEntry (fs.entry (a, k)) = true) (hn : isDirEntry (fs.entry (a, k ++ [s])) = false) : Fs where
  entry x := if x = (a, k ++ [s]) then some e else fs.entry x
  root_dir b := by
    have : (b, ([] : List String)) ≠ (a, k ++ [s]) := by simp
    simp only [this, if_false]; exact fs.root_dir b
  parent_dir b l t h := by
    simp only at h ⊢
    have old : (b, l ++ [t]) ≠ (a, k ++ [s]) → (fs.entry (b, l ++ [t])).isSome := fun hne => by
      rwa [if_neg hne] at h
    by_cases hl : (b, l) = (a, k ++ [s])
    · obtain ⟨rfl, rfl⟩ := Prod.mk.inj hl
      have := fs.parent_dir b (k ++ [s]) t (old (by simp))
      rw [hn] at this; contradiction
    · rw [if_neg hl]
      by_cases ht : (b, l ++ [t]) = (a, k ++ [s])
      · obtain ⟨rfl, hk⟩ := Prod.mk.inj ht
        rw [(List.append_inj' hk rfl).1]; exact hp
      · exact fs.parent_dir b l t (old ht)

/-- A disk with nothing but a writable root on every host. -/
def Fs.empty : Fs where
  entry x := if x.2 = [] then some (.dir true) else none
  root_dir _ := rfl
  parent_dir _ _ _ h := by simp at h

/-- Whether a writable directory is at the place. -/
def Fs.writable (fs : Fs) (x : FsKey) : Bool := fs.entry x == some (.dir true)

/-- The disk's `mkdir` of `(a, k ++ [s])`. -/
def Fs.mkdir (fs : Fs) (a : String) (k : List String) (s : String) : Except DiskError Fs :=
  if h : isDirEntry (fs.entry (a, k)) = true then
    if hn : (fs.entry (a, k ++ [s])).isSome then .error .fileExists
    else if fs.writable (a, k) then .ok (fs.put a k s (.dir true) h (by simp_all [isDirEntry]))
    else .error .noPermissions
  else if (fs.entry (a, k)).isSome then .error .fileNotADirectory else .error .fileNotFound

/-- The disk's write of a file at `(a, k ++ [s])`, creating or overwriting it. -/
def Fs.writeFile (fs : Fs) (a : String) (k : List String) (s : String) (content : String) : Except DiskError Fs :=
  if h : isDirEntry (fs.entry (a, k)) = true then
    if hn : isDirEntry (fs.entry (a, k ++ [s])) = true then .error .fileIsADirectory
    else if fs.writable (a, k) then .ok (fs.put a k s (.file content) h (by simpa using hn))
    else .error .noPermissions
  else if (fs.entry (a, k)).isSome then .error .fileNotADirectory else .error .fileNotFound

/-! ## The file service -/

/-- `FileStat`: the resource and its kind. -/
structure FileStat where
  resource : URI
  isFile : Bool
  isDirectory : Bool
deriving DecidableEq

/-- The errors of the file service, each with the resource it names. -/
inductive FileOperationError
  /-- No provider serves the scheme. -/
  | noProvider (resource : URI)
  /-- "Unable to resolve nonexistent file '{0}'" -/
  | notFound (resource : URI)
  /-- "Unable to create folder '{0}' that already exists but is not a directory" -/
  | notADirectory (resource : URI)
  /-- "Unable to create file '{0}' that already exists when overwrite flag is not set" -/
  | fileExists (resource : URI)
  /-- "Unable to write file '{0}' that is actually a directory" -/
  | isDirectory (resource : URI)
  /-- An error of the disk while writing the resource. -/
  | disk (e : DiskError) (resource : URI)
  /-- An error of `vscode-uri` while taking the parent of the resource. -/
  | uri (message : String)
deriving DecidableEq

/-- The state a method leaves, whether it returned or threw. -/
def stateOf {ε σ α : Type} : EStateM.Result ε σ α → σ
  | .ok _ s => s
  | .error _ s => s

/-- The file service at work on the disk. -/
abbrev FsM := EStateM FileOperationError Fs

/-- `withProvider`: the disk provider serves `file` URIs. -/
def withProvider (u : URI) : FsM FsKey :=
  if u.scheme = "file" then pure u.fsKey else throw (.noProvider u)

/-- `resolve`: the stat of an existing resource. -/
def resolve (u : URI) : FsM FileStat := do
  let k ← withProvider u
  match (← get).entry k with
  | some (.dir _) => pure ⟨u, false, true⟩
  | some (.file _) => pure ⟨u, true, false⟩
  | none => throw (.notFound u)

/-- `exists`. -/
def fileExists (u : URI) : FsM Bool := do
  let k ← withProvider u
  pure ((← get).entry k).isSome

/-- `mkdirp` for the resource `u` at `(a, dir ++ names)`, from the directory `dir` down. -/
def mkdirpFrom (u : URI) (a : String) : List String → List String → FsM Unit
  | _, [] => pure ()
  | dir, s :: rest => do
    match (← get).entry (a, dir ++ [s]) with
    | some (.dir _) => mkdirpFrom u a (dir ++ [s]) rest
    | some (.file _) => throw (.notADirectory u)
    | none =>
      match (← get).mkdir a dir s with
      | .ok fs => set fs; mkdirpFrom u a (dir ++ [s]) rest
      | .error e => throw (.disk e u)

/-- `mkdirp` of `u`, at `key` on the disk: the stat of `u`, and where nothing is, every missing directory down to the
`Path` of `u`. -/
def mkdirp (u : URI) (key : FsKey) : FsM Unit := do
  match (← get).entry key with
  | some (.dir _) => pure ()
  | some (.file _) => throw (.notADirectory u)
  | none => mkdirpFrom u key.1 [] u.pathKey.2

/-- `createFolder`: `mkdirp`, then the stat of `u`. -/
def createFolder (u : URI) : FsM FileStat := do
  let key ← withProvider u
  mkdirp u key
  resolve u

/-- `validateWriteFile` and the `mkdirp` after it: no write onto a directory, and the missing directories down to the
parent of a resource that is not there. -/
def prepareWrite (u : URI) (key : FsKey) : FsM Unit := do
  match (← get).entry key with
  | some (.dir _) => throw (.isDirectory u)
  | some (.file _) => pure ()
  | none =>
    match u.parent with
    | .ok p => mkdirp p p.fsKey
    | .error msg => throw (.uri msg)

/-- The provider's write of the file at `key`, in the directory of its other names. -/
def diskWrite (u : URI) (key : FsKey) (content : String) : FsM Unit := do
  match key.2.getLast?, (← get).writeFile key.1 key.2.dropLast (key.2.getLastD "") content with
  | some _, .ok fs => set fs
  | some _, .error e => throw (.disk e u)
  | none, _ => throw (.isDirectory u)

/-- `writeFile`: the checks and directories of `prepareWrite`, the write, and the stat of the file. -/
def writeFile (u : URI) (content : String) : FsM FileStat := do
  let key ← withProvider u
  prepareWrite u key
  diskWrite u key content
  resolve u

/-- The overwrite check of `createFile`: an existing resource is refused unless `overwrite`. -/
def validateCreate (u : URI) (overwrite : Bool) : FsM Unit :=
  if overwrite then pure () else do
    if ← fileExists u then throw (.fileExists u)

/-- `createFile`: refused for an existing resource unless `overwrite`. -/
def createFile (u : URI) (content : String) (overwrite : Bool) : FsM FileStat := do
  validateCreate u overwrite
  writeFile u content

end Limix.Theia
