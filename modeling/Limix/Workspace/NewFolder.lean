import Limix.Workspace.Placement

/-!
# `New Folder…`

`NEW_FOLDER` asks `getDirectory` for a directory, opens a dialog that accepts a name only once `validateFileName` finds
nothing wrong with it, and makes the folder `parentUri.resolve(name)` with `createFolder`, firing its
`DidCreateNewResourceEvent`. `validFilename` of the `valid-filename` package is a parameter: the results below ask of
it only that it refuses `.` and `..`.

* `validateFileName_accepted`: a name `validateFileName` accepts is cut by `split(/[\\/]/)` into non-empty pieces that
  each pass `validFilename`;
* `names_plain`: so none of the names between its slashes, once `Path` has made its backslashes slashes, is `.` or
  `..`;
* `resolve_fsKey`: such a name, resolved against an existing resource whose path holds no backslash, lands at or below
  it;
* `newFolder_below`: **`NEW_FOLDER` makes directories only strictly below the directory it found**, and its event names
  that directory as the parent, and a folder at or below it;
* `newFolder_makes`: in a writable directory, over a way that holds nothing but writable directories, it does make the
  folder the user names, and announces it.

Both ask that the path of the directory given hold no backslash. On the disk a backslash is a character of a name,
but `Path` makes it a slash: `resolve` then leaves the directory found, and `mkdirp` makes what is missing on the way,
outside it, or meets a file there and throws (the examples after the two theorems).
-/

namespace Limix.Workspace

open Limix.Js Limix.Theia

/-! ## The handler -/

/-- `\s` of a JavaScript regular expression. -/
def isJsWhiteSpace (c : Char) : Bool :=
  c == '\t' || c == '\n' || c == '\u000b' || c == '\u000c' || c == '\r' || c == ' ' || c == '\u00a0' ||
    c == '\u1680' || (decide ('\u2000' ≤ c) && decide (c ≤ '\u200a')) || c == '\u2028' || c == '\u2029' ||
    c == '\u202f' || c == '\u205f' || c == '\u3000' || c == '\ufeff'

/-- `/^\s+$/.test(file)`. -/
def isBlank (file : String) : Bool := !file.data.isEmpty && file.data.all isJsWhiteSpace

/-- `name.split(/[\\/]/)`. -/
def splitOnSlashes (name : String) : List String :=
  (name.data.splitOnP fun c => c == '\\' || c == '/').map String.mk

/-- `trimFileName`: the first 30 characters of a longer name and an ellipsis. The model's strings are of characters,
where `length` and `substring` count UTF-16 units: the two agree on names without characters outside the Basic
Multilingual Plane. -/
def trimFileName (name : String) : String :=
  if name ≠ "" ∧ name.length > 30 then ⟨name.data.take 30⟩ ++ "..." else name

/-- `validateFileName`: what is wrong with `name` as a child of `parent`, or `''`; `startsWith` and `endsWith` compare
the characters. The texts are the defaults of `nls.localizeByDefault`; the first is given no argument, and keeps its
`{0}`. -/
def validateFileName (validFilename : String → Bool) (name : String) (parent : FileStat) (allowNested : Bool) :
    IdeM String :=
  if name = "" then pure ""
  else if !allowNested && !validFilename name then
    pure "The name **\x7b0\x7d** is not valid as a file or folder name. Please choose a different name."
  else if "/".data.isPrefixOf name.data then pure "A file or folder name cannot start with a slash."
  else if " ".data.isPrefixOf name.data || " ".data.isSuffixOf name.data then
    pure "Leading or trailing whitespace detected in file or folder name."
  else if (splitOnSlashes name).any fun file => file == "" || !validFilename file || isBlank file then
    pure ("\x27" ++ trimFileName name ++ "\x27 is not a valid file name")
  else do
    let childUri ← liftUri (parent.resource.resolve name)
    let childExists ← liftFs (fileExists childUri)
    if childExists then
      pure ("A file or folder **" ++ trimFileName name ++
        "** already exists at this location. Please choose a different name.")
    else pure ""

/-- The `WorkspaceInputDialog` of `NEW_FOLDER`, given the text the user accepted it with, or `none` for `Cancel`: a text
`validate` finds something wrong with does not close it, and the user is left to cancel. -/
def inputDialog (validate : String → IdeM String) : Option String → IdeM (Option String)
  | some value => do
    let message ← validate value
    pure (if message = "" then some value else none)
  | none => pure none

/-- The handler of `NEW_FOLDER`, given the dialog's answer. `parentUri.resolve('Untitled')` is where the name the
dialog opens with is looked for. -/
def newFolder (validFilename : String → Bool) (uri : Option URI) (answer : Option String) : IdeM Unit := do
  match ← getDirectory uri with
  | some parent =>
    let parentUri := parent.resource
    let _ ← liftUri (parentUri.resolve "Untitled")
    match ← inputDialog (fun name => validateFileName validFilename name parent true) answer with
    | some name =>
      if name = "" then pure ()
      else do
        let folderUri ← liftUri (parentUri.resolve name)
        let _ ← liftFs (createFolder folderUri)
        fireCreateNewFile ⟨folderUri, some parentUri⟩
    | none => pure ()
  | none => pure ()

/-! ## The directory found -/

theorem statOf_resolves {u : URI} {fs : Fs} {st : FileStat} (h : statOf u fs = some st) : Resolves fs st.resource := by
  rw [(statOf_eq_some h).1]
  by_contra hn
  obtain ⟨e, he⟩ := resolve_of_not_resolves hn
  simp [statOf, he] at h

/-- `getDirectory` changes nothing, and what it finds is on the disk: the candidate, or its parent. -/
theorem getDirectory_resolves (c : Option URI) (s : Ide) :
    ∃ r, getDirectory c s = .ok r s ∧ ∀ st, r = some st → Resolves s.fs st.resource ∧
      ∃ P, c = some P ∧ (st.resource = P ∨ P.parent = .ok st.resource) := by
  rcases c with _ | P
  · exact ⟨none, rfl, fun _ h => nomatch h⟩
  have hp : ∃ r, getParent (some P) s = .ok r s ∧ ∀ st, r = some st → Resolves s.fs st.resource ∧
      ∃ P', some P = some P' ∧ (st.resource = P' ∨ P'.parent = .ok st.resource) := by
    refine ⟨_, getParent_some P s, fun st h => ?_⟩
    rcases hpp : P.parent with _ | p <;> rw [hpp] at h
    · cases h
    · exact ⟨statOf_resolves h, P, rfl, .inr (by rw [hpp, (statOf_eq_some h).1])⟩
  unfold getDirectory
  rw [run_bind_ok (tryResolve_some P s)]
  rcases hst : statOf P s.fs with _ | st
  · exact hp
  · dsimp only
    split
    · exact ⟨_, rfl, fun _ h =>
        Option.some.inj h ▸ ⟨statOf_resolves hst, P, rfl, .inl (statOf_eq_some hst).1⟩⟩
    · exact hp

/-- `getDirectory` finds a directory that is there. -/
theorem getDirectory_dir {P : URI} {s : Ide} (hs : P.scheme = "file") {w : Bool}
    (hP : s.fs.entry P.fsKey = some (.dir w)) : getDirectory (some P) s = .ok (some ⟨P, false, true⟩) s := by
  have hst : statOf P s.fs = some ⟨P, false, true⟩ := by simp [statOf, resolve_eq, hs, hP]
  unfold getDirectory
  rw [run_bind_ok (tryResolve_some P s), hst]
  rfl

/-! ## A name `validateFileName` accepts -/

section Validate

variable {validFilename : String → Bool} {name : String} {parent : FileStat} {b : Bool}

/-- A check that answers with a message at once changes nothing when what follows it changes nothing. -/
theorem stateOf_ite_pure {s : Ide} {c : Prop} [Decidable c] {m : String} {x : IdeM String}
    (hx : stateOf (x s) = s) : stateOf ((if c then pure m else x) s) = s := by
  split
  · rfl
  · exact hx

/-- A check that answers with a message at once gives `''` only when it passes, through what follows it. -/
theorem ite_pure_eq_ok {s s' : Ide} {c : Prop} [Decidable c] {m : String} {x : IdeM String} (hm : m ≠ "")
    (h : (if c then pure m else x) s = .ok "" s') : ¬ c ∧ x s = .ok "" s' := by
  split at h
  · cases h; exact absurd rfl hm
  · exact ⟨‹_›, h⟩

/-- Asking whether a resource exists changes nothing. -/
theorem stateOf_liftUri_fileExists_bind {r : Except String URI} {f : Bool → IdeM String}
    (hf : ∀ b s, stateOf (f b s) = s) (s : Ide) :
    stateOf ((liftUri r >>= fun u => liftFs (fileExists u) >>= f) s) = s := by
  rcases r with msg | u
  · rfl
  rw [run_liftUri_ok_bind]
  rcases h : fileExists u s.fs with ⟨x, fs⟩ | ⟨e, fs⟩
  all_goals have hfs : fs = s.fs := by simpa [h] using stateOf_fileExists u s.fs
  all_goals subst hfs
  · rw [run_bind_ok (by rw [liftFs_eq, h])]; exact hf x s
  · rw [run_bind_error (by rw [liftFs_eq, h])]; rfl

/-- `validateFileName` reads the disk and changes nothing. -/
theorem stateOf_validateFileName (s : Ide) : stateOf (validateFileName validFilename name parent b s) = s := by
  unfold validateFileName
  exact stateOf_ite_pure <| stateOf_ite_pure <| stateOf_ite_pure <| stateOf_ite_pure <| stateOf_ite_pure <|
    stateOf_liftUri_fileExists_bind (fun b _ => by cases b <;> rfl) s

/-- The pieces of a name `validateFileName` accepts are non-empty and pass `validFilename`. -/
theorem validateFileName_accepted {s s' : Ide} (hn : name ≠ "")
    (h : validateFileName validFilename name parent b s = .ok "" s') :
    ∀ file ∈ splitOnSlashes name, file ≠ "" ∧ validFilename file = true := by
  unfold validateFileName at h
  rw [if_neg hn] at h
  obtain ⟨-, h⟩ := ite_pure_eq_ok (by decide) h
  obtain ⟨-, h⟩ := ite_pure_eq_ok (by decide) h
  obtain ⟨-, h⟩ := ite_pure_eq_ok (by decide) h
  obtain ⟨hpieces, -⟩ := ite_pure_eq_ok (fun he => by simpa using congrArg String.data he) h
  have hpieces' : ∀ x ∈ splitOnSlashes name, (x ≠ "" ∧ validFilename x = true) ∧ isBlank x = false := by
    simpa [not_or] using hpieces
  exact fun file hf => (hpieces' file hf).1

/-- The dialog changes nothing, and what it gives back passed `validateFileName`. -/
theorem inputDialog_validateFileName (answer : Option String) (s : Ide) :
    stateOf (inputDialog (fun name => validateFileName validFilename name parent true) answer s) = s ∧
      ∀ name s', inputDialog (fun name => validateFileName validFilename name parent true) answer s =
        .ok (some name) s' → name ≠ "" → ∀ file ∈ splitOnSlashes name, file ≠ "" ∧ validFilename file = true := by
  rcases answer with _ | v
  · exact ⟨rfl, fun _ _ h => nomatch h⟩
  have hs := @stateOf_validateFileName validFilename v parent true s
  dsimp only [inputDialog]
  rcases hv : validateFileName validFilename v parent true s with ⟨m, s₁⟩ | ⟨e, s₁⟩ <;> rw [hv] at hs
  · rw [run_bind_ok hv]
    refine ⟨hs, fun name s' h hn => ?_⟩
    by_cases hm : m = ""
    · subst hm
      rw [if_pos rfl] at h
      cases h
      exact validateFileName_accepted hn hv
    · rw [if_neg hm] at h; cases h
  · rw [run_bind_error hv]
    exact ⟨hs, fun _ _ h => nomatch h⟩

/-- A name `validateFileName` accepts resolves against the parent to a `file` URI where nothing is. -/
theorem validateFileName_fresh {s s' : Ide} (hn : name ≠ "")
    (h : validateFileName validFilename name parent b s = .ok "" s') :
    ∃ v, parent.resource.resolve name = .ok v ∧ v.scheme = "file" ∧ s.fs.entry v.fsKey = none := by
  unfold validateFileName at h
  rw [if_neg hn] at h
  obtain ⟨-, h⟩ := ite_pure_eq_ok (by decide) h
  obtain ⟨-, h⟩ := ite_pure_eq_ok (by decide) h
  obtain ⟨-, h⟩ := ite_pure_eq_ok (by decide) h
  obtain ⟨-, h⟩ := ite_pure_eq_ok (fun he => by simpa using congrArg String.data he) h
  rcases hr : parent.resource.resolve name with msg | v
  · rw [hr, run_liftUri_error_bind] at h; cases h
  rw [hr, run_liftUri_ok_bind] at h
  by_cases hs : v.scheme = "file"
  · have hf : fileExists v s.fs = .ok (s.fs.entry v.fsKey).isSome s.fs := by
      simp only [fileExists, withProvider, if_pos hs]; rfl
    rw [run_bind_ok (by rw [liftFs_eq, hf])] at h
    refine ⟨v, rfl, hs, ?_⟩
    rcases he : s.fs.entry v.fsKey with _ | e
    · rfl
    · rw [he] at h
      exact absurd rfl (ite_pure_eq_ok (fun he' => by simpa using congrArg String.data he') h).1
  · have hf : fileExists v s.fs = .error (.noProvider v) s.fs := by
      simp only [fileExists, withProvider, if_neg hs]; rfl
    rw [run_bind_error (by rw [liftFs_eq, hf])] at h; cases h

end Validate

/-- Cutting a mapped list cuts the list, each piece mapped. -/
theorem splitOnP_map {α β : Type} (f : α → β) (p : β → Bool) :
    ∀ l : List α, (l.map f).splitOnP p = (l.splitOnP (p ∘ f)).map (List.map f)
  | [] => by simp [List.splitOnP_nil]
  | x :: xs => by
    obtain ⟨h, t, ht⟩ := List.exists_cons_of_ne_nil (List.splitOnP_ne_nil (p ∘ f) xs)
    have ih := splitOnP_map f p xs
    rw [ht] at ih
    by_cases hp : p (f x) <;> simp [List.splitOnP_cons, hp, ih, ht]

/-- A name between the slashes of `name`, its backslashes made slashes, that has no slash is a piece
`split(/[\\/]/)` cuts. -/
theorem mem_splitOnSlashes {name x : String} (hx : x ∈ names (normalizePathSeparator name.data))
    (hs : '/' ∉ x.data) : x ∈ splitOnSlashes name := by
  have hsep : ((· == '/') ∘ fun c : Char => if c = '\\' then '/' else c) = fun c => c == '\\' || c == '/' :=
    funext fun c => by by_cases hc : c = '\\' <;> simp [hc]
  have h := mem_names hx
  rw [normalizePathSeparator, splitOnP_map, hsep] at h
  obtain ⟨piece, hp, he⟩ := List.mem_map.mp h
  have he' : normalizePathSeparator piece = x.data := he
  have hpiece : piece = x.data :=
    (normalizePathSeparator_of_not_mem (not_mem_of_normalizePathSeparator (he' ▸ hs))).symm.trans he'
  exact List.mem_map.mpr ⟨piece, hp, by rw [hpiece]⟩

/-- Pieces that each pass `validFilename` leave no `.` or `..` between the slashes of the name, once its backslashes
are slashes. -/
theorem names_plain {validFilename : String → Bool} (hdot : validFilename "." = false)
    (hdotdot : validFilename ".." = false) {name : String}
    (h : ∀ file ∈ splitOnSlashes name, file ≠ "" ∧ validFilename file = true) :
    ∀ x ∈ names (normalizePathSeparator name.data), x ≠ "." ∧ x ≠ ".." := by
  intro x hx
  have hrefused : ∀ d, validFilename d = false → '/' ∉ d.data → x ≠ d := by
    rintro d hd hs rfl
    simpa [hd] using (h x (mem_splitOnSlashes hx hs)).2
  exact ⟨hrefused "." hdot (by decide), hrefused ".." hdotdot (by decide)⟩

/-! ## Where the folder lands -/

/-- A name without `.` or `..` between its slashes, resolved against a `file` URI without a backslash, lands at or
below it. -/
theorem resolve_fsKey {P v : URI} {n : String} (hs : P.scheme = "file") (hb : '\\' ∉ P.codeUri.path.data)
    (hn : n ≠ "") (hplain : ∀ x ∈ names (normalizePathSeparator n.data), x ≠ "." ∧ x ≠ "..")
    (h : P.resolve n = .ok v) : v.fsKey.1 = P.fsKey.1 ∧ P.fsKey.2 <+: v.fsKey.2 := by
  unfold URI.resolve URI.withPath at h
  rcases hm : Uri.make P.codeUri.scheme P.codeUri.authority (P.path.join n).raw P.codeUri.query P.codeUri.fragment
    with e | w <;> rw [hm] at h <;> cases h
  refine ⟨Uri.make_authority hm, ?_⟩
  obtain ⟨x, hx, hxd⟩ := URI.path_of_file hs
  rw [← URI.pathKey_eq_fsKey hb]
  show segments P.path.raw.data <+: segments (normalizeDrive w.path.data)
  rcases x with _ | ⟨c, x⟩
  · rw [hx]; exact List.nil_prefix
  obtain ⟨x', hj, hx', hnames⟩ := Path.join_data hx hxd (List.cons_ne_nil c x) (Path.ofString_noBackslash _) hn
  have hr : (P.path.join n).raw = ⟨'/' :: (x' ++ '/' :: normalizePathSeparator n.data)⟩ := by rw [← hj]
  rw [Uri.make_path hm, hr, referenceResolution_slash, hx]
  show segments ('/' :: c :: x) <+: segments (normalizeDrive ('/' :: (x' ++ '/' :: normalizePathSeparator n.data)))
  rw [normalizeDrive_slash, lowerDrive_append_slash, hx']
  unfold segments
  rw [names_slash, names_slash, names_append_slash, normalizeNames_append _ _ hplain, ← hnames]
  exact List.prefix_append _ _

/-- From `s` to `s'` a command made only directories strictly below the directory `r` it found, and fired only events
whose parent is that directory and whose resource is at or below it. -/
def MakesBelow (r : Option FileStat) (s s' : Ide) : Prop :=
  Fs.Adds (fun k e => e = .dir true ∧ ∃ st, r = some st ∧ k.1 = st.resource.fsKey.1 ∧
      st.resource.fsKey.2 <+: k.2 ∧ k.2 ≠ st.resource.fsKey.2) s.fs s'.fs ∧
    ∀ e ∈ s'.created, e ∈ s.created ∨ ∃ st, r = some st ∧ e.parent = some st.resource ∧
      e.uri.fsKey.1 = st.resource.fsKey.1 ∧ st.resource.fsKey.2 <+: e.uri.fsKey.2

theorem MakesBelow.refl (r : Option FileStat) (s : Ide) : MakesBelow r s s :=
  ⟨Fs.Adds.refl _ s.fs, fun _ h => .inl h⟩

/-- The end of `NEW_FOLDER`: the folder `v`, without a backslash, at or below the directory found, made and
announced. -/
theorem makesBelow_createFolder {st : FileStat} {v : URI} {s : Ide} (hst : Resolves s.fs st.resource)
    (hvb : '\\' ∉ v.codeUri.path.data) (ha : v.fsKey.1 = st.resource.fsKey.1)
    (hp : st.resource.fsKey.2 <+: v.fsKey.2) :
    MakesBelow (some st) s
      (stateOf ((liftFs (createFolder v) >>= fun _ => fireCreateNewFile ⟨v, some st.resource⟩) s)) := by
  have hadds : ∀ fs', stateOf (createFolder v s.fs) = fs' → Fs.Adds (fun k e => e = .dir true ∧ ∃ st',
      some st = some st' ∧ k.1 = st'.resource.fsKey.1 ∧ st'.resource.fsKey.2 <+: k.2 ∧
        k.2 ≠ st'.resource.fsKey.2) s.fs fs' := by
    rintro fs' rfl
    have hadds := createFolder_adds v s.fs
    rw [URI.pathKey_eq_fsKey hvb] at hadds
    exact (hadds.below hst.2 ha.symm hp).mono fun k e ⟨he, hk⟩ => ⟨he, st, rfl, hk⟩
  rcases hc : createFolder v s.fs with ⟨x, fs'⟩ | ⟨e, fs'⟩
  · rw [run_bind_ok (by rw [liftFs_eq, hc])]
    refine ⟨hadds fs' (by rw [hc]; rfl), fun e he => ?_⟩
    rcases List.mem_append.mp he with he | he
    · exact .inl he
    · rw [List.mem_singleton.mp he]; exact .inr ⟨st, rfl, rfl, ha, hp⟩
  · rw [run_bind_error (by rw [liftFs_eq, hc])]
    exact ⟨hadds fs' (by rw [hc]; rfl), fun e he => .inl he⟩

/-- **`NEW_FOLDER` makes nothing outside the directory it finds**: whatever the disk holds and the dialog's answer,
for a command argument whose path holds no backslash, the only entries the disk gains are directories strictly below
the directory `getDirectory` found, and the only event fired names that directory as the parent of a folder at or below
it. -/
theorem newFolder_below (validFilename : String → Bool) (hdot : validFilename "." = false)
    (hdotdot : validFilename ".." = false) (uri : Option URI)
    (hb : ∀ P, uri = some P → '\\' ∉ P.codeUri.path.data) (answer : Option String) (s : Ide) :
    ∃ r, getDirectory uri s = .ok r s ∧ MakesBelow r s (stateOf (newFolder validFilename uri answer s)) := by
  obtain ⟨r, hr, hres⟩ := getDirectory_resolves uri s
  refine ⟨r, hr, ?_⟩
  unfold newFolder
  rw [run_bind_ok hr]
  rcases r with _ | st
  · exact MakesBelow.refl _ s
  dsimp only
  rcases hU : st.resource.resolve "Untitled" with msg | tU
  · rw [run_liftUri_error_bind]; exact MakesBelow.refl _ s
  rw [run_liftUri_ok_bind]
  obtain ⟨hds, hacc⟩ := @inputDialog_validateFileName validFilename st answer s
  rcases hd : inputDialog (fun name => validateFileName validFilename name st true) answer s with ⟨a, s₁⟩ | ⟨e, s₁⟩ <;>
    rw [hd] at hds hacc <;> subst hds
  · rw [run_bind_ok hd]
    rcases a with _ | name
    · exact MakesBelow.refl _ _
    dsimp only
    split
    · exact MakesBelow.refl _ _
    · next hn =>
      rcases hv : st.resource.resolve name with msg | v
      · rw [run_liftUri_error_bind]; exact MakesBelow.refl _ _
      rw [run_liftUri_ok_bind]
      obtain ⟨hst, P, hP, hfound⟩ := hres st rfl
      have hstb : '\\' ∉ st.resource.codeUri.path.data := by
        rcases hfound with he | he
        · rw [he]; exact hb P hP
        · exact URI.parent_noBackslash (hb P hP) he
      obtain ⟨ha, hp⟩ := resolve_fsKey hst.1 hstb hn (names_plain hdot hdotdot (hacc name _ rfl hn)) hv
      exact makesBelow_createFolder hst (URI.resolve_noBackslash hv) ha hp
  · rw [run_bind_error hd]; exact MakesBelow.refl _ _

/-- A `validFilename` that refuses only `.` and `..`, for the runs below. -/
def refusesDots (name : String) : Bool := name != "." && name != ".."

theorem newFolder_below_home :
    refusesDots "." = false ∧ refusesDots ".." = false ∧
      (∀ P, some homeDir = some P → '\\' ∉ P.codeUri.path.data) ∧
      ∃ r, getDirectory (some homeDir) (Ide.init homeDisk untitledFile) = .ok r (Ide.init homeDisk untitledFile) ∧
        MakesBelow r (Ide.init homeDisk untitledFile)
          (stateOf (newFolder refusesDots (some homeDir) (some "a/b") (Ide.init homeDisk untitledFile))) :=
  ⟨rfl, rfl, fun _ h => Option.some.inj h ▸ by decide,
    newFolder_below refusesDots rfl rfl _ (fun _ h => Option.some.inj h ▸ by decide) _ _⟩

/-- `a/b` typed in `/home` makes `/home/a/b`; `a/../..` is refused, and nothing is made. -/
example : (stateOf (newFolder refusesDots (some homeDir) (some "a/b") (Ide.init homeDisk untitledFile))).fs.entry
    ("", ["home", "a", "b"]) = some (.dir true) := by decide

example : newFolder refusesDots (some homeDir) (some "a/../..") (Ide.init homeDisk untitledFile) =
    .ok () (Ide.init homeDisk untitledFile) := rfl

/-- The directory `/home/q\\x`, a name with a backslash on the disk. -/
def backslashDir : URI := ⟨⟨"file", "", "/home/q\\x", "", "", by decide⟩⟩

/-- A disk with `/home` and the directory `q\\x` in it. -/
def backslashDisk : Fs := homeDisk.put "" ["home"] "q\\x" (.dir true) rfl rfl

/-- In `/home/q\\x`, `demo` becomes `/home/q/x/demo`: the directory `/home/q` is made, outside the one found. -/
example : (stateOf (newFolder refusesDots (some backslashDir) (some "demo")
    (Ide.init backslashDisk untitledFile))).fs.entry ("", ["home", "q"]) = some (.dir true) := by decide

/-! ## The folder made -/

/-- **`NEW_FOLDER` makes the folder the user names**: in a writable directory `P`, a name the dialog accepts, whose
way below `P` holds nothing but writable directories, is made as a folder, with each missing directory on the way,
and announced with `P` as its parent. -/
theorem newFolder_makes (validFilename : String → Bool) (hdot : validFilename "." = false)
    (hdotdot : validFilename ".." = false) {P v : URI} {name : String} {s : Ide} (hs : P.scheme = "file")
    (hb : '\\' ∉ P.codeUri.path.data) (hP : s.fs.entry P.fsKey = some (.dir true)) (hn : name ≠ "")
    (hv : validateFileName validFilename name ⟨P, false, true⟩ true s = .ok "" s) (hr : P.resolve name = .ok v)
    (hway : wayClear s.fs P.fsKey.1 P.fsKey.2 (v.fsKey.2.drop P.fsKey.2.length) = true) :
    ∃ fs', fs'.entry v.fsKey = some (.dir true) ∧
      newFolder validFilename (some P) (some name) s =
        .ok () { s with fs := fs', created := s.created ++ [⟨v, some P⟩] } := by
  obtain ⟨v', hv', hvs, hnone⟩ := validateFileName_fresh hn hv
  rw [hr] at hv'
  cases hv'
  obtain ⟨ha, hpre⟩ := resolve_fsKey hs hb hn (names_plain hdot hdotdot (validateFileName_accepted hn hv)) hr
  obtain ⟨fs', hc, he⟩ := createFolder_clear hvs (URI.resolve_noBackslash hr) (by rw [ha]; exact hP) hpre
    (by rw [ha]; exact hway) hnone
  obtain ⟨_, hU⟩ := URI.resolve_file_ok hs hb (show '/' ∉ "Untitled".data by decide) (by decide)
  have hd : inputDialog (fun name => validateFileName validFilename name ⟨P, false, true⟩ true) (some name) s =
      .ok (some name) s := by
    simp only [inputDialog]; rw [run_bind_ok hv]; rfl
  refine ⟨fs', he, ?_⟩
  unfold newFolder
  rw [run_bind_ok (getDirectory_dir hs hP)]
  dsimp only
  rw [hU, run_liftUri_ok_bind, run_bind_ok hd]
  dsimp only
  rw [if_neg hn, hr, run_liftUri_ok_bind, run_bind_ok (by rw [liftFs_eq, hc])]
  rfl

theorem newFolder_makes_home :
    ∃ v, homeDir.resolve "a/b" = .ok v ∧ ∃ fs', fs'.entry v.fsKey = some (.dir true) ∧
      newFolder refusesDots (some homeDir) (some "a/b") (Ide.init homeDisk untitledFile) =
        .ok () { Ide.init homeDisk untitledFile with fs := fs', created := [⟨v, some homeDir⟩] } :=
  ⟨_, rfl, newFolder_makes refusesDots rfl rfl rfl (by decide) (by decide) (by decide) rfl rfl (by decide)⟩

/-- A disk with `/home`, the file `q` in it, and the directory `q\\x`. -/
def backslashFileDisk : Fs :=
  (homeDisk.put "" ["home"] "q" (.file "") rfl rfl).put "" ["home"] "q\\x" (.dir true) rfl rfl

/-- In the writable directory `/home/q\\x`, beside the file `/home/q`, `demo` is not made: `mkdirp` meets the file on
the way to `/home/q/x/demo` and throws, and no event is fired. -/
example : (stateOf (newFolder refusesDots (some backslashDir) (some "demo")
      (Ide.init backslashFileDisk untitledFile))).fs.entry ("", ["home", "q\\x", "demo"]) = none ∧
    (stateOf (newFolder refusesDots (some backslashDir) (some "demo")
      (Ide.init backslashFileDisk untitledFile))).created = [] := by decide

end Limix.Workspace
