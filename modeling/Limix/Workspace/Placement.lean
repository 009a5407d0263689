import Limix.Workspace.MultiRoot

/-!
# Where `NEW_CONTRACT_FOLDER` and `NEW_CONTRACT_FILE` create

Both handlers turn a non-empty target directory into the URI `P`, ask `getDirectory` for a directory and resolve the
name against what it finds. `getDirectory` gives `P` when the disk has a directory there, and otherwise the stat of
the parent of `P`, whatever that is (`getDirectory_some`): the directory is `dirFor`, and the resource `placeFor`.

**`contractCommands_createOnlyAt`**: whatever the disk holds, the handlers only fill empty places on the way to
`placeFor` (its path, or its parent's) and fire only its event, with parent `P`. For a target that is missing, or a
file, that is beside the target: `home/missing` with `/home` on the disk makes `/home/demo`
(`newContractFolder_beside_target`).
-/

namespace Limix.Workspace

open Limix.Js Limix.Theia

/-! ## Reading the disk from the frontend -/

/-- The stat `resolve` finds for `u` on the disk, if any. -/
def statOf (u : URI) (fs : Fs) : Option FileStat :=
  match resolve u fs with
  | .ok st _ => some st
  | .error _ _ => none

theorem statOf_eq_some {u : URI} {fs : Fs} {st : FileStat} (h : statOf u fs = some st) :
    st.resource = u ∧ st.isDirectory = isDirEntry (fs.entry u.fsKey) := by
  unfold statOf at h
  split at h
  · cases h; exact (resolve_eq_ok ‹_›).2
  · cases h

theorem statOf_eq_none {u : URI} {fs : Fs} (hs : u.scheme = "file") (h : statOf u fs = none) :
    fs.entry u.fsKey = none := by
  unfold statOf at h
  rw [resolve_eq, if_pos hs] at h
  rcases he : fs.entry u.fsKey with _ | ⟨_ | _⟩ <;> simp [he] at h ⊢

theorem liftFs_resolve (u : URI) (s : Ide) :
    (some <$> liftFs (resolve u) : IdeM (Option FileStat)) s =
      match resolve u s.fs with
      | .ok st _ => .ok (some st) s
      | .error e _ => .error (.fileOperation e) s := by
  have h := stateOf_resolve u s.fs
  simp only [Functor.map, EStateM.map, liftFs]
  rcases hr : resolve u s.fs with ⟨st, fs'⟩ | ⟨e, fs'⟩ <;> rw [hr] at h <;> subst h <;> rfl

theorem tryCatch_liftFs_resolve (u : URI) (s : Ide) :
    (tryCatch (some <$> liftFs (resolve u)) fun _ => pure none : IdeM (Option FileStat)) s = .ok (statOf u s.fs) s := by
  rw [run_tryCatch_none, liftFs_resolve, statOf]
  rcases resolve u s.fs <;> rfl

theorem tryResolve_some (P : URI) (s : Ide) : tryResolve (some P) s = .ok (statOf P s.fs) s :=
  tryCatch_liftFs_resolve P s

theorem getParent_some (P : URI) (s : Ide) :
    getParent (some P) s = .ok (match P.parent with | .ok p => statOf p s.fs | .error _ => none) s := by
  unfold getParent
  rcases hp : P.parent with msg | p
  · rw [run_tryCatch_error]; rfl
    show (liftUri P.parent >>= _) s = _; rw [hp]; rfl
  · rw [← tryCatch_liftFs_resolve p s]
    show (tryCatch (liftUri P.parent >>= _) _) s = _
    rw [hp]; rfl


theorem contractParentUri_of_parse {t : String} {P : URI} (ht : t ≠ "") (hP : URI.parse (contractUriString t) = .ok P)
    (u : Option URI) (s : Ide) : contractParentUri t u s = .ok (some P) s := by
  rw [contractParentUri, if_pos ht, hP]; rfl

theorem scheme_of_contractUri {t : String} {P : URI} (hP : URI.parse (contractUriString t) = .ok P) :
    P.scheme = "file" := by
  unfold URI.parse contractUriString at hP
  rw [parse_file_encoded] at hP
  rcases h : Uri.make "file" "" ("/" ++ replaceBackslashes t) "" "" with _ | v <;> rw [h] at hP <;> cases hP
  simp only [Uri.make] at h
  split at h <;> cases h; rfl


/-! ## The directory and the resource -/

/-- The directory the handlers put a resource in for the parent URI `P`: `P` itself when the disk has a directory
there, otherwise the parent of `P`. -/
def dirFor (fs : Fs) (P : URI) : Except String URI := if isDirEntry (fs.entry P.fsKey) then .ok P else P.parent

theorem getDirectory_some (P : URI) (s : Ide) (hs : P.scheme = "file") :
    ∃ r, getDirectory (some P) s = .ok r s ∧ ∀ st, r = some st → dirFor s.fs P = .ok st.resource := by
  have hparent : ∀ st, (match P.parent with | .ok p => statOf p s.fs | .error _ => none) = some st →
      P.parent = .ok st.resource := by
    intro st h
    rcases hp : P.parent with _ | p <;> rw [hp] at h
    · cases h
    · rw [(statOf_eq_some h).1]
  unfold getDirectory
  rw [run_bind_ok (tryResolve_some P s)]
  rcases hst : statOf P s.fs with _ | st
  · have hn := statOf_eq_none hs hst
    exact ⟨_, getParent_some P s, fun st h => by simpa [dirFor, hn, isDirEntry] using hparent st h⟩
  · obtain ⟨hr, hd⟩ := statOf_eq_some hst
    by_cases hdir : st.isDirectory
    · exact ⟨some st, by simp only [hdir]; rfl, fun _ h => by cases h; rw [dirFor, ← hd, if_pos hdir, hr]⟩
    · refine ⟨_, by simp only [hdir]; exact getParent_some P s, fun st' h => ?_⟩
      rw [dirFor, ← hd, if_neg hdir]; exact hparent st' h

/-- The resource the handlers make for the parent URI `P` and `name`: `name` resolved against `dirFor`. -/
def placeFor (fs : Fs) (P : URI) (name : String) : Except String URI := (dirFor fs P).bind fun d => d.resolve name

/-- A place on the way to the resource `v`: on its path, or on the path of its parent. -/
def OnWayTo (v : URI) (k : FsKey) : Prop :=
  k.1 = v.authority ∧ (k.2 <+: v.fsKey.2 ∨ ∃ p, v.parent = .ok p ∧ k.2 <+: p.fsKey.2)

/-- From `s` to `s'` a handler for the parent URI `P` and `name` only filled empty places on the way to the resource
`placeFor` gives, and fired only that resource's event, with parent `P`. -/
def CreatesOnlyAt (P : URI) (name : String) (s s' : Ide) : Prop :=
  (∀ k, s'.fs.entry k ≠ s.fs.entry k → s.fs.entry k = none ∧ ∃ v, placeFor s.fs P name = .ok v ∧ OnWayTo v k) ∧
    ∀ e ∈ s'.created, e ∈ s.created ∨ (e.parent = some P ∧ placeFor s.fs P name = .ok e.uri)

namespace CreatesOnlyAt
variable {P : URI} {name : String} {s : Ide}

theorem tryCatch_log {x : IdeM Unit} {level : LogLevel} {args : JsError → List LogArg}
    (h : CreatesOnlyAt P name s (stateOf (x s))) :
    CreatesOnlyAt P name s (stateOf ((tryCatch x fun e => log level (args e) : IdeM Unit) s)) := by
  rcases hx : x s with ⟨⟨⟩, s'⟩ | ⟨e, s'⟩ <;> rw [hx] at h
  · rwa [run_tryCatch_ok hx]
  · rw [run_tryCatch_error hx]; exact h

theorem liftFs_fire {v : URI} {s₁ : Ide} (hv : placeFor s.fs P name = .ok v) (hfs : s₁.fs = s.fs)
    (hc : s₁.created = s.created) {y : FsM FileStat} (hy : Fs.Adds (fun k _ => OnWayTo v k) s.fs (stateOf (y s.fs)))
    (args : List LogArg) :
    CreatesOnlyAt P name s (stateOf ((liftFs y >>= fun _ => fireCreateNewFile ⟨v, some P⟩ >>= fun _ =>
      log .log args) s₁)) := by
  have hadds : ∀ fs', stateOf (y s.fs) = fs' → ∀ k, fs'.entry k ≠ s.fs.entry k → s.fs.entry k = none ∧
      ∃ v', placeFor s.fs P name = .ok v' ∧ OnWayTo v' k := by
    rintro fs' rfl k hk
    obtain ⟨hn, -, -, hw⟩ := hy k hk
    exact ⟨hn, v, hv, hw⟩
  rcases hr : y s.fs with ⟨st, fs'⟩ | ⟨e, fs'⟩
  · have hl : liftFs y s₁ = .ok st { s₁ with fs := fs' } := by rw [liftFs_eq, hfs, hr]
    rw [run_bind_ok hl]
    refine ⟨hadds fs' (by rw [hr]; rfl), fun e he => ?_⟩
    replace he : e ∈ s₁.created ++ [⟨v, some P⟩] := he
    rcases List.mem_append.mp he with he | he
    · exact .inl (hc ▸ he)
    · rw [List.mem_singleton.mp he]; exact .inr ⟨rfl, hv⟩
  · have hl : liftFs y s₁ = .error (.fileOperation e) { s₁ with fs := fs' } := by rw [liftFs_eq, hfs, hr]
    rw [run_bind_error hl]
    exact ⟨hadds fs' (by rw [hr]; rfl), fun e he => .inl (hc ▸ he)⟩

end CreatesOnlyAt

/-- The shared part of the handlers, for a parent URI whose directory the disk decides: `create` is asked only for
what `resolve` makes, which holds no backslash. -/
theorem createInDirectory_createsOnlyAt {P : URI} (hs : P.scheme = "file") (name : String)
    (create : URI → FsM FileStat)
    (hcreate : ∀ v fs, '\\' ∉ v.codeUri.path.data → Fs.Adds (fun k _ => OnWayTo v k) fs (stateOf (create v fs)))
    (what success : String) {s s₂ : Ide} (hfs : s₂.fs = s.fs) (hc : s₂.created = s.created) :
    CreatesOnlyAt P name s (stateOf (createInDirectory (some P) name create what success s₂)) := by
  obtain ⟨r, hr, hdir⟩ := getDirectory_some P s₂ hs
  unfold createInDirectory
  rw [run_bind_ok hr]
  rcases r with _ | st
  · exact ⟨fun k hk => absurd (hfs ▸ rfl) hk, fun e he => .inl (hc ▸ he)⟩
  · dsimp only
    rcases hv : st.resource.resolve name with msg | v
    · rw [run_liftUri_error_bind]; exact ⟨fun k hk => absurd (hfs ▸ rfl) hk, fun e he => .inl (hc ▸ he)⟩
    · have hpl : placeFor s.fs P name = .ok v := by rw [placeFor, ← hfs, hdir st rfl]; exact hv
      rw [run_liftUri_ok_bind, run_log_bind]
      refine CreatesOnlyAt.liftFs_fire hpl ?_ ?_ (hcreate v s.fs (URI.resolve_noBackslash hv)) _
      · exact hfs
      · exact hc

theorem newContractFolder_createsOnlyAt (t n : String) (u : Option URI) (s : Ide) {P : URI} (ht : t ≠ "")
    (hP : URI.parse (contractUriString t) = .ok P) :
    CreatesOnlyAt P (if n = "" then "Untitled" else n) s (stateOf (newContractFolder t n u s)) := by
  refine CreatesOnlyAt.tryCatch_log ?_
  rw [run_bind_ok (contractParentUri_of_parse ht hP u s)]
  exact createInDirectory_createsOnlyAt (scheme_of_contractUri hP) _ _
    (fun v fs hb => (createFolder_adds v fs).mono fun k e ⟨ha, hk, _⟩ =>
      ⟨ha, .inl (URI.pathKey_eq_fsKey hb ▸ hk)⟩) _ _ rfl rfl

theorem newContractFile_createsOnlyAt (t n c : String) (u : Option URI) (s : Ide) {P : URI} (ht : t ≠ "")
    (hP : URI.parse (contractUriString t) = .ok P) :
    CreatesOnlyAt P n s (stateOf (newContractFile t n c u s)) := by
  refine CreatesOnlyAt.tryCatch_log ?_
  rw [run_bind_ok (contractParentUri_of_parse ht hP u s), run_log_bind, run_defined_some_bind, run_log_bind,
    run_log_bind]
  exact createInDirectory_createsOnlyAt (scheme_of_contractUri hP) _ _
    (fun v fs hb => (createFile_adds v c fs).mono fun k e ⟨ha, hk⟩ =>
      ⟨ha, hk.imp (fun (h : k = v.fsKey) => h ▸ List.prefix_refl _) fun ⟨p, hp, hk⟩ =>
        ⟨p, hp, URI.pathKey_eq_fsKey (URI.parent_noBackslash hb hp) ▸ hk⟩⟩)
    _ _ rfl rfl

/-! ## Both handlers -/

/-- **`NEW_CONTRACT_FOLDER` and `NEW_CONTRACT_FILE` create only on the way to the name resolved against the directory
they find**, on every disk: the target's URI when the disk has a directory there, otherwise its parent. -/
theorem contractCommands_createOnlyAt (t n c : String) (u : Option URI) (s : Ide) {P : URI} (ht : t ≠ "")
    (hP : URI.parse (contractUriString t) = .ok P) :
    CreatesOnlyAt P (if n = "" then "Untitled" else n) s (stateOf (newContractFolder t n u s)) ∧
      CreatesOnlyAt P n s (stateOf (newContractFile t n c u s)) :=
  ⟨newContractFolder_createsOnlyAt t n u s ht hP, newContractFile_createsOnlyAt t n c u s ht hP⟩

/-- A disk with the directory `/home`. -/
def homeDisk : Fs := Fs.empty.put "" [] "home" (.dir true) rfl rfl

/-- The directory `/home`. -/
def homeDir : URI := ⟨⟨"file", "", "/home", "", "", by decide⟩⟩

theorem contractCommands_createOnlyAt_home :
    "home" ≠ "" ∧ URI.parse (contractUriString "home") = .ok homeDir ∧
      CreatesOnlyAt homeDir (if "demo" = "" then "Untitled" else "demo") (Ide.init homeDisk untitledFile)
        (stateOf (newContractFolder "home" "demo" none (Ide.init homeDisk untitledFile))) ∧
      CreatesOnlyAt homeDir "demo" (Ide.init homeDisk untitledFile)
        (stateOf (newContractFile "home" "demo" "" none (Ide.init homeDisk untitledFile))) :=
  ⟨by decide, rfl, contractCommands_createOnlyAt "home" "demo" "" none _ (by decide) rfl⟩

/-- The missing target `/home/missing`. -/
def missingTarget : URI := ⟨⟨"file", "", "/home/missing", "", "", by decide⟩⟩

/-- The folder `/home/demo`, beside it. -/
def besideTarget : URI := ⟨⟨"file", "", "/home/demo", "", "", by decide⟩⟩

/-- `NEW_CONTRACT_FOLDER` for `home/missing` and `demo` on a disk with `/home` makes `/home/demo`, outside the target,
and fires its event with the target as parent. -/
theorem newContractFolder_beside_target :
    ∃ s', newContractFolder "home/missing" "demo" none (Ide.init homeDisk untitledFile) = .ok () s' ∧
      homeDisk.entry ("", ["home", "demo"]) = none ∧ s'.fs.entry ("", ["home", "demo"]) = some (.dir true) ∧
      s'.created = [⟨besideTarget, some missingTarget⟩] :=
  ⟨_, rfl, by decide⟩

end Limix.Workspace
