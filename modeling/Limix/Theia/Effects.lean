import Limix.Theia.FileService

/-!
# What the file service does to the disk

Each operation is read as a relation between the disk before and after it, whether it returns or throws.
`Fs.Adds K` says that the disk only gained entries, at empty places, each place with its entry satisfying `K`; for a
fixed `K` it is a preorder.

* `mkdirpFrom_adds`, `mkdirp_adds`: `mkdirp` adds directories on the way to the `Path` of its target and nothing else;
* `createFolder_adds`, `writeFile_adds`, `createFile_adds`: a folder made adds directories on the way to its `Path`; a
  file written where nothing was, or created without `overwrite`, adds the file and directories on the way to the
  `Path` of its parent;
* `mkdirpFrom_clear`, `createFolder_clear`: below a writable directory, over a way that holds nothing but writable
  directories (`wayClear`), a folder where nothing is gets made;
* `writeFile_entry`: a `writeFile` that returns leaves the file with its content;
* `resolve` and `fileExists` read the disk and change nothing (`stateOf_resolve`, `stateOf_fileExists`); `resolve`
  gives the kind of what is there, and throws where nothing is (`resolve_of_resolves`, `resolve_of_not_resolves`).
-/

namespace Limix.Theia

/-! ## Runs -/

section Run

variable {ε σ α β : Type} {x : EStateM ε σ α} {s s' : σ}

/-- A run that returns returned from each of its two halves. -/
theorem bind_eq_ok {f : α → EStateM ε σ β} {b : β} :
    (x >>= f) s = .ok b s' ↔ ∃ a s₁, x s = .ok a s₁ ∧ f a s₁ = .ok b s' := by
  simp only [bind, EStateM.bind]
  rcases x s with ⟨a, s₁⟩ | ⟨e, s₁⟩
  · exact ⟨fun h => ⟨a, s₁, rfl, h⟩, fun ⟨_, _, h₁, h⟩ => by cases h₁; exact h⟩
  · simp

theorem run_bind_ok {f : α → EStateM ε σ β} {a : α} (hx : x s = .ok a s') : (x >>= f) s = f a s' := by
  simp only [bind, EStateM.bind, hx]

theorem run_bind_error {f : α → EStateM ε σ β} {e : ε} (hx : x s = .error e s') : (x >>= f) s = .error e s' := by
  simp only [bind, EStateM.bind, hx]

theorem stateOf_bind_ok {f : α → EStateM ε σ β} {a : α} (h : x s = .ok a s') :
    stateOf ((x >>= f) s) = stateOf (f a s') := by
  simp only [bind, EStateM.bind, h]

theorem stateOf_bind_error {f : α → EStateM ε σ β} {e : ε} (h : x s = .error e s') :
    stateOf ((x >>= f) s) = s' := by
  simp only [bind, EStateM.bind, h]; rfl

theorem run_map_ok {f : α → β} {a : α} (hx : x s = .ok a s') : (f <$> x) s = .ok (f a) s' := by
  simp only [Functor.map, EStateM.map, hx]

theorem run_map_error {f : α → β} {e : ε} (hx : x s = .error e s') : (f <$> x) s = .error e s' := by
  simp only [Functor.map, EStateM.map, hx]

/-- A mapped run that returns returned from the run under the map. -/
theorem map_eq_ok {f : α → β} {b : β} : (f <$> x) s = .ok b s' ↔ ∃ a, x s = .ok a s' ∧ f a = b := by
  simp only [Functor.map, EStateM.map]
  rcases x s with ⟨a, s₁⟩ | ⟨e, s₁⟩
  · simp only [EStateM.Result.ok.injEq]
    exact ⟨fun ⟨h₁, h₂⟩ => ⟨a, ⟨rfl, h₂⟩, h₁⟩, fun ⟨_, ⟨rfl, h₂⟩, h₁⟩ => ⟨h₁, h₂⟩⟩
  · simp

@[simp] theorem stateOf_ok (a : α) : stateOf (.ok a s : EStateM.Result ε σ α) = s := rfl

@[simp] theorem stateOf_error (e : ε) : stateOf (.error e s : EStateM.Result ε σ α) = s := rfl

end Run

/-! ## Adding entries -/

variable {fs fs' : Fs}

@[simp] theorem Fs.put_entry (fs : Fs) (a : String) (k : List String) (s : String) (e : Entry) (hp hn) (x : FsKey) :
    (fs.put a k s e hp hn).entry x = if x = (a, k ++ [s]) then some e else fs.entry x := rfl

/-- `fs'` is `fs` with entries put at empty places, each place with its entry satisfying `K`, and nothing else
changed. -/
def Fs.Adds (K : FsKey → Entry → Prop) (fs fs' : Fs) : Prop :=
  ∀ k, fs'.entry k ≠ fs.entry k → fs.entry k = none ∧ ∃ e, fs'.entry k = some e ∧ K k e

namespace Fs.Adds

variable {K K' : FsKey → Entry → Prop} {fs₁ fs₂ fs₃ : Fs}

theorem refl (K : FsKey → Entry → Prop) (fs : Fs) : Fs.Adds K fs fs := fun _ h => absurd rfl h

theorem trans (h₁ : Fs.Adds K fs₁ fs₂) (h₂ : Fs.Adds K fs₂ fs₃) : Fs.Adds K fs₁ fs₃ := by
  intro k hk
  by_cases e₁ : fs₂.entry k = fs₁.entry k
  · obtain ⟨hn, he⟩ := h₂ k (e₁ ▸ hk); exact ⟨e₁ ▸ hn, he⟩
  · obtain ⟨hn, e, he, hK⟩ := h₁ k e₁
    by_cases e₂ : fs₃.entry k = fs₂.entry k
    · exact ⟨hn, e, e₂.trans he, hK⟩
    · exact ⟨hn, (h₂ k e₂).2⟩

theorem mono (h : Fs.Adds K fs₁ fs₂) (hK : ∀ k e, K k e → K' k e) : Fs.Adds K' fs₁ fs₂ := fun k hk =>
  let ⟨hn, e, he, hke⟩ := h k hk
  ⟨hn, e, he, hK k e hke⟩

/-- An entry the disk gained satisfies `K`. -/
theorem entry_of_ne (h : Fs.Adds K fs₁ fs₂) {k : FsKey} {e : Entry} (he : fs₂.entry k = some e)
    (hne : fs₁.entry k ≠ some e) : K k e := by
  obtain ⟨-, e', he', hK⟩ := h k (he ▸ hne.symm)
  rwa [he, Option.some.inj he'.symm] at *

end Fs.Adds

/-- Every place above an entry holds a directory. -/
theorem Fs.isSome_of_prefix (fs : Fs) {a : String} {k : List String} (h : (fs.entry (a, k)).isSome = true)
    {k' : List String} (hp : k' <+: k) : (fs.entry (a, k')).isSome = true := by
  induction k using List.reverseRecOn with
  | nil => rwa [List.prefix_nil.mp hp]
  | append_singleton k s ih =>
    rcases List.prefix_concat_iff.mp hp with rfl | hp
    · exact h
    · have hd := fs.parent_dir a k s h
      exact ih (by revert hd; rcases fs.entry (a, k) with _ | ⟨_ | _⟩ <;> simp [isDirEntry]) hp

/-- Every place above a directory holds a directory. -/
theorem Fs.isDir_of_prefix {a : String} {K k : List String} (hK : isDirEntry (fs.entry (a, K)) = true)
    (hk : k <+: K) : isDirEntry (fs.entry (a, k)) = true := by
  obtain ⟨t, rfl⟩ := hk
  rcases t with _ | ⟨x, t⟩
  · rwa [List.append_nil] at hK
  · have hs : (fs.entry (a, k ++ [x] ++ t)).isSome = true := by
      revert hK; rw [List.append_assoc, List.singleton_append]
      rcases fs.entry (a, k ++ x :: t) with _ | ⟨_ | _⟩ <;> simp [isDirEntry]
    exact fs.parent_dir a k x (fs.isSome_of_prefix hs (List.prefix_append _ _))

/-- A place below one where nothing is holds nothing. -/
theorem Fs.entry_below_none {a : String} {k : List String} (h : fs.entry (a, k) = none) (l : List String) :
    fs.entry (a, k ++ l) = none := by
  rcases he : fs.entry (a, k ++ l) with _ | e
  · rfl
  · have := fs.isSome_of_prefix (by rw [he]; rfl) (List.prefix_append k l)
    rw [h] at this; cases this

/-- What only fills places on the way to `v` fills only places strictly below an entry `K` on that way. -/
theorem Fs.Adds.below {K v : FsKey} (hK : (fs.entry K).isSome = true) (ha : K.1 = v.1) (hKv : K.2 <+: v.2)
    (h : Fs.Adds (fun k e => k.1 = v.1 ∧ k.2 <+: v.2 ∧ e = .dir true) fs fs') :
    Fs.Adds (fun k e => e = .dir true ∧ k.1 = K.1 ∧ K.2 <+: k.2 ∧ k.2 ≠ K.2) fs fs' := by
  intro k hk
  obtain ⟨hn, e, he, hka, hkv, rfl⟩ := h k hk
  have hkK : k.1 = K.1 := hka.trans ha.symm
  have habove : ¬ k.2 <+: K.2 := fun hp => by
    have := fs.isSome_of_prefix hK hp
    rw [← hkK, hn] at this
    cases this
  refine ⟨hn, _, he, rfl, hkK, ?_, fun heq => habove (heq ▸ List.prefix_refl _)⟩
  exact (List.prefix_or_prefix_of_prefix hKv hkv).resolve_right habove

theorem Fs.put_adds {a : String} {k : List String} {s : String} {e : Entry} {hp hn}
    (h : fs.entry (a, k ++ [s]) = none) : Fs.Adds (fun k' e' => k' = (a, k ++ [s]) ∧ e' = e) fs (fs.put a k s e hp hn) := by
  intro x hx
  simp only [Fs.put_entry] at hx ⊢
  split at hx
  · next hx' => subst hx'; exact ⟨h, e, by simp⟩
  · exact absurd rfl hx

theorem Fs.mkdir_eq_ok {a : String} {k : List String} {s : String} (h : fs.mkdir a k s = .ok fs') :
    Fs.Adds (fun k' e => k' = (a, k ++ [s]) ∧ e = .dir true) fs fs' := by
  unfold Fs.mkdir at h
  split at h
  · split at h
    · cases h
    · split at h
      · cases h; exact Fs.put_adds (Option.not_isSome_iff_eq_none.mp ‹_›)
      · cases h
  · split at h <;> cases h

theorem Fs.writeFile_eq_ok {a : String} {k : List String} {s c : String} (h : fs.writeFile a k s c = .ok fs') :
    isDirEntry (fs.entry (a, k ++ [s])) = false ∧ fs'.entry (a, k ++ [s]) = some (.file c) ∧
      (fs.entry (a, k ++ [s]) = none → Fs.Adds (fun k' e => k' = (a, k ++ [s]) ∧ e = .file c) fs fs') := by
  unfold Fs.writeFile at h
  split at h
  · split at h
    · cases h
    · split at h
      · cases h; exact ⟨Bool.eq_false_iff.mpr ‹_›, by simp, Fs.put_adds⟩
      · cases h
  · split at h <;> cases h

/-! ## `mkdirp` and `createFolder` -/

/-- One step of `mkdirp`, run on the disk. -/
theorem mkdirpFrom_cons (u : URI) (a : String) (dir : List String) (s : String) (rest : List String) (fs : Fs) :
    mkdirpFrom u a dir (s :: rest) fs =
      match fs.entry (a, dir ++ [s]) with
      | some (.dir _) => mkdirpFrom u a (dir ++ [s]) rest fs
      | some (.file _) => .error (.notADirectory u) fs
      | none =>
        match fs.mkdir a dir s with
        | .ok fs₁ => mkdirpFrom u a (dir ++ [s]) rest fs₁
        | .error e => .error (.disk e u) fs := by
  simp only [mkdirpFrom, bind, EStateM.bind, get, getThe, MonadStateOf.get, EStateM.get]
  rcases fs.entry (a, dir ++ [s]) with _ | ⟨_ | _⟩
  · rcases h : fs.mkdir a dir s <;> simp only [EStateM.bind, EStateM.get, h] <;> rfl
  · rfl
  · rfl

/-- **`mkdirp` only adds directories on the way to its target.** -/
theorem mkdirpFrom_adds (u : URI) (a : String) : ∀ (names dir : List String) (fs : Fs),
    Fs.Adds (fun k e => k.1 = a ∧ k.2 <+: dir ++ names ∧ e = .dir true) fs (stateOf (mkdirpFrom u a dir names fs))
  | [], _, fs => Fs.Adds.refl _ fs
  | s :: rest, dir, fs => by
    have ih : ∀ fs, Fs.Adds (fun k e => k.1 = a ∧ k.2 <+: dir ++ s :: rest ∧ e = .dir true) fs
        (stateOf (mkdirpFrom u a (dir ++ [s]) rest fs)) := fun fs =>
      (mkdirpFrom_adds u a rest (dir ++ [s]) fs).mono fun k e hk => by simpa using hk
    rw [mkdirpFrom_cons]
    rcases fs.entry (a, dir ++ [s]) with _ | ⟨_ | _⟩
    · rcases h : fs.mkdir a dir s with _ | fs₁
      · exact Fs.Adds.refl _ fs
      · refine ((Fs.mkdir_eq_ok h).mono fun k e ⟨hk, he⟩ => ?_).trans (ih fs₁)
        subst hk; exact ⟨rfl, by simp, he⟩
    · exact ih fs
    · exact Fs.Adds.refl _ fs

theorem withProvider_eq_ok {u : URI} {key : FsKey} (h : withProvider u fs = .ok key fs') :
    u.scheme = "file" ∧ key = u.fsKey ∧ fs = fs' := by
  unfold withProvider at h
  split at h
  · cases h; exact ⟨‹_›, rfl, rfl⟩
  · cases h

theorem withProvider_eq_error {u : URI} {e : FileOperationError} (h : withProvider u fs = .error e fs') : fs = fs' := by
  unfold withProvider at h
  split at h <;> cases h; rfl

/-- `resolve`, run on the disk. -/
theorem resolve_eq (u : URI) (fs : Fs) :
    resolve u fs =
      if u.scheme = "file" then
        match fs.entry u.fsKey with
        | some (.dir _) => .ok ⟨u, false, true⟩ fs
        | some (.file _) => .ok ⟨u, true, false⟩ fs
        | none => .error (.notFound u) fs
      else .error (.noProvider u) fs := by
  unfold resolve withProvider
  split
  · rcases h : fs.entry u.fsKey with _ | ⟨_ | _⟩ <;>
      simp only [bind, EStateM.bind, pure, EStateM.pure, get, getThe, MonadStateOf.get, EStateM.get, h]
    rfl
  · rfl

/-- `resolve` reads the disk and changes nothing. -/
@[simp] theorem stateOf_resolve (u : URI) (fs : Fs) : stateOf (resolve u fs) = fs := by
  rw [resolve_eq]; split
  · split <;> rfl
  · rfl

/-- The stat `resolve` gives is of the resource, a directory exactly when the disk has one there. -/
theorem resolve_eq_ok {u : URI} {st : FileStat} (h : resolve u fs = .ok st fs') :
    fs' = fs ∧ st.resource = u ∧ st.isDirectory = isDirEntry (fs.entry u.fsKey) := by
  rw [resolve_eq] at h
  split at h
  · split at h <;> cases h <;> simp_all [isDirEntry]
  · cases h

/-- The file service finds `u`: a `file` URI with something on the disk at its place. -/
def Resolves (fs : Fs) (u : URI) : Prop := u.scheme = "file" ∧ (fs.entry u.fsKey).isSome = true

instance (fs : Fs) : DecidablePred (Resolves fs) := fun _ => inferInstanceAs (Decidable (_ ∧ _))

/-- `resolve` of a resource that is there gives its kind. -/
theorem resolve_of_resolves {u : URI} (h : Resolves fs u) :
    resolve u fs = .ok ⟨u, isFileEntry (fs.entry u.fsKey), isDirEntry (fs.entry u.fsKey)⟩ fs := by
  rw [resolve_eq, if_pos h.1]
  rcases hk : fs.entry u.fsKey with _ | ⟨_ | _⟩
  · simp [Resolves, hk] at h
  all_goals rfl

/-- `resolve` of anything else throws, and changes nothing. -/
theorem resolve_of_not_resolves {u : URI} (h : ¬ Resolves fs u) : ∃ e, resolve u fs = .error e fs := by
  rw [resolve_eq]
  split
  · rcases hk : fs.entry u.fsKey with _ | ⟨_ | _⟩
    · exact ⟨_, rfl⟩
    all_goals exact absurd ⟨‹_›, by simp [hk]⟩ h
  · exact ⟨_, rfl⟩

/-- A `resolve` at the end changes nothing on the disk. -/
theorem stateOf_bind_resolve {α : Type} (x : FsM α) (u : URI) (fs : Fs) :
    stateOf ((x >>= fun _ => resolve u) fs) = stateOf (x fs) := by
  rcases h : x fs with ⟨a, fs'⟩ | ⟨e, fs'⟩
  · rw [stateOf_bind_ok h, stateOf_resolve, stateOf_ok]
  · rw [stateOf_bind_error h, stateOf_error]

/-- `mkdirp`, run on the disk. -/
theorem mkdirp_eq (u : URI) (key : FsKey) (fs : Fs) :
    mkdirp u key fs =
      match fs.entry key with
      | some (.dir _) => .ok () fs
      | some (.file _) => .error (.notADirectory u) fs
      | none => mkdirpFrom u key.1 [] u.pathKey.2 fs := by
  simp only [mkdirp, bind, EStateM.bind, get, getThe, MonadStateOf.get, EStateM.get]
  rcases fs.entry key with _ | ⟨_ | _⟩ <;> rfl

/-- `mkdirp` only adds directories on the way to the `Path` of its resource. -/
theorem mkdirp_adds (u : URI) (key : FsKey) (fs : Fs) :
    Fs.Adds (fun k e => k.1 = key.1 ∧ k.2 <+: u.pathKey.2 ∧ e = .dir true) fs (stateOf (mkdirp u key fs)) := by
  rw [mkdirp_eq]
  split
  · exact Fs.Adds.refl _ fs
  · exact Fs.Adds.refl _ fs
  · simpa using mkdirpFrom_adds u key.1 u.pathKey.2 [] fs

/-- **A folder made adds directories on the way to its `Path`, and nothing else.** -/
theorem createFolder_adds (u : URI) (fs : Fs) :
    Fs.Adds (fun k e => k.1 = u.authority ∧ k.2 <+: u.pathKey.2 ∧ e = .dir true) fs
      (stateOf (createFolder u fs)) := by
  unfold createFolder
  rcases hw : withProvider u fs with ⟨key, fs₁⟩ | ⟨e, fs₁⟩
  · obtain ⟨-, rfl, rfl⟩ := withProvider_eq_ok hw
    rw [stateOf_bind_ok hw, stateOf_bind_resolve]
    exact mkdirp_adds u u.fsKey fs
  · rw [stateOf_bind_error hw, ← withProvider_eq_error hw]; exact Fs.Adds.refl _ fs

/-- `mkdir` in a writable directory, of a name where nothing is. -/
theorem Fs.mkdir_writable {a : String} {k : List String} {s : String} (hk : fs.entry (a, k) = some (.dir true))
    (hs : fs.entry (a, k ++ [s]) = none) :
    ∃ fs', fs.mkdir a k s = .ok fs' ∧ ∀ x, fs'.entry x = if x = (a, k ++ [s]) then some (.dir true) else fs.entry x := by
  have hd : isDirEntry (fs.entry (a, k)) = true := by rw [hk]; rfl
  have hw : fs.writable (a, k) = true := by simp [Fs.writable, hk]
  refine ⟨_, ?_, Fs.put_entry fs a k s (.dir true) hd (by rw [hs]; rfl)⟩
  simp only [Fs.mkdir, dif_pos hd, hs, Option.isSome_none, Bool.false_eq_true, dite_false, hw, if_true]

/-- Nothing but writable directories on the way `names` below `(a, dir)`, the last place apart. -/
def wayClear (fs : Fs) (a : String) (dir : List String) : List String → Bool
  | [] | [_] => true
  | s :: rest => (fs.entry (a, dir ++ [s]) == none || fs.entry (a, dir ++ [s]) == some (.dir true)) &&
      wayClear fs a (dir ++ [s]) rest

/-- A way where nothing is is clear. -/
theorem wayClear_of_none {a : String} : ∀ (l dir : List String), (∀ k, k ≠ [] → fs.entry (a, dir ++ k) = none) →
    wayClear fs a dir l = true
  | [], _, _ | [_], _, _ => rfl
  | s :: t :: rest, dir, h => by
    simp only [wayClear, h [s] (List.cons_ne_nil _ _), beq_self_eq_true, Bool.true_or, Bool.true_and]
    exact wayClear_of_none (t :: rest) (dir ++ [s]) fun k hk => by
      rw [List.append_assoc, List.singleton_append]; exact h _ (List.cons_ne_nil _ _)

/-- `mkdirp` walks down through the directories that are there. -/
theorem mkdirpFrom_append_dirs (u : URI) (a : String) : ∀ (l₁ l₂ dir : List String) (fs : Fs),
    (∀ k, k ≠ [] → k <+: l₁ → isDirEntry (fs.entry (a, dir ++ k)) = true) →
    mkdirpFrom u a dir (l₁ ++ l₂) fs = mkdirpFrom u a (dir ++ l₁) l₂ fs
  | [], l₂, dir, fs, _ => by rw [List.nil_append, List.append_nil]
  | s :: l₁, l₂, dir, fs, h => by
    have hs := h [s] (List.cons_ne_nil _ _) (List.cons_prefix_cons.mpr ⟨rfl, List.nil_prefix⟩)
    rw [List.cons_append, mkdirpFrom_cons]
    rcases he : fs.entry (a, dir ++ [s]) with _ | ⟨_ | _⟩ <;> rw [he] at hs <;>
      simp only [isDirEntry, Bool.false_eq_true] at hs
    dsimp only
    rw [mkdirpFrom_append_dirs u a l₁ l₂ (dir ++ [s]) fs fun k hk hp => by
      rw [List.append_assoc, List.singleton_append]
      exact h (s :: k) (List.cons_ne_nil _ _) (List.cons_prefix_cons.mpr ⟨rfl, hp⟩), List.append_assoc,
      List.singleton_append]

/-- **`mkdirp` makes each missing directory of a clear way**, down to its target, from a writable directory. -/
theorem mkdirpFrom_clear (u : URI) (a : String) : ∀ (rest dir : List String) (fs : Fs), rest ≠ [] →
    fs.entry (a, dir) = some (.dir true) → wayClear fs a dir rest = true → fs.entry (a, dir ++ rest) = none →
    ∃ fs', mkdirpFrom u a dir rest fs = .ok () fs' ∧ fs'.entry (a, dir ++ rest) = some (.dir true)
  | [], _, _, h, _, _, _ => absurd rfl h
  | [s], dir, fs, _, hd, _, hn => by
    obtain ⟨fs', hm, he⟩ := Fs.mkdir_writable hd hn
    rw [mkdirpFrom_cons, hn]
    dsimp only
    rw [hm]
    exact ⟨fs', rfl, by rw [he, if_pos rfl]⟩
  | s :: t :: rest, dir, fs, _, hd, hw, hn => by
    simp only [wayClear, Bool.and_eq_true, Bool.or_eq_true, beq_iff_eq] at hw
    obtain ⟨hs | hs, hw⟩ := hw
    · obtain ⟨fs₁, hm, he⟩ := Fs.mkdir_writable hd hs
      have hbelow : ∀ k, k ≠ [] → fs₁.entry (a, dir ++ [s] ++ k) = none := fun k hk => by
        rw [he, if_neg (by simpa using hk), Fs.entry_below_none hs]
      rw [mkdirpFrom_cons, hs]
      dsimp only
      rw [hm]
      have := mkdirpFrom_clear u a (t :: rest) (dir ++ [s]) fs₁ (List.cons_ne_nil _ _)
        (by rw [he, if_pos rfl]) (wayClear_of_none _ _ hbelow) (hbelow _ (List.cons_ne_nil _ _))
      rwa [List.append_assoc, List.singleton_append] at this
    · rw [mkdirpFrom_cons, hs]
      have := mkdirpFrom_clear u a (t :: rest) (dir ++ [s]) fs (List.cons_ne_nil _ _) hs hw
        (by rwa [List.append_assoc, List.singleton_append])
      rwa [List.append_assoc, List.singleton_append] at this

/-- **`createFolder` makes a folder below a writable directory**, over a clear way, where nothing is, for a URI
without a backslash. -/
theorem createFolder_clear {u : URI} (hs : u.scheme = "file") (hb : '\\' ∉ u.codeUri.path.data) {K : List String}
    (hK : fs.entry (u.fsKey.1, K) = some (.dir true)) (hKu : K <+: u.fsKey.2)
    (hway : wayClear fs u.fsKey.1 K (u.fsKey.2.drop K.length) = true) (hu : fs.entry u.fsKey = none) :
    ∃ fs', createFolder u fs = .ok ⟨u, false, true⟩ fs' ∧ fs'.entry u.fsKey = some (.dir true) := by
  obtain ⟨ns, hns⟩ := hKu
  have hdrop : u.fsKey.2.drop K.length = ns := by rw [← hns, List.drop_left]
  rw [hdrop] at hway
  have hne : ns ≠ [] := by
    rintro rfl
    rw [List.append_nil] at hns
    rw [show u.fsKey = (u.fsKey.1, K) by rw [hns]] at hu
    rw [hu] at hK; cases hK
  have hdir : ∀ k, k ≠ [] → k <+: K → isDirEntry (fs.entry (u.fsKey.1, [] ++ k)) = true := fun k _ hk =>
    Fs.isDir_of_prefix (by rw [hK]; rfl) hk
  obtain ⟨fs', hm, he⟩ := mkdirpFrom_clear u u.fsKey.1 ns K fs hne hK hway (by rw [hns]; exact hu)
  have he' : fs'.entry u.fsKey = some (.dir true) := by rwa [hns] at he
  refine ⟨fs', ?_, he'⟩
  unfold createFolder
  have hmk : mkdirp u u.fsKey fs = mkdirpFrom u u.fsKey.1 [] (K ++ ns) fs := by
    rw [mkdirp_eq, hu, URI.pathKey_eq_fsKey hb, ← hns]
  rw [run_bind_ok (show withProvider u fs = .ok u.fsKey fs by simp [withProvider, hs]; rfl),
    run_bind_ok (by rw [hmk, mkdirpFrom_append_dirs u _ K ns [] fs hdir]; exact hm), resolve_eq, if_pos hs, he']

/-! ## Writing a file -/

/-- `exists`, run on the disk. -/
theorem fileExists_eq (u : URI) (fs : Fs) :
    fileExists u fs = if u.scheme = "file" then .ok (fs.entry u.fsKey).isSome fs else .error (.noProvider u) fs := by
  unfold fileExists withProvider; split <;> rfl

@[simp] theorem stateOf_fileExists (u : URI) (fs : Fs) : stateOf (fileExists u fs) = fs := by
  rw [fileExists_eq]; split <;> rfl

theorem dropLast_append_getLastD {l : List String} {last : String} (h : l.getLast? = some last) :
    l.dropLast ++ [l.getLastD ""] = l := by
  rw [List.getLastD_eq_getLast?, h]
  exact List.dropLast_append_getLast? _ h

/-- The provider's write, run on the disk. -/
theorem diskWrite_eq (u : URI) (a : String) (k : List String) (c : String) (fs : Fs) :
    diskWrite u (a, k) c fs =
      match k.getLast?, fs.writeFile a k.dropLast (k.getLastD "") c with
      | some _, .ok fs₁ => .ok () fs₁
      | some _, .error e => .error (.disk e u) fs
      | none, _ => .error (.isDirectory u) fs := by
  simp only [diskWrite, bind, EStateM.bind, get, getThe, MonadStateOf.get, EStateM.get]
  rcases k.getLast? with _ | _ <;> rcases fs.writeFile a k.dropLast (k.getLastD "") c <;> rfl

theorem diskWrite_eq_ok {u : URI} {key : FsKey} {c : String} (h : diskWrite u key c fs = .ok () fs') :
    fs'.entry key = some (.file c) := by
  obtain ⟨a, k⟩ := key
  rw [diskWrite_eq] at h
  rcases hl : k.getLast? with _ | last
  · rw [hl] at h; cases h
  · rcases hw : fs.writeFile a k.dropLast (k.getLastD "") c with e | fs₁ <;> rw [hl, hw] at h <;> cases h
    have := (Fs.writeFile_eq_ok hw).2.1
    rwa [dropLast_append_getLastD hl] at this

/-- The write adds the file where no file was. -/
theorem diskWrite_adds (u : URI) (key : FsKey) (c : String) (hf : ∀ c', fs.entry key ≠ some (.file c')) :
    Fs.Adds (fun k e => k = key ∧ e = .file c) fs (stateOf (diskWrite u key c fs)) := by
  obtain ⟨a, k⟩ := key
  rw [diskWrite_eq]
  rcases hl : k.getLast? with _ | last
  · exact Fs.Adds.refl _ fs
  · rcases hw : fs.writeFile a k.dropLast (k.getLastD "") c with e | fs₁
    · exact Fs.Adds.refl _ fs
    · have hw' := Fs.writeFile_eq_ok hw
      rw [dropLast_append_getLastD hl] at hw'
      have hn : fs.entry (a, k) = none := by
        rcases he : fs.entry (a, k) with _ | ⟨_ | c'⟩
        · rfl
        · simp [he, isDirEntry] at hw'
        · exact absurd he (hf c')
      exact hw'.2.2 hn

/-- The disk `writeFile` leaves: the one it found, the one `prepareWrite` leaves, or the one the write leaves
after it. -/
theorem stateOf_writeFile (u : URI) (c : String) (fs : Fs) :
    stateOf (writeFile u c fs) = fs ∨ stateOf (writeFile u c fs) = stateOf (prepareWrite u u.fsKey fs) ∨
      stateOf (writeFile u c fs) = stateOf (diskWrite u u.fsKey c (stateOf (prepareWrite u u.fsKey fs))) := by
  unfold writeFile
  rcases hw : withProvider u fs with ⟨key, fs₁⟩ | ⟨e, fs₁⟩
  · obtain ⟨-, rfl, rfl⟩ := withProvider_eq_ok hw
    rw [stateOf_bind_ok hw]
    rcases hpw : prepareWrite u u.fsKey fs with ⟨⟨⟩, fs₂⟩ | ⟨e, fs₂⟩
    · rw [stateOf_bind_ok hpw]
      exact .inr (.inr (stateOf_bind_resolve _ u fs₂))
    · rw [stateOf_bind_error hpw]; exact .inr (.inl rfl)
  · rw [stateOf_bind_error hw, ← withProvider_eq_error hw]; exact .inl rfl

/-- **A file written adds the file and directories on the path of its parent, and nothing else.** -/
theorem writeFile_adds (u : URI) (c : String) (h : fs.entry u.fsKey = none) :
    Fs.Adds (fun k _ => k.1 = u.authority ∧ (k = u.fsKey ∨ ∃ p, u.parent = .ok p ∧ k.2 <+: p.pathKey.2)) fs
      (stateOf (writeFile u c fs)) := by
  -- the directories of the parent
  have hprep : Fs.Adds (fun k e => k.1 = u.authority ∧ (∃ p, u.parent = .ok p ∧ k.2 <+: p.pathKey.2) ∧
      e = .dir true) fs (stateOf (prepareWrite u u.fsKey fs)) := by
    simp only [prepareWrite, bind, EStateM.bind, get, getThe, MonadStateOf.get, EStateM.get, h]
    rcases hp : u.parent with msg | p
    · exact Fs.Adds.refl _ fs
    · exact (mkdirp_adds p _ fs).mono fun k e ⟨hk1, hk, he⟩ =>
        ⟨hk1.trans (URI.parent_authority hp), ⟨p, rfl, hk⟩, he⟩
  -- then the file, where `prepareWrite` put no file
  have hf : ∀ c', (stateOf (prepareWrite u u.fsKey fs)).entry u.fsKey ≠ some (.file c') := fun c' hc =>
    nomatch (hprep.entry_of_ne hc (by rw [h]; exact Option.noConfusion)).2.2
  rcases stateOf_writeFile u c fs with hs | hs | hs <;> rw [hs]
  · exact Fs.Adds.refl _ fs
  · exact hprep.mono fun k e ⟨ha, hp, _⟩ => ⟨ha, .inr hp⟩
  · exact (hprep.mono fun k e ⟨ha, hp, _⟩ => ⟨ha, .inr hp⟩).trans
      ((diskWrite_adds u u.fsKey c hf).mono fun k e ⟨hk, _⟩ => ⟨hk ▸ rfl, .inl hk⟩)

/-- The overwrite check, run on the disk: it only reads. -/
theorem validateCreate_false (u : URI) (fs : Fs) :
    validateCreate u false fs =
      if u.scheme = "file" then (if (fs.entry u.fsKey).isSome then .error (.fileExists u) fs else .ok () fs)
      else .error (.noProvider u) fs := by
  unfold validateCreate fileExists withProvider
  by_cases hs : u.scheme = "file"
  · by_cases h : (fs.entry u.fsKey).isSome <;> simp [hs, h, bind, EStateM.bind, get, getThe, MonadStateOf.get,
      EStateM.get, pure, EStateM.pure, throw, throwThe, MonadExceptOf.throw, EStateM.throw]
  · simp [hs, bind, EStateM.bind, throw, throwThe, MonadExceptOf.throw, EStateM.throw]

/-- **A file created without `overwrite` adds the file and directories on the path of its parent.** -/
theorem createFile_adds (u : URI) (c : String) (fs : Fs) :
    Fs.Adds (fun k _ => k.1 = u.authority ∧ (k = u.fsKey ∨ ∃ p, u.parent = .ok p ∧ k.2 <+: p.pathKey.2)) fs
      (stateOf (createFile u c false fs)) := by
  unfold createFile
  have hv := validateCreate_false u fs
  by_cases hs : u.scheme = "file"
  · by_cases he : (fs.entry u.fsKey).isSome
    · rw [if_pos hs, if_pos he] at hv
      rw [stateOf_bind_error hv]; exact Fs.Adds.refl _ fs
    · rw [if_pos hs, if_neg he] at hv
      rw [stateOf_bind_ok hv]; exact writeFile_adds u c (Option.not_isSome_iff_eq_none.mp he)
  · rw [if_neg hs] at hv
    rw [stateOf_bind_error hv]; exact Fs.Adds.refl _ fs

/-- **A file written holds its content.** -/
theorem writeFile_entry {u : URI} {c : String} {st : FileStat} (h : writeFile u c fs = .ok st fs') :
    fs'.entry u.fsKey = some (.file c) := by
  obtain ⟨key, fs₁, h₁, h₂⟩ := bind_eq_ok.mp h
  obtain ⟨-, rfl, rfl⟩ := withProvider_eq_ok h₁
  obtain ⟨_, fs₂, -, h₃⟩ := bind_eq_ok.mp h₂
  obtain ⟨_, fs₃, h₄, h₅⟩ := bind_eq_ok.mp h₃
  rw [(resolve_eq_ok h₅).1]
  exact diskWrite_eq_ok h₄

/-- The stat a `writeFile` returns is of the file written. -/
theorem writeFile_resource {u : URI} {c : String} {st : FileStat} (h : writeFile u c fs = .ok st fs') :
    st.resource = u := by
  obtain ⟨_, _, -, h₂⟩ := bind_eq_ok.mp h
  obtain ⟨_, _, -, h₃⟩ := bind_eq_ok.mp h₂
  obtain ⟨_, _, -, h₅⟩ := bind_eq_ok.mp h₃
  exact (resolve_eq_ok h₅).2.1

end Limix.Theia
