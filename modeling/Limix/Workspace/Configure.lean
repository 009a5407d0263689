import Limix.Workspace.MultiRoot

/-!
# `configure`: the encoding overrides, the context keys and the styles

At start, `configure` registers a `UTF8` override for each workspace file extension, once, and then does what its
listener does on each change of the workspace (`onWorkspaceChanged`): `updateEncodingOverrides` disposes the overrides
it registered last and registers one for the folder of each configuration path (`.theia`, `.vscode`) below each root;
then the context keys `workspaceFolderCount`, `workspaceState` and `workbenchState` and the class
`theia-no-open-workspace` of the body are set from the workspace.

The encoding registry is shared with the rest of the frontend: other components register overrides of their own and
dispose them between two changes of the workspace. The disposable of an override splices out the very object it
registered (`indexOf` compares references), so the model gives each object an identity, and a registry carries that no
two objects have one (`EncodingRegistry.nodup`).

* `URI.resolve_file_ok`, `configFolders_ok`: for `file` roots without a backslash (`isFileRoot`) and configuration
  paths without a slash or a backslash, nothing in the listener throws;
* `Configured`: the registry holds the overrides other components registered and have not disposed, and the
  contribution's: those of the extensions, then one for each root and configuration path of the workspace, whose
  identities `toDisposeOnUpdateEncodingOverrides` holds; the keys and the class follow the workspace;
* `World.step_configured`, `World.run_configured`: each change of the workspace and each registration or disposal by
  another component keeps it, from `configure` on.
-/

namespace Limix.Workspace

open Limix.Theia

/-! ## The encoding registry -/

/-- `UTF8`, the encoding of the overrides of `configure`. -/
def UTF8 : String := "utf8"

/-- `EncodingOverride`: an encoding for the files with an extension, or for those below a parent folder. -/
structure EncodingOverride where
  encoding : String
  extension : Option String
  parent : Option URI
deriving DecidableEq, Inhabited

/-- A fresh identity, above every identity of a list, keeps its identities distinct. -/
theorem nodup_append_fresh {l : List (Nat × EncodingOverride)} {n : Nat} (h : (l.map (·.1)).Nodup)
    (hl : ∀ e ∈ l, e.1 < n) (o : EncodingOverride) : ((l ++ [(n, o)]).map (·.1)).Nodup := by
  rw [List.map_append, List.nodup_append]
  refine ⟨h, List.nodup_singleton _, fun a ha hb => ?_⟩
  obtain ⟨e, he, rfl⟩ := List.mem_map.mp ha
  have : e.1 = n := by simpa using hb
  exact absurd (hl e he) (by omega)

/-- `EncodingRegistry`: the overrides registered, oldest first, each object with its identity, and the identity of
the next object. -/
structure EncodingRegistry where
  encodingOverrides : List (Nat × EncodingOverride)
  nextId : Nat
  /-- No two objects have one identity. -/
  nodup : (encodingOverrides.map (·.1)).Nodup
  /-- Every object has an identity below `nextId`. -/
  lt_nextId : ∀ e ∈ encodingOverrides, e.1 < nextId

namespace EncodingRegistry

/-- A registry with no override. -/
def empty : EncodingRegistry := ⟨[], 0, List.nodup_nil, fun _ h => absurd h (List.not_mem_nil _)⟩

/-- `registerOverride`: the object pushed; its disposable is known by the object's identity. -/
def registerOverride (r : EncodingRegistry) (o : EncodingOverride) : Nat × EncodingRegistry :=
  (r.nextId, ⟨r.encodingOverrides ++ [(r.nextId, o)], r.nextId + 1, nodup_append_fresh r.nodup r.lt_nextId o,
    fun e he => by
      rcases List.mem_append.mp he with he | he
      · exact Nat.lt_succ_of_lt (r.lt_nextId e he)
      · rw [List.mem_singleton.mp he]; exact Nat.lt_succ_self _⟩)

/-- The disposable of `registerOverride`: the object spliced out at its `indexOf`, if it is still there. -/
def dispose (r : EncodingRegistry) (d : Nat) : EncodingRegistry :=
  ⟨r.encodingOverrides.eraseP (·.1 == d), r.nextId, r.nodup.sublist ((List.eraseP_sublist _).map _),
    fun e he => r.lt_nextId e (List.mem_of_mem_eraseP he)⟩

/-- `dispose()` of a `DisposableCollection` of such disposables: each popped, the last first, and disposed. -/
def disposeAll (r : EncodingRegistry) (ds : List Nat) : EncodingRegistry := ds.foldr (fun d r => r.dispose d) r

/-- The registry after `os` are registered in turn. -/
def registerAll (r : EncodingRegistry) (os : List EncodingOverride) : EncodingRegistry :=
  os.foldl (fun r o => (r.registerOverride o).2) r

/-- Splicing out the first object of an identity removes every object of it, as no two share one. -/
theorem eraseP_eq_filter : ∀ {l : List (Nat × EncodingOverride)}, (l.map (·.1)).Nodup → ∀ d : Nat,
    l.eraseP (·.1 == d) = l.filter (·.1 ≠ d)
  | [], _, _ => rfl
  | e :: l, h, d => by
    rw [List.map_cons, List.nodup_cons] at h
    by_cases he : e.1 = d
    · subst he
      simp only [List.eraseP_cons, beq_self_eq_true, cond_true, List.filter_cons, ne_eq, not_true_eq_false,
        decide_False, Bool.false_eq_true, ↓reduceIte]
      exact (List.filter_eq_self.mpr fun x hx => by
        have : x.1 ≠ e.1 := fun hx' => h.1 (by rw [← hx']; exact List.mem_map_of_mem _ hx)
        simpa using this).symm
    · simp [he, eraseP_eq_filter h.2 d]

@[simp] theorem nextId_dispose (r : EncodingRegistry) (d : Nat) : (r.dispose d).nextId = r.nextId := rfl

theorem encodingOverrides_dispose (r : EncodingRegistry) (d : Nat) :
    (r.dispose d).encodingOverrides = r.encodingOverrides.filter (·.1 ≠ d) :=
  eraseP_eq_filter r.nodup d

@[simp] theorem nextId_disposeAll (r : EncodingRegistry) : ∀ ds : List Nat, (r.disposeAll ds).nextId = r.nextId
  | [] => rfl
  | _ :: ds => nextId_disposeAll r ds

/-- Disposing a collection removes the objects of its identities. -/
theorem encodingOverrides_disposeAll (r : EncodingRegistry) : ∀ ds : List Nat,
    (r.disposeAll ds).encodingOverrides = r.encodingOverrides.filter (·.1 ∉ ds)
  | [] => by simp [disposeAll]
  | d :: ds => by
    show ((r.disposeAll ds).dispose d).encodingOverrides = _
    rw [encodingOverrides_dispose, encodingOverrides_disposeAll r ds, List.filter_filter]
    exact List.filter_congr fun e _ => by simp [and_comm]

@[simp] theorem nextId_registerAll : ∀ (os : List EncodingOverride) (r : EncodingRegistry),
    (r.registerAll os).nextId = r.nextId + os.length
  | [], _ => rfl
  | _ :: os, r => by
    show ((r.registerOverride _).2.registerAll os).nextId = _
    rw [nextId_registerAll os]
    simp only [registerOverride, List.length_cons]
    omega

/-- Registering in turn appends the objects with the next identities, in order. -/
theorem encodingOverrides_registerAll : ∀ (os : List EncodingOverride) (r : EncodingRegistry),
    (r.registerAll os).encodingOverrides = r.encodingOverrides ++ os.enumFrom r.nextId
  | [], _ => by simp [registerAll]
  | o :: os, r => by
    show ((r.registerOverride o).2.registerAll os).encodingOverrides = _
    rw [encodingOverrides_registerAll os]
    simp [registerOverride, List.enumFrom_cons]

end EncodingRegistry

/-! ## The workspace and the frontend -/

/-- What `configure` reads of `WorkspaceService`. -/
structure WorkspaceView where
  /-- The `resource` of each root of `tryGetRoots()`. -/
  roots : List URI
  opened : Bool
  isMultiRootWorkspaceOpened : Bool

/-- `WorkspaceState` and `WorkbenchState`. -/
inductive WorkspaceState
  | empty
  | folder
  | workspace
deriving DecidableEq, Repr

/-- `doUpdateState`. -/
def doUpdateState (ws : WorkspaceView) : WorkspaceState :=
  if ws.opened then if ws.isMultiRootWorkspaceOpened then .workspace else .folder else .empty

/-- `updateWorkspaceStateKey`. -/
def updateWorkspaceStateKey (ws : WorkspaceView) : WorkspaceState := doUpdateState ws

/-- `updateWorkbenchStateKey`. -/
def updateWorkbenchStateKey (ws : WorkspaceView) : WorkspaceState := doUpdateState ws

/-- The class of the body that shows the colours of no open workspace. -/
def noOpenWorkspace : String := "theia-no-open-workspace"

/-- `classList.remove(c)`. -/
def removeClass (c : String) (classes : List String) : List String := classes.filter (· != c)

/-- `classList.add(c)`. -/
def addClass (c : String) (classes : List String) : List String := if c ∈ classes then classes else classes ++ [c]

/-- `updateStyles`. -/
def updateStyles (ws : WorkspaceView) (classes : List String) : List String :=
  let classes := removeClass noOpenWorkspace classes
  if !ws.isMultiRootWorkspaceOpened && ws.roots.length == 0 then addClass noOpenWorkspace classes else classes

/-- The class is on the body after `updateStyles` exactly when the workspace has no root and is no multi-root one. -/
theorem mem_updateStyles (ws : WorkspaceView) (classes : List String) :
    noOpenWorkspace ∈ updateStyles ws classes ↔ ws.isMultiRootWorkspaceOpened = false ∧ ws.roots = [] := by
  have hr : noOpenWorkspace ∉ removeClass noOpenWorkspace classes := by simp [removeClass]
  unfold updateStyles
  split
  · next h =>
    simp only [Bool.and_eq_true, Bool.not_eq_true', beq_iff_eq, List.length_eq_zero] at h
    simp [addClass, hr, h]
  · next h =>
    simp only [Bool.and_eq_true, Bool.not_eq_true', beq_iff_eq, List.length_eq_zero, not_and] at h
    exact ⟨fun hm => absurd hm hr, fun ⟨h₁, h₂⟩ => absurd h₂ (h h₁)⟩

/-- What `configure` and its listener change: the shared encoding registry, the contribution's
`toDisposeOnUpdateEncodingOverrides`, the three context keys and the classes of `document.body`. -/
structure Frontend where
  registry : EncodingRegistry
  toDisposeOnUpdateEncodingOverrides : List Nat
  workspaceFolderCount : Nat
  workspaceState : WorkspaceState
  workbenchState : WorkspaceState
  bodyClasses : List String

/-- The frontend before `configure`: the registry as other components left it, the contribution's collection of
disposables new, and the keys at the defaults `createKey` gives them. -/
def Frontend.init (registry : EncodingRegistry) (bodyClasses : List String) : Frontend :=
  ⟨registry, [], 0, .empty, .empty, bodyClasses⟩

/-- `configure` and its listener at work; `resolve` throws the `Error` of `vscode-uri`. -/
abbrev FrontendM := EStateM String Frontend

/-! ## `configure` -/

/-- `this.encodingRegistry.registerOverride(o)`: the disposable it returns. -/
def registerOverride (o : EncodingOverride) : FrontendM Nat := fun f =>
  .ok (f.registry.registerOverride o).1 { f with registry := (f.registry.registerOverride o).2 }

/-- `this.toDisposeOnUpdateEncodingOverrides.push(d)`. -/
def pushDisposable (d : Nat) : FrontendM Unit :=
  modify fun f => { f with toDisposeOnUpdateEncodingOverrides := f.toDisposeOnUpdateEncodingOverrides ++ [d] }

/-- The override of a workspace file extension. -/
def extensionOverride (extension : String) : EncodingOverride := ⟨UTF8, some extension, none⟩

/-- The override of the folder of a configuration path. -/
def parentOverride (parent : URI) : EncodingOverride := ⟨UTF8, none, some parent⟩

/-- The loop of `configure` over the workspace file extensions; the disposables are dropped. -/
def registerExtensionOverrides : List String → FrontendM Unit
  | [] => pure ()
  | extension :: extensions => do
    let _ ← registerOverride (extensionOverride extension)
    registerExtensionOverrides extensions

/-- The inner loop of `updateEncodingOverrides`: the override of the folder of each configuration path below `root`,
its disposable pushed; `resolve` may throw. -/
def registerConfigOverrides (root : URI) : List String → FrontendM Unit
  | [] => pure ()
  | configPath :: configPaths =>
    match root.resolve configPath with
    | .ok parent => do
      let d ← registerOverride (parentOverride parent)
      pushDisposable d
      registerConfigOverrides root configPaths
    | .error e => throw e

/-- The outer loop of `updateEncodingOverrides`, over the roots. -/
def registerRootOverrides (configPaths : List String) : List URI → FrontendM Unit
  | [] => pure ()
  | root :: roots => do
    registerConfigOverrides root configPaths
    registerRootOverrides configPaths roots

/-- `updateEncodingOverrides`: the overrides it registered last disposed, then those of the roots registered. -/
def updateEncodingOverrides (configPaths : List String) (ws : WorkspaceView) : FrontendM Unit := do
  modify fun f => { f with registry := f.registry.disposeAll f.toDisposeOnUpdateEncodingOverrides,
                           toDisposeOnUpdateEncodingOverrides := [] }
  registerRootOverrides configPaths ws.roots

/-- `updateWorkspaceFolderCountKey`, `updateWorkspaceStateKey` and `updateWorkbenchStateKey` (each a `set` of its
key), then `updateStyles`. -/
def updateKeysAndStyles (ws : WorkspaceView) : FrontendM Unit :=
  modify fun f => { f with workspaceFolderCount := ws.roots.length, workspaceState := updateWorkspaceStateKey ws,
                           workbenchState := updateWorkbenchStateKey ws, bodyClasses := updateStyles ws f.bodyClasses }

/-- The listener `configure` gives `workspaceService.onWorkspaceChanged`, on the workspace `ws` it reads. -/
def onWorkspaceChanged (configPaths : List String) (ws : WorkspaceView) : FrontendM Unit := do
  updateEncodingOverrides configPaths ws
  updateKeysAndStyles ws

/-- `configure`, given `getWorkspaceFileExtensions()`, `preferenceConfigurations.getPaths()` and the workspace at
start: the overrides of the extensions, then what the listener does. -/
def configure (workspaceExtensions configPaths : List String) (ws : WorkspaceView) : FrontendM Unit := do
  registerExtensionOverrides workspaceExtensions
  onWorkspaceChanged configPaths ws

/-! ## Running `configure` -/

/-- The folder of each configuration path below each root, in the order `updateEncodingOverrides` visits them. -/
def configFolders (configPaths : List String) : List URI → Except String (List URI)
  | [] => .ok []
  | root :: roots => do
    let parents ← configPaths.mapM root.resolve
    let rest ← configFolders configPaths roots
    pure (parents ++ rest)

/-- A root the configuration paths resolve against: a `file` URI whose path holds no backslash (`/\\x` has the
`Path` `//x`, and what is resolved against it begins with two slashes). -/
def isFileRoot (u : URI) : Bool := u.scheme == "file" && !u.codeUri.path.data.contains '\\'

theorem isFileRoot_iff {u : URI} : isFileRoot u = true ↔ u.scheme = "file" ∧ '\\' ∉ u.codeUri.path.data := by
  simp [isFileRoot]

/-- For roots that are `file` URIs without a backslash, and configuration paths without a slash or a backslash, every
folder resolves. -/
theorem configFolders_ok {configPaths : List String} (hps : ∀ p ∈ configPaths, '/' ∉ p.data)
    (hpb : ∀ p ∈ configPaths, '\\' ∉ p.data) :
    ∀ roots : List URI, (∀ root ∈ roots, isFileRoot root = true) → ∃ vs, configFolders configPaths roots = .ok vs
  | [], _ => ⟨[], rfl⟩
  | root :: roots, h => by
    obtain ⟨hs, hb⟩ := isFileRoot_iff.mp (h root (List.mem_cons_self _ _))
    have hm : ∀ ps : List String, (∀ p ∈ ps, '/' ∉ p.data ∧ '\\' ∉ p.data) →
        ∃ vs, ps.mapM root.resolve = .ok vs := by
      intro ps
      induction ps with
      | nil => exact fun _ => ⟨[], rfl⟩
      | cons p ps ih =>
        intro hp
        obtain ⟨hp1, hp2⟩ := hp p (List.mem_cons_self _ _)
        obtain ⟨v, hv⟩ := URI.resolve_file_ok hs hb hp1 hp2
        obtain ⟨vs, hvs⟩ := ih fun q hq => hp q (List.mem_cons_of_mem _ hq)
        exact ⟨v :: vs, by rw [List.mapM_cons, hv, hvs]; rfl⟩
    obtain ⟨ps, hps'⟩ := hm configPaths fun p hp => ⟨hps p hp, hpb p hp⟩
    obtain ⟨rest, hrest⟩ := configFolders_ok hps hpb roots fun r hr => h r (List.mem_cons_of_mem _ hr)
    exact ⟨ps ++ rest, by rw [configFolders, hps', hrest]; rfl⟩

/-- The frontend after the overrides `os` were registered and their disposables pushed. -/
def Frontend.registerAll (f : Frontend) (os : List EncodingOverride) : Frontend :=
  { f with registry := f.registry.registerAll os,
           toDisposeOnUpdateEncodingOverrides :=
             f.toDisposeOnUpdateEncodingOverrides ++ List.range' f.registry.nextId os.length }

theorem Frontend.registerAll_nil (f : Frontend) : f.registerAll [] = f := by
  simp [Frontend.registerAll, EncodingRegistry.registerAll]

theorem Frontend.registerAll_cons (f : Frontend) (o : EncodingOverride) (os : List EncodingOverride) :
    ({ f with registry := (f.registry.registerOverride o).2,
              toDisposeOnUpdateEncodingOverrides := f.toDisposeOnUpdateEncodingOverrides ++ [f.registry.nextId] } :
      Frontend).registerAll os = f.registerAll (o :: os) := by
  simp only [Frontend.registerAll, List.length_cons, List.range'_succ, List.append_assoc, List.singleton_append]
  rfl

theorem Frontend.registerAll_append (f : Frontend) (os os' : List EncodingOverride) :
    (f.registerAll os).registerAll os' = f.registerAll (os ++ os') := by
  simp only [Frontend.registerAll, EncodingRegistry.nextId_registerAll, List.append_assoc, List.length_append,
    ← List.range'_append, Nat.one_mul]
  simp [EncodingRegistry.registerAll, List.foldl_append, Nat.add_comm]

section Run

variable {β : Type} {f : Frontend}

@[simp] theorem run_registerOverride_bind {o : EncodingOverride} {g : Nat → FrontendM β} :
    (registerOverride o >>= g) f =
      g (f.registry.registerOverride o).1 { f with registry := (f.registry.registerOverride o).2 } := rfl

@[simp] theorem run_pushDisposable_bind {d : Nat} {g : Unit → FrontendM β} :
    (pushDisposable d >>= g) f =
      g () { f with toDisposeOnUpdateEncodingOverrides := f.toDisposeOnUpdateEncodingOverrides ++ [d] } := rfl

@[simp] theorem run_modify_bind {h : Frontend → Frontend} {g : Unit → FrontendM β} :
    (modify h >>= g) f = g () (h f) := rfl

end Run

/-- The inner loop registers the override of each folder, in order, and pushes each disposable. -/
theorem registerConfigOverrides_run (root : URI) : ∀ (ps : List String) (vs : List URI) (f : Frontend),
    ps.mapM root.resolve = .ok vs → registerConfigOverrides root ps f = .ok () (f.registerAll (vs.map parentOverride))
  | [], vs, f, h => by
    cases h
    rw [List.reverse_nil, List.map_nil, Frontend.registerAll_nil]
    rfl
  | p :: ps, vs, f, h => by
    rw [List.mapM_cons] at h
    rcases hp : root.resolve p with e | v
    · rw [hp] at h; cases h
    rcases hm : ps.mapM root.resolve with e | vs'
    · rw [hp, hm] at h; cases h
    rw [hp, hm] at h
    cases h
    simp only [registerConfigOverrides, hp, run_registerOverride_bind, run_pushDisposable_bind]
    rw [registerConfigOverrides_run root ps vs' _ hm, List.map_cons, ← Frontend.registerAll_cons]
    rfl

/-- The outer loop registers the override of each folder of `configFolders`, in order. -/
theorem registerRootOverrides_run (ps : List String) : ∀ (roots vs : List URI) (f : Frontend),
    configFolders ps roots = .ok vs → registerRootOverrides ps roots f = .ok () (f.registerAll (vs.map parentOverride))
  | [], vs, f, h => by
    cases h
    rw [List.map_nil, Frontend.registerAll_nil]
    rfl
  | root :: roots, vs, f, h => by
    rcases hm : ps.mapM root.resolve with e | vs₁
    · rw [configFolders, hm] at h; cases h
    rcases hr : configFolders ps roots with e | vs₂
    · rw [configFolders, hm, hr] at h; cases h
    rw [configFolders, hm, hr] at h
    cases h
    rw [registerRootOverrides, run_bind_ok (registerConfigOverrides_run root ps vs₁ f hm),
      registerRootOverrides_run ps roots vs₂ _ hr, Frontend.registerAll_append, List.map_append]

/-- **The listener, when nothing throws**: the overrides registered last are disposed, one is registered for the
folder of each configuration path below each root, and the keys and the class are set. -/
theorem onWorkspaceChanged_run {ps : List String} {ws : WorkspaceView} {vs : List URI}
    (h : configFolders ps ws.roots = .ok vs) (f : Frontend) :
    onWorkspaceChanged ps ws f = .ok ()
      { ({ f with registry := f.registry.disposeAll f.toDisposeOnUpdateEncodingOverrides,
                  toDisposeOnUpdateEncodingOverrides := [] } : Frontend).registerAll (vs.map parentOverride) with
        workspaceFolderCount := ws.roots.length, workspaceState := doUpdateState ws,
        workbenchState := doUpdateState ws, bodyClasses := updateStyles ws f.bodyClasses } := by
  simp only [onWorkspaceChanged, updateEncodingOverrides, bind_assoc, run_modify_bind]
  rw [run_bind_ok (registerRootOverrides_run ps ws.roots vs _ h)]
  rfl

/-- The loop over the extensions registers their overrides, in order. -/
theorem registerExtensionOverrides_run : ∀ (extensions : List String) (f : Frontend),
    registerExtensionOverrides extensions f =
      .ok () { f with registry := f.registry.registerAll (extensions.map extensionOverride) }
  | [], f => by simp [registerExtensionOverrides, EncodingRegistry.registerAll]; rfl
  | e :: es, f => by
    simp only [registerExtensionOverrides, run_registerOverride_bind]
    rw [registerExtensionOverrides_run es]
    rfl

/-! ## The frontend over time -/

/-- What happens after `configure`. -/
inductive FrontendEvent
  /-- The workspace service comes to hold `ws` and fires `onWorkspaceChanged`. -/
  | workspaceChanged (ws : WorkspaceView)
  /-- Another component registers an override. -/
  | registerOther (o : EncodingOverride)
  /-- Another component disposes an override it registered, known by the object's identity. -/
  | disposeOther (d : Nat)

/-- The roots of a change of the workspace are `file` URIs without a backslash. -/
def FrontendEvent.fileRoots : FrontendEvent → Bool
  | .workspaceChanged ws => ws.roots.all isFileRoot
  | _ => true

/-- The frontend, the workspace the workspace service holds, and the overrides other components registered and have
not disposed, each with its identity. -/
structure World where
  frontend : Frontend
  workspace : WorkspaceView
  held : List (Nat × EncodingOverride)

/-- The identities of the overrides other components hold. -/
def World.heldIds (w : World) : List Nat := w.held.map (·.1)

/-- The world `configure` starts: every override already in the registry is another component's. -/
def World.init (workspaceExtensions configPaths : List String) (ws : WorkspaceView) (f : Frontend) : World :=
  ⟨stateOf (configure workspaceExtensions configPaths ws f), ws, f.registry.encodingOverrides⟩

/-- One event; the emitter catches what the listener throws, and a component disposes only what it holds. -/
def World.step (configPaths : List String) (w : World) : FrontendEvent → World
  | .workspaceChanged ws => ⟨stateOf (onWorkspaceChanged configPaths ws w.frontend), ws, w.held⟩
  | .registerOther o =>
    ⟨{ w.frontend with registry := (w.frontend.registry.registerOverride o).2 }, w.workspace,
      w.held ++ [((w.frontend.registry.registerOverride o).1, o)]⟩
  | .disposeOther d =>
    if d ∈ w.heldIds then
      ⟨{ w.frontend with registry := w.frontend.registry.dispose d }, w.workspace, w.held.eraseP (·.1 == d)⟩
    else w

/-- Events in turn. -/
def World.run (configPaths : List String) (w : World) (evs : List FrontendEvent) : World :=
  evs.foldl (World.step configPaths) w

/-- What holds of the registry after `configure`, with `exts` the overrides of the extensions and their identities. -/
structure Registered (configPaths : List String) (exts : List (Nat × EncodingOverride)) (w : World) : Prop where
  /-- The overrides of other components are those they registered and have not disposed, in order. -/
  others : w.frontend.registry.encodingOverrides.filter (·.1 ∈ w.heldIds) = w.held
  /-- The contribution's are those of the extensions, then one for the folder of each configuration path below each
  root, with their identities in `toDisposeOnUpdateEncodingOverrides`. -/
  own : ∃ vs, configFolders configPaths w.workspace.roots = .ok vs ∧
    w.frontend.toDisposeOnUpdateEncodingOverrides.length = vs.length ∧
    w.frontend.registry.encodingOverrides.filter (·.1 ∉ w.heldIds) =
      exts ++ w.frontend.toDisposeOnUpdateEncodingOverrides.zip (vs.map parentOverride)

/-- What holds of the frontend after `configure`: the registry as `Registered` says, and the context keys and the
class of the body follow the workspace. -/
structure Configured (configPaths : List String) (exts : List (Nat × EncodingOverride)) (w : World)
    extends Registered configPaths exts w : Prop where
  workspaceFolderCount : w.frontend.workspaceFolderCount = w.workspace.roots.length
  workspaceState : w.frontend.workspaceState = doUpdateState w.workspace
  workbenchState : w.frontend.workbenchState = doUpdateState w.workspace
  styles : noOpenWorkspace ∈ w.frontend.bodyClasses ↔
    w.workspace.isMultiRootWorkspaceOpened = false ∧ w.workspace.roots = []

/-! ## Each event keeps the invariant -/

/-- A filter that keeps what another keeps makes the other one idle. -/
theorem filter_filter_of_imp {α : Type} {p q : α → Bool} {l : List α} (h : ∀ x ∈ l, p x = true → q x = true) :
    (l.filter q).filter p = l.filter p := by
  rw [List.filter_filter]
  exact List.filter_congr fun x hx => by cases hp : p x <;> simp [hp, h x hx]

section Invariant

variable {ps : List String} {exts : List (Nat × EncodingOverride)} {w : World}

/-- Other components hold identities the registry gave out. -/
theorem Registered.heldIds_lt (hw : Registered ps exts w) : ∀ d ∈ w.heldIds, d < w.frontend.registry.nextId := by
  intro d hd
  obtain ⟨e, he, rfl⟩ := List.mem_map.mp hd
  rw [← hw.others] at he
  exact w.frontend.registry.lt_nextId e (List.mem_filter.mp he).1

/-- The contribution's disposables are of no other component, and not of the overrides of the extensions. -/
theorem Registered.toDispose_fresh (hw : Registered ps exts w) :
    (∀ c ∈ w.frontend.toDisposeOnUpdateEncodingOverrides, c ∉ w.heldIds) ∧
      ∀ e ∈ exts, e.1 ∉ w.frontend.toDisposeOnUpdateEncodingOverrides := by
  obtain ⟨vs, -, hlen, hown⟩ := hw.own
  have hzip : (w.frontend.toDisposeOnUpdateEncodingOverrides.zip (vs.map parentOverride)).map (·.1) =
      w.frontend.toDisposeOnUpdateEncodingOverrides := List.map_fst_zip _ _ (by simp [hlen])
  have hnd : ((w.frontend.registry.encodingOverrides.filter (·.1 ∉ w.heldIds)).map (·.1)).Nodup :=
    w.frontend.registry.nodup.sublist ((List.filter_sublist _).map _)
  rw [hown, List.map_append, hzip, List.nodup_append] at hnd
  refine ⟨fun c hc => ?_, fun e he hc => hnd.2.2 (List.mem_map_of_mem _ he) hc⟩
  rw [← hzip] at hc
  obtain ⟨e, he, rfl⟩ := List.mem_map.mp hc
  have : e ∈ w.frontend.registry.encodingOverrides.filter (·.1 ∉ w.heldIds) := by
    rw [hown]; exact List.mem_append_right _ he
  simpa using (List.mem_filter.mp this).2

/-- New objects are of no other component. -/
theorem Registered.enumFrom_not_held (hw : Registered ps exts w) (os : List EncodingOverride) :
    ∀ e ∈ os.enumFrom w.frontend.registry.nextId, e.1 ∉ w.heldIds := fun e he hd =>
  absurd (hw.heldIds_lt _ hd) (Nat.not_lt.mpr (List.mem_enumFrom (show (e.1, e.2) ∈ _ from he)).1)

/-- **A change of the workspace sets the invariant up**, whatever the keys and the class were: the overrides of the
last update are disposed, those of the new roots registered under new identities, and the keys and the class set. -/
theorem Registered.workspaceChanged (hw : Registered ps exts w) {ws : WorkspaceView} {vs : List URI}
    (hvs : configFolders ps ws.roots = .ok vs) : Configured ps exts (w.step ps (.workspaceChanged ws)) := by
  obtain ⟨hheld, hext⟩ := hw.toDispose_fresh
  obtain ⟨vs₀, -, -, hown⟩ := hw.own
  have hnew := hw.enumFrom_not_held (vs.map parentOverride)
  have hothers := hw.others
  simp only [World.heldIds] at hheld hown hnew hothers
  simp only [World.step, onWorkspaceChanged_run hvs, stateOf_ok]
  refine ⟨⟨?_, vs, hvs, ?_, ?_⟩, rfl, rfl, rfl, mem_updateStyles ws _⟩
  all_goals simp only [World.heldIds, Frontend.registerAll, EncodingRegistry.encodingOverrides_registerAll,
    EncodingRegistry.encodingOverrides_disposeAll, EncodingRegistry.nextId_disposeAll, List.nil_append]
  · have himp : ∀ x ∈ w.frontend.registry.encodingOverrides, decide (x.1 ∈ w.held.map (·.1)) = true →
        decide (x.1 ∉ w.frontend.toDisposeOnUpdateEncodingOverrides) = true := fun x _ hx => by
      simp only [decide_eq_true_eq] at hx ⊢; exact fun hc => hheld _ hc hx
    rw [List.filter_append, filter_filter_of_imp himp,
      List.filter_eq_nil_iff.mpr fun x hx h => hnew x hx (of_decide_eq_true h), List.append_nil, hothers]
  · simp
  · rw [List.filter_append, List.filter_comm, hown, List.filter_append,
      List.filter_eq_self.mpr fun x hx => decide_eq_true (hext x hx),
      List.filter_eq_nil_iff.mpr fun x hx h => absurd (List.of_mem_zip (show (x.1, x.2) ∈ _ from hx)).1
        (of_decide_eq_true h),
      List.append_nil, List.filter_eq_self.mpr fun x hx => decide_eq_true (hnew x hx), List.enumFrom_eq_zip_range']

/-- Another component's registration keeps the invariant: the new object has an identity no one had. -/
theorem Configured.registerOther (hw : Configured ps exts w) (o : EncodingOverride) :
    Configured ps exts (w.step ps (.registerOther o)) := by
  obtain ⟨vs, hvs, hlen, hown⟩ := hw.own
  have hothers := hw.others
  have hfresh : ∀ x ∈ w.frontend.registry.encodingOverrides,
      (x.1 ∈ w.held.map (·.1) ++ [w.frontend.registry.nextId] ↔ x.1 ∈ w.held.map (·.1)) := fun x hx => by
    rw [List.mem_append, List.mem_singleton, or_iff_left (Nat.ne_of_lt (w.frontend.registry.lt_nextId x hx))]
  have hn : w.frontend.registry.nextId ∈ w.held.map (·.1) ++ [w.frontend.registry.nextId] :=
    List.mem_append_right _ (List.mem_singleton_self _)
  simp only [World.heldIds] at hown hothers
  refine ⟨⟨?_, vs, hvs, hlen, ?_⟩, hw.workspaceFolderCount, hw.workspaceState, hw.workbenchState, hw.styles⟩
  all_goals simp only [World.step, World.heldIds, EncodingRegistry.registerOverride, List.map_append, List.map_cons,
    List.map_nil, List.filter_append]
  · rw [List.filter_congr fun x hx => decide_eq_decide.mpr (hfresh x hx), hothers]
    simp only [List.filter_cons, hn, decide_True, ↓reduceIte, List.filter_nil]
  · rw [List.filter_congr fun x hx => decide_eq_decide.mpr (not_congr (hfresh x hx)), hown]
    simp only [List.filter_cons, hn, not_true_eq_false, decide_False, Bool.false_eq_true, ↓reduceIte,
      List.filter_nil, List.append_nil]

/-- Another component's disposal keeps the invariant: it removes that component's object and no other. -/
theorem Configured.disposeOther (hw : Configured ps exts w) (d : Nat) :
    Configured ps exts (w.step ps (.disposeOther d)) := by
  simp only [World.step]
  split
  · next hd =>
    obtain ⟨vs, hvs, hlen, hown⟩ := hw.own
    have hothers := hw.others
    simp only [World.heldIds] at hown hothers hd
    have hnd : (w.held.map (·.1)).Nodup := by
      rw [← hothers]; exact w.frontend.registry.nodup.sublist ((List.filter_sublist _).map _)
    have hmem : ∀ x, x ∈ (w.held.filter (·.1 ≠ d)).map (·.1) ↔ x ∈ w.held.map (·.1) ∧ x ≠ d := fun x => by
      simp only [List.mem_map, List.mem_filter, decide_eq_true_eq]
      constructor
      · rintro ⟨e, ⟨he, hd⟩, rfl⟩; exact ⟨⟨e, he, rfl⟩, hd⟩
      · rintro ⟨⟨e, he, rfl⟩, hd⟩; exact ⟨e, ⟨he, hd⟩, rfl⟩
    refine ⟨⟨?_, vs, hvs, hlen, ?_⟩, hw.workspaceFolderCount, hw.workspaceState, hw.workbenchState, hw.styles⟩
    all_goals simp only [World.heldIds, EncodingRegistry.encodingOverrides_dispose,
      EncodingRegistry.eraseP_eq_filter hnd, List.filter_filter]
    · conv => rhs; rw [← hothers, List.filter_filter]
      exact List.filter_congr fun x _ => by
        rw [← Bool.decide_and, ← Bool.decide_and]
        exact decide_eq_decide.mpr ⟨fun ⟨h₁, h₂⟩ => ⟨h₂, ((hmem _).mp h₁).1⟩,
          fun ⟨h₂, h₁⟩ => ⟨(hmem _).mpr ⟨h₁, h₂⟩, h₂⟩⟩
    · rw [← hown]
      exact List.filter_congr fun x _ => by
        rw [← Bool.decide_and]
        exact decide_eq_decide.mpr ⟨fun ⟨h₁, h₂⟩ h₃ => h₁ ((hmem _).mpr ⟨h₃, h₂⟩),
          fun h => ⟨fun h₃ => h ((hmem _).mp h₃).1, fun e => h (e ▸ hd)⟩⟩
  · exact hw

/-- **Each event keeps the invariant**, when the roots of a change of the workspace are `file` URIs without a
backslash. -/
theorem World.step_configured (hw : Configured ps exts w) (hps : ∀ p ∈ ps, '/' ∉ p.data)
    (hpb : ∀ p ∈ ps, '\\' ∉ p.data) {ev : FrontendEvent} (hev : ev.fileRoots = true) :
    Configured ps exts (w.step ps ev) := by
  cases ev with
  | workspaceChanged ws =>
    obtain ⟨vs, hvs⟩ := configFolders_ok hps hpb ws.roots (List.all_eq_true.mp hev)
    exact hw.toRegistered.workspaceChanged hvs
  | registerOther o => exact hw.registerOther o
  | disposeOther d => exact hw.disposeOther d

theorem Configured.run (hps : ∀ p ∈ ps, '/' ∉ p.data) (hpb : ∀ p ∈ ps, '\\' ∉ p.data) :
    ∀ (evs : List FrontendEvent) (w : World), Configured ps exts w → (∀ ev ∈ evs, ev.fileRoots = true) →
      Configured ps exts (w.run ps evs)
  | [], _, hw, _ => hw
  | ev :: evs, w, hw, h =>
    Configured.run hps hpb evs (w.step ps ev) (World.step_configured hw hps hpb (h ev (List.mem_cons_self _ _)))
      fun ev' hev' => h ev' (List.mem_cons_of_mem _ hev')

end Invariant

/-! ## From `configure` on -/

/-- `configure` is its loop over the extensions, then a change to the workspace at start. -/
theorem World.init_eq (workspaceExtensions configPaths : List String) (ws : WorkspaceView) (r : EncodingRegistry)
    (bodyClasses : List String) :
    World.init workspaceExtensions configPaths ws (Frontend.init r bodyClasses) =
      World.step configPaths
        ⟨{ Frontend.init r bodyClasses with registry := r.registerAll (workspaceExtensions.map extensionOverride) },
          ⟨[], false, false⟩, r.encodingOverrides⟩ (.workspaceChanged ws) := by
  simp only [World.init, configure, World.step]
  rw [run_bind_ok (registerExtensionOverrides_run workspaceExtensions _)]
  rfl

/-- Before the first change, the overrides of the extensions are the contribution's only ones. -/
theorem registered_extensions (workspaceExtensions configPaths : List String) (r : EncodingRegistry)
    (bodyClasses : List String) :
    Registered configPaths ((workspaceExtensions.map extensionOverride).enumFrom r.nextId)
      ⟨{ Frontend.init r bodyClasses with registry := r.registerAll (workspaceExtensions.map extensionOverride) },
        ⟨[], false, false⟩, r.encodingOverrides⟩ := by
  have hold : ∀ x ∈ (workspaceExtensions.map extensionOverride).enumFrom r.nextId, x.1 ∉ r.encodingOverrides.map (·.1) :=
    fun x hx hm => by
      obtain ⟨e, he, hex⟩ := List.mem_map.mp hm
      have := r.lt_nextId e he
      have := (List.mem_enumFrom (show (x.1, x.2) ∈ _ from hx)).1
      omega
  refine ⟨?_, [], rfl, rfl, ?_⟩
  all_goals simp only [World.heldIds, EncodingRegistry.encodingOverrides_registerAll, List.filter_append]
  · rw [List.filter_eq_self.mpr fun x hx => decide_eq_true (List.mem_map_of_mem _ hx),
      List.filter_eq_nil_iff.mpr fun x hx h => hold x hx (of_decide_eq_true h), List.append_nil]
  · rw [List.filter_eq_nil_iff.mpr fun x hx h => absurd (List.mem_map_of_mem _ hx) (of_decide_eq_true h),
      List.filter_eq_self.mpr fun x hx => decide_eq_true (hold x hx)]
    simp [Frontend.init]

/-- **From `configure` on, the encoding overrides, the context keys and the class of the body stay right**: after
`configure` and any changes of the workspace to `file` roots without a backslash, with other components registering
and disposing overrides of their own in between, the registry holds exactly the overrides the other components registered and have
not disposed, and the contribution's: one for each workspace file extension, then one for the folder of each
configuration path below each current root, whose disposables it holds; the keys and the class follow the current
workspace. -/
theorem World.run_configured (workspaceExtensions configPaths : List String) (ws : WorkspaceView)
    (r : EncodingRegistry) (bodyClasses : List String) (hps : ∀ p ∈ configPaths, '/' ∉ p.data)
    (hpb : ∀ p ∈ configPaths, '\\' ∉ p.data) (hws : ∀ root ∈ ws.roots, isFileRoot root = true)
    (evs : List FrontendEvent)
    (hevs : ∀ ev ∈ evs, ev.fileRoots = true) :
    Configured configPaths ((workspaceExtensions.map extensionOverride).enumFrom r.nextId)
      ((World.init workspaceExtensions configPaths ws (Frontend.init r bodyClasses)).run configPaths evs) := by
  obtain ⟨vs, hvs⟩ := configFolders_ok hps hpb ws.roots hws
  rw [World.init_eq]
  exact Configured.run hps hpb evs _ ((registered_extensions workspaceExtensions configPaths r bodyClasses).workspaceChanged hvs)
    hevs

theorem World.run_configured_a_b :
    Configured [".theia", ".vscode"] ((["theia-workspace", "code-workspace"].map extensionOverride).enumFrom 0)
      ((World.init ["theia-workspace", "code-workspace"] [".theia", ".vscode"] ⟨[uriA], true, false⟩
        (Frontend.init .empty [])).run [".theia", ".vscode"]
          [.registerOther ⟨"latin1", some "txt", none⟩, .workspaceChanged ⟨[uriA, uriB], true, true⟩,
            .disposeOther 4]) :=
  World.run_configured _ _ _ .empty [] (by decide) (by decide) (by decide) _ (by decide)

end Limix.Workspace
