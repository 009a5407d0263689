import Limix.GettingStarted.Widget

/-!
# From the folder button to the command's parent URI

The folder button keeps the chosen folder's path without its leading slash; `NEW_CONTRACT_FOLDER` makes
`file:///` + `encodeURIComponent` of the text, backslashes made slashes, and parses it back. For a folder on the local
disk whose path is not the root and has no backslash, that is the folder again (`openFolderDialog_parentUri`): the
encoding reads back (`parse_file_encoded`), and the drive letter the `Path` put in lower case stays so.

A share `file://server/share` loses its host on the way (`openFolderDialog_unc_share`): the command works in `/share`
of the local disk.
-/

namespace Limix.GettingStarted

open Limix.Js Limix.Theia Limix.Workspace

/-- `replace(/\\/g, '/')` leaves a text without backslashes as it is. -/
theorem replaceBackslashes_of_not_mem {s : String} (h : '\\' ∉ s.data) : replaceBackslashes s = s := by
  apply String.ext
  rw [replaceBackslashes_data]
  conv_rhs => rw [← List.map_id s.data]
  exact List.map_congr_left fun c hc => if_neg fun (e : c = '\\') => h (e ▸ hc)

/-- The parent URI of a target that names a local path without backslashes, and starts with no slash. -/
theorem contractParentUri_local (l : List Char) (hl : l ≠ []) (hb : '\\' ∉ l) (hh : l.head? ≠ some '/')
    (uri : Option URI) (s : Ide) :
    ∃ G : URI, contractParentUri ⟨l⟩ uri s = .ok (some G) s ∧ G.scheme = "file" ∧ G.authority = "" ∧
      G.codeUri.path = ⟨'/' :: l⟩ := by
  have hne : (⟨l⟩ : String) ≠ "" := fun h => hl (congrArg String.data h)
  obtain ⟨u, hu, hs, ha, hp⟩ := Uri.make_file hh
  refine ⟨⟨u⟩, ?_, hs, ha, hp⟩
  rw [contractParentUri, if_pos hne, contractUriString, replaceBackslashes_of_not_mem hb, URI.parse,
    parse_file_encoded, show "/" ++ (⟨l⟩ : String) = ⟨'/' :: l⟩ from rfl, hu]
  rfl

/-- The path field the folder button leaves for a local folder without backslashes. -/
theorem openFolderDialog_path {F : URI} {l : List Char} (hp : F.codeUri.path.data = '/' :: l) (hb : '\\' ∉ l)
    (w : GettingStartedWidget) : (w.openFolderDialog (some F)).path = ⟨lowerDrive l⟩ := by
  simp [GettingStartedWidget.openFolderDialog, URI.path, Path.ofString, hp, normalizeDrive_slash,
    normalizePathSeparator_of_not_mem hb]

/-- **The folder button and `NEW_CONTRACT_FOLDER` compose to the identity on local folders**: the parent URI is the
chosen folder, with the same scheme, host and path. -/
theorem openFolderDialog_parentUri (w : GettingStartedWidget) (F : URI) (uri : Option URI) (s : Ide)
    (hs : F.scheme = "file") (ha : F.authority = "") (hr : F.codeUri.path ≠ "/") (hb : '\\' ∉ F.codeUri.path.data) :
    ∃ G, contractParentUri (w.openFolderDialog (some F)).path uri s = .ok (some G) s ∧
      G.scheme = F.scheme ∧ G.authority = F.authority ∧ G.path = F.path := by
  obtain ⟨l, hp, hh⟩ := Uri.path_of_local_file F.codeUri hs ha
  have hl : l ≠ [] := by rintro rfl; exact hr (String.ext hp)
  have hb' : '\\' ∉ l := fun h => hb (hp ▸ List.mem_cons_of_mem _ h)
  have hbl : '\\' ∉ lowerDrive l := by rwa [mem_lowerDrive (by decide)]
  have hhl : (lowerDrive l).head? ≠ some '/' := by rwa [Ne, head_lowerDrive (by decide)]
  obtain ⟨G, hG, hGs, hGa, hGp⟩ := contractParentUri_local _ (mt lowerDrive_eq_nil.mp hl) hbl hhl uri s
  refine ⟨G, openFolderDialog_path hp hb' w ▸ hG, hGs.trans hs.symm, hGa.trans ha.symm, ?_⟩
  simp [URI.path, Path.ofString, hGp, hp, normalizeDrive_slash, lowerDrive_idem, normalizePathSeparator_of_not_mem hb',
    normalizePathSeparator_of_not_mem hbl]

/-- The folder `/home/user` of the local disk. -/
def homeUser : URI := ⟨⟨"file", "", "/home/user", "", "", by decide⟩⟩

theorem openFolderDialog_parentUri_homeUser :
    homeUser.scheme = "file" ∧ homeUser.authority = "" ∧ homeUser.codeUri.path ≠ "/" ∧
      '\\' ∉ homeUser.codeUri.path.data ∧
      ∃ G, contractParentUri (({} : GettingStartedWidget).openFolderDialog (some homeUser)).path none
          (Ide.init Fs.empty homeUser) = .ok (some G) (Ide.init Fs.empty homeUser) ∧
        G.scheme = homeUser.scheme ∧ G.authority = homeUser.authority ∧ G.path = homeUser.path :=
  ⟨rfl, rfl, by decide, by decide, openFolderDialog_parentUri _ homeUser none _ rfl rfl (by decide) (by decide)⟩

/-- The share `\\server\share`, as the folder dialog returns it. -/
def uncShare : URI := ⟨⟨"file", "server", "/share", "", "", by decide⟩⟩

/-- The parent URI the command makes of a share is `/share` on the local disk. -/
theorem openFolderDialog_unc_share :
    ∃ G, contractParentUri (({} : GettingStartedWidget).openFolderDialog (some uncShare)).path none
        (Ide.init Fs.empty homeUser) = .ok (some G) (Ide.init Fs.empty homeUser) ∧
      G.authority = "" ∧ G.authority ≠ uncShare.authority ∧ G.codeUri.path = uncShare.codeUri.path := by
  obtain ⟨G, hG, -, ha, hp⟩ :=
    contractParentUri_local "share".data (by decide) (by decide) (by decide) none (Ide.init Fs.empty homeUser)
  exact ⟨G, @openFolderDialog_path uncShare "share".data rfl (by decide) {} ▸ hG, ha, by rw [ha]; decide, hp⟩

end Limix.GettingStarted
