import Limix.Theia.Path

/-!
# `vscode-uri`'s `URI` and Theia's `URI`

`Uri.parse` is `URI.parse` of `vscode-uri` (not strict): the groups of its regular expression (`splitUri`), each but
the scheme passed through `percentDecode`, then the constructor. The constructor makes a missing scheme `file`, gives
the path of a `file`, `http` or `https` URI a leading slash, and throws where `_validateUri` fails; a `Uri` carries
that check as a field (`Uri.valid`). Theia's `URI` wraps one: its `path` is the `Path` of the path component, and
`parent`, `resolve` go through `with({ path })`, which runs the constructor again and so may throw.

`URI.sameString` is `u.toString() === v.toString()`: `toString` is a percent-encoding of the components, injective,
with the host of the authority and the drive letter of the path in lower case, so the model compares the components
as it writes them (`formatAuthority`, `formatPath`). `URI.isEqual` asks for the same origin besides.

* `parse_file_encoded`: `URI.parse` reads back what `encodeURIComponent` wrote after `file:///`;
* `suffix_displayName_resolve`: an extension that ends the name given to `resolve` ends the display name of the
  result;
* `URI.resolve_noBackslash`: the path of what `resolve` makes holds no backslash, which `Path` made a slash;
* `URI.resolve_file_ok`: `resolve` of a name without a slash or a backslash never throws on a `file` URI without a
  backslash.
-/

namespace Limix.Theia

open Limix.Js

/-! ## The components -/

/-- `\w`: an ASCII letter or digit, or `_`. -/
def isWordChar (c : Char) : Bool := c.isAlphanum || c == '_'

/-- `_schemePattern`, `/^\w[\w\d+.-]*$/`. -/
def schemeValid : List Char → Bool
  | c :: rest => isWordChar c && rest.all fun c => isWordChar c || c == '+' || c == '.' || c == '-'
  | [] => false

/-- `file`, `http` and `https`: the schemes whose path `_referenceResolution` makes absolute. -/
def isHierarchical (scheme : String) : Bool := scheme == "file" || scheme == "http" || scheme == "https"

/-- A path that begins with two slashes. -/
def startsWithTwoSlashes : List Char → Bool
  | '/' :: '/' :: _ => true
  | _ => false

/-- What every constructed `URI` satisfies: the scheme passes `_schemePattern`, a hierarchical path is absolute
(`_referenceResolution`), and the two path rules of `_validateUri`. -/
def uriValid (scheme authority path : String) : Bool :=
  schemeValid scheme.data && (!isHierarchical scheme || path.data.head? == some '/') &&
    (if authority = "" then !startsWithTwoSlashes path.data else path = "" || path.data.head? == some '/')

/-- `vscode-uri`'s `URI`, as its constructor leaves it. -/
structure Uri where
  scheme : String
  authority : String
  path : String
  query : String
  fragment : String
  valid : uriValid scheme authority path = true
deriving DecidableEq

/-- `_schemeFix`, not strict: a missing scheme is `file`. -/
def schemeFix (scheme : String) : String := if scheme = "" then "file" else scheme

/-- `_referenceResolution`: the path of a `file`, `http` or `https` URI starts with a slash. -/
def referenceResolution (scheme path : String) : String :=
  if isHierarchical scheme then
    if path = "" then "/" else if path.data.head? = some '/' then path else "/" ++ path
  else path

/-- The `Error` that `_validateUri` throws. -/
def uriErrorMessage (scheme authority : String) : String :=
  if !schemeValid scheme.data then "[UriError]: Scheme contains illegal characters."
  else if authority = "" then
    "[UriError]: If a URI does not contain an authority component, then the path cannot begin with two slash characters (\"//\")"
  else
    "[UriError]: If a URI contains an authority component, then the path component must either be empty or begin with a slash (\"/\") character"

/-- The constructor of `vscode-uri`'s `URI`. -/
def Uri.make (scheme authority path query fragment : String) : Except String Uri :=
  let scheme := schemeFix scheme
  let path := referenceResolution scheme path
  if h : uriValid scheme authority path = true then .ok ⟨scheme, authority, path, query, fragment, h⟩
  else .error (uriErrorMessage scheme authority)

/-! ## `URI.parse` -/

/-- A line terminator, which `.` does not match. -/
def isLineTerminator (c : Char) : Bool :=
  c == '\n' || c == '\r' || c == Char.ofNat 0x2028 || c == Char.ofNat 0x2029

/-- The groups of `_regexp`, `/^(([^:/?#]+?):)?(\/\/([^/?#]*))?([^?#]*)(\?([^#]*))?(#(.*))?/`: scheme, authority,
path, query and fragment, each empty where its group does not match. -/
def splitUri (s : List Char) : List Char × List Char × List Char × List Char × List Char :=
  let (scheme, r₁) :=
    match s.span fun c => !":/?#".toList.contains c with
    | (pre@(_ :: _), ':' :: rest) => (pre, rest)
    | _ => ([], s)
  let (authority, r₂) :=
    match r₁ with
    | '/' :: '/' :: rest => rest.span fun c => !"/?#".toList.contains c
    | _ => ([], r₁)
  let (path, r₃) := r₂.span fun c => !"?#".toList.contains c
  let (query, r₄) :=
    match r₃ with
    | '?' :: rest => rest.span (· != '#')
    | _ => ([], r₃)
  let fragment :=
    match r₄ with
    | '#' :: rest => rest.takeWhile fun c => !isLineTerminator c
    | _ => []
  (scheme, authority, path, query, fragment)

/-- `URI.parse` of `vscode-uri`, not strict. -/
def Uri.parse (s : String) : Except String Uri :=
  let (scheme, authority, path, query, fragment) := splitUri s.data
  Uri.make ⟨scheme⟩ (percentDecode ⟨authority⟩) (percentDecode ⟨path⟩) (percentDecode ⟨query⟩)
    (percentDecode ⟨fragment⟩)

/-! ## Parsing a `file:///` URI -/

/-- The path of a local `file` URI starts with exactly one slash. -/
theorem Uri.path_of_local_file (u : Uri) (hs : u.scheme = "file") (ha : u.authority = "") :
    ∃ l, u.path.data = '/' :: l ∧ l.head? ≠ some '/' := by
  have h := u.valid
  rw [uriValid, hs, ha] at h
  simp only [isHierarchical, Bool.and_eq_true, if_true] at h
  rcases hp : u.path.data with _ | ⟨c, l⟩
  · simp [hp] at h
  · have hc : c = '/' := by simpa [hp] using h.1.2
    subst hc
    refine ⟨l, rfl, fun hl => ?_⟩
    rcases l with _ | ⟨d, l⟩
    · cases hl
    · cases hl; simp [hp, startsWithTwoSlashes] at h

/-- The constructor keeps components it has nothing to fix in. -/
theorem Uri.make_eq_ok {scheme authority path query fragment : String} (hs : schemeFix scheme = scheme)
    (hp : referenceResolution scheme path = path) (h : uriValid scheme authority path = true) :
    Uri.make scheme authority path query fragment = .ok ⟨scheme, authority, path, query, fragment, h⟩ := by
  simp only [Uri.make, hs, hp, dif_pos h]

/-- A local `file` path that starts with one slash is a valid path. -/
theorem Uri.make_file {l : List Char} (h : l.head? ≠ some '/') :
    ∃ u : Uri, Uri.make "file" "" ⟨'/' :: l⟩ "" "" = .ok u ∧ u.scheme = "file" ∧ u.authority = "" ∧
      u.path = ⟨'/' :: l⟩ := by
  have hv : uriValid "file" "" ⟨'/' :: l⟩ = true := by
    rcases l with _ | ⟨c, l⟩
    · rfl
    · have : c ≠ '/' := fun hc => h (by rw [hc]; rfl)
      simp [uriValid, startsWithTwoSlashes, this, show schemeValid "file".data = true by decide, isHierarchical]
  exact ⟨_, Uri.make_eq_ok rfl (by simp [referenceResolution, isHierarchical, String.ext_iff]) hv, rfl, rfl, rfl⟩

/-- The constructor's path is the one `_referenceResolution` makes. -/
theorem Uri.make_path {scheme authority path query fragment : String} {w : Uri}
    (h : Uri.make scheme authority path query fragment = .ok w) : w.path = referenceResolution (schemeFix scheme) path := by
  simp only [Uri.make] at h
  split at h
  · cases h; rfl
  · cases h

theorem Uri.make_authority {scheme authority path query fragment : String} {w : Uri}
    (h : Uri.make scheme authority path query fragment = .ok w) : w.authority = authority := by
  simp only [Uri.make] at h
  split at h
  · cases h; rfl
  · cases h

theorem referenceResolution_slash (scheme : String) (l : List Char) :
    referenceResolution scheme ⟨'/' :: l⟩ = ⟨'/' :: l⟩ := by
  unfold referenceResolution
  split
  · rw [if_neg fun h => List.noConfusion (congrArg String.data h)]
    exact if_pos rfl
  · rfl

theorem suffix_referenceResolution {ext : List Char} (hne : ext ≠ []) (scheme : String) {path : String}
    (h : ext <:+ path.data) : ext <:+ (referenceResolution scheme path).data := by
  unfold referenceResolution
  split
  · split
    · next hp => subst hp; exact absurd (List.suffix_nil.mp h) hne
    · split
      · exact h
      · exact h.trans (List.suffix_append _ _)
  · exact h

theorem percentDecode_slash_encode (x : String) : percentDecode ("/" ++ encodeURIComponent x) = "/" ++ x := by
  have h := percentDecode_encodeURIComponent x
  unfold percentDecode at h ⊢
  rw [String.ext_iff] at h ⊢
  simp only [String.data_append] at h ⊢
  show percentDecodeScan .text [] ('/' :: (encodeURIComponent x).data) = '/' :: x.data
  rw [percentDecodeScan_other (by decide), h]
  rfl

/-- The groups of `file:///e` when `e` has no `?` and no `#`. -/
theorem splitUri_file (e : List Char) (he : ∀ c ∈ e, c ≠ '?' ∧ c ≠ '#') :
    splitUri ("file:///".data ++ e) = ("file".data, [], '/' :: e, [], []) := by
  have hd : List.dropWhile (fun c => !decide (c = '?') && !decide (c = '#')) e = [] :=
    List.dropWhile_eq_nil_iff.mpr fun c hc => by simp [(he c hc).1, (he c hc).2]
  simpa [splitUri, List.span_eq_take_drop, hd] using he

/-- **`URI.parse` reads back what `encodeURIComponent` wrote after `file:///`.** -/
theorem parse_file_encoded (x : String) :
    Uri.parse ("file:///" ++ encodeURIComponent x) = Uri.make "file" "" ("/" ++ x) "" "" := by
  have he : ∀ c ∈ (encodeURIComponent x).data, c ≠ '?' ∧ c ≠ '#' := by
    intro c hc
    rcases mem_encodeURIComponent hc with rfl | h
    · decide
    · constructor <;> rintro rfl <;> simp [isUriUnescaped] at h
  unfold Uri.parse
  rw [String.data_append, splitUri_file _ he]
  simp only
  rw [show (⟨'/' :: (encodeURIComponent x).data⟩ : String) = "/" ++ encodeURIComponent x from rfl,
    percentDecode_slash_encode, show percentDecode ⟨[]⟩ = "" by decide, show (⟨"file".data⟩ : String) = "file" from rfl]

/-! ## Theia's `URI` -/

/-- Theia's `URI`, a wrapper of a `vscode-uri` `URI`. -/
structure URI where
  codeUri : Uri
deriving DecidableEq

/-- `new URI(s)`. -/
def URI.parse (s : String) : Except String URI := URI.mk <$> Uri.parse s

/-- `scheme`. -/
def URI.scheme (u : URI) : String := u.codeUri.scheme

/-- `authority`. -/
def URI.authority (u : URI) : String := u.codeUri.authority

/-- `path`: the `Path` of the path component. -/
def URI.path (u : URI) : Path := Path.ofString u.codeUri.path

/-- `withPath`, through `codeUri.with({ path })`. -/
def URI.withPath (u : URI) (p : Path) : Except String URI :=
  URI.mk <$> Uri.make u.codeUri.scheme u.codeUri.authority p.raw u.codeUri.query u.codeUri.fragment

/-- `parent`: a root is its own parent. -/
def URI.parent (u : URI) : Except String URI := if u.path.isRoot then .ok u else u.withPath u.path.dir

/-- `resolve(s)`. -/
def URI.resolve (u : URI) (s : String) : Except String URI := u.withPath (u.path.join s)

/-- `displayName`: the base of the path, or the path itself for a root. -/
def URI.displayName (u : URI) : String :=
  if u.path.base ≠ "" then u.path.base else if u.path.isRoot then u.path.raw else ""

/-- The path as `toString` writes it: the drive letter of `/C:…` or `C:…` in lower case. -/
def formatPath : List Char → List Char
  | '/' :: c :: ':' :: rest => '/' :: lowerAscii c :: ':' :: rest
  | c :: ':' :: rest => lowerAscii c :: ':' :: rest
  | p => p

/-- A non-empty suffix without a slash ends the display name as it ends the path. -/
theorem suffix_displayName {ext : List Char} (hne : ext ≠ []) (hs : '/' ∉ ext) {v : URI}
    (h : ext <:+ v.path.raw.data) : ext <:+ v.displayName.data := by
  have hb := suffix_base hs h
  have : v.path.base ≠ "" := fun he => hne (List.suffix_nil.mp (by rwa [he] at hb))
  rw [URI.displayName, if_pos this]
  exact hb

/-- **An extension that ends the name given to `resolve` ends the display name of the result.** -/
theorem suffix_displayName_resolve {u v : URI} {s : String} {ext : List Char} (hd : ext.head? = some '.')
    (hs : '/' ∉ ext) (hb : '\\' ∉ ext) (h : ext <:+ s.data) (hr : u.resolve s = .ok v) :
    ext <:+ v.displayName.data := by
  have hne : ext ≠ [] := by rintro rfl; cases hd
  have hsn : s ≠ "" := by rintro rfl; exact hne (List.suffix_nil.mp h)
  unfold URI.resolve URI.withPath at hr
  rcases hm : Uri.make u.codeUri.scheme u.codeUri.authority (u.path.join s).raw u.codeUri.query u.codeUri.fragment
    with e | w <;> rw [hm] at hr <;> cases hr
  apply suffix_displayName hne hs
  show ext <:+ normalizeDrive (normalizePathSeparator w.path.data)
  rw [Uri.make_path hm]
  apply suffix_normalizeDrive hd
  rw [← normalizePathSeparator_of_not_mem hb]
  exact (suffix_referenceResolution hne _ (suffix_join hd hb _ hsn h)).map _

/-! ## The path of a `file` URI -/

/-- The path of a `file` URI is absolute, and its drive letter is in lower case. -/
theorem URI.path_of_file {u : URI} (hs : u.scheme = "file") : ∃ x, u.path.raw.data = '/' :: x ∧ lowerDrive x = x := by
  have h := u.codeUri.valid
  simp only [uriValid, URI.scheme] at h hs
  simp only [hs, isHierarchical, Bool.and_eq_true] at h
  obtain ⟨l, hl⟩ : ∃ l, u.codeUri.path.data = '/' :: l := by
    rcases hp : u.codeUri.path.data with _ | ⟨c, l⟩ <;> simp [hp] at h
    exact ⟨l, by rw [h.1.2]⟩
  refine ⟨lowerDrive (normalizePathSeparator l), ?_, lowerDrive_idem _⟩
  simp only [URI.path, Path.ofString, hl, normalizePathSeparator_cons_slash, normalizeDrive_slash]

/-- Joining a name to an absolute path that is not `/` puts a slash between them and changes neither, but for the
backslashes of the name, made slashes. -/
theorem Path.join_data {p : Path} {x : List Char} (hp : p.raw.data = '/' :: x) (hx : lowerDrive x = x) (hx0 : x ≠ [])
    (hpb : '\\' ∉ p.raw.data) {n : String} (hn : n ≠ "") :
    ∃ x', (p.join n).raw.data = '/' :: (x' ++ '/' :: normalizePathSeparator n.data) ∧ lowerDrive x' = x' ∧
      names x' = names x := by
  have hnorm : ∀ x', lowerDrive x' = x' → normalizeDrive ('/' :: (x' ++ '/' :: normalizePathSeparator n.data)) =
      '/' :: (x' ++ '/' :: normalizePathSeparator n.data) :=
    fun x' h => by rw [normalizeDrive_slash, lowerDrive_append_slash, h]
  unfold Path.join
  rw [if_neg hn]
  split
  · next hl =>
    obtain ⟨ys, hys⟩ := List.getLast?_eq_some_iff.mp hl
    rw [hp] at hys
    rcases ys with _ | ⟨c, x'⟩
    · exact absurd (List.cons.inj hys).2 hx0
    simp only [List.cons_append, List.cons.injEq] at hys
    obtain ⟨-, rfl⟩ := hys
    have hx' : lowerDrive x' = x' := List.append_cancel_right (by rw [← lowerDrive_append_slash x' [], hx])
    refine ⟨x', ?_, hx', by rw [names_append_slash]; simp [names, namesFrom]⟩
    show normalizeDrive (normalizePathSeparator (p.raw.data ++ n.data)) = _
    rw [normalizePathSeparator_append, normalizePathSeparator_of_not_mem hpb, hp, List.cons_append, List.append_assoc,
      List.singleton_append, hnorm x' hx']
  · refine ⟨x, ?_, hx, rfl⟩
    show normalizeDrive (normalizePathSeparator (p.raw.data ++ ['/'] ++ n.data)) = _
    rw [normalizePathSeparator_append, normalizePathSeparator_append, normalizePathSeparator_of_not_mem hpb, hp,
      List.cons_append, List.cons_append, List.append_assoc]
    exact hnorm x hx

/-- Joining a name without a slash to an absolute path gives a slash, then what does not start with a slash when the
path after its own first slash did not. -/
theorem Path.join_head {p : Path} {x : List Char} (hp : p.raw.data = '/' :: x) (hx : lowerDrive x = x)
    (hpb : '\\' ∉ p.raw.data) {n : String} (hn : '/' ∉ n.data) (hnb : '\\' ∉ n.data) :
    ∃ z, (p.join n).raw.data = '/' :: lowerDrive z ∧ (x.head? ≠ some '/' → z.head? ≠ some '/') := by
  have happ : ∀ y, x.head? ≠ some '/' → (x = [] → y.head? ≠ some '/') → (x ++ y).head? ≠ some '/' := by
    intro y h h0
    rcases x with _ | ⟨c, x⟩
    · exact h0 rfl
    · exact h
  unfold Path.join
  split
  · exact ⟨x, by rw [hp, hx], id⟩
  split
  · next hl =>
    refine ⟨x ++ n.data, ?_, fun h => happ _ h fun h0 => ?_⟩
    · show normalizeDrive (normalizePathSeparator (p.raw.data ++ n.data)) = _
      rw [normalizePathSeparator_of_not_mem (by simp [hpb, hnb]), hp, List.cons_append, normalizeDrive_slash]
    · rcases hd : n.data with _ | ⟨c, _⟩
      · simp
      · intro hc
        cases hc
        exact hn (by rw [hd]; exact List.mem_cons_self _ _)
  · next hl =>
    refine ⟨x ++ '/' :: n.data, ?_, fun h => happ _ h fun h0 => absurd (by rw [hp, h0]; rfl) hl⟩
    show normalizeDrive (normalizePathSeparator (p.raw.data ++ ['/'] ++ n.data)) = _
    rw [normalizePathSeparator_of_not_mem (by simp [hpb, hnb]), hp, List.cons_append, List.cons_append,
      List.append_assoc, List.singleton_append, normalizeDrive_slash]

/-- **A name without a slash or a backslash resolves against every `file` URI without a backslash**: `resolve` does
not throw there. (`/\\x` is a valid path, whose `Path` is `//x`: joined to a name, it begins with two slashes.) -/
theorem URI.resolve_file_ok {u : URI} (hs : u.scheme = "file") (hu : '\\' ∉ u.codeUri.path.data) {n : String}
    (hn : '/' ∉ n.data) (hnb : '\\' ∉ n.data) : ∃ v, u.resolve n = .ok v := by
  have hs' : u.codeUri.scheme = "file" := hs
  obtain ⟨x, hx, hxl⟩ := URI.path_of_file hs
  obtain ⟨z, hz, hzh⟩ := Path.join_head hx hxl (Path.ofString_noBackslash _) hn hnb
  have hslash : ∀ l : List Char, l.head? ≠ some '/' → (lowerDrive l).head? ≠ some '/' := fun l h hl =>
    h ((head_lowerDrive (by decide) l).mp hl)
  have hv : uriValid "file" u.codeUri.authority (u.path.join n).raw = true := by
    by_cases ha : u.codeUri.authority = ""
    · obtain ⟨l, hl, hlh⟩ := Uri.path_of_local_file u.codeUri hs' ha
      have hxl' : x = lowerDrive l := by
        have : u.path.raw.data = '/' :: lowerDrive l := by
          rw [hl] at hu
          simp only [URI.path, Path.ofString, hl, normalizePathSeparator_of_not_mem hu, normalizeDrive_slash]
        rw [hx] at this
        exact (List.cons.inj this).2
      have hzn := hslash z (hzh (hxl' ▸ hslash l hlh))
      have h2 : startsWithTwoSlashes ('/' :: lowerDrive z) = false := by
        unfold startsWithTwoSlashes
        split
        · next heq => exact absurd (by rw [(List.cons.inj heq).2]; rfl) hzn
        · rfl
      simp [uriValid, hz, ha, h2, isHierarchical, show schemeValid "file".data = true by decide]
    · simp [uriValid, hz, ha, isHierarchical, show schemeValid "file".data = true by decide]
  have hr : referenceResolution "file" (u.path.join n).raw = (u.path.join n).raw := by
    have : (u.path.join n).raw ≠ "" := fun h => by simp [h] at hz
    simp [referenceResolution, isHierarchical, hz, this]
  exact ⟨_, by unfold URI.resolve URI.withPath; rw [hs', Uri.make_eq_ok rfl hr hv]; rfl⟩

theorem URI.withPath_authority {u v : URI} {p : Path} (h : u.withPath p = .ok v) : v.authority = u.authority := by
  unfold URI.withPath at h
  rcases hm : Uri.make u.codeUri.scheme u.codeUri.authority p.raw u.codeUri.query u.codeUri.fragment with e | w <;>
    rw [hm] at h <;> cases h
  exact Uri.make_authority hm

theorem URI.parent_authority {u p : URI} (h : u.parent = .ok p) : p.authority = u.authority := by
  unfold URI.parent at h
  split at h
  · cases h; rfl
  · exact URI.withPath_authority h

/-! ## Backslashes -/

theorem mem_referenceResolution {c : Char} {scheme path : String} (h : c ∈ (referenceResolution scheme path).data) :
    c = '/' ∨ c ∈ path.data := by
  unfold referenceResolution at h
  split at h
  · split at h
    · exact .inl (List.mem_singleton.mp h)
    · split at h
      · exact .inr h
      · exact List.mem_cons.mp h
  · exact .inr h

/-- What `withPath` makes of a `Path` keeps its lack of backslashes. -/
theorem URI.withPath_noBackslash {u v : URI} {p : Path} (hp : '\\' ∉ p.raw.data) (h : u.withPath p = .ok v) :
    '\\' ∉ v.codeUri.path.data := by
  unfold URI.withPath at h
  rcases hm : Uri.make u.codeUri.scheme u.codeUri.authority p.raw u.codeUri.query u.codeUri.fragment with e | w <;>
    rw [hm] at h <;> cases h
  show '\\' ∉ w.path.data
  rw [Uri.make_path hm]
  exact fun hc => (mem_referenceResolution hc).elim (fun h => nomatch h) hp

/-- **`resolve` leaves no backslash in the path**: its `Path` made them slashes. -/
theorem URI.resolve_noBackslash {u v : URI} {s : String} (h : u.resolve s = .ok v) : '\\' ∉ v.codeUri.path.data :=
  URI.withPath_noBackslash (Path.join_noBackslash (Path.ofString_noBackslash _) s) h

/-- Nor does `parent`, of a URI without one. -/
theorem URI.parent_noBackslash {u p : URI} (hu : '\\' ∉ u.codeUri.path.data) (h : u.parent = .ok p) :
    '\\' ∉ p.codeUri.path.data := by
  unfold URI.parent at h
  split at h
  · cases h; exact hu
  · exact URI.withPath_noBackslash (Path.dir_noBackslash (Path.ofString_noBackslash _)) h

/-! ## Comparing URIs -/

/-- The authority as `toString` writes it: the user information up to an `@` as it is, the rest in lower case
(`toLowerCase`; the model lowers ASCII letters). -/
def formatAuthority (a : List Char) : List Char :=
  match a.span (· != '@') with
  | (host, []) => host.map lowerAscii
  | (userinfo, rest) => userinfo ++ rest.map lowerAscii

/-- `u.toString() === v.toString()`. `toString` writes the scheme, the authority (`formatAuthority`), the path
(`formatPath`), the query and the fragment, each percent-encoded, and is injective on what it writes of them. -/
def URI.sameString (u v : URI) : Bool :=
  u.scheme == v.scheme && formatAuthority u.authority.data == formatAuthority v.authority.data &&
    formatPath u.codeUri.path.data == formatPath v.codeUri.path.data &&
    u.codeUri.query == v.codeUri.query && u.codeUri.fragment == v.codeUri.fragment

/-- `isEqual(u, v)`, case sensitive: the same origin (`hasSameOrigin`), and the same `toString()`. -/
def URI.isEqual (u v : URI) : Bool := u.authority == v.authority && u.scheme == v.scheme && u.sameString v

theorem URI.sameString_comm (u v : URI) : u.sameString v = v.sameString u := by
  simp only [URI.sameString, Bool.beq_comm]

theorem URI.isEqual_comm (u v : URI) : u.isEqual v = v.isEqual u := by
  simp only [URI.isEqual, Bool.beq_comm, URI.sameString_comm u v]

/-- `isEqual` asks for the same `toString()`, and more: where the strings differ, the URIs are not equal. -/
theorem URI.isEqual_eq_false_of_sameString {u v : URI} (h : u.sameString v = false) : u.isEqual v = false := by
  simp only [URI.isEqual, h, Bool.and_false]

end Limix.Theia
