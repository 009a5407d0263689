import Limix.Js.Replace

/-!
# Theia's `Path`

`new Path(raw)` keeps `normalizeDrive (normalizePathSeparator raw)`: every backslash made a slash, then the drive
letter of `/C:/…` or `C:/…` in lower case and after a slash. Its `base` is the text after the last slash, `dir` the
text before it (the root `/` for `/x`), and `join` puts a slash between the path and a non-empty relative one. A path is
a root when it is `/` or a drive `/c:`.

The disk reads a path as its `segments`: the non-empty names between slashes, with `.` and `..` resolved as
`path.normalize` does.

* `normalizeDrive_slash`: after a leading slash only a drive letter changes (`lowerDrive`);
* `Path.ofString_noBackslash`: no backslash survives in a `Path`, so `dir` and `join` give paths without one;
* `suffix_base`, `suffix_join`: an extension such as `.theia-workspace`, which starts with a dot and has no slash or
  backslash, stays at the end of `p.join s` and of its `base` when it ends `s`.
-/

namespace Limix.Theia

/-! ## Drive letters -/

/-- `c` in lower case if it is an ASCII capital, as `String.fromCharCode(code + 32)` writes it. -/
def lowerAscii (c : Char) : Char := if 'A' ≤ c ∧ c ≤ 'Z' then Char.ofNat (c.toNat + 32) else c

/-- `Path.normalizeDrive`: lower-cases the drive letter of `/C:…` and of `C:…`, and puts a slash before the latter. -/
def normalizeDrive : List Char → List Char
  | '/' :: c :: ':' :: rest => '/' :: lowerAscii c :: ':' :: rest
  | c :: ':' :: rest => if lowerAscii c = '/' then '/' :: ':' :: rest else '/' :: lowerAscii c :: ':' :: rest
  | p => p

/-- What `normalizeDrive` does after a leading slash: the drive letter of `c:…` in lower case. -/
def lowerDrive : List Char → List Char
  | c :: ':' :: rest => lowerAscii c :: ':' :: rest
  | l => l

theorem toNat_lowerAscii_of_upper {c : Char} (h : 'A' ≤ c ∧ c ≤ 'Z') : (lowerAscii c).toNat = c.toNat + 32 := by
  have h₁ : 65 ≤ c.toNat ∧ c.toNat ≤ 90 := h
  rw [lowerAscii, if_pos h, Char.ofNat, dif_pos (Or.inl (by show c.toNat + 32 < 55296; omega))]
  rfl

/-- `lowerAscii` changes no character but a capital. -/
theorem lowerAscii_eq_iff {c d : Char} (hd : d.toNat < 65 ∨ (90 < d.toNat ∧ d.toNat < 97) ∨ 122 < d.toNat) :
    lowerAscii c = d ↔ c = d := by
  by_cases h : 'A' ≤ c ∧ c ≤ 'Z'
  · have h₁ : 65 ≤ c.toNat ∧ c.toNat ≤ 90 := h
    have := toNat_lowerAscii_of_upper h
    constructor <;> rintro rfl <;> omega
  · rw [lowerAscii, if_neg h]

theorem lowerAscii_idem (c : Char) : lowerAscii (lowerAscii c) = lowerAscii c := by
  by_cases h : 'A' ≤ c ∧ c ≤ 'Z'
  · have h₁ := toNat_lowerAscii_of_upper h
    have h₂ : 65 ≤ c.toNat ∧ c.toNat ≤ 90 := h
    rw [lowerAscii, if_neg]
    intro h₃
    have : 65 ≤ (lowerAscii c).toNat ∧ (lowerAscii c).toNat ≤ 90 := h₃
    omega
  · have h' : lowerAscii c = c := if_neg h
    rw [h', h']

/-- `lowerDrive` changes at most the first character, and only a capital before a colon. -/
theorem lowerDrive_cases (l : List Char) :
    lowerDrive l = l ∨ ∃ c rest, l = c :: ':' :: rest ∧ lowerDrive l = lowerAscii c :: ':' :: rest := by
  rcases l with _ | ⟨c, _ | ⟨d, rest⟩⟩
  · exact .inl rfl
  · exact .inl rfl
  · by_cases hd : d = ':'
    · subst hd; exact .inr ⟨c, rest, rfl, rfl⟩
    · left; simp [lowerDrive, hd]

theorem lowerDrive_colon (rest : List Char) : lowerDrive (':' :: rest) = ':' :: rest := by
  rcases lowerDrive_cases (':' :: rest) with h | ⟨c, r, he, h⟩
  · exact h
  · cases he
    rw [h, show lowerAscii ':' = ':' by decide]

theorem normalizeDrive_slash (l : List Char) : normalizeDrive ('/' :: l) = '/' :: lowerDrive l := by
  unfold normalizeDrive
  split
  · next heq => cases heq; rfl
  · next heq =>
    cases heq
    rw [if_pos (by decide), lowerDrive_colon]
  · next hne _ =>
    rcases lowerDrive_cases l with h | ⟨c, rest, rfl, _⟩
    · rw [h]
    · exact absurd rfl (hne c rest)

/-- A character that is neither a letter nor a slash stays where `normalizeDrive` finds it. -/
theorem mem_normalizeDrive {x : Char} (hx : x.toNat < 65 ∨ (90 < x.toNat ∧ x.toNat < 97) ∨ 122 < x.toNat)
    (hs : x ≠ '/') (l : List Char) : x ∈ normalizeDrive l ↔ x ∈ l := by
  unfold normalizeDrive
  split
  · simp only [List.mem_cons, eq_comm (a := x), lowerAscii_eq_iff hx]
  · next c rest _ =>
    split
    · next hc =>
      have hc' : c = '/' := (lowerAscii_eq_iff (by decide)).mp hc
      simp only [List.mem_cons, hc', hs, false_or]
    · simp only [List.mem_cons, eq_comm (a := x), lowerAscii_eq_iff hx, Ne.symm hs, false_or]
  · rfl

theorem lowerDrive_idem (l : List Char) : lowerDrive (lowerDrive l) = lowerDrive l := by
  rcases lowerDrive_cases l with h | ⟨c, rest, rfl, h⟩
  · rw [h, h]
  · rw [h]; simp [lowerDrive, lowerAscii_idem]

/-- A character that is no letter stays where `lowerDrive` finds it. -/
theorem mem_lowerDrive {x : Char} (hx : x.toNat < 65 ∨ (90 < x.toNat ∧ x.toNat < 97) ∨ 122 < x.toNat)
    (l : List Char) : x ∈ lowerDrive l ↔ x ∈ l := by
  rcases lowerDrive_cases l with h | ⟨c, rest, rfl, h⟩
  · rw [h]
  · rw [h]; simp only [List.mem_cons, eq_comm (a := x), lowerAscii_eq_iff hx]

theorem head_lowerDrive {x : Char} (hx : x.toNat < 65 ∨ (90 < x.toNat ∧ x.toNat < 97) ∨ 122 < x.toNat)
    (l : List Char) : (lowerDrive l).head? = some x ↔ l.head? = some x := by
  rcases lowerDrive_cases l with h | ⟨c, rest, rfl, h⟩
  · rw [h]
  · rw [h]; simp [lowerAscii_eq_iff hx]

theorem lowerDrive_eq_nil {l : List Char} : lowerDrive l = [] ↔ l = [] := by
  rcases lowerDrive_cases l with h | ⟨c, rest, rfl, h⟩
  · rw [h]
  · simp [h]

/-! ## Paths -/

/-- Theia's `Path`: what `new Path(raw)` keeps. -/
structure Path where
  /-- `toString()`. -/
  raw : String
deriving DecidableEq, Repr

/-- `Path.normalizePathSeparator`, `path.split(/[\\]/).join('/')`: every backslash made a slash. -/
def normalizePathSeparator (l : List Char) : List Char := l.map fun c => if c = '\\' then '/' else c

/-- `new Path(raw)`. -/
def Path.ofString (raw : String) : Path := ⟨⟨normalizeDrive (normalizePathSeparator raw.data)⟩⟩

theorem normalizePathSeparator_of_not_mem {l : List Char} (h : '\\' ∉ l) : normalizePathSeparator l = l := by
  conv_rhs => rw [← List.map_id l]
  exact List.map_congr_left fun c hc => if_neg fun (he : c = '\\') => h (he ▸ hc)

@[simp] theorem normalizePathSeparator_cons_slash (l : List Char) :
    normalizePathSeparator ('/' :: l) = '/' :: normalizePathSeparator l := rfl

theorem normalizePathSeparator_append (l l' : List Char) :
    normalizePathSeparator (l ++ l') = normalizePathSeparator l ++ normalizePathSeparator l' :=
  List.map_append _ _ _

theorem not_mem_normalizePathSeparator (l : List Char) : '\\' ∉ normalizePathSeparator l := by
  simp only [normalizePathSeparator, List.mem_map, not_exists, not_and]
  intro c _ h
  split at h
  · cases h
  · exact ‹¬c = '\\'› h

/-- A path whose backslashes made slashes leave no slash had no backslash. -/
theorem not_mem_of_normalizePathSeparator {l : List Char} (h : '/' ∉ normalizePathSeparator l) : '\\' ∉ l :=
  fun hb => h (List.mem_map_of_mem _ hb)

/-- **No backslash survives in a `Path`.** -/
theorem Path.ofString_noBackslash (raw : String) : '\\' ∉ (Path.ofString raw).raw.data :=
  (mem_normalizeDrive (by decide) (by decide) _).not.mpr (not_mem_normalizePathSeparator _)

/-- The text before and after the last `/` (`lastIndexOf`), if there is one. -/
def splitLast : List Char → Option (List Char × List Char)
  | [] => none
  | c :: l =>
    match splitLast l with
    | some (b, a) => some (c :: b, a)
    | none => if c = '/' then some ([], l) else none

/-- `isAbsolute`: the first `/` is at the start. -/
def Path.isAbsolute (p : Path) : Bool := p.raw.data.head? == some '/'

/-- `base`: the text after the last `/`, or all of it. -/
def Path.base (p : Path) : String :=
  match splitLast p.raw.data with
  | some (_, a) => ⟨a⟩
  | none => p.raw

/-- `isRoot`: an absolute path with one `/` whose base is empty or a drive (`Path.isDrive`, ends with `:`). -/
def Path.isRoot (p : Path) : Bool :=
  match p.raw.data with
  | '/' :: rest => !rest.contains '/' && (rest.isEmpty || rest.getLast? == some ':')
  | _ => false

/-- `hasDir`: not a root, and a `/` somewhere. -/
def Path.hasDir (p : Path) : Bool := !p.isRoot && p.raw.data.contains '/'

/-- `dir`: the path before the last `/`; `/` for an absolute path with one `/`; the path itself without `hasDir`. -/
def Path.dir (p : Path) : Path :=
  if p.hasDir then
    match splitLast p.raw.data with
    | some (before, _) => if p.isAbsolute && !p.raw.data.tail.contains '/' then Path.ofString "/" else
        Path.ofString ⟨before⟩
    | none => p
  else p

/-- `join(s)`: `p` itself for an empty `s`, otherwise `p`, a `/` unless `p` ends with one, and `s`. -/
def Path.join (p : Path) (s : String) : Path :=
  if s = "" then p
  else if p.raw.data.getLast? = some '/' then Path.ofString (p.raw ++ s)
  else Path.ofString (p.raw ++ "/" ++ s)

/-! ## What stays at the end of a path -/

/-- A suffix that starts with a dot is still a suffix once the drive letter is normalized. -/
theorem suffix_normalizeDrive {ext x : List Char} (hd : ext.head? = some '.') (h : ext <:+ x) :
    ext <:+ normalizeDrive x := by
  have hdot : lowerAscii '.' = '.' := by decide
  unfold normalizeDrive
  split
  · next c rest =>
    rcases List.suffix_cons_iff.mp h with rfl | h
    · cases hd
    rcases List.suffix_cons_iff.mp h with rfl | h
    · cases hd; rw [hdot]; exact List.suffix_cons _ _
    rcases List.suffix_cons_iff.mp h with rfl | h
    · cases hd
    exact h.trans ((List.suffix_cons _ _).trans ((List.suffix_cons _ _).trans (List.suffix_cons _ _)))
  · next c rest _ =>
    have hr : ext <:+ rest → ext <:+ '/' :: ':' :: rest ∧ ext <:+ '/' :: lowerAscii c :: ':' :: rest := fun h =>
      ⟨h.trans ((List.suffix_cons _ _).trans (List.suffix_cons _ _)),
        h.trans ((List.suffix_cons _ _).trans ((List.suffix_cons _ _).trans (List.suffix_cons _ _)))⟩
    rcases List.suffix_cons_iff.mp h with rfl | h
    · cases hd; rw [hdot, if_neg (by decide)]; exact List.suffix_cons _ _
    rcases List.suffix_cons_iff.mp h with rfl | h
    · cases hd
    split
    · exact (hr h).1
    · exact (hr h).2
  · exact h

theorem splitLast_eq_none : ∀ {l : List Char}, splitLast l = none → '/' ∉ l
  | [], _ => List.not_mem_nil _
  | c :: l, h => by
    rcases h' : splitLast l with _ | ⟨b, a⟩ <;> simp only [splitLast, h'] at h
    · split at h
      · cases h
      · exact List.not_mem_cons_of_ne_of_not_mem (Ne.symm ‹_›) (splitLast_eq_none h')
    · cases h

theorem splitLast_eq_some : ∀ {l b a : List Char}, splitLast l = some (b, a) → l = b ++ '/' :: a ∧ '/' ∉ a
  | [], _, _, h => nomatch h
  | c :: l, b, a, h => by
    rcases h' : splitLast l with _ | ⟨b', a'⟩ <;> simp only [splitLast, h'] at h
    · split at h
      · next hc => cases h; exact ⟨by rw [hc]; rfl, splitLast_eq_none h'⟩
      · cases h
    · cases h
      obtain ⟨rfl, ha⟩ := splitLast_eq_some h'
      exact ⟨rfl, ha⟩

/-- A suffix without a slash ends the `base` as it ends the path. -/
theorem suffix_base {ext : List Char} (hs : '/' ∉ ext) {p : Path} (h : ext <:+ p.raw.data) : ext <:+ p.base.data := by
  unfold Path.base
  split
  · next b a hsplit =>
    obtain ⟨hl, -⟩ := splitLast_eq_some hsplit
    rw [hl] at h
    rcases Nat.lt_or_ge a.length ext.length with hlt | hge
    · exact absurd ((List.suffix_of_suffix_length_le (List.suffix_append b ('/' :: a)) h
        (by simpa using hlt)).mem (List.mem_cons_self _ _)) hs
    · exact List.suffix_of_suffix_length_le h ((List.suffix_cons _ _).trans (List.suffix_append _ _)) hge
  · exact h

/-- What ends a non-empty `s` ends `p.join s`, when it has no backslash. -/
theorem suffix_join {ext : List Char} (hd : ext.head? = some '.') (hb : '\\' ∉ ext) (p : Path) {s : String}
    (hs : s ≠ "") (h : ext <:+ s.data) : ext <:+ (p.join s).raw.data := by
  have hn : ∀ q : String, ext <:+ normalizePathSeparator (q ++ s).data := fun q => by
    rw [← normalizePathSeparator_of_not_mem hb]
    exact (h.trans (List.suffix_append _ _)).map _
  unfold Path.join
  rw [if_neg hs]
  split <;> exact suffix_normalizeDrive hd (hn _)

/-- `dir` and `join` of a path without a backslash give paths without one. -/
theorem Path.dir_noBackslash {p : Path} (h : '\\' ∉ p.raw.data) : '\\' ∉ p.dir.raw.data := by
  unfold Path.dir
  split
  · split
    · split
      · exact Path.ofString_noBackslash _
      · exact Path.ofString_noBackslash _
    · exact h
  · exact h

theorem Path.join_noBackslash {p : Path} (h : '\\' ∉ p.raw.data) (s : String) : '\\' ∉ (p.join s).raw.data := by
  unfold Path.join
  split
  · exact h
  · split <;> exact Path.ofString_noBackslash _

/-! ## The names the disk reads -/

/-- The non-empty names between slashes, with the name read so far. -/
def namesFrom (cur : List Char) : List Char → List String
  | [] => if cur = [] then [] else [⟨cur⟩]
  | c :: rest =>
    if c = '/' then (if cur = [] then [] else [⟨cur⟩]) ++ namesFrom [] rest
    else namesFrom (cur ++ [c]) rest

/-- The non-empty names between the slashes of a path, as the disk reads `a//b/` as `a/b`. -/
def names (l : List Char) : List String := namesFrom [] l

/-- `path.normalize` on names: `.` is dropped, and `..` takes back the name before it (there is none above the
root). -/
def normalizeNames (ns : List String) : List String :=
  ns.foldl (fun acc n => if n = "." then acc else if n = ".." then acc.dropLast else acc ++ [n]) []

/-- The place on the disk a path names: its names, normalized as the disk provider's `normalize(fsPath)` does. -/
def segments (l : List Char) : List String := normalizeNames (names l)

example : segments "/home//user/./src/../lib/".data = ["home", "user", "lib"] := by decide

/-- `names` reads the pieces `split('/')` cuts, and drops the empty ones. -/
theorem namesFrom_eq_splitOnP : ∀ (l cur : List Char),
    namesFrom cur l = ((((l.splitOnP (· == '/')).modifyHead (cur ++ ·)).filter fun p => !p.isEmpty).map String.mk)
  | [], cur => by cases cur <;> simp [namesFrom, List.splitOnP_nil]
  | c :: l, cur => by
    obtain ⟨h, t, ht⟩ := List.exists_cons_of_ne_nil (List.splitOnP_ne_nil (· == '/') l)
    by_cases hc : c = '/'
    · subst hc
      rw [namesFrom, if_pos rfl, namesFrom_eq_splitOnP l [], List.splitOnP_cons]
      cases cur <;> simp [ht]
    · rw [namesFrom, if_neg hc, namesFrom_eq_splitOnP l, List.splitOnP_cons, if_neg (by simpa using hc)]
      simp [ht]

theorem mem_names {x : String} {l : List Char} (h : x ∈ names l) : x.data ∈ l.splitOnP (· == '/') := by
  rw [names, namesFrom_eq_splitOnP] at h
  obtain ⟨p, hp, rfl⟩ := List.mem_map.mp h
  obtain ⟨h, t, ht⟩ := List.exists_cons_of_ne_nil (List.splitOnP_ne_nil (· == '/') l)
  rw [ht] at hp ⊢
  simpa using (List.mem_filter.mp hp).1

theorem namesFrom_append_slash (s : List Char) : ∀ (q cur : List Char),
    namesFrom cur (q ++ '/' :: s) = namesFrom cur q ++ names s
  | [], cur => by simp [namesFrom, names]
  | c :: q, cur => by
    by_cases hc : c = '/' <;> simp [namesFrom, hc, namesFrom_append_slash s q]

/-- The names on both sides of a slash. -/
theorem names_append_slash (q s : List Char) : names (q ++ '/' :: s) = names q ++ names s :=
  namesFrom_append_slash s q []

theorem names_slash (s : List Char) : names ('/' :: s) = names s := names_append_slash [] s

/-- Names other than `.` and `..` are kept as they come. -/
theorem normalizeNames_append (A : List String) : ∀ B : List String, (∀ n ∈ B, n ≠ "." ∧ n ≠ "..") →
    normalizeNames (A ++ B) = normalizeNames A ++ B
  | [], _ => by rw [List.append_nil, List.append_nil]
  | n :: B, h => by
    have hn := h n (List.mem_cons_self _ _)
    rw [← List.singleton_append, ← List.append_assoc, normalizeNames_append (A ++ [n]) B
      fun m hm => h m (List.mem_cons_of_mem _ hm)]
    simp [normalizeNames, List.foldl_append, hn.1, hn.2]

/-- A slash and what follows it are out of `lowerDrive`'s reach. -/
theorem lowerDrive_append_slash (q s : List Char) : lowerDrive (q ++ '/' :: s) = lowerDrive q ++ '/' :: s := by
  rcases q with _ | ⟨c, _ | ⟨d, q⟩⟩
  · rcases s with _ | ⟨d, s⟩
    · rfl
    · by_cases hd : d = ':'
      · subst hd
        show lowerAscii '/' :: _ = _
        rw [show lowerAscii '/' = '/' by decide]; rfl
      · simp [lowerDrive, hd]
  · rfl
  · by_cases hd : d = ':'
    · subst hd; rfl
    · simp [lowerDrive, hd]

end Limix.Theia
