import Limix.Js.UriCoding

/-!
# `String.prototype.replace` with a global pattern

The code replaces with regular expressions that match one fixed text: `/{folderName}/g` (the braces are literal, as
Annex B reads a brace that starts no quantifier) and `/\\/g`. `replaceGlobal str pat replacement` finds the
occurrences of `pat` left to right and without overlap, as the global flag does, and puts `GetSubstitution` of the
replacement string in place of each. With no capture groups, `GetSubstitution` reads four patterns: `$$` is `$`, `$&`
the match, `` $` `` the text before it and `$'` the text after it; every other `$` stands for itself.

* `replaceGlobal_eq_replaceLiteral`: a replacement without `$` is put in verbatim, as `replaceLiteral` does;
* `replaceGlobal_dollar_amp`: the replacement `$&` puts every match back, so the text does not change;
* `replaceBackslashes_data`: `replace(/\\/g, '/')` turns every backslash into a slash and keeps the rest.
-/

namespace Limix.Js

/-- `GetSubstitution` with no capture groups and no named groups, read left to right; the flag says that the
character before was a `$` not yet written. -/
def getSubstitution (matched before after : List Char) : Bool → List Char → List Char
  | false, [] => []
  | true, [] => ['$']
  | false, c :: rest =>
    if c = '$' then getSubstitution matched before after true rest
    else c :: getSubstitution matched before after false rest
  | true, d :: rest =>
    if d = '$' then '$' :: getSubstitution matched before after false rest
    else if d = '&' then matched ++ getSubstitution matched before after false rest
    else if d = '\x60' then before ++ getSubstitution matched before after false rest
    else if d = '\x27' then after ++ getSubstitution matched before after false rest
    else '$' :: d :: getSubstitution matched before after false rest

/-- The scan of a global replace of the non-empty text `pat`: `done` is the text already read, `skip` the rest of
the current match still to step over. -/
def replaceScan (pat repl : List Char) : List Char → Nat → List Char → List Char
  | _, _, [] => []
  | done, skip + 1, c :: rest => replaceScan pat repl (done ++ [c]) skip rest
  | done, 0, c :: rest =>
    if pat.isPrefixOf (c :: rest) then
      getSubstitution pat done ((c :: rest).drop pat.length) false repl ++
        replaceScan pat repl (done ++ [c]) (pat.length - 1) rest
    else c :: replaceScan pat repl (done ++ [c]) 0 rest

/-- `str.replace(/pat/g, replacement)` for a regular expression that matches exactly the non-empty text `pat`. -/
def replaceGlobal (str pat replacement : String) : String := ⟨replaceScan pat.data replacement.data [] 0 str.data⟩

/-- Every occurrence of `pat`, left to right and without overlap, replaced by `new` as it is. -/
def literalScan (pat new : List Char) : Nat → List Char → List Char
  | _, [] => []
  | skip + 1, _ :: rest => literalScan pat new skip rest
  | 0, c :: rest =>
    if pat.isPrefixOf (c :: rest) then new ++ literalScan pat new (pat.length - 1) rest
    else c :: literalScan pat new 0 rest

/-- The text with every occurrence of `pat` replaced by `new` verbatim, and all other text unchanged. -/
def replaceLiteral (str pat new : String) : String := ⟨literalScan pat.data new.data 0 str.data⟩

theorem getSubstitution_of_not_mem {repl : List Char} (h : '$' ∉ repl) (matched before after : List Char) :
    getSubstitution matched before after false repl = repl := by
  induction repl with
  | nil => rfl
  | cons c rest ih =>
    have hc : c ≠ '$' := fun e => h (e ▸ List.mem_cons_self c rest)
    rw [getSubstitution, if_neg hc, ih (fun e => h (List.mem_cons_of_mem c e))]

/-- A replacement whose substitution is `new` at every match puts `new` in place of every occurrence. -/
theorem replaceScan_eq_literalScan {pat repl new : List Char}
    (h : ∀ before after, getSubstitution pat before after false repl = new) :
    ∀ (s done : List Char) (skip : Nat), replaceScan pat repl done skip s = literalScan pat new skip s
  | [], _, _ => by simp [replaceScan, literalScan]
  | c :: rest, done, skip + 1 => by
    rw [replaceScan, literalScan, replaceScan_eq_literalScan h rest]
  | c :: rest, done, 0 => by
    rw [replaceScan, literalScan, h, replaceScan_eq_literalScan h rest, replaceScan_eq_literalScan h rest]

/-- **A replacement without `$` is put in verbatim.** -/
theorem replaceGlobal_eq_replaceLiteral (str pat replacement : String) (h : '$' ∉ replacement.data) :
    replaceGlobal str pat replacement = replaceLiteral str pat replacement := by
  rw [replaceGlobal, replaceLiteral, replaceScan_eq_literalScan fun _ _ => getSubstitution_of_not_mem h _ _ _]

/-- The scan steps over the `k` characters it has already written. -/
theorem literalScan_skip (pat new : List Char) : ∀ (k : Nat) (s : List Char),
    literalScan pat new k s = literalScan pat new 0 (s.drop k)
  | 0, _ => rfl
  | _ + 1, [] => by simp [literalScan]
  | k + 1, _ :: rest => by rw [literalScan, literalScan_skip pat new k rest]; rfl

/-- Putting a text in place of each of its own occurrences changes nothing. -/
theorem literalScan_self {pat : List Char} (hp : pat ≠ []) : ∀ (s : List Char) (k : Nat),
    literalScan pat pat 0 (s.drop k) = s.drop k
  | [], _ => by simp [literalScan]
  | _ :: rest, k + 1 => literalScan_self hp rest k
  | c :: rest, 0 => by
    have ih := literalScan_self hp rest
    rw [List.drop_zero, literalScan]
    split
    · next hpre =>
      obtain ⟨p, ps, rfl⟩ := List.exists_cons_of_ne_nil hp
      obtain ⟨rfl, hps⟩ := List.cons_prefix_cons.mp (List.isPrefixOf_iff_prefix.mp hpre)
      rw [literalScan_skip, ih, List.length_cons, Nat.add_sub_cancel, List.cons_append,
        List.prefix_iff_eq_append.mp hps]
    · rw [← List.drop_zero rest, ih]

/-- **`$&` puts back what was matched**: a global replace by `"$&"` changes nothing. -/
theorem replaceGlobal_dollar_amp (str pat : String) (hp : pat ≠ "") : replaceGlobal str pat "$&" = str := by
  have hp' : pat.data ≠ [] := fun h => hp (String.ext h)
  apply String.ext
  rw [replaceGlobal, @replaceScan_eq_literalScan pat.data "$&".data pat.data fun _ _ => by simp [getSubstitution],
    ← List.drop_zero str.data]
  exact literalScan_self hp' str.data 0

/-- `replace(/\\/g, '/')`, as the command handlers write a target directory. -/
def replaceBackslashes (s : String) : String := replaceGlobal s "\\" "/"

theorem literalScan_single (p r : Char) : ∀ s : List Char,
    literalScan [p] [r] 0 s = s.map fun c => if c = p then r else c
  | [] => rfl
  | c :: rest => by
    by_cases hc : c = p
    · simp [literalScan, hc, literalScan_single p r rest]
    · simp [literalScan, hc, Ne.symm hc, literalScan_single p r rest]

/-- Every backslash becomes a slash; nothing else changes. -/
theorem replaceBackslashes_data (s : String) :
    (replaceBackslashes s).data = s.data.map fun c => if c = '\\' then '/' else c := by
  rw [replaceBackslashes, replaceGlobal_eq_replaceLiteral _ _ _ (by decide)]
  exact literalScan_single '\\' '/' s.data

end Limix.Js
