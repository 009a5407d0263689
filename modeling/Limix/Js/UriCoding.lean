import Mathlib

/-!
# `encodeURIComponent` and the percent-decoding of `vscode-uri`

ECMA-262's `encodeURIComponent` (the `Encode` operation) keeps the characters of `uriUnescaped` and writes every other
character as the `%XY` escapes of its UTF-8 octets (`utf8Encode`). `decodeURIComponent` (`Decode`) reads the escapes
back as octets and the octets as UTF-8 (`unescape`, `utf8Decode`). `vscode-uri`'s `URI.parse` decodes each component
with `percentDecode`: every maximal match of `/(%[0-9A-Za-z][0-9A-Za-z])+/` is replaced by
`decodeURIComponentGraceful` of it, which keeps the escapes it cannot decode.

* `utf8Decode_encode`: the octets of a character decode to it;
* `decodeURIComponent_encode`: the escapes of characters outside `uriUnescaped` decode to them;
* `percentDecode_encodeURIComponent`: `percentDecode` undoes `encodeURIComponent` on every string.

A string is a list of Unicode scalar values: the lone surrogates on which `encodeURIComponent` throws are not `Char`s.
-/

namespace Limix.Js

/-! ## Hexadecimal digits -/

/-- The digit of `n < 16`, upper case as `Encode` writes it. -/
def hexDigit (n : Nat) : Char := if n < 10 then Char.ofNat (48 + n) else Char.ofNat (55 + n)

/-- The value of a hexadecimal digit of either case, as `Decode` reads it. -/
def hexValue (c : Char) : Option Nat :=
  if '0' ≤ c ∧ c ≤ '9' then some (c.toNat - 48)
  else if 'A' ≤ c ∧ c ≤ 'F' then some (c.toNat - 55)
  else if 'a' ≤ c ∧ c ≤ 'f' then some (c.toNat - 87)
  else none

theorem hexValue_hexDigit : ∀ n, n < 16 → hexValue (hexDigit n) = some n := by decide

theorem isAlphanum_hexDigit : ∀ n, n < 16 → (hexDigit n).isAlphanum = true := by decide

/-! ## UTF-8 -/

/-- The UTF-8 octets of a code point (ECMA-262, `CodePointToUTF8`). -/
def utf8Encode (cp : Nat) : List Nat :=
  if cp < 0x80 then [cp]
  else if cp < 0x800 then [0xC0 + cp / 0x40, 0x80 + cp % 0x40]
  else if cp < 0x10000 then [0xE0 + cp / 0x1000, 0x80 + cp / 0x40 % 0x40, 0x80 + cp % 0x40]
  else [0xF0 + cp / 0x40000, 0x80 + cp / 0x1000 % 0x40, 0x80 + cp / 0x40 % 0x40, 0x80 + cp % 0x40]

/-- A continuation octet, `10xxxxxx`. -/
def isCont (b : Nat) : Bool := 0x80 ≤ b && b < 0xC0

/-- A character of the text being decoded, or an octet written as a `%XY` escape. -/
inductive Piece
  | char (c : Char)
  | octet (b : Nat)
deriving DecidableEq, Repr

/-- Where `Decode` stands between pieces: between characters, or inside one whose lead octet asked for `need` more
continuation octets, with the bits read so far and the least code point of its length. -/
inductive DecodeState
  | start
  | inside (need acc least : Nat)
deriving DecidableEq, Repr

/-- A lead octet: its count of continuation octets, its payload bits, and the least code point of its length. -/
def leadOctet (b : Nat) : Option (Nat × Nat × Nat) :=
  if b < 0xC0 then none
  else if b < 0xE0 then some (1, b - 0xC0, 0x80)
  else if b < 0xF0 then some (2, b - 0xE0, 0x800)
  else if b < 0xF8 then some (3, b - 0xF0, 0x10000)
  else none

/-- The code point of a complete sequence is a scalar value of its length's range: no overlong form, no surrogate,
nothing past `0x10FFFF`. -/
def isScalarOf (cp least : Nat) : Bool := least ≤ cp && cp ≤ 0x10FFFF && !(0xD800 ≤ cp && cp ≤ 0xDFFF)

/-- Octets to characters as `Decode` does: an octet below `0x80` is a character, a lead octet takes its continuation
octets, and octets that are not the UTF-8 encoding of a code point are a `URIError`, here `none`. -/
def utf8Decode : DecodeState → List Piece → Option (List Char)
  | .start, [] => some []
  | .inside .., [] => none
  | .start, .char c :: rest => (utf8Decode .start rest).map (c :: ·)
  | .start, .octet b :: rest =>
    if b < 0x80 then (utf8Decode .start rest).map (Char.ofNat b :: ·)
    else match leadOctet b with
      | some (need, acc, least) => utf8Decode (.inside need acc least) rest
      | none => none
  | .inside .., .char _ :: _ => none
  | .inside need acc least, .octet b :: rest =>
    if isCont b then
      if need = 1 then
        if isScalarOf (acc * 0x40 + (b - 0x80)) least then
          (utf8Decode .start rest).map (Char.ofNat (acc * 0x40 + (b - 0x80)) :: ·)
        else none
      else utf8Decode (.inside (need - 1) (acc * 0x40 + (b - 0x80)) least) rest
    else none

theorem utf8Decode_ascii {b : Nat} (h : b < 0x80) (rest : List Piece) :
    utf8Decode .start (.octet b :: rest) = (utf8Decode .start rest).map (Char.ofNat b :: ·) := by
  rw [utf8Decode, if_pos h]

theorem utf8Decode_lead {b : Nat} (h : ¬ b < 0x80) {need acc least : Nat} (hl : leadOctet b = some (need, acc, least))
    (rest : List Piece) : utf8Decode .start (.octet b :: rest) = utf8Decode (.inside need acc least) rest := by
  rw [utf8Decode, if_neg h, hl]

theorem utf8Decode_cont {b need acc least : Nat} (hb : 0x80 ≤ b ∧ b < 0xC0) (hn : need ≠ 1) (rest : List Piece) :
    utf8Decode (.inside need acc least) (.octet b :: rest) =
      utf8Decode (.inside (need - 1) (acc * 0x40 + (b - 0x80)) least) rest := by
  rw [utf8Decode, if_pos (by simp [isCont]; omega), if_neg hn]

theorem utf8Decode_last {b acc least : Nat} (hb : 0x80 ≤ b ∧ b < 0xC0)
    (hs : isScalarOf (acc * 0x40 + (b - 0x80)) least = true) (rest : List Piece) :
    utf8Decode (.inside 1 acc least) (.octet b :: rest) =
      (utf8Decode .start rest).map (Char.ofNat (acc * 0x40 + (b - 0x80)) :: ·) := by
  rw [utf8Decode, if_pos (by simp [isCont]; omega), if_pos rfl, if_pos hs]

theorem utf8Encode_lt (c : Char) : ∀ b ∈ utf8Encode c.toNat, b < 0x100 := by
  have hv : c.toNat < 0xD800 ∨ 0xDFFF < c.toNat ∧ c.toNat < 0x110000 := c.valid
  intro b hb
  unfold utf8Encode at hb
  split_ifs at hb <;> simp only [List.mem_cons, List.mem_singleton, List.not_mem_nil, or_false] at hb <;> omega

theorem leadOctet_two {n : Nat} (h1 : 0x80 ≤ n) (h2 : n < 0x800) :
    leadOctet (0xC0 + n / 0x40) = some (1, n / 0x40, 0x80) := by
  unfold leadOctet; rw [if_neg (by omega), if_pos (by omega)]; simp

theorem leadOctet_three {n : Nat} (h1 : 0x800 ≤ n) (h2 : n < 0x10000) :
    leadOctet (0xE0 + n / 0x1000) = some (2, n / 0x1000, 0x800) := by
  unfold leadOctet; rw [if_neg (by omega), if_neg (by omega), if_pos (by omega)]; simp

theorem leadOctet_four {n : Nat} (h1 : 0x10000 ≤ n) (h2 : n < 0x110000) :
    leadOctet (0xF0 + n / 0x40000) = some (3, n / 0x40000, 0x10000) := by
  unfold leadOctet; rw [if_neg (by omega), if_neg (by omega), if_neg (by omega), if_pos (by omega)]; simp

theorem isScalarOf_of_valid {n least : Nat} (hv : n < 0xD800 ∨ 0xDFFF < n ∧ n < 0x110000) (hl : least ≤ n) :
    isScalarOf n least = true := by
  simp only [isScalarOf, Bool.and_eq_true, decide_eq_true_eq, Bool.not_eq_true', Bool.and_eq_false_iff,
    decide_eq_false_iff_not]
  omega

/-- **The octets of a character decode to it.** -/
theorem utf8Decode_encode (c : Char) (rest : List Piece) :
    utf8Decode .start ((utf8Encode c.toNat).map .octet ++ rest) = (utf8Decode .start rest).map (c :: ·) := by
  have hv : c.toNat < 0xD800 ∨ 0xDFFF < c.toNat ∧ c.toNat < 0x110000 := c.valid
  have hc := Char.ofNat_toNat c
  generalize c.toNat = n at hv hc
  subst hc
  unfold utf8Encode
  split_ifs with h1 h2 h3
  · exact utf8Decode_ascii h1 rest
  · have e : n / 0x40 * 0x40 + (0x80 + n % 0x40 - 0x80) = n := by omega
    simp only [List.map_cons, List.map_nil, List.cons_append, List.nil_append]
    rw [utf8Decode_lead (by omega) (leadOctet_two (by omega) h2),
      utf8Decode_last (by omega) (by rw [e]; exact isScalarOf_of_valid hv (by omega)), e]
  · have e₁ : n / 0x1000 * 0x40 + (0x80 + n / 0x40 % 0x40 - 0x80) = n / 0x40 := by omega
    have e₂ : n / 0x40 * 0x40 + (0x80 + n % 0x40 - 0x80) = n := by omega
    simp only [List.map_cons, List.map_nil, List.cons_append, List.nil_append]
    rw [utf8Decode_lead (by omega) (leadOctet_three (by omega) h3), utf8Decode_cont (by omega) (by decide), e₁,
      utf8Decode_last (by omega) (by rw [e₂]; exact isScalarOf_of_valid hv (by omega)), e₂]
  · have e₁ : n / 0x40000 * 0x40 + (0x80 + n / 0x1000 % 0x40 - 0x80) = n / 0x1000 := by omega
    have e₂ : n / 0x1000 * 0x40 + (0x80 + n / 0x40 % 0x40 - 0x80) = n / 0x40 := by omega
    have e₃ : n / 0x40 * 0x40 + (0x80 + n % 0x40 - 0x80) = n := by omega
    simp only [List.map_cons, List.map_nil, List.cons_append, List.nil_append]
    rw [utf8Decode_lead (by omega) (leadOctet_four (by omega) (by omega)), utf8Decode_cont (by omega) (by decide), e₁,
      utf8Decode_cont (by omega) (by decide), e₂,
      utf8Decode_last (by omega) (by rw [e₃]; exact isScalarOf_of_valid hv (by omega)), e₃]

/-! ## `encodeURIComponent` -/

/-- `uriUnescaped`: the ASCII letters and digits and the marks `-_.!~*'()`, which `Encode` keeps. -/
def isUriUnescaped (c : Char) : Bool := c.isAlphanum || "-_.!~*\x27()".toList.contains c

/-- The `%XY` escapes of octets. -/
def escapeOctets : List Nat → List Char
  | [] => []
  | b :: bs => '%' :: hexDigit (b / 16) :: hexDigit (b % 16) :: escapeOctets bs

/-- What `Encode` writes for one character. -/
def encodeChar (c : Char) : List Char :=
  if isUriUnescaped c then [c] else escapeOctets (utf8Encode c.toNat)

/-- ECMA-262 `encodeURIComponent`. -/
def encodeURIComponent (s : String) : String := ⟨s.data.flatMap encodeChar⟩

theorem encodeChar_of_escaped {c : Char} (h : isUriUnescaped c = false) :
    encodeChar c = escapeOctets (utf8Encode c.toNat) := by
  simp [encodeChar, h]

theorem mem_escapeOctets {x : Char} : ∀ {bs : List Nat}, (∀ b ∈ bs, b < 0x100) → x ∈ escapeOctets bs →
    x = '%' ∨ x.isAlphanum = true
  | [], _, h => by cases h
  | b :: bs, hb, h => by
    simp only [escapeOctets, List.mem_cons] at h
    have hd := isAlphanum_hexDigit (b / 16) (by have := hb b (by simp); omega)
    have hm := isAlphanum_hexDigit (b % 16) (by omega)
    rcases h with rfl | rfl | rfl | h
    · exact .inl rfl
    · exact .inr hd
    · exact .inr hm
    · exact mem_escapeOctets (fun b h => hb b (by simp [h])) h

/-- Every character `encodeURIComponent` writes is a `%` or one of `uriUnescaped`. -/
theorem mem_encodeURIComponent {s : String} {x : Char} (h : x ∈ (encodeURIComponent s).data) :
    x = '%' ∨ isUriUnescaped x = true := by
  obtain ⟨c, -, hc⟩ := List.mem_flatMap.mp h
  unfold encodeChar at hc
  split_ifs at hc with hu
  · simp only [List.mem_singleton] at hc; exact .inr (hc ▸ hu)
  · rcases mem_escapeOctets (utf8Encode_lt c) hc with h | h
    · exact .inl h
    · exact .inr (by simp [isUriUnescaped, h])

/-! ## `decodeURIComponent` -/

/-- Where the reading of escapes stands: in the text, after a `%`, or after `%` and the high digit. -/
inductive UnescapeState
  | text
  | percent
  | high (hi : Nat)
deriving DecidableEq, Repr

/-- The escapes of a text as octets and the rest as characters; `none` (a `URIError`) where a `%` is not followed by
two hexadecimal digits. -/
def unescape : UnescapeState → List Char → Option (List Piece)
  | .text, [] => some []
  | .text, c :: rest => if c = '%' then unescape .percent rest else (unescape .text rest).map (.char c :: ·)
  | .percent, c :: rest =>
    match hexValue c with
    | some hi => unescape (.high hi) rest
    | none => none
  | .high hi, c :: rest =>
    match hexValue c with
    | some lo => (unescape .text rest).map (.octet (16 * hi + lo) :: ·)
    | none => none
  | _, [] => none

/-- ECMA-262 `decodeURIComponent`; `none` is the `URIError` it throws. -/
def decodeURIComponent (s : List Char) : Option (List Char) := (unescape .text s).bind (utf8Decode .start)

theorem unescape_escapeOctets : ∀ (bs : List Nat), (∀ b ∈ bs, b < 0x100) → ∀ rest : List Char,
    unescape .text (escapeOctets bs ++ rest) = (unescape .text rest).map (bs.map .octet ++ ·)
  | [], _, rest => by simp [escapeOctets]
  | b :: bs, hb, rest => by
    have h₁ : b / 16 < 16 := by have := hb b (by simp); omega
    have ih := unescape_escapeOctets bs (fun b h => hb b (List.mem_cons_of_mem _ h)) rest
    rw [escapeOctets, List.cons_append, List.cons_append, List.cons_append]
    simp only [unescape, ↓reduceIte, hexValue_hexDigit _ h₁, hexValue_hexDigit _ (Nat.mod_lt b (by decide)),
      Nat.div_add_mod, ih, Option.map_map, Function.comp_def, List.map_cons, List.cons_append]

theorem unescape_encode : ∀ {p : List Char}, (∀ c ∈ p, isUriUnescaped c = false) →
    unescape .text (p.flatMap encodeChar) = some (p.flatMap fun c => (utf8Encode c.toNat).map .octet)
  | [], _ => rfl
  | c :: p, hp => by
    rw [List.flatMap_cons, encodeChar_of_escaped (hp c (by simp)), unescape_escapeOctets _ (utf8Encode_lt c),
      unescape_encode (fun c h => hp c (by simp [h]))]
    rfl

theorem utf8Decode_octets : ∀ p : List Char,
    utf8Decode .start (p.flatMap fun c => (utf8Encode c.toNat).map .octet) = some p
  | [] => rfl
  | c :: p => by rw [List.flatMap_cons, utf8Decode_encode, utf8Decode_octets p]; rfl

/-- **The escapes of characters outside `uriUnescaped` decode to them.** -/
theorem decodeURIComponent_encode {p : List Char} (hp : ∀ c ∈ p, isUriUnescaped c = false) :
    decodeURIComponent (p.flatMap encodeChar) = some p := by
  rw [decodeURIComponent, unescape_encode hp, Option.some_bind, utf8Decode_octets]

/-! ## `percentDecode` of `vscode-uri` -/

/-- `decodeURIComponentGraceful` with `n` rounds left: on a `URIError`, keep the first escape and decode the rest. -/
def decodeGracefulIn : Nat → List Char → List Char
  | 0, s => s
  | n + 1, s =>
    match decodeURIComponent s with
    | some d => d
    | none => if 3 < s.length then s.take 3 ++ decodeGracefulIn n (s.drop 3) else s

/-- `decodeURIComponentGraceful`; as each round drops three characters, the length of the text is rounds enough. -/
def decodeURIComponentGraceful (s : List Char) : List Char := decodeGracefulIn s.length s

theorem decodeURIComponentGraceful_of_decode {s d : List Char} (h : decodeURIComponent s = some d) :
    decodeURIComponentGraceful s = d := by
  unfold decodeURIComponentGraceful
  cases s with
  | nil => cases h; rfl
  | cons c s => simp [decodeGracefulIn, h]

/-- Where the scan for `/(%[0-9A-Za-z][0-9A-Za-z])+/` stands: after whole escapes, after a `%`, or after `%` and
one letter or digit. -/
inductive ScanState
  | text
  | percent
  | percentDigit (a : Char)
deriving DecidableEq, Repr

/-- The global replace of `percentDecode`: `run` holds the escapes of the current match, which is decoded when the
match ends; a `%` that starts no match is kept, and the scan goes on after it. -/
def percentDecodeScan : ScanState → List Char → List Char → List Char
  | .text, run, [] => decodeURIComponentGraceful run
  | .percent, run, [] => decodeURIComponentGraceful run ++ ['%']
  | .percentDigit a, run, [] => decodeURIComponentGraceful run ++ ['%', a]
  | .text, run, c :: rest =>
    if c = '%' then percentDecodeScan .percent run rest
    else decodeURIComponentGraceful run ++ c :: percentDecodeScan .text [] rest
  | .percent, run, c :: rest =>
    if c.isAlphanum then percentDecodeScan (.percentDigit c) run rest
    else decodeURIComponentGraceful run ++ '%' ::
      (if c = '%' then percentDecodeScan .percent [] rest else c :: percentDecodeScan .text [] rest)
  | .percentDigit a, run, c :: rest =>
    if c.isAlphanum then percentDecodeScan .text (run ++ ['%', a, c]) rest
    else decodeURIComponentGraceful run ++ '%' :: a ::
      (if c = '%' then percentDecodeScan .percent [] rest else c :: percentDecodeScan .text [] rest)

/-- `percentDecode` of `vscode-uri`. -/
def percentDecode (s : String) : String := ⟨percentDecodeScan .text [] s.data⟩

theorem percentDecodeScan_other {c : Char} (h : c ≠ '%') (run rest : List Char) :
    percentDecodeScan .text run (c :: rest) = decodeURIComponentGraceful run ++ c :: percentDecodeScan .text [] rest := by
  rw [percentDecodeScan, if_neg h]

theorem percentDecodeScan_escapeOctets : ∀ (bs : List Nat), (∀ b ∈ bs, b < 0x100) → ∀ run rest : List Char,
    percentDecodeScan .text run (escapeOctets bs ++ rest) = percentDecodeScan .text (run ++ escapeOctets bs) rest
  | [], _, run, rest => by simp [escapeOctets]
  | b :: bs, hb, run, rest => by
    have h₁ : b / 16 < 16 := by have := hb b (by simp); omega
    have ih := percentDecodeScan_escapeOctets bs (fun b h => hb b (List.mem_cons_of_mem _ h))
    rw [escapeOctets, List.cons_append, List.cons_append, List.cons_append]
    simp only [percentDecodeScan, ↓reduceIte, isAlphanum_hexDigit _ h₁, isAlphanum_hexDigit _ (Nat.mod_lt b (by decide)),
      ih, List.append_assoc, List.cons_append, List.nil_append]

theorem percentDecodeScan_encode : ∀ (s p : List Char), (∀ c ∈ p, isUriUnescaped c = false) →
    percentDecodeScan .text (p.flatMap encodeChar) (s.flatMap encodeChar) = p ++ s
  | [], p, hp => by
    simp [percentDecodeScan, decodeURIComponentGraceful_of_decode (decodeURIComponent_encode hp)]
  | c :: s, p, hp => by
    rw [List.flatMap_cons]
    cases hc : isUriUnescaped c
    · have hp' : ∀ x ∈ p ++ [c], isUriUnescaped x = false := by
        intro x hx
        rcases List.mem_append.mp hx with h | h
        · exact hp x h
        · simp only [List.mem_singleton] at h; exact h ▸ hc
      have ih := percentDecodeScan_encode s (p ++ [c]) hp'
      rw [List.flatMap_append, List.flatMap_singleton, encodeChar_of_escaped hc] at ih
      rw [encodeChar_of_escaped hc, percentDecodeScan_escapeOctets _ (utf8Encode_lt c), ih, List.append_assoc,
        List.singleton_append]
    · have hne : c ≠ '%' := by rintro rfl; simp [isUriUnescaped] at hc
      have ih := percentDecodeScan_encode s [] (by simp)
      rw [List.flatMap_nil, List.nil_append] at ih
      rw [encodeChar, if_pos hc, List.singleton_append, percentDecodeScan_other hne,
        decodeURIComponentGraceful_of_decode (decodeURIComponent_encode hp), ih]

/-- **`percentDecode` undoes `encodeURIComponent`.** -/
theorem percentDecode_encodeURIComponent (s : String) : percentDecode (encodeURIComponent s) = s := by
  have h := percentDecodeScan_encode s.data [] (by simp)
  rw [List.flatMap_nil, List.nil_append] at h
  show String.mk (percentDecodeScan .text [] (s.data.flatMap encodeChar)) = s
  rw [h]

end Limix.Js
