import ProfilePlugin.Data
import ProfilePlugin.Json
/-
**`str.isdigit`, `int(str)` and `repr(str)`, as the request arguments meet them.**

The capture route reads its numeric arguments with `int(...)`, and `_get_graph_viewer_options`
reads `graph_width` with `int(graph_width_str)` once `graph_width_str.isdigit()` holds.  Both are
built-ins of CPython on Unicode text.  `str.isdigit` accepts every character of numeric type
`Decimal` or `Digit`.  `int` reads only the decimal digits:
`_PyUnicode_TransformDecimalAndSpaceToASCII` turns them and the Unicode whitespace into ASCII and cuts the text at the first other non-ASCII
character, which it writes as `?`; `PyLong_FromString` then parses ASCII: whitespace, a sign,
digits with single underscores between them, whitespace.  A run of more than 4300 digits raises
before anything after it is looked at.  A text that is no integer raises `ValueError` with
`repr(s)`, cut to 200 characters.

The tables are those of Unicode 14.0, the database of Python 3.10 and 3.11; the limit on digits
is the default of `sys.set_int_max_str_digits`.

Main definitions:

* `ProfilePlugin.decimalValue`, `ProfilePlugin.isdigit` — the Unicode digits;
* `ProfilePlugin.transformDecimalAndSpace`, `ProfilePlugin.scanDigits`, `ProfilePlugin.pyInt` —
  `int(s)`;
* `ProfilePlugin.pyRepr` — `repr(s)`.

Main results:

* `ProfilePlugin.pyInt_of_isdigit` — what `int` does with a text that `str.isdigit` accepts: the
  value of its digits when all of them are decimal and at most 4300, otherwise `ValueError`, for
  more than 4300 decimal digits before the first other one as well as for a digit `int` cannot
  read.
-/

set_option autoImplicit false

namespace ProfilePlugin

/-! ### The Unicode tables -/

/-- The zero of each block of ten decimal digits (numeric type `Decimal`). -/
def DECIMAL_ZEROS : List Nat :=
  [0x30, 0x660, 0x6F0, 0x7C0, 0x966, 0x9E6, 0xA66, 0xAE6, 0xB66, 0xBE6, 0xC66, 0xCE6, 0xD66, 0xDE6,
    0xE50, 0xED0, 0xF20, 0x1040, 0x1090, 0x17E0, 0x1810, 0x1946, 0x19D0, 0x1A80, 0x1A90, 0x1B50,
    0x1BB0, 0x1C40, 0x1C50, 0xA620, 0xA8D0, 0xA900, 0xA9D0, 0xA9F0, 0xAA50, 0xABF0, 0xFF10, 0x104A0,
    0x10D30, 0x11066, 0x110F0, 0x11136, 0x111D0, 0x112F0, 0x11450, 0x114D0, 0x11650, 0x116C0,
    0x11730, 0x118E0, 0x11950, 0x11C50, 0x11D50, 0x11DA0, 0x16A60, 0x16AC0, 0x16B50, 0x1D7CE,
    0x1D7D8, 0x1D7E2, 0x1D7EC, 0x1D7F6, 0x1E140, 0x1E2F0, 0x1E950, 0x1FBF0]

/-- The code points of numeric type `Digit` (superscripts, subscripts, circled digits, ...), which
`str.isdigit` accepts besides the decimal digits, as ranges. -/
def DIGIT_RANGES : List (Nat × Nat) :=
  [(0xB2, 0xB3), (0xB9, 0xB9), (0x1369, 0x1371), (0x19DA, 0x19DA), (0x2070, 0x2070),
    (0x2074, 0x2079), (0x2080, 0x2089), (0x2460, 0x2468), (0x2474, 0x247C), (0x2488, 0x2490),
    (0x24EA, 0x24EA), (0x24F5, 0x24FD), (0x24FF, 0x24FF), (0x2776, 0x277E), (0x2780, 0x2788),
    (0x278A, 0x2792), (0x10A40, 0x10A43), (0x10E60, 0x10E68), (0x11052, 0x1105A), (0x1F100, 0x1F10A)]

/-- `Py_UNICODE_TODECIMAL(c)`: the value of a decimal digit. -/
def decimalValue (c : Char) : Option Nat :=
  (DECIMAL_ZEROS.find? fun z => z ≤ c.toNat ∧ c.toNat < z + 10).map (c.toNat - ·)

/-- `str.isdecimal` of one character. -/
def isDecimal (c : Char) : Bool := (decimalValue c).isSome

/-- `str.isdigit` of one character. -/
def isDigitChar (c : Char) : Bool :=
  isDecimal c || DIGIT_RANGES.any fun r => r.1 ≤ c.toNat && c.toNat ≤ r.2

/-- `s.isdigit()`: a non-empty text of digits. -/
def isdigit (s : String) : Bool := !s.data.isEmpty && s.data.all isDigitChar

/-! ### `int(s)` -/

/-- `Py_ISSPACE`: the ASCII whitespace. -/
def isAsciiSpace (c : Char) : Bool :=
  c = ' ' || c = '\t' || c = '\n' || c = '\r' || c = '\x0b' || c = '\x0c'

/-- `_PyUnicode_TransformDecimalAndSpaceToASCII`: a character below `0x7f` stays, Unicode
whitespace becomes a space and a decimal digit its ASCII digit; the first other character becomes
`?` and ends the text. -/
def transformDecimalAndSpace : List Char → List Char
  | [] => []
  | c :: cs =>
      if c.toNat < 127 then c :: transformDecimalAndSpace cs
      else if pySpaces.contains c.toNat then ' ' :: transformDecimalAndSpace cs
      else match decimalValue c with
        | some d => Char.ofNat (48 + d) :: transformDecimalAndSpace cs
        | none => ['?']

/-- The sign in front of the digits: whether it is `-`, and the text after it. -/
def splitSign : List Char → Bool × List Char
  | [] => (false, [])
  | c :: r => if c = '+' then (false, r) else if c = '-' then (true, r) else (false, c :: r)

/-- The run of ASCII digits and underscores that `PyLong_FromString` scans: the values of its
digits and the text after it; `none` at a second underscore in a row, or at an underscore that
ends the run.  `prev` says whether an underscore came just before. -/
def scanDigits (prev : Bool) : List Char → Option (List Nat × List Char)
  | [] => if prev then none else some ([], [])
  | c :: cs =>
      if '0' ≤ c ∧ c ≤ '9' then (scanDigits false cs).map fun p => ((c.toNat - 48) :: p.1, p.2)
      else if c = '_' then (if prev then none else scanDigits true cs)
      else if prev then none else some ([], c :: cs)

/-- The value of decimal digits. -/
def digitsValue (ds : List Nat) : Nat := ds.foldl (fun a d => 10 * a + d) 0

/-- `sys.get_int_max_str_digits()`, by default. -/
def MAX_STR_DIGITS : Nat := 4300

/-- Two lower-case hex digits. -/
def hex2 (n : Nat) : List Char := [hexdigits.getD (n / 16 % 16) '0', hexdigits.getD (n % 16) '0']

/-- One character of `repr(s)` between the quotes `q`.  Non-ASCII characters are written as they
are, except the Latin-1 ones that are not printable; the escapes of the other characters that are
not printable (format characters, separators, unassigned and private-use code points) are left
out. -/
def reprChar (q c : Char) : List Char :=
  if c = q ∨ c = '\\' then ['\\', c]
  else if c = '\t' then ['\\', 't']
  else if c = '\n' then ['\\', 'n']
  else if c = '\r' then ['\\', 'r']
  else if c.toNat < 0x20 ∨ (0x7f ≤ c.toNat ∧ c.toNat ≤ 0xa0) ∨ c.toNat = 0xad then
    '\\' :: 'x' :: hex2 c.toNat
  else [c]

/-- `repr(s)`: between single quotes, or double quotes when `s` has a single quote and no double
one. -/
def pyRepr (s : String) : List Char :=
  if '\'' ∈ s.data ∧ '"' ∉ s.data then '"' :: s.data.flatMap (reprChar '"') ++ ['"']
  else '\'' :: s.data.flatMap (reprChar '\'') ++ ['\'']

/-- The `ValueError` of a text that is no integer: `%.200R` cuts `repr(s)` to 200 characters. -/
def invalidLiteral (s : String) : PyErr :=
  .valueError ("invalid literal for int() with base 10: " ++ ⟨(pyRepr s).take 200⟩)

/-- The `ValueError` of a run of `n` digits, more than the limit. -/
def exceedsLimit (n : Nat) : PyErr :=
  .valueError ("Exceeds the limit (4300 digits) for integer string conversion: value has " ++
    toString n ++ " digits; use sys.set_int_max_str_digits() to increase the limit")

/-- `int(s)`. -/
def pyInt (s : String) : Except PyErr Int :=
  match splitSign ((transformDecimalAndSpace s.data).dropWhile isAsciiSpace) with
  | (neg, t) =>
      if t.head? = some '_' then .error (invalidLiteral s)
      else match scanDigits false t with
        | none => .error (invalidLiteral s)
        | some (ds, rest) =>
            if MAX_STR_DIGITS < ds.length then .error (exceedsLimit ds.length)
            else if ds = [] ∨ rest.dropWhile isAsciiSpace ≠ [] then .error (invalidLiteral s)
            else .ok (if neg then -(digitsValue ds : Int) else digitsValue ds)

/-! ### The digits `int` reads -/

theorem decimalValue_spec {c : Char} {d : Nat} (h : decimalValue c = some d) :
    ∃ z ∈ DECIMAL_ZEROS, z ≤ c.toNat ∧ c.toNat < z + 10 ∧ d = c.toNat - z := by
  obtain ⟨z, hz, rfl⟩ := Option.map_eq_some'.1 h
  have hp := List.find?_some hz
  simp only [decide_eq_true_eq] at hp
  exact ⟨z, List.mem_of_find?_eq_some hz, hp.1, hp.2, rfl⟩

/-- The decimal digits are ASCII or above `0x660`, and none is whitespace. -/
theorem decimal_zeros_apart :
    ∀ z ∈ DECIMAL_ZEROS, (z = 0x30 ∨ 0x660 ≤ z) ∧ ∀ n ∈ pySpaces, ¬ (z ≤ n ∧ n < z + 10) := by
  decide

/-- The digits of type `Digit` lie above `0xB1`, and none is whitespace. -/
theorem digit_ranges_apart :
    ∀ r ∈ DIGIT_RANGES, 0xB2 ≤ r.1 ∧ r.1 ≠ 0xAD ∧ ∀ n ∈ pySpaces, ¬ (r.1 ≤ n ∧ n ≤ r.2) := by
  decide

theorem decimalValue_lt {c : Char} {d : Nat} (h : decimalValue c = some d) : d < 10 := by
  obtain ⟨z, -, h₁, h₂, rfl⟩ := decimalValue_spec h
  omega

/-- A decimal digit becomes its ASCII digit. -/
theorem transform_decimal {c : Char} {d : Nat} (h : decimalValue c = some d) (cs : List Char) :
    transformDecimalAndSpace (c :: cs) = Char.ofNat (48 + d) :: transformDecimalAndSpace cs := by
  obtain ⟨z, hz, h₁, h₂, rfl⟩ := decimalValue_spec h
  obtain ⟨rfl | hz', hsp⟩ := decimal_zeros_apart z hz
  · rw [transformDecimalAndSpace, if_pos (by omega), Nat.add_sub_cancel' h₁, Char.ofNat_toNat]
  · have hns : pySpaces.contains c.toNat = false := by
      rw [List.contains_eq_any_beq, List.any_eq_false]
      intro n hn e
      exact hsp n hn (by rw [beq_iff_eq] at e; omega)
    rw [transformDecimalAndSpace, if_neg (by omega), hns, if_neg Bool.false_ne_true, h]

/-- A digit that is not decimal ends the text as `?`. -/
theorem transform_digit {c : Char} (h₁ : isDigitChar c = true) (h₂ : isDecimal c = false)
    (cs : List Char) : transformDecimalAndSpace (c :: cs) = ['?'] := by
  simp only [isDigitChar, h₂, Bool.false_or, List.any_eq_true, Bool.and_eq_true,
    decide_eq_true_eq] at h₁
  obtain ⟨r, hr, hlo, hhi⟩ := h₁
  obtain ⟨hb, -, hsp⟩ := digit_ranges_apart r hr
  have hns : pySpaces.contains c.toNat = false := by
    rw [List.contains_eq_any_beq, List.any_eq_false]
    intro n hn e
    exact hsp n hn (by rw [beq_iff_eq] at e; omega)
  have hnd : decimalValue c = none := by simpa [isDecimal] using h₂
  rw [transformDecimalAndSpace, if_neg (by omega), hns, if_neg Bool.false_ne_true, hnd]

/-- The ASCII digit of `d`: a digit, whose value is `d`, and no whitespace, sign or underscore. -/
theorem asciiDigit_bounds :
    ∀ d < 10, ('0' ≤ Char.ofNat (48 + d) ∧ Char.ofNat (48 + d) ≤ '9' ∧
      (Char.ofNat (48 + d)).toNat - 48 = d) ∧ isAsciiSpace (Char.ofNat (48 + d)) = false ∧
      Char.ofNat (48 + d) ≠ '+' ∧ Char.ofNat (48 + d) ≠ '-' ∧ Char.ofNat (48 + d) ≠ '_' := by
  decide

/-- Decimal digits become their ASCII digits, whatever follows them. -/
theorem transform_decimals (pre rest : List Char) (h : ∀ c ∈ pre, isDecimal c = true) :
    transformDecimalAndSpace (pre ++ rest) =
      (pre.filterMap decimalValue).map (fun d => Char.ofNat (48 + d)) ++
        transformDecimalAndSpace rest := by
  induction pre with
  | nil => rfl
  | cons c pre ih =>
    obtain ⟨d, hd⟩ := Option.isSome_iff_exists.1 (h c (List.mem_cons_self c pre))
    rw [List.cons_append, transform_decimal hd, ih fun x hx => h x (List.mem_cons_of_mem c hx),
      List.filterMap_cons_some hd, List.map_cons, List.cons_append]

/-- The scan reads ASCII digits back as their values, up to the end or a `?`. -/
theorem scanDigits_digits (ds : List Nat) (tail : List Char) (hd : ∀ d ∈ ds, d < 10)
    (ht : tail = [] ∨ tail = ['?']) :
    scanDigits false (ds.map (fun d => Char.ofNat (48 + d)) ++ tail) = some (ds, tail) := by
  induction ds with
  | nil => rcases ht with rfl | rfl <;> rfl
  | cons d ds ih =>
    obtain ⟨⟨h0, h9, hv⟩, -⟩ := asciiDigit_bounds d (hd d (List.mem_cons_self d ds))
    rw [List.map_cons, List.cons_append, scanDigits, if_pos ⟨h0, h9⟩,
      ih fun x hx => hd x (List.mem_cons_of_mem d hx), hv]
    rfl

/-- The text `int` parses when `str.isdigit` holds: the ASCII digits of the decimal digits before
the first other digit, then `?` if there is one. -/
theorem transform_of_isdigit {s : String} (h : isdigit s = true) :
    transformDecimalAndSpace s.data =
      ((s.data.takeWhile isDecimal).filterMap decimalValue).map (fun d => Char.ofNat (48 + d)) ++
        if s.data.all isDecimal then [] else ['?'] := by
  have hall : ∀ c ∈ s.data, isDigitChar c = true := by
    simp only [isdigit, Bool.and_eq_true, List.all_eq_true] at h
    exact h.2
  conv_lhs => rw [← List.takeWhile_append_dropWhile isDecimal s.data]
  rw [transform_decimals _ _ fun c hc => List.mem_takeWhile_imp hc]
  congr 1
  split_ifs with ha
  · rw [List.dropWhile_eq_nil_iff.2 fun c hc => by simpa using List.all_eq_true.1 ha c hc]; rfl
  · obtain ⟨c, cs, hcs⟩ := List.exists_cons_of_ne_nil fun e =>
      ha (List.all_eq_true.2 fun c hc => by simpa using List.dropWhile_eq_nil_iff.1 e c hc)
    have hc := List.head_dropWhile_not isDecimal s.data (by simp [hcs])
    simp only [hcs, List.head_cons] at hc
    have hmem : c ∈ s.data :=
      (List.dropWhile_sublist isDecimal).subset (hcs ▸ List.mem_cons_self c cs)
    exact hcs ▸ transform_digit (hall c hmem) (by simpa using hc) cs

/-- The text of digits starts with a digit or with `?`: no whitespace, sign or underscore. -/
theorem digitsText_cons (ds : List Nat) (tail : List Char) (hd : ∀ d ∈ ds, d < 10)
    (hne : ds ≠ [] ∨ tail = ['?']) :
    ∃ c r, ds.map (fun d => Char.ofNat (48 + d)) ++ tail = c :: r ∧ isAsciiSpace c = false ∧
      c ≠ '+' ∧ c ≠ '-' ∧ c ≠ '_' := by
  cases ds with
  | nil =>
    obtain rfl : tail = ['?'] := hne.resolve_left fun h => h rfl
    exact ⟨'?', [], rfl, by decide⟩
  | cons d ds => exact ⟨_, _, rfl, (asciiDigit_bounds d (hd d (List.mem_cons_self d ds))).2⟩

/-- `int` on a text that becomes the ASCII digits of `ds`, then the end or `?`: the limit on the
digits comes first, then the value, or no integer at a `?`. -/
theorem pyInt_digitsText {s : String} {ds : List Nat} {tail : List Char} (hd : ∀ d ∈ ds, d < 10)
    (ht : tail = [] ∨ tail = ['?']) (hne : ds ≠ [] ∨ tail = ['?'])
    (hs : transformDecimalAndSpace s.data = ds.map (fun d => Char.ofNat (48 + d)) ++ tail) :
    pyInt s = if MAX_STR_DIGITS < ds.length then .error (exceedsLimit ds.length)
      else if tail = [] then .ok (digitsValue ds) else .error (invalidLiteral s) := by
  obtain ⟨c, r, hcr, hsp, hp, hm, hu⟩ := digitsText_cons ds tail hd hne
  have hscan := scanDigits_digits ds tail hd ht
  rw [hcr] at hscan
  rw [pyInt, hs, hcr, List.dropWhile_cons_of_neg (by simpa using hsp), splitSign, if_neg hp,
    if_neg hm]
  dsimp only
  rw [if_neg (by simpa using hu), hscan]
  dsimp only
  by_cases hl : MAX_STR_DIGITS < ds.length
  · rw [if_pos hl, if_pos hl]
  · rw [if_neg hl, if_neg hl]
    rcases ht with rfl | rfl
    · rw [if_neg (by simpa using hne), if_pos rfl]
      rfl
    · rw [if_pos (.inr (by decide)), if_neg (by decide)]

/-- **What `int` does with a text that `str.isdigit` accepts.**  With more than 4300 decimal
digits before the first digit `int` cannot read (or the end), the limit raises; otherwise the text
is read as the value of its digits when all of them are decimal, and is no integer when one is
not. -/
theorem pyInt_of_isdigit {s : String} (h : isdigit s = true) :
    pyInt s =
      if MAX_STR_DIGITS < (s.data.takeWhile isDecimal).length then
        .error (exceedsLimit (s.data.takeWhile isDecimal).length)
      else if s.data.all isDecimal then .ok (digitsValue (s.data.filterMap decimalValue))
      else .error (invalidLiteral s) := by
  have hpre : ∀ c ∈ s.data.takeWhile isDecimal, isDecimal c = true :=
    fun c hc => List.mem_takeWhile_imp hc
  have hlen : ((s.data.takeWhile isDecimal).filterMap decimalValue).length =
      (s.data.takeWhile isDecimal).length :=
    (List.length_filterMap_eq_countP _ _).trans (List.countP_eq_length.2 hpre)
  have hlt : ∀ d ∈ (s.data.takeWhile isDecimal).filterMap decimalValue, d < 10 := fun d hd => by
    obtain ⟨c, -, hc⟩ := List.mem_filterMap.1 hd
    exact decimalValue_lt hc
  have hnil : s.data ≠ [] := by
    simp only [isdigit, Bool.and_eq_true, Bool.not_eq_true', List.isEmpty_eq_false] at h
    exact h.1
  by_cases ha : s.data.all isDecimal
  · -- every digit is decimal: the scan reaches the end
    have htw : s.data.takeWhile isDecimal = s.data :=
      List.takeWhile_eq_self_iff.2 fun c hc => List.all_eq_true.1 ha c hc
    have hne : (s.data.filterMap decimalValue) ≠ [] := by
      rw [← List.length_pos, ← htw, hlen, htw, List.length_pos]
      exact hnil
    rw [htw] at hlen hlt
    rw [pyInt_digitsText hlt (.inl rfl) (.inl hne)
      (by rw [transform_of_isdigit h, if_pos ha, htw, List.append_nil]), hlen, htw, if_pos ha,
      if_pos rfl]
  · -- a digit that is not decimal ends the scan at `?`
    rw [pyInt_digitsText hlt (.inr rfl) (.inr rfl) (by rw [transform_of_isdigit h, if_neg ha]),
      hlen, if_neg ha, if_neg (List.cons_ne_nil _ _)]

/-- `int` raises `ValueError` on a text that `str.isdigit` accepts unless the text is at most 4300
decimal digits. -/
theorem pyInt_isdigit_error {s : String} (h : isdigit s = true)
    (hbad : ¬ (s.data.all isDecimal ∧ s.data.length ≤ MAX_STR_DIGITS)) :
    ∃ msg, pyInt s = .error (.valueError msg) := by
  rw [pyInt_of_isdigit h]
  split_ifs with hl ha
  · exact ⟨_, rfl⟩
  · rw [List.takeWhile_eq_self_iff.2 fun c hc => List.all_eq_true.1 ha c hc] at hl
    exact absurd ⟨ha, not_lt.1 hl⟩ hbad
  · exact ⟨_, rfl⟩

end ProfilePlugin
