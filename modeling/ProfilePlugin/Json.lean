import Mathlib.Data.String.Basic
/-
**The JSON bodies of the plugin's responses.**

`respond` turns a `dict` or `list` body with the content type `application/json` into text with
`json.dumps(body, sort_keys=True)`: `ensure_ascii` escapes every character outside `' '`..`'~'`,
as `\uXXXX` in lower-case hex and as a surrogate pair above `U+FFFF`; items are separated by
`', '`, keys from values by `': '`; and the items of a `dict` are written in the order of their
keys.  The frontend reads the text back with `JSON.parse`.

The values the plugin sends are `str`s, `list`s and `dict`s with `str` keys
(`ProfilePlugin.PyVal`): the run names of `runs_imp` and `run_tools_imp`, the `{'hostname': ...}`
dicts of `host_impl`, the `{'error': ...}` and `{'result': ...}` dicts of the capture route.  The
escaping follows `c_encode_basestring_ascii` of CPython's `_json` module, which `json.dumps` uses
when it is available; `py_encode_basestring_ascii` writes the same text.  `JSON.parse` is modelled
on strings, arrays and objects, with the whitespace JSON allows between tokens; numbers and the
literals never occur in these bodies and make the model fail.

Main definitions:

* `ProfilePlugin.PyVal` — the values;
* `ProfilePlugin.encodeBasestringAscii`, `ProfilePlugin.PyVal.dumps` — `json.dumps`;
* `ProfilePlugin.parseChars`, `ProfilePlugin.parseValue`, `ProfilePlugin.jsonParse` — `JSON.parse`;
* `ProfilePlugin.PyVal.sortKeys` — a value with the items of each `dict` in the order of their keys.

Main results:

* `ProfilePlugin.parseChars_escapeChar` — the decoder reads the escape of one character back;
* `ProfilePlugin.roundTrip` — parsing the text of a value gives the value back, with its `dict`
  items in key order, whatever follows the text;
* `ProfilePlugin.jsonParse_dumps` — **`JSON.parse(json.dumps(v, sort_keys=True))` is `v`** up to the
  order of `dict` items, for every value.
-/

set_option autoImplicit false

namespace ProfilePlugin

/-- A value the plugin hands to `json.dumps`: a `str`, a `list`, or a `dict` with `str` keys, by
its items. -/
inductive PyVal where
  | str (s : String)
  | list (l : List PyVal)
  | dict (l : List (String × PyVal))

/-! ### `json.dumps` -/

/-- `Py_hexdigits`. -/
def hexdigits : List Char := "0123456789abcdef".data

/-- `\u` and the four hex digits of the code unit `c`, as `ascii_escape_unichar` writes them. -/
def uEscape (c : Nat) : List Char :=
  ['\\', 'u', hexdigits.getD (c >>> 12 &&& 0xf) '0', hexdigits.getD (c >>> 8 &&& 0xf) '0',
    hexdigits.getD (c >>> 4 &&& 0xf) '0', hexdigits.getD (c &&& 0xf) '0']

/-- `S_CHAR(c)`: the characters written as they are. -/
def sChar (c : Char) : Bool := ' ' ≤ c && c ≤ '~' && c != '\\' && c != '"'

/-- `ascii_escape_unichar(c)`: a short escape, or `\uXXXX`, or above `U+FFFF` the escapes of
`Py_UNICODE_HIGH_SURROGATE(c)` and `Py_UNICODE_LOW_SURROGATE(c)`. -/
def asciiEscapeUnichar (c : Char) : List Char :=
  match c with
  | '\\' => ['\\', '\\']
  | '"' => ['\\', '"']
  | '\x08' => ['\\', 'b']
  | '\x0c' => ['\\', 'f']
  | '\n' => ['\\', 'n']
  | '\r' => ['\\', 'r']
  | '\t' => ['\\', 't']
  | c =>
      if 0x10000 ≤ c.toNat then
        uEscape (0xD800 - (0x10000 >>> 10) + (c.toNat >>> 10)) ++ uEscape (0xDC00 + (c.toNat &&& 0x3FF))
      else uEscape c.toNat

/-- One character of `encode_basestring_ascii`. -/
def escapeChar (c : Char) : List Char := if sChar c then [c] else asciiEscapeUnichar c

/-- `encode_basestring_ascii(s)`: the JSON string literal of `s`. -/
def encodeBasestringAscii (s : String) : List Char := '"' :: s.data.flatMap escapeChar ++ ['"']

/-- `item_separator` of `json.dumps` without `indent`. -/
def itemSeparator : List Char := ", ".data

/-- `key_separator` of `json.dumps`. -/
def keySeparator : List Char := ": ".data

/-- The order of `sort_keys`: items by key, compared by code point. -/
def keyLe {α : Type} (a b : String × α) : Bool := decide (a.1 ≤ b.1)

mutual
/-- `json.dumps(v, sort_keys=True)`, as characters. -/
def PyVal.dumps : PyVal → List Char
  | .str s => encodeBasestringAscii s
  | .list l => '[' :: itemSeparator.intercalate (dumpsList l) ++ [']']
  | .dict l => '{' :: itemSeparator.intercalate (((dumpsItems l).mergeSort keyLe).map fun kv =>
      encodeBasestringAscii kv.1 ++ keySeparator ++ kv.2) ++ ['}']

/-- The texts of the items of a `list`. -/
def dumpsList : List PyVal → List (List Char)
  | [] => []
  | v :: l => v.dumps :: dumpsList l

/-- The keys of a `dict` with the texts of their values. -/
def dumpsItems : List (String × PyVal) → List (String × List Char)
  | [] => []
  | (k, v) :: l => (k, v.dumps) :: dumpsItems l
end

/-! ### `JSON.parse` -/

/-- The whitespace JSON allows between tokens. -/
def skipWs : List Char → List Char
  | [] => []
  | c :: r => if c = ' ' ∨ c = '\t' ∨ c = '\n' ∨ c = '\r' then skipWs r else c :: r

/-- The value of a hex digit, in either case. -/
def hexVal (c : Char) : Option Nat :=
  if '0' ≤ c ∧ c ≤ '9' then some (c.toNat - 48)
  else if 'a' ≤ c ∧ c ≤ 'f' then some (c.toNat - 87)
  else if 'A' ≤ c ∧ c ≤ 'F' then some (c.toNat - 55)
  else none

/-- The code unit of four hex digits. -/
def hex4Val (a b c d : Char) : Option Nat := do
  let a ← hexVal a
  let b ← hexVal b
  let c ← hexVal c
  let d ← hexVal d
  return ((a * 16 + b) * 16 + c) * 16 + d

/-- Puts a decoded character in front of the characters decoded after it. -/
def consChar (c : Char) (o : Option (List Char × List Char)) : Option (List Char × List Char) :=
  o.map fun p => (c :: p.1, p.2)

/-- The character a backslash and one other character stand for, other than `\u`. -/
def shortEscape (e : Char) : Option Char :=
  if e = '"' then some '"'
  else if e = '\\' then some '\\'
  else if e = '/' then some '/'
  else if e = 'b' then some '\x08'
  else if e = 'f' then some '\x0c'
  else if e = 'n' then some '\n'
  else if e = 'r' then some '\r'
  else if e = 't' then some '\t'
  else none

mutual
/-- The characters of a JSON string after its opening quote, and what follows its closing quote;
a raw control character fails. -/
def parseChars : List Char → Option (List Char × List Char)
  | [] => none
  | c :: r =>
      if c = '"' then some ([], r)
      else if c = '\\' then parseEscape r
      else if c.toNat < 0x20 then none
      else consChar c (parseChars r)

/-- The rest of a JSON string after a backslash. -/
def parseEscape : List Char → Option (List Char × List Char)
  | [] => none
  | e :: r =>
      if e = 'u' then parseU r
      else match shortEscape e with
        | some c => consChar c (parseChars r)
        | none => none

/-- The rest of a JSON string after `\u`.  An escaped surrogate must be the high half of a pair
followed by the low half; a lone one, which a JavaScript string can hold and a Lean string cannot,
fails. -/
def parseU : List Char → Option (List Char × List Char)
  | a :: b :: c :: d :: r =>
      match hex4Val a b c d with
      | none => none
      | some n =>
          if n < 0xD800 ∨ 0xDFFF < n then consChar (Char.ofNat n) (parseChars r)
          else if n < 0xDC00 then parseLow n r
          else none
  | _ => none

/-- The rest of a JSON string after the escape of the high surrogate `n`: the escape of a low
surrogate must follow. -/
def parseLow (n : Nat) : List Char → Option (List Char × List Char)
  | x :: y :: a :: b :: c :: d :: r =>
      if x = '\\' ∧ y = 'u' then
        match hex4Val a b c d with
        | some m =>
            if 0xDC00 ≤ m ∧ m ≤ 0xDFFF then
              consChar (Char.ofNat (0x10000 + (n - 0xD800) * 0x400 + (m - 0xDC00))) (parseChars r)
            else none
        | none => none
      else none
  | _ => none
end

mutual
/-- A JSON value at the start of the input, after whitespace, within `n` nested steps. -/
def parseValue : Nat → List Char → Option (PyVal × List Char)
  | 0, _ => none
  | n + 1, cs =>
      match skipWs cs with
      | '"' :: r => (parseChars r).map fun p => (.str ⟨p.1⟩, p.2)
      | '[' :: r =>
          match skipWs r with
          | ']' :: r' => some (.list [], r')
          | _ => (parseElems n r).map fun p => (.list p.1, p.2)
      | '{' :: r =>
          match skipWs r with
          | '}' :: r' => some (.dict [], r')
          | _ => (parseMembers n r).map fun p => (.dict p.1, p.2)
      | _ => none

/-- The elements of a non-empty array, up to its closing bracket. -/
def parseElems : Nat → List Char → Option (List PyVal × List Char)
  | 0, _ => none
  | n + 1, cs =>
      match parseValue n cs with
      | none => none
      | some (v, r) =>
          match skipWs r with
          | ',' :: r' => (parseElems n r').map fun p => (v :: p.1, p.2)
          | ']' :: r' => some ([v], r')
          | _ => none

/-- The members of a non-empty object, up to its closing brace. -/
def parseMembers : Nat → List Char → Option (List (String × PyVal) × List Char)
  | 0, _ => none
  | n + 1, cs =>
      match skipWs cs with
      | '"' :: r =>
          match parseChars r with
          | none => none
          | some (k, r) =>
              match skipWs r with
              | ':' :: r =>
                  match parseValue n r with
                  | none => none
                  | some (v, r) =>
                      match skipWs r with
                      | ',' :: r' => (parseMembers n r').map fun p => ((⟨k⟩, v) :: p.1, p.2)
                      | '}' :: r' => some ([(⟨k⟩, v)], r')
                      | _ => none
              | _ => none
      | _ => none
end

/-- `JSON.parse(text)`: one value, with only whitespace after it. -/
def jsonParse (text : List Char) : Option PyVal :=
  match parseValue text.length text with
  | some (v, r) => if skipWs r = [] then some v else none
  | none => none

mutual
/-- A value with the items of each `dict` in the order of their keys, as `sort_keys` writes them. -/
def PyVal.sortKeys : PyVal → PyVal
  | .str s => .str s
  | .list l => .list (sortKeysList l)
  | .dict l => .dict ((sortKeysItems l).mergeSort keyLe)

def sortKeysList : List PyVal → List PyVal
  | [] => []
  | v :: l => v.sortKeys :: sortKeysList l

def sortKeysItems : List (String × PyVal) → List (String × PyVal)
  | [] => []
  | (k, v) :: l => (k, v.sortKeys) :: sortKeysItems l
end

/-! ### Hex digits and code units -/

theorem hexVal_hexdigits : ∀ d < 16, hexVal (hexdigits.getD d '0') = some d := by decide

/-- The escape of a code unit is `\u` and four digits that read back as it. -/
theorem uEscape_eq {n : Nat} (h : n < 0x10000) :
    ∃ a b c d, uEscape n = ['\\', 'u', a, b, c, d] ∧ hex4Val a b c d = some n := by
  have hf : (0xf : Nat) = 2 ^ 4 - 1 := rfl
  have hd : ∀ m, hexVal (hexdigits.getD (m % 16) '0') = some (m % 16) := fun m =>
    hexVal_hexdigits _ (Nat.mod_lt _ (by decide))
  refine ⟨_, _, _, _, rfl, ?_⟩
  simp only [hf, Nat.and_pow_two_sub_one_eq_mod, Nat.shiftRight_eq_div_pow]
  simp only [Nat.reducePow, hex4Val, hd, Option.bind_eq_bind, Option.some_bind, Option.pure_def,
    Option.some.injEq]
  omega

/-- A character is a Unicode scalar value: below the surrogates, or above them and below
`0x110000`. -/
theorem toNat_valid (c : Char) : c.toNat < 0xD800 ∨ (0xDFFF < c.toNat ∧ c.toNat < 0x110000) :=
  c.valid

/-! ### The string round trip -/

theorem parseChars_plain {c : Char} (hc : sChar c = true) (r : List Char) :
    parseChars (c :: r) = consChar c (parseChars r) := by
  simp only [sChar, Bool.and_eq_true, decide_eq_true_eq, bne_iff_ne, ne_eq] at hc
  obtain ⟨⟨⟨h1, h2⟩, h3⟩, h4⟩ := hc
  have h5 : ¬ c.toNat < 0x20 := fun h => by
    have : (' ' : Char).toNat ≤ c.toNat := h1
    simp at this; omega
  simp [parseChars, h3, h4, h5]

theorem parseChars_short {e c : Char} (he : shortEscape e = some c) (hu : e ≠ 'u')
    (r : List Char) : parseChars ('\\' :: e :: r) = consChar c (parseChars r) := by
  rw [parseChars, if_neg (by decide), if_pos rfl, parseEscape, if_neg hu, he]

theorem parseChars_uEscape {n : Nat} (h : n < 0x10000) (hs : n < 0xD800 ∨ 0xDFFF < n)
    (r : List Char) : parseChars (uEscape n ++ r) = consChar (Char.ofNat n) (parseChars r) := by
  obtain ⟨a, b, c, d, he, hv⟩ := uEscape_eq h
  rw [he]
  simp only [List.cons_append, List.nil_append]
  rw [parseChars, if_neg (by decide), if_pos rfl, parseEscape, if_pos rfl, parseU]
  simp only [hv, if_pos hs]

/-- The two escapes of a character above `U+FFFF` read back as the character. -/
theorem parseChars_surrogates {c : Char} (hc : 0x10000 ≤ c.toNat) (r : List Char) :
    parseChars (uEscape (0xD800 - (0x10000 >>> 10) + (c.toNat >>> 10)) ++
      uEscape (0xDC00 + (c.toNat &&& 0x3FF)) ++ r) = consChar c (parseChars r) := by
  have hlt := (toNat_valid c).resolve_left (by omega)
  have hsh : c.toNat >>> 10 = c.toNat / 1024 := Nat.shiftRight_eq_div_pow _ _
  have hand : c.toNat &&& 0x3FF = c.toNat % 1024 := Nat.and_pow_two_sub_one_eq_mod _ 10
  rw [hsh, hand]
  obtain ⟨a, b, c₁, d, he, hv⟩ := uEscape_eq (n := 0xD800 - (0x10000 >>> 10) + c.toNat / 1024)
    (by simp only [Nat.reduceShiftRight]; omega)
  obtain ⟨a', b', c', d', he', hv'⟩ := uEscape_eq (n := 0xDC00 + c.toNat % 1024) (by omega)
  rw [he, he']
  simp only [List.cons_append, List.nil_append]
  rw [parseChars, if_neg (by decide), if_pos rfl, parseEscape, if_pos rfl, parseU]
  simp only [hv, Nat.reduceShiftRight]
  rw [if_neg (by omega), if_pos (by omega), parseLow, if_pos ⟨rfl, rfl⟩]
  simp only [hv']
  rw [if_pos (by omega)]
  have key : ∀ m, m = c.toNat →
      consChar (Char.ofNat m) (parseChars r) = consChar c (parseChars r) := by
    rintro m rfl; rw [Char.ofNat_toNat]
  exact key _ (by omega)

/-- **The decoder reads the escape of one character back**, by the class of the character:
written as it is, a short escape, `\uXXXX`, or a surrogate pair. -/
theorem parseChars_escapeChar (c : Char) (r : List Char) :
    parseChars (escapeChar c ++ r) = consChar c (parseChars r) := by
  unfold escapeChar
  split_ifs with hs
  · exact parseChars_plain hs r
  · unfold asciiEscapeUnichar
    split
    · exact parseChars_short (by decide) (by decide) r
    · exact parseChars_short (by decide) (by decide) r
    · exact parseChars_short (by decide) (by decide) r
    · exact parseChars_short (by decide) (by decide) r
    · exact parseChars_short (by decide) (by decide) r
    · exact parseChars_short (by decide) (by decide) r
    · exact parseChars_short (by decide) (by decide) r
    · split_ifs with hbig
      · exact parseChars_surrogates hbig r
      · have hs' : c.toNat < 0xD800 ∨ 0xDFFF < c.toNat := by
          rcases toNat_valid c with h | h <;> omega
        rw [parseChars_uEscape (by omega) hs', Char.ofNat_toNat]

theorem parseChars_encode (s : List Char) (r : List Char) :
    parseChars (s.flatMap escapeChar ++ '"' :: r) = some (s, r) := by
  induction s with
  | nil => simp [parseChars]
  | cons c s ih => rw [List.flatMap_cons, List.append_assoc, parseChars_escapeChar, ih]; rfl

/-! ### The value round trip -/

theorem dumpsList_eq (l : List PyVal) : dumpsList l = l.map PyVal.dumps := by
  induction l with
  | nil => rfl
  | cons v l ih => rw [dumpsList, ih, List.map_cons]

theorem dumpsItems_eq (l : List (String × PyVal)) :
    dumpsItems l = l.map fun kv => (kv.1, kv.2.dumps) := by
  induction l with
  | nil => rfl
  | cons kv l ih => rw [dumpsItems, ih, List.map_cons]

theorem sortKeysList_eq (l : List PyVal) : sortKeysList l = l.map PyVal.sortKeys := by
  induction l with
  | nil => rfl
  | cons v l ih => rw [sortKeysList, ih, List.map_cons]

theorem sortKeysItems_eq (l : List (String × PyVal)) :
    sortKeysItems l = l.map fun kv => (kv.1, kv.2.sortKeys) := by
  induction l with
  | nil => rfl
  | cons kv l ih => rw [sortKeysItems, ih, List.map_cons]

/-- `sort_keys` orders the items themselves: the text of a `dict` is that of its items in key
order. -/
theorem dumps_dict (l : List (String × PyVal)) :
    (PyVal.dict l).dumps = '{' :: itemSeparator.intercalate ((l.mergeSort keyLe).map fun kv =>
      encodeBasestringAscii kv.1 ++ keySeparator ++ kv.2.dumps) ++ ['}'] := by
  rw [PyVal.dumps, dumpsItems_eq, ← List.map_mergeSort (r := keyLe)
    (f := fun kv : String × PyVal => (kv.1, kv.2.dumps)) (fun _ _ _ _ => rfl), List.map_map]
  rfl

theorem sortKeys_dict (l : List (String × PyVal)) :
    (PyVal.dict l).sortKeys = .dict ((l.mergeSort keyLe).map fun kv => (kv.1, kv.2.sortKeys)) := by
  rw [PyVal.sortKeys, sortKeysItems_eq, ← List.map_mergeSort (r := keyLe)
    (f := fun kv : String × PyVal => (kv.1, kv.2.sortKeys)) (fun _ _ _ _ => rfl)]

theorem intercalate_sep_cons_cons (a b : List Char) (l : List (List Char)) :
    itemSeparator.intercalate (a :: b :: l) =
      a ++ (itemSeparator ++ itemSeparator.intercalate (b :: l)) :=
  rfl

theorem intercalate_sep_singleton (a : List Char) : itemSeparator.intercalate [a] = a := by
  simp [List.intercalate]

/-- The text of a value starts with a quote, a bracket or a brace, none of them whitespace. -/
theorem skipWs_dumps (v : PyVal) (rest : List Char) :
    skipWs (v.dumps ++ rest) = v.dumps ++ rest := by
  cases v <;> simp only [PyVal.dumps, encodeBasestringAscii, List.cons_append] <;>
    rw [skipWs, if_neg (by decide)]

theorem parseValue_space (n : Nat) (cs : List Char) :
    parseValue n (' ' :: cs) = parseValue n cs := by
  cases n with
  | zero => rfl
  | succ n => rw [parseValue, parseValue, skipWs, if_pos (.inl rfl)]

theorem parseElems_space (n : Nat) (cs : List Char) :
    parseElems n (' ' :: cs) = parseElems n cs := by
  cases n with
  | zero => rfl
  | succ n => rw [parseElems, parseElems, parseValue_space]

theorem parseMembers_space (n : Nat) (cs : List Char) :
    parseMembers n (' ' :: cs) = parseMembers n cs := by
  cases n with
  | zero => rfl
  | succ n => rw [parseMembers, parseMembers, skipWs, if_pos (.inl rfl)]

/-- What the round trip says of one value: its text, followed by anything, parses back, with its
`dict` items in key order, within as many steps as it has characters. -/
def RoundTrip (v : PyVal) : Prop :=
  ∀ n rest, v.dumps.length ≤ n → parseValue n (v.dumps ++ rest) = some (v.sortKeys, rest)

theorem roundTrip_str (s : String) : RoundTrip (.str s) := by
  intro n rest hn
  obtain ⟨n, rfl⟩ : ∃ m, n = m + 1 :=
    ⟨n - 1, by simp [PyVal.dumps, encodeBasestringAscii] at hn; omega⟩
  simp only [PyVal.dumps, encodeBasestringAscii, List.cons_append]
  rw [parseValue, skipWs, if_neg (by decide)]
  simp only [List.append_assoc, List.singleton_append, parseChars_encode, Option.map_some']
  rfl

/-- The elements of a non-empty list parse back, up to the closing bracket. -/
theorem parseElems_dumps {l : List PyVal} (hl : l ≠ []) (h : ∀ v ∈ l, RoundTrip v) (n : Nat)
    (rest : List Char) (hn : (itemSeparator.intercalate (l.map PyVal.dumps)).length < n) :
    parseElems n (itemSeparator.intercalate (l.map PyVal.dumps) ++ ']' :: rest) =
      some (l.map PyVal.sortKeys, rest) := by
  induction l generalizing n with
  | nil => exact absurd rfl hl
  | cons v l ih =>
      obtain ⟨m, rfl⟩ : ∃ m, n = m + 1 := ⟨n - 1, by omega⟩
      have hv := h v (List.mem_cons_self _ _)
      cases l with
      | nil =>
          rw [List.map_singleton, intercalate_sep_singleton] at hn ⊢
          rw [parseElems, hv m _ (by omega)]
          simp [skipWs]
      | cons w l =>
          rw [List.map_cons, List.map_cons, intercalate_sep_cons_cons] at hn ⊢
          have hsep : itemSeparator.length = 2 := rfl
          simp only [List.length_append, hsep] at hn
          have htail :
              (itemSeparator ++ itemSeparator.intercalate (w.dumps :: l.map PyVal.dumps)) ++
                ']' :: rest = ',' :: ' ' :: (itemSeparator.intercalate ((w :: l).map PyVal.dumps) ++
                ']' :: rest) := by
            rw [List.map_cons, List.append_assoc]; rfl
          rw [List.append_assoc, parseElems, hv m _ (by omega)]
          dsimp only
          rw [htail, skipWs, if_neg (by decide)]
          simp only [parseElems_space]
          rw [ih (List.cons_ne_nil _ _) (fun u hu => h u (List.mem_cons_of_mem _ hu)) m
            (by rw [List.map_cons]; omega)]
          rfl

/-- One item of a `dict`: its key, its value, and then the rest of the members or the brace. -/
theorem parseMembers_item (k : String) {v : PyVal} (hv : RoundTrip v) {m : Nat}
    (hm : v.dumps.length ≤ m) (tail : List Char) :
    parseMembers (m + 1) ((encodeBasestringAscii k ++ keySeparator ++ v.dumps) ++ tail) =
      match skipWs tail with
      | ',' :: r' => (parseMembers m r').map fun p => ((k, v.sortKeys) :: p.1, p.2)
      | '}' :: r' => some ([(k, v.sortKeys)], r')
      | _ => none := by
  have htext : (encodeBasestringAscii k ++ keySeparator ++ v.dumps) ++ tail =
      '"' :: (k.data.flatMap escapeChar ++ '"' :: ':' :: ' ' :: (v.dumps ++ tail)) := by
    simp [encodeBasestringAscii, keySeparator]
  rw [htext, parseMembers, skipWs, if_neg (by decide)]
  simp only []
  rw [parseChars_encode]
  simp only []
  rw [skipWs, if_neg (by decide)]
  simp only []
  rw [parseValue_space, hv m tail hm]

/-- The items of a non-empty `dict`, in the order written, parse back up to the closing brace. -/
theorem parseMembers_dumps {L : List (String × PyVal)} (hL : L ≠ []) (h : ∀ kv ∈ L, RoundTrip kv.2)
    (n : Nat) (rest : List Char)
    (hn : (itemSeparator.intercalate (L.map fun kv =>
      encodeBasestringAscii kv.1 ++ keySeparator ++ kv.2.dumps)).length < n) :
    parseMembers n (itemSeparator.intercalate (L.map fun kv =>
        encodeBasestringAscii kv.1 ++ keySeparator ++ kv.2.dumps) ++ '}' :: rest) =
      some (L.map fun kv => (kv.1, kv.2.sortKeys), rest) := by
  induction L generalizing n with
  | nil => exact absurd rfl hL
  | cons kv L ih =>
      obtain ⟨m, rfl⟩ : ∃ m, n = m + 1 := ⟨n - 1, by omega⟩
      have hv := h kv (List.mem_cons_self _ _)
      cases L with
      | nil =>
          rw [List.map_singleton, intercalate_sep_singleton] at hn ⊢
          simp only [List.length_append] at hn
          rw [parseMembers_item kv.1 hv (by omega)]
          simp [skipWs]
      | cons kv' L =>
          rw [List.map_cons, List.map_cons, intercalate_sep_cons_cons] at hn ⊢
          have hsep : itemSeparator.length = 2 := rfl
          simp only [List.length_append, hsep] at hn
          rw [List.append_assoc, parseMembers_item kv.1 hv (by omega)]
          have htail : (itemSeparator ++ itemSeparator.intercalate
              ((encodeBasestringAscii kv'.1 ++ keySeparator ++ kv'.2.dumps) :: L.map fun kv =>
                encodeBasestringAscii kv.1 ++ keySeparator ++ kv.2.dumps)) ++ '}' :: rest =
              ',' :: ' ' :: (itemSeparator.intercalate ((kv' :: L).map fun kv =>
                encodeBasestringAscii kv.1 ++ keySeparator ++ kv.2.dumps) ++ '}' :: rest) := by
            rw [List.map_cons, List.append_assoc]; rfl
          rw [htail, skipWs, if_neg (by decide)]
          simp only []
          rw [parseMembers_space, ih (List.cons_ne_nil _ _)
            (fun u hu => h u (List.mem_cons_of_mem _ hu)) m (by rw [List.map_cons]; omega)]
          rfl

/-- The first character of the text of a value is neither whitespace nor a closing bracket or
brace. -/
theorem dumps_eq_cons (v : PyVal) :
    ∃ c t, v.dumps = c :: t ∧ (c = '"' ∨ c = '[' ∨ c = '{') := by
  cases v <;> simp [PyVal.dumps, encodeBasestringAscii]

theorem intercalate_sep_cons (a : List Char) (l : List (List Char)) :
    ∃ x, itemSeparator.intercalate (a :: l) = a ++ x := by
  cases l with
  | nil => exact ⟨[], by rw [intercalate_sep_singleton, List.append_nil]⟩
  | cons b l => exact ⟨_, intercalate_sep_cons_cons a b l⟩

theorem roundTrip_list {l : List PyVal} (h : ∀ v ∈ l, RoundTrip v) : RoundTrip (.list l) := by
  intro n rest hn
  rw [PyVal.dumps, dumpsList_eq] at hn ⊢
  simp only [List.length_append, List.length_cons, List.length_singleton] at hn
  obtain ⟨n, rfl⟩ : ∃ m, n = m + 1 := ⟨n - 1, by omega⟩
  have htext : ('[' :: itemSeparator.intercalate (l.map PyVal.dumps) ++ [']']) ++ rest =
      '[' :: (itemSeparator.intercalate (l.map PyVal.dumps) ++ ']' :: rest) := by simp
  rw [htext, parseValue, skipWs, if_neg (by decide), PyVal.sortKeys, sortKeysList_eq]
  simp only []
  cases l with
  | nil => simp [skipWs]
  | cons v l =>
      obtain ⟨x, hx⟩ := intercalate_sep_cons v.dumps (l.map PyVal.dumps)
      obtain ⟨c, t, hct, hc⟩ := dumps_eq_cons v
      have hskip : skipWs (itemSeparator.intercalate ((v :: l).map PyVal.dumps) ++ ']' :: rest) =
          itemSeparator.intercalate ((v :: l).map PyVal.dumps) ++ ']' :: rest := by
        rw [List.map_cons, hx, List.append_assoc, skipWs_dumps]
      rw [hskip]
      split
      · rename_i heq
        rw [List.map_cons, hx, hct] at heq
        rcases hc with rfl | rfl | rfl <;> simp at heq
      · rw [parseElems_dumps (List.cons_ne_nil _ _) h n rest (by omega)]
        rfl

theorem roundTrip_dict {l : List (String × PyVal)} (h : ∀ kv ∈ l, RoundTrip kv.2) :
    RoundTrip (.dict l) := by
  intro n rest hn
  rw [dumps_dict] at hn ⊢
  rw [sortKeys_dict]
  simp only [List.length_append, List.length_cons, List.length_singleton] at hn
  obtain ⟨n, rfl⟩ : ∃ m, n = m + 1 := ⟨n - 1, by omega⟩
  have hL : ∀ kv ∈ l.mergeSort keyLe, RoundTrip kv.2 := fun kv hkv =>
    h kv (List.mem_mergeSort.1 hkv)
  generalize l.mergeSort keyLe = L at hn hL ⊢
  have htext : ('{' :: itemSeparator.intercalate (L.map fun kv =>
        encodeBasestringAscii kv.1 ++ keySeparator ++ kv.2.dumps) ++ ['}']) ++ rest =
      '{' :: (itemSeparator.intercalate (L.map fun kv =>
        encodeBasestringAscii kv.1 ++ keySeparator ++ kv.2.dumps) ++ '}' :: rest) := by simp
  rw [htext, parseValue, skipWs, if_neg (by decide)]
  simp only []
  cases L with
  | nil => simp [skipWs]
  | cons kv L =>
      obtain ⟨x, hx⟩ :=
        intercalate_sep_cons (encodeBasestringAscii kv.1 ++ keySeparator ++ kv.2.dumps)
        (L.map fun kv => encodeBasestringAscii kv.1 ++ keySeparator ++ kv.2.dumps)
      have hhead : itemSeparator.intercalate ((kv :: L).map fun kv =>
          encodeBasestringAscii kv.1 ++ keySeparator ++ kv.2.dumps) ++ '}' :: rest =
          '"' :: ((kv.1.data.flatMap escapeChar ++ ['"'] ++ keySeparator ++ kv.2.dumps ++ x) ++
            '}' :: rest) := by
        rw [List.map_cons, hx]; simp [encodeBasestringAscii]
      have hskip : skipWs (itemSeparator.intercalate ((kv :: L).map fun kv =>
          encodeBasestringAscii kv.1 ++ keySeparator ++ kv.2.dumps) ++ '}' :: rest) =
          itemSeparator.intercalate ((kv :: L).map fun kv =>
            encodeBasestringAscii kv.1 ++ keySeparator ++ kv.2.dumps) ++ '}' :: rest := by
        rw [hhead, skipWs, if_neg (by decide)]
      rw [hskip]
      split
      · rename_i heq
        rw [hhead] at heq
        simp at heq
      · rw [parseMembers_dumps (List.cons_ne_nil _ _) hL n rest (by omega)]
        rfl

mutual
/-- **The text of every value parses back**, with the items of its `dict`s in key order, whatever
follows it, by induction on the value. -/
theorem roundTrip : ∀ v : PyVal, RoundTrip v
  | .str s => roundTrip_str s
  | .list l => roundTrip_list (roundTrip_mem l)
  | .dict l => roundTrip_dict (roundTrip_memItems l)

theorem roundTrip_mem : ∀ l : List PyVal, ∀ v ∈ l, RoundTrip v
  | [] => fun _ h => absurd h (List.not_mem_nil _)
  | v :: l => List.forall_mem_cons.2 ⟨roundTrip v, roundTrip_mem l⟩

theorem roundTrip_memItems : ∀ l : List (String × PyVal), ∀ kv ∈ l, RoundTrip kv.2
  | [] => fun _ h => absurd h (List.not_mem_nil _)
  | kv :: l => List.forall_mem_cons.2 ⟨roundTrip kv.2, roundTrip_memItems l⟩
end

/-- **`JSON.parse(json.dumps(v, sort_keys=True))` gives `v` back**, with the items of each `dict`
in the order of their keys, for every value the plugin can send. -/
theorem jsonParse_dumps (v : PyVal) : jsonParse v.dumps = some v.sortKeys := by
  have h := roundTrip v v.dumps.length [] le_rfl
  rw [List.append_nil] at h
  simp [jsonParse, h, skipWs]

end ProfilePlugin
