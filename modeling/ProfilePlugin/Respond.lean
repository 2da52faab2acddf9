import ProfilePlugin.Json
import ProfilePlugin.Python
/-
**`respond`: the body, the headers and the encoding of every response.**

Every route of the plugin answers through `respond(body, content_type, code, content_encoding)`.
A `dict` or `list` body with the content type `application/json` is serialized with
`json.dumps(body, sort_keys=True)`; a `str` is encoded as UTF-8; `bytes` are sent as they are.
The headers are the content security policy joined from `csp_parts`,
`X-Content-Type-Options: nosniff`, and `Content-Encoding`: the caller's encoding when it is truthy,
otherwise `gzip`, and then the body is compressed with `gzip.compress`.

`gzip.compress(b)` is kept as the bytes `b` it compresses (`ProfilePlugin.Payload.gzip`), since
what matters of it is that a client decompresses it to `b`.  The client is a browser: it undoes
the `Content-Encoding`, decodes the bytes as UTF-8, strictly (`ProfilePlugin.utf8Decode`: no
overlong form, no surrogate, nothing above `U+10FFFF`), and parses the text of a JSON response
with `JSON.parse`.

A `str` of the model is Unicode text.  A Python `str` may also hold lone surrogates: the bytes of a
file name or a logdir that are not UTF-8 come back from `os.fsdecode` as surrogates, which
`json.dumps` escapes as `\udcXX` but `str.encode('utf-8')` rejects with `UnicodeEncodeError`.  No
such `str` is built here, so `ProfilePlugin.respond` of a `str` body never raises: what follows
about a `str` body holds for names that are UTF-8.

Main definitions:

* `ProfilePlugin.Body`, `ProfilePlugin.Payload`, `ProfilePlugin.Response` — what `respond` takes
  and gives;
* `ProfilePlugin.encodeUtf8`, `ProfilePlugin.bodyBytes`, `ProfilePlugin.csp`,
  `ProfilePlugin.respond` — `respond`;
* `ProfilePlugin.utf8Decode`, `ProfilePlugin.Response.content`, `ProfilePlugin.Response.text`,
  `ProfilePlugin.Response.json` — what a client reads.

Main results:

* `ProfilePlugin.respond_gzip` — without an encoding, the response carries the security headers
  and `Content-Encoding: gzip`, and its body is the compressed bytes of the body;
* `ProfilePlugin.utf8Decode_encodeUtf8` — **decoding the UTF-8 of a text gives the text back**;
* `ProfilePlugin.respond_text`, `ProfilePlugin.respond_json` — a client reads back the `str` body,
  and the `list` or `dict` body up to the order of `dict` items.
-/

set_option autoImplicit false

namespace ProfilePlugin

/-! ### `respond` -/

/-- A body handed to `respond`: a value of Python's JSON types, or `bytes`. -/
inductive Body where
  | val (v : PyVal)
  | bytes (b : List UInt8)

/-- The bytes of a response: sent as they are, or `gzip.compress(b)`, kept as the bytes `b` it
compresses. -/
inductive Payload where
  | raw (b : List UInt8)
  | gzip (b : List UInt8)

/-- A `werkzeug.wrappers.Response`: status, content type, headers and body. -/
structure Response where
  status : Nat
  contentType : String
  headers : List (String × String)
  body : Payload

/-- The name of a value's type, as Python's messages write it. -/
def PyVal.typeName : PyVal → String
  | .str _ => "str"
  | .list _ => "list"
  | .dict _ => "dict"

/-- `s.encode('utf-8')`. -/
def encodeUtf8 (s : List Char) : List UInt8 := s.flatMap String.utf8EncodeChar

/-- The bytes of the body: a `dict` or `list` with the content type `application/json` serialized
and encoded, a `str` encoded, `bytes` as they are.  `.encode` on a `dict` or `list` that was not
serialized raises `AttributeError`. -/
def bodyBytes (body : Body) (contentType : String) : Except PyErr (List UInt8) :=
  match body with
  | .bytes b => .ok b
  | .val (.str s) => .ok (encodeUtf8 s.data)
  | .val v =>
      if contentType = "application/json" then .ok (encodeUtf8 v.dumps)
      else .error (.attributeError ("'" ++ v.typeName ++ "' object has no attribute 'encode'"))

/-- `csp_parts`, in the order of the `dict`. -/
def cspParts : List (String × List String) :=
  [("default-src", ["'self'"]),
    ("script-src", ["'self'", "'unsafe-eval'", "'unsafe-inline'", "https://www.gstatic.com"]),
    ("object-src", ["'none'"]),
    ("style-src", ["'self'", "'unsafe-inline'", "https://fonts.googleapis.com",
      "https://www.gstatic.com"]),
    ("font-src", ["'self'", "https://fonts.googleapis.com", "https://fonts.gstatic.com", "data:"]),
    ("connect-src", ["'self'", "data:", "www.gstatic.com"]),
    ("img-src", ["'self'", "blob:", "data:"]),
    ("script-src-elem", ["'self'", "'unsafe-inline'", "https://cdn.jsdelivr.net/npm/",
      "https://www.gstatic.com"])]

/-- `';'.join(' '.join([k] + v) for (k, v) in csp_parts.items())`. -/
def csp : String := ";".intercalate (cspParts.map fun kv => " ".intercalate (kv.1 :: kv.2))

/-- The two headers every response starts with. -/
def securityHeaders : List (String × String) :=
  [("Content-Security-Policy", csp), ("X-Content-Type-Options", "nosniff")]

/-- `respond(body, content_type, code, content_encoding)`.  A `None` encoding is passed as `""`,
which is falsy as well. -/
def respond (body : Body) (contentType : String) (code : Nat := 200) (contentEncoding : String := "") :
    Except PyErr Response :=
  (bodyBytes body contentType).map fun b =>
    if contentEncoding ≠ "" then
      ⟨code, contentType, securityHeaders ++ [("Content-Encoding", contentEncoding)], .raw b⟩
    else ⟨code, contentType, securityHeaders ++ [("Content-Encoding", "gzip")], .gzip b⟩

/-- Without an encoding, the response carries the security headers and `Content-Encoding: gzip`,
and its body is the compressed bytes of the body. -/
theorem respond_gzip (body : Body) (contentType : String) (code : Nat) :
    respond body contentType code = (bodyBytes body contentType).map fun b =>
      ⟨code, contentType, securityHeaders ++ [("Content-Encoding", "gzip")], .gzip b⟩ := by
  simp only [respond, ne_eq, not_true_eq_false, if_false]

/-- A `str` body is always encoded. -/
@[simp] theorem bodyBytes_str (s : String) (contentType : String) :
    bodyBytes (.val (.str s)) contentType = .ok (encodeUtf8 s.data) := rfl

/-! ### UTF-8 -/

/-- Strict UTF-8 decoding, left to right: `need` continuation bytes are still expected for a code
point whose bits so far are `acc` and which must be at least `lo`. -/
def utf8Dec : (need acc lo : Nat) → List UInt8 → Option (List Char)
  | 0, _, _, [] => some []
  | _ + 1, _, _, [] => none
  | 0, _, _, b :: bs =>
      if b.toNat < 0x80 then (utf8Dec 0 0 0 bs).map (Char.ofNat b.toNat :: ·)
      else if b.toNat < 0xC0 then none
      else if b.toNat < 0xE0 then utf8Dec 1 (b.toNat - 0xC0) 0x80 bs
      else if b.toNat < 0xF0 then utf8Dec 2 (b.toNat - 0xE0) 0x800 bs
      else if b.toNat < 0xF8 then utf8Dec 3 (b.toNat - 0xF0) 0x10000 bs
      else none
  | k + 1, acc, lo, b :: bs =>
      if 0x80 ≤ b.toNat ∧ b.toNat < 0xC0 then
        if k = 0 then
          if lo ≤ acc * 64 + (b.toNat - 0x80) ∧ acc * 64 + (b.toNat - 0x80) < 0x110000 ∧
              (acc * 64 + (b.toNat - 0x80) < 0xD800 ∨ 0xDFFF < acc * 64 + (b.toNat - 0x80)) then
            (utf8Dec 0 0 0 bs).map (Char.ofNat (acc * 64 + (b.toNat - 0x80)) :: ·)
          else none
        else utf8Dec k (acc * 64 + (b.toNat - 0x80)) lo bs
      else none

/-- Decoding a whole body as UTF-8. -/
def utf8Decode (bs : List UInt8) : Option (List Char) := utf8Dec 0 0 0 bs

theorem uint8_toNat_or (a b : UInt8) : (a ||| b).toNat = a.toNat ||| b.toNat := BitVec.toNat_or ..

/-- A byte made of the high bits `2 ^ k * a` and the low `k` bits of `x`. -/
theorem toNat_and_or {x m p : UInt8} {k a : Nat} (hm : m.toNat = 2 ^ k - 1)
    (hp : p.toNat = 2 ^ k * a) : (x &&& m ||| p).toNat = 2 ^ k * a + x.toNat % 2 ^ k := by
  rw [uint8_toNat_or, UInt8.and_toNat, hm, hp, Nat.and_pow_two_sub_one_eq_mod, Nat.or_comm,
    ← Nat.mul_add_lt_is_or (Nat.mod_lt _ (Nat.two_pow_pos k))]

theorem toNat_lead2 (x : UInt8) : (x &&& 0x1f ||| 0xc0).toNat = 0xC0 + x.toNat % 32 :=
  toNat_and_or (k := 5) (a := 6) rfl rfl

theorem toNat_lead3 (x : UInt8) : (x &&& 0x0f ||| 0xe0).toNat = 0xE0 + x.toNat % 16 :=
  toNat_and_or (k := 4) (a := 14) rfl rfl

theorem toNat_lead4 (x : UInt8) : (x &&& 0x07 ||| 0xf0).toNat = 0xF0 + x.toNat % 8 :=
  toNat_and_or (k := 3) (a := 30) rfl rfl

theorem toNat_cont (x : UInt8) : (x &&& 0x3f ||| 0x80).toNat = 0x80 + x.toNat % 64 :=
  toNat_and_or (k := 6) (a := 2) rfl rfl

theorem shr_toUInt8 (v s : UInt32) {d : Nat} (hs : s.toNat < 32) (hd : 2 ^ s.toNat = d) :
    (v >>> s).toUInt8.toNat = v.toNat / d % 256 := by
  rw [UInt32.toUInt8_toNat]
  show (v.toBitVec >>> (UInt32.mod s 32).toBitVec.toNat).toNat % 2 ^ 8 = _
  rw [BitVec.toNat_ushiftRight, Nat.shiftRight_eq_div_pow]
  show v.toNat / 2 ^ (s.toNat % 32) % 256 = _
  rw [Nat.mod_eq_of_lt hs, hd]

theorem val_le_iff (c : Char) (m : UInt32) : c.val ≤ m ↔ c.toNat ≤ m.toNat := UInt32.le_def

theorem utf8Dec_one {b : UInt8} {n : Nat} (r : List UInt8) (hb : b.toNat = n) (hn : n < 0x80) :
    utf8Dec 0 0 0 (b :: r) = (utf8Dec 0 0 0 r).map (Char.ofNat n :: ·) := by
  rw [utf8Dec, if_pos (by omega), hb]

theorem utf8Dec_lead2 {b : UInt8} (r : List UInt8) (hb : 0xC0 ≤ b.toNat ∧ b.toNat < 0xE0) :
    utf8Dec 0 0 0 (b :: r) = utf8Dec 1 (b.toNat - 0xC0) 0x80 r := by
  rw [utf8Dec, if_neg (by omega), if_neg (by omega), if_pos hb.2]

theorem utf8Dec_lead3 {b : UInt8} (r : List UInt8) (hb : 0xE0 ≤ b.toNat ∧ b.toNat < 0xF0) :
    utf8Dec 0 0 0 (b :: r) = utf8Dec 2 (b.toNat - 0xE0) 0x800 r := by
  rw [utf8Dec, if_neg (by omega), if_neg (by omega), if_neg (by omega), if_pos hb.2]

theorem utf8Dec_lead4 {b : UInt8} (r : List UInt8) (hb : 0xF0 ≤ b.toNat ∧ b.toNat < 0xF8) :
    utf8Dec 0 0 0 (b :: r) = utf8Dec 3 (b.toNat - 0xF0) 0x10000 r := by
  rw [utf8Dec, if_neg (by omega), if_neg (by omega), if_neg (by omega), if_neg (by omega),
    if_pos hb.2]

/-- A continuation byte before the last one adds its six bits. -/
theorem utf8Dec_cont (k acc lo : Nat) {b : UInt8} (r : List UInt8)
    (hb : 0x80 ≤ b.toNat ∧ b.toNat < 0xC0) :
    utf8Dec (k + 2) acc lo (b :: r) = utf8Dec (k + 1) (acc * 64 + (b.toNat - 0x80)) lo r := by
  rw [utf8Dec, if_pos hb, if_neg (Nat.succ_ne_zero k)]

/-- The last continuation byte ends a code point that is in range and no surrogate. -/
theorem utf8Dec_last {acc lo n : Nat} {b : UInt8} (r : List UInt8)
    (hb : 0x80 ≤ b.toNat ∧ b.toNat < 0xC0) (e : acc * 64 + (b.toNat - 0x80) = n)
    (hn : lo ≤ n ∧ n < 0x110000 ∧ (n < 0xD800 ∨ 0xDFFF < n)) :
    utf8Dec 1 acc lo (b :: r) = (utf8Dec 0 0 0 r).map (Char.ofNat n :: ·) := by
  rw [utf8Dec, if_pos hb, if_pos rfl, e, if_pos hn]

theorem cont_bounds {b : UInt8} {m : Nat} (h : b.toNat = 0x80 + m % 64) :
    0x80 ≤ b.toNat ∧ b.toNat < 0xC0 := by
  omega

theorem utf8Dec_two {b₁ b₂ : UInt8} {n : Nat} (r : List UInt8) (h₁ : b₁.toNat = 0xC0 + n / 64)
    (h₂ : b₂.toNat = 0x80 + n % 64) (hn : 0x80 ≤ n ∧ n < 0x800) :
    utf8Dec 0 0 0 (b₁ :: b₂ :: r) = (utf8Dec 0 0 0 r).map (Char.ofNat n :: ·) := by
  rw [utf8Dec_lead2 _ (by omega), utf8Dec_last (n := n) r (cont_bounds h₂) (by omega) (by omega)]

theorem utf8Dec_three {b₁ b₂ b₃ : UInt8} {n : Nat} (r : List UInt8)
    (h₁ : b₁.toNat = 0xE0 + n / 4096) (h₂ : b₂.toNat = 0x80 + n / 64 % 64)
    (h₃ : b₃.toNat = 0x80 + n % 64) (hn : 0x800 ≤ n ∧ n < 0x10000 ∧ (n < 0xD800 ∨ 0xDFFF < n)) :
    utf8Dec 0 0 0 (b₁ :: b₂ :: b₃ :: r) = (utf8Dec 0 0 0 r).map (Char.ofNat n :: ·) := by
  rw [utf8Dec_lead3 _ (by omega), utf8Dec_cont 0 _ _ _ (cont_bounds h₂),
    utf8Dec_last (n := n) r (cont_bounds h₃) (by omega) (by omega)]

theorem utf8Dec_four {b₁ b₂ b₃ b₄ : UInt8} {n : Nat} (r : List UInt8)
    (h₁ : b₁.toNat = 0xF0 + n / 262144) (h₂ : b₂.toNat = 0x80 + n / 4096 % 64)
    (h₃ : b₃.toNat = 0x80 + n / 64 % 64) (h₄ : b₄.toNat = 0x80 + n % 64)
    (hn : 0x10000 ≤ n ∧ n < 0x110000) :
    utf8Dec 0 0 0 (b₁ :: b₂ :: b₃ :: b₄ :: r) = (utf8Dec 0 0 0 r).map (Char.ofNat n :: ·) := by
  rw [utf8Dec_lead4 _ (by omega), utf8Dec_cont 1 _ _ _ (cont_bounds h₂),
    utf8Dec_cont 0 _ _ _ (cont_bounds h₃),
    utf8Dec_last (n := n) r (cont_bounds h₄) (by omega) (by omega)]

/-- The decoder reads the encoding of one character back, whatever follows it. -/
theorem utf8Dec_encodeChar (c : Char) (r : List UInt8) :
    utf8Dec 0 0 0 (String.utf8EncodeChar c ++ r) = (utf8Dec 0 0 0 r).map (c :: ·) := by
  have hv : c.toNat < 0xD800 ∨ (0xDFFF < c.toNat ∧ c.toNat < 0x110000) := c.valid
  have h0 : c.val.toUInt8.toNat = c.toNat % 256 := UInt32.toUInt8_toNat _
  have h6 : (c.val >>> 6).toUInt8.toNat = c.toNat / 64 % 256 := shr_toUInt8 _ _ (by decide) rfl
  have h12 : (c.val >>> 12).toUInt8.toNat = c.toNat / 4096 % 256 :=
    shr_toUInt8 _ _ (by decide) rfl
  have h18 : (c.val >>> 18).toUInt8.toNat = c.toNat / 262144 % 256 :=
    shr_toUInt8 _ _ (by decide) rfl
  simp only [String.utf8EncodeChar, val_le_iff, UInt32.reduceToNat]
  split_ifs with h1 h2 h3
  · rw [List.singleton_append, utf8Dec_one r (n := c.toNat) (by rw [h0]; omega) (by omega),
      Char.ofNat_toNat]
  · rw [List.cons_append, List.singleton_append, utf8Dec_two r (n := c.toNat)
      (by rw [toNat_lead2, h6]; omega) (by rw [toNat_cont, h0]; omega) (by omega),
      Char.ofNat_toNat]
  · rw [List.cons_append, List.cons_append, List.singleton_append, utf8Dec_three r (n := c.toNat)
      (by rw [toNat_lead3, h12]; omega) (by rw [toNat_cont, h6]; omega)
      (by rw [toNat_cont, h0]; omega) (by omega), Char.ofNat_toNat]
  · rw [List.cons_append, List.cons_append, List.cons_append, List.singleton_append,
      utf8Dec_four r (n := c.toNat) (by rw [toNat_lead4, h18]; omega)
      (by rw [toNat_cont, h12]; omega) (by rw [toNat_cont, h6]; omega)
      (by rw [toNat_cont, h0]; omega) (by omega), Char.ofNat_toNat]

/-- **Decoding the UTF-8 of a text gives the text back.** -/
theorem utf8Decode_encodeUtf8 (s : List Char) : utf8Decode (encodeUtf8 s) = some s := by
  induction s with
  | nil => rfl
  | cons c s ih =>
    rw [utf8Decode, encodeUtf8, List.flatMap_cons, utf8Dec_encodeChar, ← encodeUtf8, ← utf8Decode,
      ih]
    rfl

/-! ### What a client reads -/

/-- The bytes a client gets from a response: a compressed body decompressed when the header says
`gzip`, a body sent as it is when no header names an encoding; `none` for any other pairing. -/
def Response.content (r : Response) : Option (List UInt8) :=
  match r.body, r.headers.lookup "Content-Encoding" with
  | .gzip b, some "gzip" => some b
  | .raw b, none => some b
  | _, _ => none

/-- The text of a response. -/
def Response.text (r : Response) : Option (List Char) := r.content.bind utf8Decode

/-- The value of a JSON response, as `JSON.parse` reads its text. -/
def Response.json (r : Response) : Option PyVal := r.text.bind jsonParse

/-- A compressed response under the security headers is read as the bytes it compresses. -/
@[simp] theorem content_gzip (code : Nat) (contentType : String) (b : List UInt8) :
    Response.content
      ⟨code, contentType, securityHeaders ++ [("Content-Encoding", "gzip")], .gzip b⟩ = some b :=
  rfl

/-- A client reads back the text of a `str` body, whatever the content type. -/
theorem respond_text (s : String) (contentType : String) (code : Nat) :
    (respond (.val (.str s)) contentType code).map Response.text = .ok (some s.data) := by
  rw [respond_gzip, bodyBytes_str]
  simp only [Except.map, Response.text, content_gzip, Option.some_bind, utf8Decode_encodeUtf8]

/-- A client reads back a `list` or `dict` body sent as JSON, with the items of each `dict` in the
order of their keys. -/
theorem respond_json (v : PyVal) (hv : ∀ s, v ≠ .str s) (code : Nat) :
    (respond (.val v) "application/json" code).map Response.json = .ok (some v.sortKeys) := by
  have hb : bodyBytes (.val v) "application/json" = .ok (encodeUtf8 v.dumps) := by
    cases v with
    | str s => exact absurd rfl (hv s)
    | list l => rfl
    | dict l => rfl
  rw [respond_gzip, hb]
  simp only [Except.map, Response.json, Response.text, content_gzip, Option.some_bind,
    utf8Decode_encodeUtf8, jsonParse_dumps]

end ProfilePlugin
