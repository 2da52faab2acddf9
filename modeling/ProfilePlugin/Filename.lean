import ProfilePlugin.Python
/-
**The tool catalog and the file-name codec.**

A profile run directory holds one file per host and data format: `host.xplane.pb` for the XPlane
of a host, `module.hlo_proto.pb` for an HLO module.  `make_filename` encodes a host and a tool as
such a name, and `_parse_filename` decodes a name with the regular expression

```
_FILENAME_RE = (?:(.*)\.)?(xplane\.pb|hlo_proto\.pb)
```

This module models the catalog of `profile_plugin.py` (`TOOLS`, `XPLANE_TOOLS`, `HLO_TOOLS`, ...),
`make_filename`, and `_FILENAME_RE.fullmatch` as Python's backtracking engine runs it: the greedy
`?` tries the group first, the greedy `(.*)` tries the longest run of characters other than a
newline first (Python's `.` does not match `\n`), and only when no length works is the group
skipped.

Main definitions:

* `ProfilePlugin.TOOLS`, `ProfilePlugin.XPLANE_TOOLS`, `ProfilePlugin.HLO_TOOLS`, ... — the catalog;
* `ProfilePlugin.makeFilename` — `make_filename`;
* `ProfilePlugin.filenameFullmatch` — `_FILENAME_RE.fullmatch`, with its two groups;
* `ProfilePlugin.parseFilename` — `_parse_filename`.

Main results:

* `ProfilePlugin.filenameFullmatch_host`, `ProfilePlugin.filenameFullmatch_extension`,
  `ProfilePlugin.filenameFullmatch_eq_some` — what the expression matches, and how it splits;
* `ProfilePlugin.parseFilename_makeFilename` — decoding an encoded name gives the host back and the
  family of the tool, for every host without a newline;
* `ProfilePlugin.makeFilename_parseFilename` — every name the decoder accepts is the encoding of
  what it decodes to, except the names `.xplane.pb` and `.hlo_proto.pb`, whose host is empty.
-/

set_option autoImplicit false

namespace ProfilePlugin

/-! ### The catalog -/

/-- `TOOLS`: the file extension of each tool that has files of its own, in dict order. -/
def TOOLS : List (String × String) := [("xplane", "xplane.pb"), ("hlo_proto", "hlo_proto.pb")]

/-- `TOOLS.values()`, the alternatives of `_FILENAME_RE`. -/
def extensions : List String := TOOLS.map Prod.snd

/-- `_EXTENSION_TO_TOOL`. -/
def EXTENSION_TO_TOOL : List (String × String) := TOOLS.map Prod.swap

/-- `ALL_HOSTS`, the synthetic host that stands for all hosts together. -/
def ALL_HOSTS : String := "ALL_HOSTS"

/-- `XPLANE_TOOLS`: the tools that can be generated from XPlane, in order. -/
def XPLANE_TOOLS : List String :=
  ["trace_viewer", "trace_viewer@", "overview_page", "input_pipeline_analyzer",
    "framework_op_stats", "kernel_stats", "memory_profile", "pod_viewer", "op_profile",
    "hlo_stats", "roofline_model", "inference_profile", "memory_viewer", "graph_viewer",
    "megascale_stats"]

/-- `XPLANE_TOOLS_ALL_HOSTS_SUPPORTED`. -/
def XPLANE_TOOLS_ALL_HOSTS_SUPPORTED : List String :=
  ["input_pipeline_analyzer", "framework_op_stats", "kernel_stats", "overview_page", "pod_viewer",
    "megascale_stats"]

/-- `XPLANE_TOOLS_ALL_HOSTS_ONLY`. -/
def XPLANE_TOOLS_ALL_HOSTS_ONLY : List String := ["overview_page", "pod_viewer"]

/-- `HLO_TOOLS`. -/
def HLO_TOOLS : List String := ["graph_viewer", "memory_viewer"]

/-- `use_xplane(tool)`. -/
def useXplane (tool : String) : Bool := tool ∈ XPLANE_TOOLS

/-- `use_hlo(tool)`. -/
def useHlo (tool : String) : Bool := tool ∈ HLO_TOOLS

theorem extensions_data_ne_nil : ∀ e ∈ extensions, e.data ≠ [] := by decide

/-- No extension ends with another one, or with itself, after a character. -/
theorem extensions_not_proper_suffix :
    ∀ e ∈ extensions, ∀ e' ∈ extensions, ∀ j < e.data.length, e.data.drop (j + 1) ≠ e'.data := by
  decide

/-! ### `make_filename` -/

/-- The tool whose extension `make_filename` uses for `tool`: an HLO tool reads its module's
`hlo_proto`, any other XPlane tool the `xplane`. -/
def fileTool (tool : String) : String :=
  if useHlo tool then "hlo_proto" else if useXplane tool then "xplane" else tool

/-- `make_filename(host, tool)`: the host followed by a dot, when the host is not empty, and the
extension of the tool's file; `none` is the `KeyError` of `TOOLS[tool]`.  A `None` host is falsy
like `''`, so `make_filename(None, tool)` is `makeFilename "" tool`. -/
def makeFilename (host tool : String) : Option String :=
  (TOOLS.lookup (fileTool tool)).map ((if host = "" then "" else host ++ ".") ++ ·)

/-- Every tool of the catalog has an extension, and the extension decodes to the tool's family. -/
theorem catalog_extension :
    ∀ t ∈ TOOLS.map Prod.fst ++ XPLANE_TOOLS ++ HLO_TOOLS, ∃ e ∈ extensions,
      TOOLS.lookup (fileTool t) = some e ∧
      EXTENSION_TO_TOOL.lookup e =
        some (if t = "hlo_proto" ∨ useHlo t then "hlo_proto" else "xplane") := by
  decide

/-- The family an extension decodes to is encoded with that extension again. -/
theorem extension_roundtrip :
    ∀ e ∈ extensions,
      (EXTENSION_TO_TOOL.lookup e).bind (fun t => TOOLS.lookup (fileTool t)) = some e := by
  decide

/-! ### `_FILENAME_RE.fullmatch` -/

/-- The alternation `(xplane\.pb|hlo_proto\.pb)` where it has to reach the end of the name: the
first alternative that is the rest of the name. -/
def matchExtension (rest : List Char) : Option String := extensions.find? (·.data = rest)

/-- One way for the optional group `(?:(.*)\.)?` to match: `(.*)` takes the first `k` characters,
`\.` the next one, and the alternation the rest. -/
def groupAt (s : List Char) (k : Nat) : Option (Option String × String) :=
  if s[k]? = some '.' then (matchExtension (s.drop (k + 1))).map fun e => (some ⟨s.take k⟩, e)
  else none

/-- The greedy `(.*)` tried with `k` characters, then with each shorter length. -/
def groupUpTo (s : List Char) : Nat → Option (Option String × String)
  | 0 => groupAt s 0
  | k + 1 => (groupAt s (k + 1)).orElse fun _ => groupUpTo s k

/-- `_FILENAME_RE.fullmatch(s)` with its groups `(group(1), group(2))`: the group is tried first,
with `(.*)` starting from the longest run of characters other than a newline; when no length
works, the group is skipped and the alternation must match the whole name. -/
def filenameFullmatch (s : String) : Option (Option String × String) :=
  (groupUpTo s.data (s.data.takeWhile (· != '\n')).length).orElse fun _ =>
    (matchExtension s.data).map fun e => (none, e)

/-- `_parse_filename(filename)`: the host and the tool family of a name, or the whole name as the
host and no tool when the expression does not match. -/
def parseFilename (filename : String) : Option String × Option String :=
  match filenameFullmatch filename with
  | none => (some filename, none)
  | some (host, ext) => (host, EXTENSION_TO_TOOL.lookup ext)

theorem matchExtension_self {e : String} (he : e ∈ extensions) :
    matchExtension e.data = some e := by
  simp only [extensions, TOOLS, List.map_cons, List.map_nil, List.mem_cons, List.mem_singleton,
    List.not_mem_nil, or_false] at he
  rcases he with rfl | rfl <;> decide

theorem matchExtension_eq_some {rest : List Char} {e : String} (h : matchExtension rest = some e) :
    e ∈ extensions ∧ e.data = rest :=
  ⟨List.mem_of_find?_eq_some h, by simpa using List.find?_some h⟩

theorem matchExtension_drop_succ {e : String} (he : e ∈ extensions) (j : Nat) :
    matchExtension (e.data.drop (j + 1)) = none := by
  rw [Option.eq_none_iff_forall_not_mem]
  intro e' h
  obtain ⟨he', hd⟩ := matchExtension_eq_some h
  by_cases hj : j < e.data.length
  · exact extensions_not_proper_suffix e he e' he' j hj hd.symm
  · rw [List.drop_eq_nil_of_le (by omega)] at hd
    exact extensions_data_ne_nil e' he' hd

theorem groupAt_eq_some {s : List Char} {k : Nat} {r : Option String × String}
    (h : groupAt s k = some r) :
    ∃ e ∈ extensions, r = (some ⟨s.take k⟩, e) ∧ s = s.take k ++ '.' :: e.data := by
  unfold groupAt at h
  split_ifs at h with hk
  obtain ⟨e, he, rfl⟩ := Option.map_eq_some'.1 h
  obtain ⟨hmem, hd⟩ := matchExtension_eq_some he
  obtain ⟨hlt, hdot⟩ := List.getElem?_eq_some_iff.1 hk
  refine ⟨e, hmem, rfl, ?_⟩
  conv_lhs => rw [← List.take_append_drop k s, List.drop_eq_getElem_cons hlt, hdot, ← hd]

theorem groupAt_host (h : List Char) {e : String} (he : e ∈ extensions) :
    groupAt (h ++ '.' :: e.data) h.length = some (some ⟨h⟩, e) := by
  have hk : (h ++ '.' :: e.data)[h.length]? = some '.' := by
    rw [List.getElem?_append_right le_rfl, Nat.sub_self, List.getElem?_cons_zero]
  have hd : (h ++ '.' :: e.data).drop (h.length + 1) = e.data := by rw [List.drop_append]; rfl
  simp [groupAt, hk, hd, List.take_left, matchExtension_self he]

theorem groupAt_host_of_lt (h : List Char) {e : String} (he : e ∈ extensions) {k : Nat}
    (hk : h.length < k) : groupAt (h ++ '.' :: e.data) k = none := by
  obtain ⟨j, rfl⟩ : ∃ j, k = h.length + j + 1 := ⟨k - h.length - 1, by omega⟩
  have : (h ++ '.' :: e.data).drop (h.length + j + 1 + 1) = e.data.drop (j + 1) := by
    rw [show h.length + j + 1 + 1 = h.length + (j + 2) by omega, List.drop_append]; rfl
  simp [groupAt, this, matchExtension_drop_succ he]

theorem groupAt_extension {e : String} (he : e ∈ extensions) (k : Nat) :
    groupAt e.data k = none := by
  simp [groupAt, matchExtension_drop_succ he]

theorem groupUpTo_eq_some {s : List Char} {r : Option String × String} :
    ∀ {m : Nat}, groupUpTo s m = some r → ∃ k ≤ m, groupAt s k = some r
  | 0, h => ⟨0, le_rfl, h⟩
  | m + 1, h => by
      unfold groupUpTo at h
      cases hk : groupAt s (m + 1) with
      | some r' => rw [hk] at h; exact ⟨m + 1, le_rfl, hk.trans h⟩
      | none =>
          rw [hk] at h
          obtain ⟨k, hkm, hk'⟩ := groupUpTo_eq_some h
          exact ⟨k, by omega, hk'⟩

/-- Lengths above `n` at which the group cannot match are skipped. -/
theorem groupUpTo_of_none {s : List Char} {n : Nat}
    (h : ∀ k, n < k → groupAt s k = none) : ∀ {m : Nat}, n ≤ m → groupUpTo s m = groupUpTo s n
  | m, hm => by
      induction m with
      | zero => rw [Nat.le_zero.1 hm]
      | succ m ih =>
          rcases Nat.lt_or_eq_of_le hm with hm | rfl
          · simp [groupUpTo, h (m + 1) hm, ih (by omega)]
          · rfl

theorem groupUpTo_of_groupAt {s : List Char} {n : Nat} {r : Option String × String}
    (h : groupAt s n = some r) : groupUpTo s n = some r := by
  cases n <;> simp [groupUpTo, h]

/-- A host without a newline, a dot and an extension: the group takes exactly the host. -/
theorem filenameFullmatch_host (h e : String) (he : e ∈ extensions) (hnl : '\n' ∉ h.data) :
    filenameFullmatch (h ++ "." ++ e) = some (some h, e) := by
  have hs : (h ++ "." ++ e).data = h.data ++ '.' :: e.data := by simp
  have hlen : h.data.length ≤ ((h ++ "." ++ e).data.takeWhile (· != '\n')).length := by
    rw [hs, List.takeWhile_append_of_pos (p := (· != '\n')) (fun x hx => by
      simp only [bne_iff_ne, ne_eq]; rintro rfl; exact hnl hx)]
    simp
  unfold filenameFullmatch
  rw [groupUpTo_of_none (fun k hk => hs ▸ groupAt_host_of_lt h.data he hk) hlen, hs,
    groupUpTo_of_groupAt (groupAt_host h.data he)]
  rfl

/-- A bare extension matches with the group skipped. -/
theorem filenameFullmatch_extension {e : String} (he : e ∈ extensions) :
    filenameFullmatch e = some (none, e) := by
  have hnone : ∀ m, groupUpTo e.data m = none := fun m => by
    rw [groupUpTo_of_none (n := 0) (fun k _ => groupAt_extension he k) (Nat.zero_le m)]
    exact groupAt_extension he 0
  simp [filenameFullmatch, hnone, matchExtension_self he]

/-- **What the expression accepts**: a name ending with a dot and an extension, split there, or a
bare extension. -/
theorem filenameFullmatch_eq_some {s : String} {r : Option String × String}
    (h : filenameFullmatch s = some r) :
    ∃ e ∈ extensions, (∃ g, r = (some g, e) ∧ s = g ++ "." ++ e) ∨ (r = (none, e) ∧ s = e) := by
  unfold filenameFullmatch at h
  cases hg : groupUpTo s.data (s.data.takeWhile (· != '\n')).length with
  | some r' =>
      rw [hg] at h
      cases h
      obtain ⟨k, -, hk⟩ := groupUpTo_eq_some hg
      obtain ⟨e, he, rfl, hs⟩ := groupAt_eq_some hk
      exact ⟨e, he, .inl ⟨_, rfl, String.ext (by simpa using hs)⟩⟩
  | none =>
      rw [hg] at h
      obtain ⟨e, he, rfl⟩ := Option.map_eq_some'.1 h
      obtain ⟨hmem, hd⟩ := matchExtension_eq_some he
      exact ⟨e, hmem, .inr ⟨rfl, String.ext hd.symm⟩⟩

/-- Two extensions that both end a name are the same one. -/
theorem extension_eq_of_suffix {e e' : String} (he : e ∈ extensions) (he' : e' ∈ extensions)
    {s : List Char} (h : e.data <:+ s) (h' : e'.data <:+ s) : e = e' := by
  have key : ∀ {a b : String}, a ∈ extensions → b ∈ extensions → a.data <:+ b.data → a = b := by
    intro a b ha hb hab
    rw [List.suffix_iff_eq_drop] at hab
    cases hk : b.data.length - a.data.length with
    | zero => rw [hk, List.drop_zero] at hab; exact String.ext hab
    | succ j =>
        rw [hk] at hab
        exact absurd hab.symm (extensions_not_proper_suffix b hb a ha j (by omega))
  rcases List.suffix_or_suffix_of_suffix h h' with h1 | h1
  · exact key he he' h1
  · exact (key he' he h1).symm

/-- **A name ending with a dot and an extension, whose decoded host has no newline, is that host,
the dot and the extension.** -/
theorem eq_of_parseFilename_host {n h e : String} (he : e ∈ extensions)
    (hsuf : ("." ++ e).data <:+ n.data) (hp : (parseFilename n).1 = some h) (hnl : '\n' ∉ h.data) :
    n = h ++ "." ++ e := by
  unfold parseFilename at hp
  cases hm : filenameFullmatch n with
  | none =>
      rw [hm] at hp
      cases hp
      obtain ⟨pre, hpre⟩ := hsuf
      have hn : n = ⟨pre⟩ ++ "." ++ e := String.ext (by simpa using hpre.symm)
      have hpre' : '\n' ∉ pre := fun hx => hnl (by rw [hn]; simp [hx])
      rw [hn, filenameFullmatch_host ⟨pre⟩ e he hpre'] at hm
      cases hm
  | some r =>
      rw [hm] at hp
      obtain ⟨e', he', ⟨g, rfl, hg⟩ | ⟨rfl, -⟩⟩ := filenameFullmatch_eq_some hm
      · cases hp
        have hee : e = e' := extension_eq_of_suffix he he'
          ((List.suffix_cons _ _).trans (by simpa using hsuf))
          (by rw [hg]; simpa using (List.suffix_cons '.' e'.data).trans (List.suffix_append h.data _))
        rw [hg, hee]
      · cases hp

/-- An XPlane tool other than the HLO tools reads the host's `xplane.pb` file. -/
theorem makeFilename_xplane {host tool : String} (ht : tool ∈ XPLANE_TOOLS) (hnh : tool ∉ HLO_TOOLS)
    (h0 : host ≠ "") : makeFilename host tool = some (host ++ "." ++ "xplane.pb") := by
  simp [makeFilename, fileTool, useHlo, useXplane, ht, hnh, h0, TOOLS, String.append_assoc]

/-- An HLO tool reads the module's `hlo_proto.pb` file. -/
theorem makeFilename_hlo {host tool : String} (ht : tool ∈ HLO_TOOLS) (h0 : host ≠ "") :
    makeFilename host tool = some (host ++ "." ++ "hlo_proto.pb") := by
  have hl : TOOLS.lookup "hlo_proto" = some "hlo_proto.pb" := by decide
  simp [makeFilename, fileTool, useHlo, ht, h0, hl, String.append_assoc]

theorem mem_extensions_of_lookup {t e : String} (h : TOOLS.lookup t = some e) : e ∈ extensions := by
  unfold TOOLS at h
  rw [List.lookup_cons] at h
  split at h
  · cases h; decide
  · rw [List.lookup_cons] at h
    split at h
    · cases h; decide
    · cases h

/-- A host without a separator makes a file name that is a single name. -/
theorem makeFilename_valid {host tool f : String} (hhost : '/' ∉ host.data)
    (h : makeFilename host tool = some f) : ValidName f := by
  obtain ⟨ext, hext, rfl⟩ := Option.map_eq_some'.1 h
  have hx : '/' ∉ ext.data ∧ 3 ≤ ext.data.length := by
    have := mem_extensions_of_lookup hext
    simp only [extensions, TOOLS, List.map, List.mem_cons, List.not_mem_nil, or_false] at this
    rcases this with rfl | rfl <;> decide
  have hpre : '/' ∉ (if host = "" then "" else host ++ ".").data := by
    split_ifs <;> simp [hhost]
  -- the name is at least as long as its extension, so neither `.` nor `..`
  have hlen : 3 ≤ ((if host = "" then "" else host ++ ".") ++ ext).data.length := by
    simp only [String.data_append, List.length_append]; omega
  refine ⟨fun h0 => by simp [h0] at hlen, by simp [hpre, hx.1], fun h1 => ?_, fun h2 => ?_⟩
  · rw [h1] at hlen; revert hlen; decide
  · rw [h2] at hlen; revert hlen; decide

/-! ### Decoding and encoding -/

theorem parseFilename_host (h e : String) (he : e ∈ extensions) (hnl : '\n' ∉ h.data) :
    parseFilename (h ++ "." ++ e) = (some h, EXTENSION_TO_TOOL.lookup e) := by
  simp [parseFilename, filenameFullmatch_host h e he hnl]

theorem parseFilename_extension {e : String} (he : e ∈ extensions) :
    parseFilename e = (none, EXTENSION_TO_TOOL.lookup e) := by
  simp [parseFilename, filenameFullmatch_extension he]

/-- The host `_parse_filename` decodes is a part of the name. -/
theorem infix_of_parseFilename_host {f h : String} (hp : (parseFilename f).1 = some h) :
    h.data <:+: f.data := by
  unfold parseFilename at hp
  cases hm : filenameFullmatch f with
  | none => rw [hm] at hp; cases hp; exact List.infix_refl _
  | some r =>
      rw [hm] at hp
      obtain ⟨e, -, ⟨g, rfl, rfl⟩ | ⟨rfl, -⟩⟩ := filenameFullmatch_eq_some hm
      · cases hp
        exact ⟨[], ("." ++ e).data, by simp [String.data_append]⟩
      · cases hp

/-- `_parse_filename` decodes no family but the two of `TOOLS`. -/
theorem parseFilename_tool (f : String) :
    (parseFilename f).2 = none ∨ (parseFilename f).2 = some "xplane" ∨
      (parseFilename f).2 = some "hlo_proto" := by
  unfold parseFilename
  cases hm : filenameFullmatch f with
  | none => exact .inl rfl
  | some r =>
      obtain ⟨e, he, hr⟩ := filenameFullmatch_eq_some hm
      have hext : ∀ e ∈ extensions, EXTENSION_TO_TOOL.lookup e = some "xplane" ∨
          EXTENSION_TO_TOOL.lookup e = some "hlo_proto" := by decide
      obtain ⟨_, rfl, -⟩ | ⟨rfl, -⟩ := hr <;> exact .inr (hext e he)

/-- **Decoding an encoded name**: for every tool of the catalog and every host without a newline,
`_parse_filename(make_filename(h, t))` is the host (`None` for the empty host) and the tool's
family, `hlo_proto` for the HLO tools and `xplane` for the others. -/
theorem parseFilename_makeFilename (h t : String)
    (ht : t ∈ TOOLS.map Prod.fst ++ XPLANE_TOOLS ++ HLO_TOOLS) (hnl : '\n' ∉ h.data) :
    ∃ f, makeFilename h t = some f ∧
      parseFilename f = (if h = "" then none else some h,
        some (if t = "hlo_proto" ∨ useHlo t then "hlo_proto" else "xplane")) := by
  obtain ⟨e, he, hlook, hext⟩ := catalog_extension t ht
  by_cases h0 : h = ""
  · subst h0
    exact ⟨e, by simp [makeFilename, hlook], by simp [parseFilename_extension he, hext]⟩
  · exact ⟨h ++ "." ++ e, by simp [makeFilename, hlook, h0, String.append_assoc],
      by simp [parseFilename_host h e he hnl, hext, h0]⟩

theorem parseFilename_makeFilename_localhost :
    "trace_viewer" ∈ TOOLS.map Prod.fst ++ XPLANE_TOOLS ++ HLO_TOOLS ∧ '\n' ∉ "localhost".data ∧
      ∃ f, makeFilename "localhost" "trace_viewer" = some f ∧
        parseFilename f = (if "localhost" = "" then none else some "localhost",
          some (if "trace_viewer" = "hlo_proto" ∨ useHlo "trace_viewer" then "hlo_proto"
            else "xplane")) :=
  ⟨by decide, by decide, parseFilename_makeFilename "localhost" "trace_viewer" (by decide) (by decide)⟩

/-- A host with a newline is not given back: Python's `.` stops at the newline, the expression
does not match, and the whole name is taken for the host. -/
theorem parseFilename_makeFilename_newline :
    makeFilename "a\nb" "trace_viewer" = some "a\nb.xplane.pb" ∧
      parseFilename "a\nb.xplane.pb" = (some "a\nb.xplane.pb", none) ∧
      parseFilename "a\nb.xplane.pb" ≠ (some "a\nb", some "xplane") := by
  decide

/-- **Every accepted name is an encoding**: when `_parse_filename(f)` finds a family `t` and a
host `h` (`None` when the group is skipped), `make_filename(h, t)` is `f`, except when `h` is the
empty string: then `f` is a dot followed by `make_filename(h, t)`. -/
theorem makeFilename_parseFilename {f : String} {g : Option String} {t : String}
    (h : parseFilename f = (g, some t)) :
    ∃ f', makeFilename (g.getD "") t = some f' ∧ (if g = some "" then f = "." ++ f' else f = f') := by
  unfold parseFilename at h
  cases hm : filenameFullmatch f with
  | none => rw [hm] at h; cases h
  | some r =>
      rw [hm] at h
      obtain ⟨e, he, hr⟩ := filenameFullmatch_eq_some hm
      have hrt := extension_roundtrip e he
      rcases hr with ⟨g', rfl, rfl⟩ | ⟨rfl, hfe⟩
      · simp only [Prod.mk.injEq] at h
        obtain ⟨rfl, ht⟩ := h
        rw [ht, Option.some_bind] at hrt
        by_cases h0 : g' = ""
        · subst h0
          exact ⟨e, by simp [makeFilename, hrt], by simp⟩
        · exact ⟨g' ++ "." ++ e, by simp [makeFilename, hrt, h0, String.append_assoc],
            by simp [h0]⟩
      · simp only [Prod.mk.injEq] at h
        obtain ⟨rfl, ht⟩ := h
        rw [ht, Option.some_bind] at hrt
        exact ⟨e, by simp [makeFilename, hrt], by simp [hfe]⟩

theorem makeFilename_parseFilename_host :
    parseFilename "host.xplane.pb" = (some "host", some "xplane") ∧
      ∃ f', makeFilename ((some "host").getD "") "xplane" = some f' ∧
        (if some "host" = some "" then "host.xplane.pb" = "." ++ f' else "host.xplane.pb" = f') :=
  ⟨by decide, makeFilename_parseFilename (by decide)⟩

/-- The name `.xplane.pb` decodes to the empty host and `xplane`, which encode as `xplane.pb`. -/
theorem makeFilename_parseFilename_empty_host :
    parseFilename ".xplane.pb" = (some "", some "xplane") ∧
      makeFilename "" "xplane" = some "xplane.pb" ∧ "xplane.pb" ≠ ".xplane.pb" := by
  decide

end ProfilePlugin
