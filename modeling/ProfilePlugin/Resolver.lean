import Mathlib.Data.List.Nodup
import Mathlib.Data.String.Basic
import ProfilePlugin.Filename
/-
**Hosts and tools of a run directory.**

Given the names of the files in a profile run directory, `_get_hosts` collects the hosts they
encode and `filenames_to_hosts` applies the all-hosts policy of the tool; `_get_tools` collects
the tools, asking the external converter which tools its XPlane files can produce, and
`_get_active_tools` drops the non-streaming trace viewer when the streaming one is there and puts
`overview_page` first.

Python sets are modelled as duplicate-free lists (`ProfilePlugin.setAdd`), and `sorted` as the
stable merge sort with Python's `<` on strings.

Main definitions:

* `ProfilePlugin.getHosts`, `ProfilePlugin.filenamesToHosts` — `_get_hosts`, `filenames_to_hosts`;
* `ProfilePlugin.DecodedHost` — the non-empty hosts the names decode to;
* `ProfilePlugin.getTools`, `ProfilePlugin.getActiveTools` — `_get_tools`, `_get_active_tools`,
  over the converter's `xspace_to_tool_names`.

Main results:

* `ProfilePlugin.mem_getHosts` — the hosts are the non-empty decoded hosts;
* `ProfilePlugin.mem_filenamesToHosts` — `filenames_to_hosts` offers only those and `ALL_HOSTS`;
* `ProfilePlugin.filenamesToHosts_sorted_hosts` — **the hosts offered for a tool**: strictly
  ascending, `ALL_HOSTS` alone for an all-hosts-only tool once there are two hosts, and otherwise
  the decoded hosts with `ALL_HOSTS` added exactly by the all-hosts policy;
* `ProfilePlugin.getTools_set` — `_get_tools` as a set: the converter's tools, every XPlane tool
  without a run directory, or none;
* `ProfilePlugin.getActiveTools_offered` — **the tools offered for a run**: that set without
  duplicates, the non-streaming trace viewer dropped beside the streaming one, `overview_page`
  first and the rest strictly ascending.
-/

set_option autoImplicit false

namespace ProfilePlugin

/-! ### Sets -/

/-- `s.add(x)` for a Python set `s` kept as a duplicate-free list. -/
def setAdd (s : List String) (x : String) : List String := if x ∈ s then s else s ++ [x]

@[simp] theorem mem_setAdd {s : List String} {x y : String} : y ∈ setAdd s x ↔ y ∈ s ∨ y = x := by
  unfold setAdd; split_ifs with h
  · exact ⟨Or.inl, fun h' => h'.elim id (· ▸ h)⟩
  · simp

theorem nodup_setAdd {s : List String} (hs : s.Nodup) (x : String) : (setAdd s x).Nodup := by
  unfold setAdd; split_ifs with h
  · exact hs
  · exact hs.append (List.nodup_singleton x) (by simpa using h)

/-- A loop whose step keeps a list duplicate-free builds a duplicate-free list. -/
theorem nodup_foldl_of_step {α : Type} {g : List String → α → List String}
    (hg : ∀ s x, s.Nodup → (g s x).Nodup) (xs : List α) {s : List String} (hs : s.Nodup) :
    (xs.foldl g s).Nodup := by
  induction xs generalizing s with
  | nil => exact hs
  | cons x xs ih => exact ih (hg s x hs)

/-- A set has more than one element exactly when it holds two different ones. -/
theorem one_lt_length_iff_of_nodup {l : List String} (h : l.Nodup) :
    1 < l.length ↔ ∃ a b, a ∈ l ∧ b ∈ l ∧ a ≠ b := by
  match l, h with
  | [], _ => simp
  | [x], _ => simp
  | a :: b :: l, h =>
      refine ⟨fun _ => ⟨a, b, by simp, by simp, fun hab => ?_⟩, fun _ => by simp⟩
      exact (List.nodup_cons.1 h).1 (hab ▸ List.mem_cons_self _ _)

/-- A set whose elements are all `o` is empty or `{o}`. -/
theorem eq_nil_or_singleton_of_nodup {l : List String} {o : String} (h : l.Nodup)
    (ho : ∀ x ∈ l, x = o) : l = [] ∨ l = [o] := by
  match l, h with
  | [], _ => exact .inl rfl
  | [x], _ => exact .inr (by rw [ho x (List.mem_singleton_self x)])
  | a :: b :: l, h =>
      refine absurd ?_ (List.nodup_cons.1 h).1
      rw [ho a (by simp), ← ho b (by simp)]; simp

/-- `sorted(s)` of a set is strictly ascending. -/
theorem sorted_mergeSort_of_nodup {l : List String} (h : l.Nodup) :
    l.mergeSort.Pairwise (· < ·) := by
  have hle : l.mergeSort.Pairwise fun a b => decide (a ≤ b) := List.sorted_mergeSort
    (fun a b c hab hbc => by simp only [decide_eq_true_eq] at *; exact le_trans hab hbc)
    (fun a b => by simpa using le_total a b) l
  exact (hle.and ((List.mergeSort_perm l _).nodup_iff.2 h)).imp fun ⟨h₁, h₂⟩ =>
    lt_of_le_of_ne (by simpa using h₁) h₂

/-! ### Hosts -/

/-- `_get_hosts(filenames)`: the hosts the names encode, the empty host left out. -/
def getHosts (filenames : List String) : List String :=
  filenames.foldl (fun hosts name =>
    match (parseFilename name).1 with
    | some host => if host = "" then hosts else setAdd hosts host
    | none => hosts) []

/-- `filenames_to_hosts(filenames, tool)`: with more than one host, an all-hosts-only tool gets
`ALL_HOSTS` alone and an all-hosts-supporting tool gets `ALL_HOSTS` besides the hosts. -/
def filenamesToHosts (filenames : List String) (tool : String) : List String :=
  let hosts := getHosts filenames
  let hosts :=
    if hosts.length > 1 then
      if tool ∈ XPLANE_TOOLS_ALL_HOSTS_ONLY then [ALL_HOSTS]
      else if tool ∈ XPLANE_TOOLS_ALL_HOSTS_SUPPORTED then setAdd hosts ALL_HOSTS
      else hosts
    else hosts
  hosts.mergeSort

/-- Membership after a loop whose step adds to the set what `P` says of the element. -/
theorem mem_foldl_of_step {α : Type} {g : List String → α → List String} {P : α → String → Prop}
    (hg : ∀ s x c, c ∈ g s x ↔ c ∈ s ∨ P x c) (xs : List α) (s : List String) (c : String) :
    c ∈ xs.foldl g s ↔ c ∈ s ∨ ∃ x ∈ xs, P x c := by
  induction xs generalizing s with
  | nil => simp
  | cons x xs ih =>
      simp only [List.foldl_cons, ih, hg, List.mem_cons, or_and_right, exists_or, exists_eq_left,
        or_assoc]

/-- The hosts are exactly the non-empty hosts the names decode to. -/
theorem mem_getHosts {names : List String} {h : String} :
    h ∈ getHosts names ↔ ∃ n ∈ names, (parseFilename n).1 = some h ∧ h ≠ "" := by
  unfold getHosts
  rw [mem_foldl_of_step (P := fun n h => (parseFilename n).1 = some h ∧ h ≠ "")]
  · simp
  · intro hosts n c
    cases hp : (parseFilename n).1 with
    | none => simp
    | some host =>
        by_cases h0 : host = ""
        · simp [h0, eq_comm]
        · simp only [h0, if_false, mem_setAdd, Option.some.injEq]
          exact or_congr_right ⟨fun e => ⟨e.symm, e ▸ h0⟩, fun e => e.1.symm⟩

/-- `filenames_to_hosts` offers nothing but the decoded hosts and `ALL_HOSTS`. -/
theorem mem_filenamesToHosts {names : List String} {tool h : String}
    (hmem : h ∈ filenamesToHosts names tool) : h = ALL_HOSTS ∨ h ∈ getHosts names := by
  simp only [filenamesToHosts, List.mem_mergeSort] at hmem
  split_ifs at hmem <;> simp_all [or_comm]

/-- Every decoded host is offered, unless the tool takes all hosts only. -/
theorem mem_filenamesToHosts_of_mem {names : List String} {tool h : String}
    (hmem : h ∈ getHosts names) (htool : tool ∉ XPLANE_TOOLS_ALL_HOSTS_ONLY) :
    h ∈ filenamesToHosts names tool := by
  simp only [filenamesToHosts, List.mem_mergeSort]
  split_ifs <;> simp_all

theorem nodup_getHosts (names : List String) : (getHosts names).Nodup := by
  unfold getHosts
  refine nodup_foldl_of_step (fun s n hs => ?_) names List.nodup_nil
  split
  · split_ifs
    exacts [hs, nodup_setAdd hs _]
  · exact hs

/-- `h` is a host that one of the names decodes to, and not the empty host. -/
def DecodedHost (names : List String) (h : String) : Prop :=
  ∃ n ∈ names, (parseFilename n).1 = some h ∧ h ≠ ""

/-- **The hosts offered for a tool.**  With `H` the non-empty hosts the names decode to, the list
is strictly ascending; with two hosts or more an all-hosts-only tool gets `ALL_HOSTS` alone;
otherwise the list holds `H`, and `ALL_HOSTS` besides exactly when there are two hosts or more and
the tool supports all hosts. -/
theorem filenamesToHosts_sorted_hosts (names : List String) (tool : String) :
    (filenamesToHosts names tool).Pairwise (· < ·) ∧
      ((∃ a b, DecodedHost names a ∧ DecodedHost names b ∧ a ≠ b) ∧
        tool ∈ XPLANE_TOOLS_ALL_HOSTS_ONLY → filenamesToHosts names tool = [ALL_HOSTS]) ∧
      (¬ ((∃ a b, DecodedHost names a ∧ DecodedHost names b ∧ a ≠ b) ∧
        tool ∈ XPLANE_TOOLS_ALL_HOSTS_ONLY) → ∀ h, h ∈ filenamesToHosts names tool ↔
          DecodedHost names h ∨ (h = ALL_HOSTS ∧
            (∃ a b, DecodedHost names a ∧ DecodedHost names b ∧ a ≠ b) ∧
            tool ∈ XPLANE_TOOLS_ALL_HOSTS_SUPPORTED)) := by
  have hsev : 1 < (getHosts names).length ↔
      ∃ a b, DecodedHost names a ∧ DecodedHost names b ∧ a ≠ b := by
    simp only [one_lt_length_iff_of_nodup (nodup_getHosts names), mem_getHosts, DecodedHost]
  have hnd := nodup_getHosts names
  refine ⟨?_, fun ⟨hs, ht⟩ => ?_, fun hn h => ?_⟩
  · apply sorted_mergeSort_of_nodup
    split_ifs
    exacts [List.nodup_singleton _, nodup_setAdd hnd _, hnd, hnd]
  · simp only [filenamesToHosts, gt_iff_lt, if_pos (hsev.2 hs), if_pos ht, List.mergeSort_singleton]
  · simp only [filenamesToHosts, gt_iff_lt, List.mem_mergeSort]
    split_ifs with h₁ h₂ h₃
    · exact absurd ⟨hsev.1 h₁, h₂⟩ hn
    · rw [mem_setAdd, mem_getHosts]
      exact or_congr Iff.rfl ⟨fun e => ⟨e, hsev.1 h₁, h₃⟩, fun e => e.1⟩
    · rw [mem_getHosts]; exact (or_iff_left fun e => h₃ e.2.2).symm
    · rw [mem_getHosts]; exact (or_iff_left fun e => h₁ (hsev.2 e.2.1)).symm

/-! ### Tools -/

/-- The state of the loop of `_get_tools` over the names: `tools`, `found`, `xplane_filenames`. -/
structure ToolScan where
  tools : List String
  found : List String
  xplaneFilenames : List String

/-- One name in the loop of `_get_tools`: an XPlane file is kept for the converter, an HLO file is
skipped, and any other tool is added, with `found` noting it without a trailing `@`. -/
def scanName (profileRunDir : String) (st : ToolScan) (name : String) : ToolScan :=
  match (parseFilename name).2 with
  | some "xplane" => { st with xplaneFilenames := st.xplaneFilenames ++ [join profileRunDir name] }
  | some "hlo_proto" => st
  | some tool =>
      if tool = "" then st
      else { st with
        tools := setAdd st.tools tool
        found := setAdd st.found
          (if tool.data.getLast? = some '@' then ⟨tool.data.dropLast⟩ else tool) }
  | none => st

/-- `_get_tools(filenames, profile_run_dir)`, with `xspaceToToolNames` the converter's
`xspace_to_tool_names`.  Without a run directory every XPlane tool whose name without its last
character was not found is added; with one, the converter's answer replaces the tools, and an
`AttributeError` from it falls back to the tools found. -/
def getTools (xspaceToToolNames : List String → Except PyErr (List String))
    (filenames : List String) (profileRunDir : String) : Except PyErr (List String) :=
  let st := filenames.foldl (scanName profileRunDir) ⟨[], [], []⟩
  if profileRunDir = "" then
    .ok (if st.xplaneFilenames = [] then st.tools
      else XPLANE_TOOLS.foldl (fun tools item =>
        if (⟨item.data.dropLast⟩ : String) ∈ st.found then tools else setAdd tools item) st.tools)
  else if st.xplaneFilenames = [] then .ok st.tools
  else
    match xspaceToToolNames st.xplaneFilenames with
    | .ok names => .ok (names.foldl setAdd [])
    | .error (.attributeError _) => .ok st.tools
    | .error e => .error e

/-- `_get_active_tools(filenames, profile_run_dir)`: the streaming trace viewer replaces the other
one, `overview_page` comes first and the rest follows sorted. -/
def getActiveTools (xspaceToToolNames : List String → Except PyErr (List String))
    (filenames : List String) (profileRunDir : String) : Except PyErr (List String) := do
  let tools ← getTools xspaceToToolNames filenames profileRunDir
  let tools := if "trace_viewer@" ∈ tools then tools.erase "trace_viewer" else tools
  return tools.filter (· ∈ ["overview_page"]) ++ (tools.filter (· ∉ ["overview_page"])).mergeSort

/-- `set(l)`, built by adding the elements of `l` one by one. -/
theorem mem_foldl_setAdd {l s : List String} {c : String} :
    c ∈ l.foldl setAdd s ↔ c ∈ s ∨ c ∈ l := by
  rw [mem_foldl_of_step (P := fun x c => c = x) (fun _ _ _ => mem_setAdd)]
  simp

theorem nodup_foldl_setAdd (l : List String) : (l.foldl setAdd []).Nodup :=
  nodup_foldl_of_step (fun _ x hs => nodup_setAdd hs x) l List.nodup_nil

/-- One name in the loop of `_get_tools` can only be an XPlane file to keep: `_parse_filename`
finds no family besides `xplane` and `hlo_proto`. -/
theorem scanName_eq (dir : String) (st : ToolScan) (name : String) :
    scanName dir st name = if (parseFilename name).2 = some "xplane" then
      { st with xplaneFilenames := st.xplaneFilenames ++ [join dir name] } else st := by
  unfold scanName
  rcases parseFilename_tool name with h | h | h <;> simp [h]

/-- The loop of `_get_tools` collects the XPlane files, joined to the run directory, and no tool. -/
theorem foldl_scanName (dir : String) (names : List String) (st : ToolScan) :
    names.foldl (scanName dir) st = { st with xplaneFilenames := st.xplaneFilenames ++
      (names.filter fun n => (parseFilename n).2 = some "xplane").map (join dir) } := by
  induction names generalizing st with
  | nil => simp
  | cons n names ih =>
      rw [List.foldl_cons, ih, scanName_eq]
      split_ifs with h <;> simp [h]

/-- **What `_get_tools` returns**: no tool without an XPlane file; with one, every XPlane tool when
there is no run directory, and otherwise the converter's answer as a set, or no tool after an
`AttributeError`. -/
theorem getTools_eq (x : List String → Except PyErr (List String)) (names : List String)
    (dir : String) :
    getTools x names dir =
      let xs := (names.filter fun n => (parseFilename n).2 = some "xplane").map (join dir)
      if xs = [] then .ok []
      else if dir = "" then .ok (XPLANE_TOOLS.foldl setAdd [])
      else match x xs with
        | .ok names => .ok (names.foldl setAdd [])
        | .error (.attributeError _) => .ok []
        | .error e => .error e := by
  simp only [getTools, foldl_scanName, List.nil_append, List.not_mem_nil, if_false]
  split_ifs <;> rfl

/-- `_get_tools` raises only what the converter raises, and not an `AttributeError`. -/
theorem getTools_eq_error {x : List String → Except PyErr (List String)} {names : List String}
    {dir : String} {e : PyErr} (h : getTools x names dir = .error e) :
    (∃ xs, x xs = .error e) ∧ ∀ msg, e ≠ .attributeError msg := by
  unfold getTools at h
  dsimp only at h
  split_ifs at h
  split at h
  · cases h
  · cases h
  · rename_i e' hne he'
    cases h
    exact ⟨⟨_, he'⟩, fun msg heq => hne msg heq⟩

/-- `_get_active_tools` raises only what `_get_tools` raises. -/
theorem getActiveTools_eq_error {x : List String → Except PyErr (List String)} {names : List String}
    {dir : String} {e : PyErr} (h : getActiveTools x names dir = .error e) :
    (∃ xs, x xs = .error e) ∧ ∀ msg, e ≠ .attributeError msg := by
  unfold getActiveTools at h
  cases hg : getTools x names dir with
  | ok tools => rw [hg] at h; cases h
  | error e' => rw [hg] at h; cases h; exact getTools_eq_error hg

/-- **`_get_tools` as a set**, when the converter raises nothing but `AttributeError`: the tools the
converter names for the XPlane files, every XPlane tool when there is no run directory, and no tool
without an XPlane file or after an `AttributeError`. -/
theorem getTools_set (x : List String → Except PyErr (List String)) (names : List String)
    (dir : String)
    (hx : ∀ e, x ((names.filter fun n => (parseFilename n).2 = some "xplane").map (join dir)) =
      .error e → ∃ msg, e = .attributeError msg) :
    ∃ tools, getTools x names dir = .ok tools ∧ tools.Nodup ∧ ∀ t, t ∈ tools ↔
      (∃ n ∈ names, (parseFilename n).2 = some "xplane") ∧
      if dir = "" then t ∈ XPLANE_TOOLS
      else ∃ conv, x ((names.filter fun n => (parseFilename n).2 = some "xplane").map (join dir)) =
        .ok conv ∧ t ∈ conv := by
  have hX : (∃ n ∈ names, (parseFilename n).2 = some "xplane") ↔
      (names.filter fun n => (parseFilename n).2 = some "xplane").map (join dir) ≠ [] := by
    simp [List.filter_eq_nil_iff]
  rw [getTools_eq]
  simp only [hX]
  generalize (names.filter fun n => (parseFilename n).2 = some "xplane").map (join dir) = xs at hx ⊢
  by_cases h0 : xs = []
  · exact ⟨[], by rw [if_pos h0], List.nodup_nil, by simp [h0]⟩
  simp only [if_neg h0, ne_eq, h0, not_false_eq_true, true_and]
  by_cases hd : dir = ""
  · simp only [if_pos hd]
    exact ⟨_, rfl, nodup_foldl_setAdd _, by simp [mem_foldl_setAdd]⟩
  simp only [if_neg hd]
  cases hc : x xs with
  | ok conv => exact ⟨_, rfl, nodup_foldl_setAdd _, by simp [mem_foldl_setAdd, hc]⟩
  | error e =>
      obtain ⟨msg, rfl⟩ := hx e hc
      exact ⟨[], rfl, List.nodup_nil, by simp [hc]⟩

/-- `_get_active_tools` over the set `_get_tools` returned: the streaming trace viewer drops the
other one, `overview_page` comes first, and the rest follows in strictly ascending order. -/
theorem getActiveTools_of_getTools {x : List String → Except PyErr (List String)}
    {names : List String} {dir : String} {tools : List String}
    (h : getTools x names dir = .ok tools) (hnd : tools.Nodup) :
    ∃ active, getActiveTools x names dir = .ok active ∧ active.Nodup ∧
      (∀ t, t ∈ active ↔ t ∈ tools ∧ ¬ (t = "trace_viewer" ∧ "trace_viewer@" ∈ tools)) ∧
      ∃ rest, rest.Pairwise (· < ·) ∧ "overview_page" ∉ rest ∧
        (active = rest ∨ active = "overview_page" :: rest) := by
  set kept := if "trace_viewer@" ∈ tools then tools.erase "trace_viewer" else tools with hkept
  have hknd : kept.Nodup := by
    rw [hkept]; split_ifs
    exacts [hnd.erase _, hnd]
  have hmem : ∀ t, t ∈ kept ↔ t ∈ tools ∧ ¬ (t = "trace_viewer" ∧ "trace_viewer@" ∈ tools) := by
    intro t; rw [hkept]; split_ifs
    · rw [hnd.mem_erase_iff]; tauto
    · tauto
  set rest := (kept.filter (· ∉ ["overview_page"])).mergeSort
  have hfirst := eq_nil_or_singleton_of_nodup (hknd.filter (· ∈ ["overview_page"]))
    (o := "overview_page") fun t ht => by simpa using (List.mem_filter.1 ht).2
  refine ⟨kept.filter (· ∈ ["overview_page"]) ++ rest, by unfold getActiveTools; rw [h]; rfl,
    ?_, fun t => ?_, rest, sorted_mergeSort_of_nodup (hknd.filter _), by simp [rest], ?_⟩
  · refine List.nodup_append.2 ⟨hknd.filter _, (List.mergeSort_perm _ _).nodup_iff.2
      (hknd.filter _), fun t h₁ h₂ => ?_⟩
    simp only [rest, List.mem_mergeSort, List.mem_filter] at h₁ h₂
    exact absurd h₁.2 (by simpa using h₂.2)
  · rw [← hmem]
    simp only [rest, List.mem_append, List.mem_mergeSort, List.mem_filter, decide_eq_true_eq]
    tauto
  · rcases hfirst with h₀ | h₀ <;> rw [h₀] <;> simp

/-- **The tools offered for a run.**  With `S` the tools the converter names for the XPlane files
of a run directory (none after an `AttributeError`), every XPlane tool when the directory is
empty, and none without an XPlane file: `_get_active_tools` returns `S` as a duplicate-free list,
without `trace_viewer` when `trace_viewer@` is in `S`, with `overview_page` first and the others in
strictly ascending order; the family names `xplane` and `hlo_proto` are there only when the
converter names them. -/
theorem getActiveTools_offered (x : List String → Except PyErr (List String))
    (names : List String) (dir : String)
    (hx : ∀ e, x ((names.filter fun n => (parseFilename n).2 = some "xplane").map (join dir)) =
      .error e → ∃ msg, e = .attributeError msg) :
    let xs := (names.filter fun n => (parseFilename n).2 = some "xplane").map (join dir)
    let S := fun t => (∃ n ∈ names, (parseFilename n).2 = some "xplane") ∧
      if dir = "" then t ∈ XPLANE_TOOLS else ∃ conv, x xs = .ok conv ∧ t ∈ conv
    ∃ tools, getActiveTools x names dir = .ok tools ∧ tools.Nodup ∧
      (∀ t, t ∈ tools ↔ S t ∧ ¬ (t = "trace_viewer" ∧ S "trace_viewer@")) ∧
      (∃ rest, rest.Pairwise (· < ·) ∧ "overview_page" ∉ rest ∧
        (tools = rest ∨ tools = "overview_page" :: rest)) ∧
      ∀ m ∈ ["xplane", "hlo_proto"], m ∈ tools → ∃ conv, x xs = .ok conv ∧ m ∈ conv := by
  intro xs S
  obtain ⟨tools, hget, hnd, hS⟩ := getTools_set x names dir hx
  obtain ⟨active, hact, hand, hmem, horder⟩ := getActiveTools_of_getTools hget hnd
  refine ⟨active, hact, hand, fun t => by rw [hmem, hS, hS], horder, fun m hm hma => ?_⟩
  -- a family name is no XPlane tool, so only the converter can have named it
  have hSm := ((hS m).1 ((hmem m).1 hma).1).2
  split_ifs at hSm
  · simp only [List.mem_cons, List.mem_singleton, List.not_mem_nil, or_false] at hm
    rcases hm with rfl | rfl <;> exact absurd hSm (by decide)
  · exact hSm

theorem getActiveTools_offered_sample :
    let x : List String → Except PyErr (List String) :=
      fun _ => .ok ["trace_viewer", "trace_viewer@", "overview_page"]
    let names := ["h.xplane.pb", "h.hlo_proto.pb"]
    (∀ e, x ((names.filter fun n => (parseFilename n).2 = some "xplane").map (join "run")) =
      .error e → ∃ msg, e = .attributeError msg) ∧
    let xs := (names.filter fun n => (parseFilename n).2 = some "xplane").map (join "run")
    let S := fun t => (∃ n ∈ names, (parseFilename n).2 = some "xplane") ∧
      if "run" = "" then t ∈ XPLANE_TOOLS else ∃ conv, x xs = .ok conv ∧ t ∈ conv
    ∃ tools, getActiveTools x names "run" = .ok tools ∧ tools.Nodup ∧
      (∀ t, t ∈ tools ↔ S t ∧ ¬ (t = "trace_viewer" ∧ S "trace_viewer@")) ∧
      (∃ rest, rest.Pairwise (· < ·) ∧ "overview_page" ∉ rest ∧
        (tools = rest ∨ tools = "overview_page" :: rest)) ∧
      ∀ m ∈ ["xplane", "hlo_proto"], m ∈ tools → ∃ conv, x xs = .ok conv ∧ m ∈ conv :=
  ⟨fun _ h => (by cases h), getActiveTools_offered _ _ _ fun _ h => by cases h⟩

/-- The converter may name a family itself, and `_get_active_tools` passes the name on. -/
theorem getActiveTools_converter_xplane :
    getActiveTools (fun _ => .ok ["xplane"]) ["h.xplane.pb"] "run" = .ok ["xplane"] := by
  have hp : (parseFilename "h.xplane.pb").2 = some "xplane" := by decide
  simp [getActiveTools, getTools_eq, hp, setAdd]

end ProfilePlugin
