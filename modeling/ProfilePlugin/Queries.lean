import ProfilePlugin.Glob
import ProfilePlugin.Runs
/-
**The per-run queries: the tools, hosts and HLO modules of a run.**

`generate_tools_of_run` lists the cached directory of a run and hands the names to
`_get_active_tools`; `_run_host_impl` globs a run directory for `*.xplane.pb` and turns the names
into hosts; `hlo_module_list_impl` globs the directory `_run_dir` gives for `*.hlo_proto.pb` and
joins the decoded module names with commas.  Each creates its listing inside
`try ... except OSError`, but `iterdir` and `glob` are lazy: the listing is read in the list
comprehension after the `try`.  There `iterdir` raises the `OSError` of a listing that fails
(`ProfilePlugin.Listing.consume`), while `glob.glob` swallows it and raises only the `ValueError`
of a NUL character (`ProfilePlugin.Fs.epathGlob`).  The glob reads the pattern characters of the
run directory as patterns.

Main definitions:

* `ProfilePlugin.generateToolsOfRun` — `generate_tools_of_run`, over the run-directory cache;
* `ProfilePlugin.runHostImpl`, `ProfilePlugin.hostImpl` — `_run_host_impl`, `host_impl`;
* `ProfilePlugin.hloModuleListImpl` — `hlo_module_list_impl`.

Main results:

* `ProfilePlugin.runHostImpl_makeFilename` — for a run directory without pattern characters, every
  host offered for an XPlane tool other than `ALL_HOSTS`, and without a newline, names through
  `make_filename` a file of the run directory;
* `ProfilePlugin.generateToolsOfRun_result`, `ProfilePlugin.runHostImpl_result`,
  `ProfilePlugin.hloModuleListImpl_result`, `ProfilePlugin.perRunQueries_result` — what the
  queries return, and the exceptions they raise;
* `ProfilePlugin.hloModuleListImpl_modules` — **the module list splits back** on `,` into the
  decoded module names, one per listed file, when none has a comma, and each name decoded from a
  name without a newline gives its file back through `make_filename`.
-/

set_option autoImplicit false

namespace ProfilePlugin

/-! ### The queries -/

/-- `generate_tools_of_run(run)`: the active tools of the directory cached for `run` (a `KeyError`
when there is none).  `iterdir()` inside the `try` only creates the listing; a generator is
truthy, so `if filenames:` always holds, and the names are read outside the `try`. -/
def generateToolsOfRun (fs : Fs) (faults : List String → Option Nat)
    (xspaceToToolNames : List String → Except PyErr (List String))
    (cache : List (String × String)) (run : String) : Except PyErr (List String) :=
  match cache.lookup run with
  | none => .error (.keyError run)
  | some profileRunDir =>
      if fs.isDir profileRunDir then do
        let filenames ← (fs.iterdir faults profileRunDir).consume profileRunDir
        getActiveTools xspaceToToolNames filenames profileRunDir
      else .ok []

/-- `_run_host_impl(run, run_dir, tool)`: the hosts of the names `epath.Path(run_dir)` globs for
`*.xplane.pb`, nothing for an empty `run_dir`.  `path.glob` inside the `try` only creates the
generator; `glob.glob` runs when the list comprehension reads it, after the `try`. -/
def runHostImpl (fs : Fs) (faults : List String → Option Nat) (runDir tool : String) :
    Except PyErr (List String) :=
  if runDir = "" then .ok []
  else do
    let filenames ← fs.epathGlob faults runDir "*.xplane.pb"
    return filenamesToHosts (filenames.map basename) tool

/-- `host_impl(run, tool)`. -/
def hostImpl (e : Env) (run tool : String) : Except PyErr (List String) := do
  let runDir ← runDir e run
  runHostImpl e.fs e.faults runDir tool

/-- `hlo_module_list_impl(request)` for the request's `run` (`None` when it has none): the
non-empty module names decoded from the names `epath.Path(run_dir)` globs for `*.hlo_proto.pb`,
joined with commas. -/
def hloModuleListImpl (e : Env) (run : Option String) : Except PyErr String := do
  let runDir ← match run with
    | some run => runDir e run
    | none => .error noneRstrip
  if runDir = "" then return ""
  let filenames ← e.fs.epathGlob e.faults runDir "*.hlo_proto.pb"
  let moduleList := (filenames.map basename).filterMap fun filename =>
    match (parseFilename filename).1 with
    | some moduleName => if moduleName = "" then none else some moduleName
    | none => none
  return ",".intercalate moduleList

/-! ### Hosts name files of the run directory -/

/-- The names a glob of a run directory without pattern characters gives back, for a suffix of a
file kind: the names of the directory's listing with the suffix, none starting with `.`. -/
theorem basename_epathGlob {fs : Fs} {faults : List String → Option Nat} {d suffix : String}
    (hd : hasMagic d = false) (hs : hasMagic suffix = false) (hsep : '/' ∉ suffix.data)
    {paths : List String} (h : fs.epathGlob faults d ("*" ++ suffix) = .ok paths) :
    paths.map basename = (fs.iterdir faults d).entries.filter fun x =>
      !isHidden x && suffix.data.isSuffixOf x.data := by
  rw [Fs.epathGlob_star hd hs hsep] at h
  split_ifs at h
  cases h
  rw [List.map_map]
  refine (List.map_congr_left fun x hx => ?_).trans (List.map_id _)
  obtain ⟨_, _, _, hc⟩ := Fs.mem_iterdir (List.mem_filter.1 hx).1
  exact basename_join _ (Fs.children_valid hc).2.1

/-- **Every host offered for an XPlane tool names a file of the run directory**: for a run
directory without pattern characters and a tool of `XPLANE_TOOLS` other than the HLO tools, every
host `_run_host_impl` returns, other than `ALL_HOSTS` and without a newline, gives through
`make_filename` a name of the directory's listing, and the asset path `data_impl` builds from it
exists. -/
theorem runHostImpl_makeFilename (fs : Fs) (faults : List String → Option Nat) (d tool : String)
    (hd : hasMagic d = false) (ht : tool ∈ XPLANE_TOOLS) (hnh : tool ∉ HLO_TOOLS)
    {hosts : List String} (h : runHostImpl fs faults d tool = .ok hosts) {host : String}
    (hh : host ∈ hosts) (hall : host ≠ ALL_HOSTS) (hnl : '\n' ∉ host.data) :
    ∃ f, makeFilename host tool = some f ∧ f ∈ (fs.iterdir faults d).entries ∧
      fs.pathExists (join d f) := by
  unfold runHostImpl at h
  split_ifs at h with hd0
  · cases h; cases hh
  rw [show "*.xplane.pb" = "*" ++ ".xplane.pb" from rfl] at h
  cases hc : fs.epathGlob faults d ("*" ++ ".xplane.pb") with
  | error err => rw [hc] at h; cases h
  | ok paths =>
      rw [hc] at h
      cases h
      -- the host is decoded from a listed name `n` with the extension, which is the host's file
      obtain ⟨n, hn, hp, h0⟩ := mem_getHosts.1 ((mem_filenamesToHosts hh).resolve_left hall)
      rw [basename_epathGlob hd (by decide) (by decide) hc] at hn
      obtain ⟨hn, hflt⟩ := List.mem_filter.1 hn
      obtain ⟨D, hD, hDdir, hc⟩ := Fs.mem_iterdir hn
      have hsuf : ("." ++ "xplane.pb").data <:+ n.data := by
        simp only [Bool.and_eq_true, List.isSuffixOf_iff_suffix] at hflt; exact hflt.2
      have hceq : n = host ++ "." ++ "xplane.pb" := eq_of_parseFilename_host (by decide) hsuf hp hnl
      refine ⟨n, by rw [makeFilename_xplane ht hnh h0, hceq], hn, ?_⟩
      simp [Fs.pathExists, Fs.resolve_join_child hD hDdir hc]

theorem runHostImpl_makeFilename_sample :
    hasMagic "/logs/plugins/profile/run1" = false ∧ "trace_viewer" ∈ XPLANE_TOOLS ∧
      "trace_viewer" ∉ HLO_TOOLS ∧
      runHostImpl Fs.sample (fun _ => none) "/logs/plugins/profile/run1" "trace_viewer" =
        .ok (filenamesToHosts ["host.xplane.pb"] "trace_viewer") ∧
      "host" ∈ filenamesToHosts ["host.xplane.pb"] "trace_viewer" ∧ "host" ≠ ALL_HOSTS ∧
      '\n' ∉ "host".data ∧
      ∃ f, makeFilename "host" "trace_viewer" = some f ∧
        f ∈ (Fs.sample.iterdir (fun _ => none) "/logs/plugins/profile/run1").entries ∧
        Fs.sample.pathExists (join "/logs/plugins/profile/run1" f) :=
  ⟨by decide, by decide, by decide, rfl, mem_filenamesToHosts_of_mem (by decide) (by decide),
    by decide, by decide,
    runHostImpl_makeFilename Fs.sample (fun _ => none) "/logs/plugins/profile/run1" "trace_viewer"
      (by decide) (by decide) (by decide) rfl (mem_filenamesToHosts_of_mem (by decide) (by decide))
      (by decide) (by decide)⟩

/-- A profile tree whose run `run1` holds the file of the host `host` and a file whose name has a
newline, beside an empty run directory `run[1]`. -/
def globFs : Fs where
  nodes := [(["logs"], .dir), (["logs", "plugins"], .dir), (["logs", "plugins", "profile"], .dir),
    (["logs", "plugins", "profile", "run1"], .dir),
    (["logs", "plugins", "profile", "run1", "host.xplane.pb"], .file),
    (["logs", "plugins", "profile", "run1", "a\nb.xplane.pb"], .file),
    (["logs", "plugins", "profile", "run[1]"], .dir)]
  cwd := []
  names_valid := by decide
  parent_dir := by decide
  nodup := by decide
  cwd_dir := .inl rfl

/-- The glob of the run directory `run[1]` lists `run1`, whose hosts are offered for `run[1]`,
where their files do not exist; and a name with a newline is offered whole as a host, whose
`make_filename` is not a name of the directory. -/
theorem runHostImpl_other_dir_newline :
    runHostImpl globFs (fun _ => none) "/logs/plugins/profile/run[1]" "trace_viewer" =
        .ok (filenamesToHosts ["host.xplane.pb", "a\nb.xplane.pb"] "trace_viewer") ∧
      "host" ∈ filenamesToHosts ["host.xplane.pb", "a\nb.xplane.pb"] "trace_viewer" ∧
      globFs.pathExists "/logs/plugins/profile/run[1]/host.xplane.pb" = false ∧
      runHostImpl globFs (fun _ => none) "/logs/plugins/profile/run1" "trace_viewer" =
        .ok (filenamesToHosts ["host.xplane.pb", "a\nb.xplane.pb"] "trace_viewer") ∧
      "a\nb.xplane.pb" ∈ filenamesToHosts ["host.xplane.pb", "a\nb.xplane.pb"] "trace_viewer" ∧
      makeFilename "a\nb.xplane.pb" "trace_viewer" = some "a\nb.xplane.pb.xplane.pb" ∧
      "a\nb.xplane.pb.xplane.pb" ∉
        (globFs.iterdir (fun _ => none) "/logs/plugins/profile/run1").entries :=
  ⟨rfl, mem_filenamesToHosts_of_mem (by decide) (by decide), rfl, rfl,
    mem_filenamesToHosts_of_mem (by decide) (by decide), by decide, by decide⟩

/-! ### What the queries raise -/

theorem runDir_eq_error {e : Env} {run : String} {err : PyErr} (h : runDir e run = .error err) :
    err = .runtimeError ("No matching run directory for run " ++ rstrip '/' run) := by
  unfold runDir at h
  dsimp only at h
  split_ifs at h <;> cases h <;> rfl

/-- `generate_tools_of_run` of a cached run whose listing does not fail returns its tools, or
raises what the converter raised, other than `AttributeError`. -/
theorem generateToolsOfRun_result (e : Env) (x : List String → Except PyErr (List String))
    {cache : List (String × String)} {run d : String} (hd : cache.lookup run = some d)
    (hl : (e.fs.iterdir e.faults d).raised = false) :
    (∃ tools, generateToolsOfRun e.fs e.faults x cache run = .ok tools) ∨
      ∃ xs err, x xs = .error err ∧ (∀ msg, err ≠ .attributeError msg) ∧
        generateToolsOfRun e.fs e.faults x cache run = .error err := by
  unfold generateToolsOfRun
  rw [hd]
  dsimp only
  split_ifs
  · rw [Listing.consume_of_raised hl]
    cases ha : getActiveTools x (e.fs.iterdir e.faults d).entries d with
    | ok tools => exact .inl ⟨tools, ha⟩
    | error err =>
        obtain ⟨⟨xs, hxs⟩, hne⟩ := getActiveTools_eq_error ha
        exact .inr ⟨xs, err, hxs, hne, ha⟩
  · exact .inl ⟨[], rfl⟩

/-- `_run_host_impl` returns its hosts, or raises the `ValueError` of a run directory with a NUL
character. -/
theorem runHostImpl_result (fs : Fs) (faults : List String → Option Nat) (d tool : String) :
    (∃ hosts, runHostImpl fs faults d tool = .ok hosts) ∨
      runHostImpl fs faults d tool = .error (.valueError "embedded null byte") := by
  unfold runHostImpl
  split_ifs
  · exact .inl ⟨[], rfl⟩
  · cases hc : fs.epathGlob faults d "*.xplane.pb" with
    | error err => exact .inr (by rw [Fs.epathGlob_raisesOnly d _ err hc]; rfl)
    | ok paths => exact .inl ⟨_, rfl⟩

/-- `hlo_module_list_impl` returns its module list, or raises the `AttributeError` of a request
without `run`, the `RuntimeError` of `_run_dir`, or the `ValueError` of a run directory with a NUL
character. -/
theorem hloModuleListImpl_result (e : Env) (run : Option String) :
    (∃ s, hloModuleListImpl e run = .ok s) ∨
      (run = none ∧ hloModuleListImpl e run = .error noneRstrip) ∨
      (∃ r msg, run = some r ∧ runDir e r = .error (.runtimeError msg) ∧
        hloModuleListImpl e run = .error (.runtimeError msg)) ∨
      hloModuleListImpl e run = .error (.valueError "embedded null byte") := by
  cases run with
  | none => exact .inr (.inl ⟨rfl, rfl⟩)
  | some r =>
    dsimp only [hloModuleListImpl]
    cases hr : runDir e r with
    | error err =>
        exact .inr (.inr (.inl ⟨r, _, rfl, by rw [hr, runDir_eq_error hr],
          by rw [runDir_eq_error hr]; rfl⟩))
    | ok d =>
        by_cases hd0 : d = ""
        · exact .inl ⟨"", by simp [hd0]; rfl⟩
        · simp only [bind, Except.bind, hd0, if_false]
          cases hc : e.fs.epathGlob e.faults d "*.hlo_proto.pb" with
          | error err => exact .inr (.inr (.inr (by rw [Fs.epathGlob_raisesOnly d _ err hc]; rfl)))
          | ok paths => exact .inl ⟨_, rfl⟩

/-- **What the per-run queries return and raise**: `generate_tools_of_run` of a cached run whose
listing does not fail returns its tools or raises what the converter raised, an exception other
than `AttributeError` (from which it falls back to the tools named by files); `_run_host_impl`
returns its hosts, the glob's listing errors swallowed, or raises the `ValueError` of a NUL
character; `hlo_module_list_impl` returns its module list or raises the `AttributeError` of a
request without `run`, the `RuntimeError` of `_run_dir`, or that `ValueError`. -/
theorem perRunQueries_result (e : Env) (x : List String → Except PyErr (List String))
    (cache : List (String × String)) :
    (∀ run d, cache.lookup run = some d → (e.fs.iterdir e.faults d).raised = false →
      (∃ tools, generateToolsOfRun e.fs e.faults x cache run = .ok tools) ∨
      ∃ xs err, x xs = .error err ∧ (∀ msg, err ≠ .attributeError msg) ∧
        generateToolsOfRun e.fs e.faults x cache run = .error err) ∧
    (∀ d tool, (∃ hosts, runHostImpl e.fs e.faults d tool = .ok hosts) ∨
      runHostImpl e.fs e.faults d tool = .error (.valueError "embedded null byte")) ∧
    (∀ run : Option String, (∃ s, hloModuleListImpl e run = .ok s) ∨
      (run = none ∧ hloModuleListImpl e run = .error noneRstrip) ∨
      (∃ r msg, run = some r ∧ runDir e r = .error (.runtimeError msg) ∧
        hloModuleListImpl e run = .error (.runtimeError msg)) ∨
      hloModuleListImpl e run = .error (.valueError "embedded null byte")) :=
  ⟨fun _ _ hd hl => generateToolsOfRun_result e x hd hl,
    fun d tool => runHostImpl_result e.fs e.faults d tool,
    hloModuleListImpl_result e⟩

/-! ### The module list -/

/-- `_run_dir` never gives the empty path: its path ends in the plugin directory's name. -/
theorem runDir_ne_empty {e : Env} {run d : String} (h : runDir e run = .ok d) : d ≠ "" := by
  unfold runDir at h
  dsimp only at h
  split_ifs at h <;> cases h <;>
    exact fun h0 => absurd (join_eq_empty (join_eq_empty h0).1).2 (by decide)

/-- The module names `hlo_module_list_impl` collects are the decoded names of the files that have
a non-empty one, one for each, in order. -/
theorem forall₂_moduleList (files : List String) :
    List.Forall₂ (fun m f => (parseFilename f).1 = some m)
      (files.filterMap fun filename =>
        match (parseFilename filename).1 with
        | some moduleName => if moduleName = "" then none else some moduleName
        | none => none)
      (files.filter fun f => (parseFilename f).1.getD "" ≠ "") := by
  induction files with
  | nil => exact .nil
  | cons f files ih =>
      rw [List.filterMap_cons, List.filter_cons]
      cases hp : (parseFilename f).1 with
      | none => simpa [hp] using ih
      | some m =>
          by_cases h0 : m = ""
          · simpa [hp, h0] using ih
          · simpa [hp, h0] using ih

/-- **The module list of a run.**  When `_run_dir` gives a directory without pattern characters
or NUL characters, `hlo_module_list_impl` returns a string that `str.split(',')` takes back to the
decoded module names, one for each name of the directory's listing with the extension, not
starting with `.` and with a non-empty module name, in the order of the listing, provided there is
such a name and no module name has a comma; and each such name, decoded from a name without a
newline, gives its file back through `make_filename` for each HLO tool. -/
theorem hloModuleListImpl_modules (e : Env) (run d : String) (hd : runDir e run = .ok d)
    (hmagic : hasMagic d = false) (hnul : '\x00' ∉ d.data) :
    let named := ((e.fs.iterdir e.faults d).entries.filter fun f =>
      !isHidden f && ".hlo_proto.pb".data.isSuffixOf f.data).filter
        fun f => (parseFilename f).1.getD "" ≠ ""
    ∃ s, hloModuleListImpl e (some run) = .ok s ∧
      (named ≠ [] → (∀ f ∈ named, ',' ∉ ((parseFilename f).1.getD "").data) →
        List.Forall₂ (fun m f => (parseFilename f).1 = some m) (strSplit s ',') named) ∧
      ∀ f ∈ named, '\n' ∉ f.data → ∀ t ∈ HLO_TOOLS,
        makeFilename ((parseFilename f).1.getD "") t = some f := by
  intro named
  have hnul' : '\x00' ∉ (pathStr d).data := fun h => by
    rcases mem_pathStr h with h | h | h
    · exact hnul h
    · cases h
    · cases h
  have hglob : e.fs.epathGlob e.faults d ("*" ++ ".hlo_proto.pb") = _ :=
    Fs.epathGlob_star hmagic (by decide) (by decide)
  rw [if_neg hnul'] at hglob
  have hnames := basename_epathGlob hmagic (by decide) (by decide) hglob
  have h₂ := forall₂_moduleList ((e.fs.iterdir e.faults d).entries.filter fun f =>
    !isHidden f && ".hlo_proto.pb".data.isSuffixOf f.data)
  unfold hloModuleListImpl
  simp only [hd, bind, Except.bind, if_neg (runDir_ne_empty hd),
    show "*.hlo_proto.pb" = "*" ++ ".hlo_proto.pb" from rfl, hglob, hnames]
  refine ⟨_, rfl, fun hn hc => ?_, fun f hf hnl t ht => ?_⟩
  · -- there is a module name, and none has a comma
    rw [strSplit_intercalate rfl (List.length_pos.1 (by rw [h₂.length_eq]; exact List.length_pos.2 hn))]
    · exact h₂
    · intro m hm
      obtain ⟨f, hf, hfm⟩ := List.mem_filterMap.1 hm
      split at hfm
      · rename_i m' hp
        split_ifs at hfm with h0
        cases hfm
        simpa [hp] using hc f (List.mem_filter.2 ⟨hf, by simp [hp, h0]⟩)
      · cases hfm
  · -- the file is the module name, a dot and the extension
    obtain ⟨hf, hm⟩ := List.mem_filter.1 hf
    obtain ⟨-, hflt⟩ := List.mem_filter.1 hf
    have hsuf : ("." ++ "hlo_proto.pb").data <:+ f.data := by
      simp only [Bool.and_eq_true, List.isSuffixOf_iff_suffix] at hflt; exact hflt.2
    cases hp : (parseFilename f).1 with
    | none => simp [hp] at hm
    | some m =>
        have h0 : m ≠ "" := by simpa [hp] using hm
        have hceq : f = m ++ "." ++ "hlo_proto.pb" :=
          eq_of_parseFilename_host (by decide) hsuf hp
            fun hm' => hnl ((infix_of_parseFilename_host hp).subset hm')
        rw [Option.getD_some, makeFilename_hlo ht h0, ← hceq]

/-- A logdir whose run `run1` holds three HLO module files, one named with a comma, one with a
newline and one starting with `.`, beside a run directory `run[1]` with a module of its own. -/
def hloEnv : Env where
  fs := {
    nodes := [(["logs"], .dir), (["logs", "plugins"], .dir), (["logs", "plugins", "profile"], .dir),
      (["logs", "plugins", "profile", "run1"], .dir),
      (["logs", "plugins", "profile", "run1", "a,b.hlo_proto.pb"], .file),
      (["logs", "plugins", "profile", "run1", "c\nd.hlo_proto.pb"], .file),
      (["logs", "plugins", "profile", "run1", ".e.hlo_proto.pb"], .file),
      (["logs", "plugins", "profile", "run[1]"], .dir),
      (["logs", "plugins", "profile", "run[1]", "f.hlo_proto.pb"], .file)]
    cwd := []
    names_valid := by decide
    parent_dir := by decide
    nodup := by decide
    cwd_dir := .inl rfl }
  faults := fun _ => none
  logdir := "/logs"
  listRuns := []

theorem hloModuleListImpl_modules_sample :
    runDir hloEnv "run1" = .ok "/logs/plugins/profile/run1" ∧
      hasMagic "/logs/plugins/profile/run1" = false ∧ '\x00' ∉ "/logs/plugins/profile/run1".data ∧
      let named := ((hloEnv.fs.iterdir hloEnv.faults "/logs/plugins/profile/run1").entries.filter
        fun f => !isHidden f && ".hlo_proto.pb".data.isSuffixOf f.data).filter
          fun f => (parseFilename f).1.getD "" ≠ ""
      ∃ s, hloModuleListImpl hloEnv (some "run1") = .ok s ∧
        (named ≠ [] → (∀ f ∈ named, ',' ∉ ((parseFilename f).1.getD "").data) →
          List.Forall₂ (fun m f => (parseFilename f).1 = some m) (strSplit s ',') named) ∧
        ∀ f ∈ named, '\n' ∉ f.data → ∀ t ∈ HLO_TOOLS,
          makeFilename ((parseFilename f).1.getD "") t = some f :=
  ⟨rfl, by decide, by decide,
    hloModuleListImpl_modules hloEnv "run1" _ rfl (by decide) (by decide)⟩

/-- A module name with a comma comes back from `str.split(',')` as two names; a file name with a
newline is taken whole for the module name, to which `make_filename` adds a second extension; the
module of `.e.hlo_proto.pb` is left out; and the run `run[1]` lists the modules of `run1`, not its
own. -/
theorem hloModuleListImpl_comma_newline_hidden_glob :
    hloModuleListImpl hloEnv (some "run1") = .ok "a,b,c\nd.hlo_proto.pb" ∧
      strSplit "a,b,c\nd.hlo_proto.pb" ',' = ["a", "b", "c\nd.hlo_proto.pb"] ∧
      makeFilename "c\nd.hlo_proto.pb" "graph_viewer" = some "c\nd.hlo_proto.pb.hlo_proto.pb" ∧
      (parseFilename ".e.hlo_proto.pb").1 = some ".e" ∧
      hloModuleListImpl hloEnv (some "run[1]") = .ok "a,b,c\nd.hlo_proto.pb" ∧
      (parseFilename "f.hlo_proto.pb").1 = some "f" :=
  ⟨rfl, by decide, by decide, by decide, rfl, by decide⟩

/-- The converter's `ValueError` and a listing that fails come out of `generate_tools_of_run`, a
run directory with a NUL character makes `_run_host_impl` raise, and so does a module list request
without `run`. -/
theorem perRunQueries_raise :
    generateToolsOfRun Fs.sample (fun _ => none) (fun _ => .error (.valueError "bad"))
        [("run1", "/logs/plugins/profile/run1")] "run1" = .error (.valueError "bad") ∧
      generateToolsOfRun Fs.sample
        (fun d => if d = ["logs", "plugins", "profile", "run1"] then some 0 else none)
        (fun _ => .ok []) [("run1", "/logs/plugins/profile/run1")] "run1" =
          .error (.osError "/logs/plugins/profile/run1") ∧
      runHostImpl Fs.sample (fun _ => none) "/logs/plugins/profile/r\x00" "trace_viewer" =
        .error (.valueError "embedded null byte") ∧
      hloModuleListImpl hloEnv none = .error noneRstrip :=
  ⟨rfl, rfl, rfl, rfl⟩

end ProfilePlugin
