import ProfilePlugin.Queries
/-
**The data route: `data_impl`, its version file, and the paths it touches.**

`data_impl` resolves the run with `_run_dir`, decides whether the converter may use its saved
results — only when the caller allows it and `cache_version.txt` in the run directory records the
running version — reads the graph viewer options, collects the asset paths of the tool (the
matches of `*.xplane.pb` by `epath.Path(run_dir).glob` for `ALL_HOSTS`, the host's file
otherwise), validates them, converts them, and after a conversion without saved results writes the
running version into `cache_version.txt`.

The filesystem is the static tree of `ProfilePlugin.Fs`; the version files are kept beside it, by
the canonical path of their directory, since `data_impl` writes them.  What the filesystem and the
converter do during one request is an oracle (`ProfilePlugin.DataOracle`), and the calls that touch
files are recorded (`ProfilePlugin.DataCall`).  The running version `version.__version__` comes
from a module that is not under src/ and is a parameter.  Reading the version file may raise
`UnicodeDecodeError`, a `ValueError` that the `except OSError` around it lets through, and the
glob for `ALL_HOSTS` is `ProfilePlugin.Fs.epathGlob`, which reads the run directory as a pattern.

Main definitions:

* `ProfilePlugin.checkCacheVersion`, `ProfilePlugin.validateXplaneAssetPaths`,
  `ProfilePlugin.xplaneAssetPaths` — the parts of `data_impl`;
* `ProfilePlugin.dataImpl` — one request; `ProfilePlugin.versionsAfter` — a sequence of them.

Main results:

* `ProfilePlugin.dataImpl_calls`, `ProfilePlugin.dataImpl_versions` — what one request calls and
  how it changes the version files;
* `ProfilePlugin.current_dataImpl`, `ProfilePlugin.current_versionsAfter` — a version file becomes
  current only by a conversion without saved results in its directory, over one request and over
  a sequence of them;
* `ProfilePlugin.dataImpl_useSavedResult` — over every sequence of requests, saved results are
  used in a run directory whose version file was stale only after a conversion without them
  completed there, for any tool and host;
* `ProfilePlugin.dataImpl_paths_inside` — for a run name of names and a host without a
  separator, in a logdir and a run name without glob characters, every path the route touches
  lies in the run directory, inside the logdir.
-/

set_option autoImplicit false

namespace ProfilePlugin

/-! ### Requests, their effects, and the version files -/

/-- `CACHE_VERSION_FILE`. -/
def CACHE_VERSION_FILE : String := "cache_version.txt"

/-- The characters `str.isspace` holds of, by code point. -/
def pySpaces : List Nat :=
  [9, 10, 11, 12, 13, 28, 29, 30, 31, 32, 133, 160, 5760, 8192, 8193, 8194, 8195, 8196, 8197, 8198,
    8199, 8200, 8201, 8202, 8232, 8233, 8239, 8287, 12288]

/-- `s.strip()`. -/
def pyStrip (s : String) : String :=
  ⟨(s.data.dropWhile fun c => pySpaces.contains c.toNat).rdropWhile
    fun c => pySpaces.contains c.toNat⟩

/-- `s.lower()` for the comparison with `false`: ASCII letters are lowered, and no other character
lowers to one of `false`. -/
def pyLower (s : String) : String := ⟨s.data.map Char.toLower⟩

/-- The arguments of a data request that `data_impl` acts on.  A missing `host` behaves as `''`,
and a missing `tag` as a name that is no tool; the other arguments only reach the converter. -/
structure DataRequest where
  run : String
  tag : String
  host : String
  /-- `request.args.get('use_saved_result', 'true')`. -/
  useSavedResult : String
  /-- What `self._get_graph_viewer_options(request)` raises, if anything; the options themselves
  only reach the converter. -/
  graphViewerOptions : Except PyErr Unit

/-- What the filesystem and the converter do during one request: whether reading
`cache_version.txt` raises `OSError`, whether its bytes fail to decode (the text of the
`UnicodeDecodeError` of `f.read()`), whether writing it raises `OSError`, and what
`convert.xspace_to_tool_data(asset_paths, tool, params)` returns, for the `use_saved_result` of
`params`. -/
structure DataOracle where
  readFails : Bool
  decodeError : Option String
  writeFails : Bool
  convert : List String → String → Bool → Except PyErr String

/-- The calls of `data_impl` that touch files. -/
inductive DataCall where
  /-- Looking for `cache_version.txt` and reading it. -/
  | readVersion (path : String)
  /-- `validate_xplane_asset_paths(asset_paths)`. -/
  | validate (assetPaths : List String)
  /-- `convert.xspace_to_tool_data(asset_paths, tool, params)`. -/
  | convert (assetPaths : List String) (tool : String) (useSavedResult : Bool)
  /-- Opening `cache_version.txt` for writing. -/
  | writeVersion (path : String)
  deriving DecidableEq, Repr

/-- The paths a call touches. -/
def DataCall.paths : DataCall → List String
  | .readVersion path => [path]
  | .validate assetPaths => assetPaths
  | .convert assetPaths _ _ => assetPaths
  | .writeVersion path => [path]

/-- What one request gives back: the data (`None` for a tool without data), the calls it made, and
the version files after it, by the canonical path of their directory. -/
structure DataReply where
  result : Except PyErr (Option String)
  calls : List DataCall
  versions : List String → Option String

/-- The check of `cache_version.txt` at the start of `data_impl`: `use_saved_result` stays only
if the file exists in the run directory and reads, stripped, as the running version; a read that
raises `OSError` counts as a mismatch, and contents that do not decode raise `UnicodeDecodeError`
through the `except OSError`. -/
def checkCacheVersion (fs : Fs) (version : String) (io : DataOracle)
    (versions : List String → Option String) (runDir : String) (useSavedResult : Bool) :
    Except PyErr Bool :=
  match fs.resolve runDir with
  | some d =>
      if fs.isDirAt d then
        match versions d with
        | some content =>
            if io.readFails then .ok false
            else match io.decodeError with
              | some msg => .error (.other "UnicodeDecodeError" msg)
              | none => .ok (if pyStrip content ≠ version then false else useSavedResult)
        | none => .ok false
      else .ok false
  | none => .ok false

/-- Writing the running version into `cache_version.txt` of the run directory; an `OSError`, also
the one of a run directory that is not a directory, is caught and changes nothing. -/
def writeVersionFile (fs : Fs) (version : String) (writeFails : Bool)
    (versions : List String → Option String) (runDir : String) : List String → Option String :=
  match fs.resolve runDir with
  | some d => if fs.isDirAt d ∧ writeFails = false then
      fun d' => if d' = d then some version else versions d'
    else versions
  | none => versions

/-- `validate_xplane_asset_paths(asset_paths)`: the first path that ends with `xplane.pb` and does
not exist raises `FileNotFoundError`. -/
def validateXplaneAssetPaths (fs : Fs) : List String → Except PyErr Unit
  | [] => .ok ()
  | assetPath :: assetPaths =>
      if "xplane.pb".data.isSuffixOf assetPath.data && !fs.pathExists assetPath then
        .error (.fileNotFound ("Invalid asset path: " ++ assetPath))
      else validateXplaneAssetPaths fs assetPaths

/-- The asset paths of an XPlane tool: for `ALL_HOSTS` the matches of `make_filename('*',
'xplane')`, that is `*.xplane.pb`, by `epath.Path(run_dir).glob` inside the `try`, whose `OSError`
is raised again as `IOError` (the text of the error itself is not modelled); otherwise the host's
file. -/
def xplaneAssetPaths (fs : Fs) (faults : List String → Option Nat) (runDir host assetPath : String) :
    Except PyErr (List String) :=
  if host = ALL_HOSTS then
    match fs.epathGlob faults runDir "*.xplane.pb" with
    | .error err =>
        .error (if err.isOSError then .osError ("Cannot read asset directory: " ++ runDir) else err)
    | .ok assetPaths => .ok assetPaths
  else .ok [assetPath]

/-- The `except` clauses around the conversion: an `AttributeError` is raised again with a new
text, anything else as it is. -/
def reraiseConvertError : PyErr → PyErr
  | .attributeError msg => .attributeError ("Error generating analysis results due to " ++ msg)
  | err => err

/-- `data_impl(request)` against the version files `versions`, with the running version
`version`. -/
def dataImpl (e : Env) (version : String) (io : DataOracle) (versions : List String → Option String)
    (req : DataRequest) : DataReply :=
  match runDir e req.run with
  | .error err => ⟨.error err, [], versions⟩
  | .ok runDir =>
      let versionPath := join runDir CACHE_VERSION_FILE
      match checkCacheVersion e.fs version io versions runDir (pyLower req.useSavedResult != "false"),
        req.graphViewerOptions with
      | .error err, _ | .ok _, .error err => ⟨.error err, [.readVersion versionPath], versions⟩
      | .ok useSavedResult, .ok () =>
          if req.tag ∉ TOOLS.map Prod.fst ∧ ¬ useXplane req.tag then
            ⟨.ok none, [.readVersion versionPath], versions⟩
          else
            match makeFilename req.host req.tag with
            | none => ⟨.error (.keyError (fileTool req.tag)), [.readVersion versionPath], versions⟩
            | some filename =>
                if useXplane req.tag then
                  match xplaneAssetPaths e.fs e.faults runDir req.host (join runDir filename) with
                  | .error err => ⟨.error err, [.readVersion versionPath], versions⟩
                  | .ok assetPaths =>
                      match validateXplaneAssetPaths e.fs assetPaths with
                      | .error err =>
                          ⟨.error err, [.readVersion versionPath, .validate assetPaths], versions⟩
                      | .ok () =>
                          let calls := [.readVersion versionPath, .validate assetPaths,
                            .convert assetPaths req.tag useSavedResult]
                          match io.convert assetPaths req.tag useSavedResult with
                          | .error err => ⟨.error (reraiseConvertError err), calls, versions⟩
                          | .ok data =>
                              if useSavedResult then ⟨.ok (some data), calls, versions⟩
                              else ⟨.ok (some data), calls ++ [.writeVersion versionPath],
                                writeVersionFile e.fs version io.writeFails versions runDir⟩
                else ⟨.ok none, [.readVersion versionPath], versions⟩

/-- The version files after a sequence of requests, each with what the filesystem and the
converter do during it. -/
def versionsAfter (e : Env) (version : String) :
    (List String → Option String) → List (DataOracle × DataRequest) → List String → Option String
  | versions, [] => versions
  | versions, (io, req) :: rest =>
      versionsAfter e version (dataImpl e version io versions req).versions rest

@[simp]
theorem versionsAfter_cons (e : Env) (version : String) (versions : List String → Option String)
    (io : DataOracle) (req : DataRequest) (rest : List (DataOracle × DataRequest)) :
    versionsAfter e version versions ((io, req) :: rest) =
      versionsAfter e version (dataImpl e version io versions req).versions rest := by
  rw [versionsAfter]

/-! ### What one request does -/

/-- The version file of the directory `d` records the running version. -/
def Current (version : String) (versions : List String → Option String) (d : List String) : Prop :=
  ∃ content, versions d = some content ∧ pyStrip content = version

/-- The run directory `_run_dir` gives for `run` resolves to `d`. -/
def RunDirAt (e : Env) (run : String) (d : List String) : Prop :=
  ∃ runDir', runDir e run = .ok runDir' ∧ e.fs.resolve runDir' = some d

theorem checkCacheVersion_eq_true {fs : Fs} {version : String} {io : DataOracle}
    {versions : List String → Option String} {runDir : String} {b : Bool}
    (h : checkCacheVersion fs version io versions runDir b = .ok true) :
    ∃ d, fs.resolve runDir = some d ∧ Current version versions d := by
  unfold checkCacheVersion at h
  cases hd : fs.resolve runDir with
  | none => simp [hd] at h
  | some d =>
      cases hc : versions d with
      | none => simp [hd, hc] at h
      | some content =>
          refine ⟨d, rfl, content, hc, ?_⟩
          by_contra hne
          simp only [hd, hc, ne_eq, hne, not_false_eq_true, if_true] at h
          split_ifs at h <;> (try split at h) <;> cases h

/-- The only exception of the version check is the `UnicodeDecodeError` of the file's contents. -/
theorem checkCacheVersion_error {fs : Fs} {version : String} {io : DataOracle}
    {versions : List String → Option String} {runDir : String} {b : Bool} {err : PyErr}
    (h : checkCacheVersion fs version io versions runDir b = .error err) :
    ∃ msg, io.decodeError = some msg ∧ err = .other "UnicodeDecodeError" msg := by
  unfold checkCacheVersion at h
  repeat' split at h
  all_goals first | exact ⟨_, ‹_›, (Except.error.inj h).symm⟩ | cases h

theorem checkCacheVersion_ok (fs : Fs) (version : String) {io : DataOracle}
    (versions : List String → Option String) (runDir : String) (b : Bool)
    (h : io.decodeError = none) : ∃ b', checkCacheVersion fs version io versions runDir b = .ok b' := by
  cases hc : checkCacheVersion fs version io versions runDir b with
  | ok b' => exact ⟨b', rfl⟩
  | error err => obtain ⟨_, hm, -⟩ := checkCacheVersion_error hc; simp [h] at hm

theorem writeVersionFile_apply (fs : Fs) (version : String) (writeFails : Bool)
    (versions : List String → Option String) (runDir : String) (d : List String) :
    writeVersionFile fs version writeFails versions runDir d = versions d ∨
      fs.resolve runDir = some d := by
  unfold writeVersionFile
  cases hr : fs.resolve runDir with
  | none => exact .inl rfl
  | some d' =>
      by_cases h : d = d'
      · exact .inr (h ▸ rfl)
      · left; dsimp only; split_ifs <;> simp [h]

/-- **The calls of one request**: all made in the run directory `_run_dir` gives, in the order
read the version file, validate, convert, write the version file, the asset paths those of the
tool and host, and the conversion with the `use_saved_result` the version check left; when the
check raises, or `_get_graph_viewer_options` after it, only the version file was read. -/
theorem dataImpl_calls (e : Env) (version : String) (io : DataOracle)
    (versions : List String → Option String) (req : DataRequest) :
    (dataImpl e version io versions req).calls = [] ∨ ∃ runDir', runDir e req.run = .ok runDir' ∧
      ∃ ps b, (ps = [] ∨ ∃ filename, makeFilename req.host req.tag = some filename ∧
          xplaneAssetPaths e.fs e.faults runDir' req.host (join runDir' filename) = .ok ps) ∧
        (checkCacheVersion e.fs version io versions runDir'
            (pyLower req.useSavedResult != "false") = .ok b ∨
          (dataImpl e version io versions req).calls =
            [.readVersion (join runDir' CACHE_VERSION_FILE)]) ∧
        (dataImpl e version io versions req).calls <+: [.readVersion (join runDir' CACHE_VERSION_FILE),
          .validate ps, .convert ps req.tag b, .writeVersion (join runDir' CACHE_VERSION_FILE)] := by
  unfold dataImpl
  split
  · exact .inl rfl
  rename_i runDir' hrun
  refine .inr ⟨runDir', hrun, ?_⟩
  dsimp only
  -- every branch stops after some prefix of the four calls
  repeat' split
  all_goals first
    | exact ⟨[], false, .inl rfl, .inr rfl, _, rfl⟩
    | exact ⟨[], _, .inl rfl, .inl ‹_›, _, rfl⟩
    | exact ⟨_, _, .inr ⟨_, ‹_›, ‹_›⟩, .inl ‹_›, _, rfl⟩

/-- **The version files after one request**: unchanged, or written in the run directory after a
conversion without saved results that returned. -/
theorem dataImpl_versions (e : Env) (version : String) (io : DataOracle)
    (versions : List String → Option String) (req : DataRequest) :
    (dataImpl e version io versions req).versions = versions ∨ ∃ runDir', runDir e req.run = .ok runDir' ∧
      checkCacheVersion e.fs version io versions runDir'
        (pyLower req.useSavedResult != "false") = .ok false ∧
      (∃ ps, DataCall.convert ps req.tag false ∈ (dataImpl e version io versions req).calls) ∧
      (∃ data, (dataImpl e version io versions req).result = .ok (some data)) ∧
      (dataImpl e version io versions req).versions =
        writeVersionFile e.fs version io.writeFails versions runDir' := by
  unfold dataImpl
  split
  · exact .inl rfl
  rename_i runDir' hrun
  dsimp only
  -- only the branch of a conversion without saved results that returned writes
  repeat' split
  all_goals first
    | exact .inl rfl
    | obtain rfl : _ = false := by simpa using ‹¬ _ = true›
      exact .inr ⟨runDir', hrun, ‹_›, ⟨_, List.mem_append_left _
        (List.mem_cons_of_mem _ (List.mem_cons_of_mem _ (List.mem_singleton_self _)))⟩,
        ⟨_, rfl⟩, rfl⟩

/-! ### Saved results follow a conversion without them in the same directory -/

/-- A conversion with saved results happens only in a run directory whose version file is
current. -/
theorem current_of_convert_true {e : Env} {version : String} {io : DataOracle}
    {versions : List String → Option String} {req : DataRequest} {ps : List String} {tool : String}
    (h : DataCall.convert ps tool true ∈ (dataImpl e version io versions req).calls) :
    ∃ d, RunDirAt e req.run d ∧ Current version versions d := by
  rcases dataImpl_calls e version io versions req with hnil | ⟨runDir', hrun, qs, b, -, hb, hpre⟩
  · rw [hnil] at h; cases h
  have hmem := hpre.subset h
  simp only [List.mem_cons, List.mem_singleton, List.not_mem_nil, or_false, reduceCtorEq,
    DataCall.convert.injEq, false_or, or_false] at hmem
  rcases hb with hb | hone
  · obtain ⟨d, hd, hc⟩ := checkCacheVersion_eq_true (hmem.2.2 ▸ hb)
    exact ⟨d, ⟨runDir', hrun, hd⟩, hc⟩
  · rw [hone] at h; simp at h

/-- **One request**: a version file is current after a request only if it was before, or the
request's run directory is its directory and a conversion without saved results returned there. -/
theorem current_dataImpl {e : Env} {version : String} {io : DataOracle}
    {versions : List String → Option String} {req : DataRequest} {d : List String}
    (h : Current version (dataImpl e version io versions req).versions d) :
    Current version versions d ∨ (RunDirAt e req.run d ∧
      (∃ ps tool, DataCall.convert ps tool false ∈ (dataImpl e version io versions req).calls) ∧
      ∃ data, (dataImpl e version io versions req).result = .ok (some data)) := by
  rcases dataImpl_versions e version io versions req with hv | ⟨runDir', hrun, -, ⟨ps, hps⟩, hres, hv⟩
  · exact .inl (hv ▸ h)
  rw [hv] at h
  rcases writeVersionFile_apply e.fs version io.writeFails versions runDir' d with hd | hd
  · exact .inl (by rwa [Current, hd] at h)
  · exact .inr ⟨⟨runDir', hrun, hd⟩, ⟨ps, req.tag, hps⟩, hres⟩

/-- **A sequence of requests**: a version file that was not current and is after the sequence was
written by one of its requests, against that directory, after a conversion without saved results
that returned. -/
theorem current_versionsAfter {e : Env} {version : String} {d : List String} :
    ∀ (versions : List String → Option String) (reqs : List (DataOracle × DataRequest)),
      ¬ Current version versions d → Current version (versionsAfter e version versions reqs) d →
      ∃ pre x post, reqs = pre ++ x :: post ∧ RunDirAt e x.2.run d ∧
        (∃ ps tool, DataCall.convert ps tool false ∈
          (dataImpl e version x.1 (versionsAfter e version versions pre) x.2).calls) ∧
        ∃ data, (dataImpl e version x.1 (versionsAfter e version versions pre) x.2).result =
          .ok (some data)
  | _, [], h0, h => absurd h h0
  | versions, (io, req) :: rest, h0, h => by
      rw [versionsAfter_cons] at h
      by_cases h1 : Current version (dataImpl e version io versions req).versions d
      · rcases current_dataImpl h1 with h2 | hw
        · exact absurd h2 h0
        · exact ⟨[], (io, req), rest, rfl, hw⟩
      · obtain ⟨pre, x, post, rfl, hx⟩ :=
          current_versionsAfter (dataImpl e version io versions req).versions rest h1 h
        exact ⟨(io, req) :: pre, x, post, rfl, by simpa only [versionsAfter_cons] using hx⟩

/-- **Saved results are used only after a conversion without them in the same directory**: after
any sequence of requests, a request whose run directory had a stale or missing version file
converts with `use_saved_result=True` only if an earlier request of the sequence, against the same
run directory but for any tool and host, completed a conversion with `use_saved_result=False`. -/
theorem dataImpl_useSavedResult (e : Env) (version : String)
    (versions : List String → Option String) (reqs : List (DataOracle × DataRequest)) (io : DataOracle)
    (req : DataRequest) {d : List String} (hd : RunDirAt e req.run d)
    (hstale : ¬ Current version versions d)
    (hconv : ∃ ps tool, DataCall.convert ps tool true ∈
      (dataImpl e version io (versionsAfter e version versions reqs) req).calls) :
    ∃ pre x post, reqs = pre ++ x :: post ∧ RunDirAt e x.2.run d ∧
      (∃ ps tool, DataCall.convert ps tool false ∈
        (dataImpl e version x.1 (versionsAfter e version versions pre) x.2).calls) ∧
      ∃ data, (dataImpl e version x.1 (versionsAfter e version versions pre) x.2).result =
        .ok (some data) := by
  obtain ⟨ps, tool, h⟩ := hconv
  obtain ⟨d', ⟨r', hr', hd'⟩, hcur⟩ := current_of_convert_true h
  -- both directories are the one the request's run directory resolves to
  obtain ⟨r, hr, hrd⟩ := hd
  obtain rfl : r' = r := Except.ok.inj (hr'.symm.trans hr)
  obtain rfl : d' = d := Option.some.inj (hd'.symm.trans hrd)
  exact current_versionsAfter versions reqs hstale hcur

/-- The tree of `Fs.sample` with the logdir `/logs`. -/
def Env.sample : Env := ⟨Fs.sample, fun _ => none, "/logs", []⟩

/-- Version files that read and write, and a converter that returns. -/
def DataOracle.sample : DataOracle := ⟨false, none, false, fun _ _ _ => .ok "data"⟩

theorem dataImpl_useSavedResult_sample :
    RunDirAt Env.sample "run1" ["logs", "plugins", "profile", "run1"] ∧
      ¬ Current "2.0" (fun _ => none) ["logs", "plugins", "profile", "run1"] ∧
      (∃ ps tool, DataCall.convert ps tool true ∈ (dataImpl Env.sample "2.0" DataOracle.sample
        (versionsAfter Env.sample "2.0" (fun _ => none)
          [(DataOracle.sample, ⟨"run1", "trace_viewer", "host", "true", .ok ()⟩)])
        ⟨"run1", "overview_page", "host", "true", .ok ()⟩).calls) ∧
      ∃ pre x post, [(DataOracle.sample, ⟨"run1", "trace_viewer", "host", "true", .ok ()⟩)] = pre ++ x :: post ∧
        RunDirAt Env.sample x.2.run ["logs", "plugins", "profile", "run1"] ∧
        (∃ ps tool, DataCall.convert ps tool false ∈
          (dataImpl Env.sample "2.0" x.1 (versionsAfter Env.sample "2.0" (fun _ => none) pre) x.2).calls) ∧
        ∃ data, (dataImpl Env.sample "2.0" x.1
          (versionsAfter Env.sample "2.0" (fun _ => none) pre) x.2).result = .ok (some data) :=
  have hd : RunDirAt Env.sample "run1" ["logs", "plugins", "profile", "run1"] := ⟨_, rfl, rfl⟩
  have hstale : ¬ Current "2.0" (fun _ => none) ["logs", "plugins", "profile", "run1"] :=
    fun ⟨_, h, _⟩ => by cases h
  have hconv : ∃ ps tool, DataCall.convert ps tool true ∈ (dataImpl Env.sample "2.0" DataOracle.sample
      (versionsAfter Env.sample "2.0" (fun _ => none)
        [(DataOracle.sample, ⟨"run1", "trace_viewer", "host", "true", .ok ()⟩)])
      ⟨"run1", "overview_page", "host", "true", .ok ()⟩).calls :=
    ⟨["/logs/plugins/profile/run1/host.xplane.pb"], "overview_page", by decide⟩
  ⟨hd, hstale, hconv, dataImpl_useSavedResult Env.sample "2.0" (fun _ => none)
    [(DataOracle.sample, ⟨"run1", "trace_viewer", "host", "true", .ok ()⟩)] DataOracle.sample
    ⟨"run1", "overview_page", "host", "true", .ok ()⟩ hd hstale hconv⟩

/-- After `trace_viewer` of a host is converted without saved results, `overview_page`, never
converted in that run directory, is converted with them: the version file is one per run
directory. -/
theorem dataImpl_saved_other_tool :
    DataCall.convert ["/logs/plugins/profile/run1/host.xplane.pb"] "trace_viewer" false ∈
        (dataImpl Env.sample "2.0" DataOracle.sample (fun _ => none)
          ⟨"run1", "trace_viewer", "host", "true", .ok ()⟩).calls ∧
      DataCall.convert ["/logs/plugins/profile/run1/host.xplane.pb"] "overview_page" true ∈
        (dataImpl Env.sample "2.0" DataOracle.sample (versionsAfter Env.sample "2.0" (fun _ => none)
            [(DataOracle.sample, ⟨"run1", "trace_viewer", "host", "true", .ok ()⟩)])
          ⟨"run1", "overview_page", "host", "true", .ok ()⟩).calls := by
  decide

/-! ### The data route stays in the run directory -/

theorem mem_xplaneAssetPaths {fs : Fs} {faults : List String → Option Nat}
    {runDir host assetPath : String} {ps : List String} {p : String} (hmagic : hasMagic runDir = false)
    (h : xplaneAssetPaths fs faults runDir host assetPath = .ok ps) (hp : p ∈ ps) :
    p = assetPath ∨ ∃ c, ValidName c ∧ p = join (pathStr runDir) c := by
  unfold xplaneAssetPaths at h
  split_ifs at h
  · rw [show "*.xplane.pb" = "*" ++ ".xplane.pb" from rfl, Fs.epathGlob_star hmagic (show hasMagic ".xplane.pb" = false from rfl) (by decide)] at h
    split_ifs at h
    obtain ⟨c, hc, rfl⟩ := List.mem_map.1 (Except.ok.inj h ▸ hp)
    obtain ⟨d, -, -, hcd⟩ := Fs.mem_iterdir (List.mem_filter.1 hc).1
    exact .inr ⟨c, Fs.children_valid hcd, rfl⟩
  · cases h; exact .inl (List.mem_singleton.1 hp)

/-- `_run_dir` of a run name without glob characters, in a logdir without them, has none. -/
theorem hasMagic_runDir {e : Env} {run d : String} (hlog : hasMagic e.logdir = false)
    (hrun : hasMagic run = false) (h : runDir e run = .ok d) : hasMagic d = false := by
  have hr := hasMagic_of_subset (rstrip_subset '/' run) hrun
  have hsplit := split_subset (rstrip '/' run)
  have hname : ∀ name, hasMagic name = false → hasMagic (tbRunDirectory e.logdir name) = false :=
    fun name hn => by unfold tbRunDirectory; split_ifs; exacts [hlog, hasMagic_join hlog hn]
  have hplugin : ∀ dir, hasMagic dir = false →
      hasMagic (join (pluginDirectory dir PLUGIN_NAME) (split (rstrip '/' run)).2) = false :=
    fun dir hd => hasMagic_join (hasMagic_join (hasMagic_join hd rfl) rfl)
      (hasMagic_of_subset hsplit.2 hr)
  dsimp only [runDir] at h
  split_ifs at h <;> cases h
  · exact hplugin _ (hname _ rfl)
  · exact hplugin _ (hname _ (hasMagic_of_subset hsplit.1 hr))

/-- For a host without a separator and a run directory without glob characters, every path the
route touches is a name inside the run directory `_run_dir` returned, by absolute path. -/
theorem dataImpl_paths_names (e : Env) (version : String) (io : DataOracle)
    (versions : List String → Option String) (req : DataRequest) (hhost : '/' ∉ req.host.data)
    (hmagic : ∀ d, runDir e req.run = .ok d → hasMagic d = false) :
    ∀ c ∈ (dataImpl e version io versions req).calls, ∀ p ∈ c.paths,
      ∃ runDir', runDir e req.run = .ok runDir' ∧
        ∃ n, ValidName n ∧ e.fs.absPath p = e.fs.absPath runDir' ++ [n] := by
  intro c hc p hp
  rcases dataImpl_calls e version io versions req with hnil | ⟨runDir', hrun, ps, b, hps, -, hpre⟩
  · rw [hnil] at hc; cases hc
  refine ⟨runDir', hrun, ?_⟩
  -- the asset paths are the host's file or the matches of the glob, joined to str(Path(run_dir))
  have hasset : ∀ x ∈ ps, ∃ n, ValidName n ∧ e.fs.absPath x = e.fs.absPath runDir' ++ [n] := by
    intro x hx
    rcases hps with rfl | ⟨filename, hf, hx'⟩
    · cases hx
    rcases mem_xplaneAssetPaths (hmagic _ hrun) hx' hx with rfl | ⟨n, hn, rfl⟩
    · exact ⟨filename, makeFilename_valid hhost hf, Fs.absPath_join _ (makeFilename_valid hhost hf)⟩
    · exact ⟨n, hn, by rw [Fs.absPath_join _ hn, Fs.absPath_pathStr]⟩
  have hversion : ∃ n, ValidName n ∧
      e.fs.absPath (join runDir' CACHE_VERSION_FILE) = e.fs.absPath runDir' ++ [n] :=
    ⟨_, by decide, Fs.absPath_join _ (by decide)⟩
  have hmem := hpre.subset hc
  simp only [List.mem_cons, List.mem_singleton, List.not_mem_nil, or_false] at hmem
  rcases hmem with rfl | rfl | rfl | rfl <;> simp only [DataCall.paths, List.mem_singleton] at hp
  · exact hp ▸ hversion
  · exact hasset p hp
  · exact hasset p hp
  · exact hp ▸ hversion

/-- **The data route stays inside the logdir**: for a run name that is a relative path of names
and a host without a separator, in a logdir and with a run name without glob characters, every
path the route reads, validates, converts or writes lies in the run directory `_run_dir` returned,
and that directory lies in the logdir, by absolute path. -/
theorem dataImpl_paths_inside (e : Env) (version : String) (io : DataOracle)
    (versions : List String → Option String) (req : DataRequest) (hrun : NamesPath req.run)
    (hrun0 : req.run ≠ "") (hhost : '/' ∉ req.host.data) (hlog : hasMagic e.logdir = false)
    (hmagic : hasMagic req.run = false) :
    ∀ c ∈ (dataImpl e version io versions req).calls, ∀ p ∈ c.paths,
      ∃ runDir', runDir e req.run = .ok runDir' ∧ e.fs.absPath e.logdir <+: e.fs.absPath runDir' ∧
        e.fs.absPath runDir' <+: e.fs.absPath p := by
  intro c hc p hp
  obtain ⟨runDir', hrun', n, -, hn⟩ := dataImpl_paths_names e version io versions req hhost
    (fun _ => hasMagic_runDir hlog hmagic) c hc p hp
  exact ⟨runDir', hrun', absPath_runDir hrun hrun0 hrun', hn ▸ List.prefix_append _ _⟩

theorem dataImpl_paths_inside_sample :
    NamesPath "run1" ∧ "run1" ≠ "" ∧ '/' ∉ "host".data ∧ hasMagic Env.sample.logdir = false ∧
      hasMagic "run1" = false ∧
      ∀ c ∈ (dataImpl Env.sample "2.0" DataOracle.sample (fun _ => none)
        ⟨"run1", "trace_viewer", "host", "true", .ok ()⟩).calls, ∀ p ∈ c.paths,
        ∃ runDir', runDir Env.sample "run1" = .ok runDir' ∧
          Env.sample.fs.absPath Env.sample.logdir <+: Env.sample.fs.absPath runDir' ∧
          Env.sample.fs.absPath runDir' <+: Env.sample.fs.absPath p :=
  ⟨by decide, by decide, by decide, by decide, by decide,
    dataImpl_paths_inside Env.sample "2.0" DataOracle.sample (fun _ => none)
      ⟨"run1", "trace_viewer", "host", "true", .ok ()⟩ (by decide) (by decide) (by decide) (by decide)
      (by decide)⟩

/-- A host with a separator leaves the run directory, since `os.path.join` drops what comes
before an absolute name; a run name with `..` leaves the logdir; and the run name `*` with
`ALL_HOSTS` globs the files of every run, since the glob reads the run directory as a pattern. -/
theorem dataImpl_path_escapes :
    DataCall.validate ["/evil.xplane.pb"] ∈ (dataImpl Env.sample "2.0" DataOracle.sample (fun _ => none)
        ⟨"run1", "trace_viewer", "/evil", "true", .ok ()⟩).calls ∧
      ¬ Fs.sample.absPath "/logs" <+: Fs.sample.absPath "/evil.xplane.pb" ∧
      DataCall.readVersion "/logs/../plugins/profile/x/cache_version.txt" ∈
        (dataImpl Env.sample "2.0" DataOracle.sample (fun _ => none)
          ⟨"../x", "trace_viewer", "host", "true", .ok ()⟩).calls ∧
      ¬ Fs.sample.absPath "/logs" <+:
        Fs.sample.absPath "/logs/../plugins/profile/x/cache_version.txt" ∧
      runDir Env.sample "*" = .ok "/logs/plugins/profile/*" ∧
      DataCall.validate ["/logs/plugins/profile/run1/host.xplane.pb"] ∈
        (dataImpl Env.sample "2.0" DataOracle.sample (fun _ => none)
          ⟨"*", "trace_viewer", ALL_HOSTS, "true", .ok ()⟩).calls ∧
      ¬ Fs.sample.absPath "/logs/plugins/profile/*" <+:
        Fs.sample.absPath "/logs/plugins/profile/run1/host.xplane.pb" :=
  ⟨by decide, by decide, by decide, by decide, rfl, by decide, by decide⟩

end ProfilePlugin
