import ProfilePlugin.Resolver
import ProfilePlugin.Walk
/-
**Run discovery: `generate_runs`, the run-directory cache and `_run_dir`.**

A profile run lives in `<logdir>/<container>/plugins/profile/<profile run>`, and its frontend run
name is `<container>/<profile run>`, or just `<profile run>` for the container `.` (the logdir
itself).  `generate_runs` collects the containers — the logdir, the parent of every `train` or
`validation` run of the data provider, and every directory the walk finds with `plugins/profile`
below it — lists the profile runs of each, yields each frontend run name once, and records its
directory in `_run_to_profile_run_dir`.  `_run_dir` derives the directory of a frontend run name
again by splitting the name.

The set `tb_runs` is iterated in an order Python does not specify, so the pass is modelled for
every order of it (`ProfilePlugin.passRuns`); the collaborator `ListAssets` is a parameter, and
`ProfilePlugin.listAssets` models it from the spec.

Main definitions:

* `ProfilePlugin.Env` — what a pass reads: the filesystem, the failing listings, the logdir and the
  runs of the data provider;
* `ProfilePlugin.tbRuns` — the set `tb_runs`;
* `ProfilePlugin.visitRun`, `ProfilePlugin.passRuns`, `ProfilePlugin.generateRuns` — the pass;
* `ProfilePlugin.isActive`, `ProfilePlugin.runsImp` — `is_active` and `runs_imp` over a pass;
* `ProfilePlugin.runDir` — `_run_dir`.

Main results:

* `ProfilePlugin.runDir_frontendRun` — `_run_dir` finds the directory of `os.path.join(c, p)` again,
  for every container `c` a pass can have;
* `ProfilePlugin.generateRuns_runDir` — after a pass, every yielded name is resolved by `_run_dir`
  to its cached directory, the one checked when it was yielded;
* `ProfilePlugin.generateRuns_spec` — a pass yields each name once, only names of existing profile
  run directories, and, when no listing fails, all of them;
* `ProfilePlugin.runs_isSome` — on a filesystem tree a pass, `is_active` and `runs_imp` end.
-/

set_option autoImplicit false

namespace ProfilePlugin

/-! ### Names and directories -/

/-- `TB_NAME`. -/
def TB_NAME : String := "plugins"

/-- `PLUGIN_NAME`. -/
def PLUGIN_NAME : String := "profile"

/-- Modelled from the spec: `plugin_asset_util.PluginDirectory(logdir, plugin_name)`, which is not
under src/: the subdirectory `plugins/<plugin_name>` of a run directory. -/
def pluginDirectory (logdir pluginName : String) : String := join (join logdir "plugins") pluginName

/-- `_tb_run_directory(logdir, run)`: the logdir itself for the run `.`. -/
def tbRunDirectory (logdir run : String) : String := if run = "." then logdir else join logdir run

/-- The frontend run name of the profile run `profileRun` of the container `tbRunName`. -/
def frontendRun (tbRunName profileRun : String) : String :=
  if tbRunName = "." then profileRun else join tbRunName profileRun

/-- Modelled from the spec: `plugin_asset_util.ListAssets(run_path, plugin_name)`, which is not
under src/: the entries of `PluginDirectory(run_path, plugin_name)` with a trailing separator
stripped, and nothing when that directory does not exist or its listing fails. -/
def listAssets (fs : Fs) (faults : List String → Option Nat) (runPath pluginName : String) :
    List String :=
  match fs.resolve (pluginDirectory runPath pluginName) with
  | some d => if fs.isDirAt d ∧ faults d = none then (fs.children d).map (rstrip '/') else []
  | none => []

/-- What a pass of `generate_runs` reads: the filesystem, which listings fail, the logdir, and the
run names `data_provider.list_runs` returns. -/
structure Env where
  fs : Fs
  faults : List String → Option Nat
  logdir : String
  listRuns : List String

/-- The directory of the profile run `profileRun` of the container `tbRunName`. -/
def profileRunDir (e : Env) (tbRunName profileRun : String) : String :=
  join (pluginDirectory (tbRunDirectory e.logdir tbRunName) PLUGIN_NAME) profileRun

/-- `_run_dir(run)`: split the frontend run name into container and profile run, check that the
container's directory exists, and join the profile run to its plugin directory. -/
def runDir (e : Env) (run : String) : Except PyErr String :=
  let run := rstrip '/' run
  let tbRunName := if (split run).1 = "" then "." else (split run).1
  if e.fs.isDir (tbRunDirectory e.logdir tbRunName) then
    .ok (join (pluginDirectory (tbRunDirectory e.logdir tbRunName) PLUGIN_NAME) (split run).2)
  else .error (.runtimeError ("No matching run directory for run " ++ run))

/-- The exception of `_run_dir(None)`. -/
def noneRstrip : PyErr := .attributeError "'NoneType' object has no attribute 'rstrip'"

/-! ### The pass -/

/-- The parents the data provider's runs add to `tb_runs`: `os.path.dirname` of every run whose
`os.path.basename` is `train` or `validation`. -/
def providerRuns (runs : List String) : List String :=
  runs.foldl (fun tbRuns run =>
    if basename run ∈ ["train", "validation"] then setAdd tbRuns (dirname run) else tbRuns) []

/-- The container a walked path adds, from `*parts, second_last_dir, last_dir =
relative_path.parts`: `str(epath.Path(*parts))` when `parts` is not empty and the path ends in
`plugins/profile`; `none` also where the unpacking raises `ValueError`. -/
def containerOf (relativePath : List String) : Option String :=
  match relativePath.reverse with
  | lastDir :: secondLastDir :: parts =>
      if parts.length ≥ 1 ∧ lastDir = PLUGIN_NAME ∧ secondLastDir = TB_NAME then
        some (joinNames parts.reverse)
      else none
  | _ => none

/-- The containers the walk below the logdir adds to `tb_runs`. -/
def addWalkRuns (tbRuns : List String) (paths : List (List String)) : List String :=
  paths.foldl (fun tbRuns path =>
    match containerOf path with
    | some c => setAdd tbRuns c
    | none => tbRuns) tbRuns

/-- `tb_runs`: the parents of the provider's `train` and `validation` runs, `.`, and, when the
logdir is a directory, the container of every `plugins/profile` directory the walk finds below
it.  It is `none` only if the walk runs out of fuel, which it does not. -/
def tbRuns (e : Env) : Option (List String) :=
  let runs := setAdd (providerRuns e.listRuns) "."
  if e.fs.isDir e.logdir then
    (findAllSubdirectories e.fs e.faults ((e.fs.resolve e.logdir).getD [])).map (addWalkRuns runs)
  else some runs

/-- The state a pass updates: `visited_runs` and `_run_to_profile_run_dir`. -/
structure PassState where
  /-- `visited_runs`, in the order names were added; a name is added exactly when it is yielded,
  so this is also the sequence the pass yields. -/
  visited : List String
  /-- `_run_to_profile_run_dir`, newest write first; it outlives the pass. -/
  cache : List (String × String)

/-- One profile run of the container `tbRunName`: strip a trailing separator, and if the profile
run directory is a directory, write the cache and yield the frontend run name unless it was
yielded before. -/
def visitRun (e : Env) (tbRunName : String) (st : PassState) (profileRun : String) : PassState :=
  let profileRun := rstrip '/' profileRun
  if e.fs.isDir (profileRunDir e tbRunName profileRun) then
    ⟨setAdd st.visited (frontendRun tbRunName profileRun),
      (frontendRun tbRunName profileRun, profileRunDir e tbRunName profileRun) :: st.cache⟩
  else st

/-- `_plugin_assets(logdir, runs, plugin_name)`: each run with what `ListAssets` lists for it. -/
def pluginAssets (la : String → String → List String) (logdir : String) (runs : List String)
    (pluginName : String) : List (String × List String) :=
  runs.map fun run => (run, la (tbRunDirectory logdir run) pluginName)

/-- The loops of `generate_runs` over `plugin_assets`, with `tb_runs` iterated in `order`. -/
def passRuns (e : Env) (la : String → String → List String) (order : List String)
    (cache : List (String × String)) : PassState :=
  (pluginAssets la e.logdir order PLUGIN_NAME).foldl
    (fun st item => item.2.foldl (visitRun e item.1) st) ⟨[], cache⟩

/-- One complete pass of `generate_runs`, with the collaborator `la` for `ListAssets` and `tb_runs`
iterated in the order `arrange` gives it: Python leaves the order of a set unspecified, so the
results below hold for every `arrange` that permutes. -/
def generateRuns (e : Env) (la : String → String → List String)
    (arrange : List String → List String) (cache : List (String × String)) : Option PassState :=
  (tbRuns e).map fun runs => passRuns e la (arrange runs) cache

/-- `is_active()` with the flag `_is_active`: a set flag answers at once; otherwise
`any(self.generate_runs())` tells whether the pass yields a non-empty name.  The walk of the
logdir ends before the first name is yielded, so the whole walk runs either way. -/
def isActive (e : Env) (la : String → String → List String)
    (arrange : List String → List String) (cache : List (String × String)) (active : Bool) :
    Option Bool :=
  if active then some true
  else (generateRuns e la arrange cache).map fun st => st.visited.any (· ≠ "")

/-- `runs_imp()`: the names a pass yields, `sorted(..., reverse=True)`, and the cache after it. -/
def runsImp (e : Env) (la : String → String → List String) (arrange : List String → List String)
    (cache : List (String × String)) : Option (List String × List (String × String)) :=
  (generateRuns e la arrange cache).map fun st =>
    (st.visited.mergeSort fun a b => decide (b ≤ a), st.cache)

/-! ### `_run_dir` finds a frontend run name again -/

theorem join_empty (a : String) :
    join a "" = if a.data = [] ∨ a.data.getLast? = some '/' then a else a ++ "/" := by
  unfold join
  split_ifs <;> simp_all

theorem join_join_empty (a b : String) (hb : b.data.head? ≠ some '/') :
    join (join a "") b = join a b := by
  rw [join_empty]
  split_ifs with h
  · rfl
  · unfold join
    rw [if_neg hb, if_pos (Or.inr (by simp)), if_neg hb, if_neg h]

theorem isDir_join_empty (fs : Fs) (a : String) : fs.isDir (join a "") = fs.isDir a := by
  have hh : ("" : String).data.head? ≠ some '/' := by simp
  have hcomps : pathComps (join a "") = pathComps a := by
    rw [pathComps_join a "" hh, show pathComps "" = [] by decide, List.append_nil]
  unfold Fs.isDir
  rw [Fs.resolve_congr hcomps (isAbs_join a "" hh)]

theorem pluginDirectory_join_empty (a p : String) :
    pluginDirectory (join a "") p = pluginDirectory a p := by
  simp [pluginDirectory, join_join_empty a "plugins" (by decide)]

theorem rstrip_frontendRun {c p : String} (hp : p.data ≠ []) (hsep : '/' ∉ p.data) :
    rstrip '/' (frontendRun c p) = frontendRun c p := by
  apply rstrip_of_getLast?_ne
  unfold frontendRun
  split_ifs
  · exact fun e => hsep (List.mem_of_getLast?_eq_some e)
  · rw [getLast?_join_of_sep_not_mem _ hp hsep]
    exact fun e => hsep (List.mem_of_getLast?_eq_some e)

/-- **`_run_dir` finds the directory of a frontend run name again**, for every container that is
`.` or that `os.path.split` can return as a head, and every profile run name without a separator:
it fails exactly when the container's directory is missing, and otherwise returns the directory
the pass derived. -/
theorem runDir_frontendRun (e : Env) {c p : String} (hc : c = "." ∨ IsHead c) (hp : p.data ≠ [])
    (hsep : '/' ∉ p.data) :
    runDir e (frontendRun c p) =
      if e.fs.isDir (tbRunDirectory e.logdir c) then .ok (profileRunDir e c p)
      else .error (.runtimeError ("No matching run directory for run " ++ frontendRun c p)) := by
  have hsplit : split (frontendRun c p) = (if c = "." then "" else c, p) := by
    unfold frontendRun
    split_ifs
    · simpa [join, show p.data.head? ≠ some '/' from fun e => hsep (List.mem_of_mem_head? e)]
        using split_join (c := "") (fun e => by simp at e) hsep
    · exact split_join (hc.resolve_left ‹_›) hsep
  unfold runDir profileRunDir
  simp only [rstrip_frontendRun hp hsep, hsplit]
  by_cases hdot : c = "."
  · simp [hdot]
  by_cases hempty : c = ""
  · subst hempty
    simp [tbRunDirectory, isDir_join_empty, pluginDirectory_join_empty]
  · simp [hdot, hempty]

/-! ### Containers and their directories -/

theorem pathComps_dot : pathComps "." = [] := by decide

theorem namesPath_comps_valid {c : String} (hc : c = "." ∨ NamesPath c) :
    ∀ x ∈ pathComps c, ValidName x := by
  rcases hc with rfl | hc
  · simp [pathComps_dot]
  · exact hc.1

/-- The directory of a container that is `.` or names joined by separators has the components of
the logdir followed by those of the container. -/
theorem pathComps_tbRunDirectory (logdir : String) {c : String} (hc : c = "." ∨ NamesPath c) :
    pathComps (tbRunDirectory logdir c) = pathComps logdir ++ pathComps c ∧
      isAbs (tbRunDirectory logdir c) = isAbs logdir := by
  unfold tbRunDirectory
  rcases hc with rfl | hc
  · simp [pathComps_dot]
  · rw [if_neg hc.ne_dot]
    exact ⟨pathComps_join _ _ hc.head?_ne, isAbs_join _ _ hc.head?_ne⟩

theorem pathComps_pluginDirectory (logdir : String) {c : String} (hc : c = "." ∨ NamesPath c) :
    pathComps (pluginDirectory (tbRunDirectory logdir c) PLUGIN_NAME) =
        pathComps logdir ++ (pathComps c ++ [TB_NAME, PLUGIN_NAME]) ∧
      isAbs (pluginDirectory (tbRunDirectory logdir c) PLUGIN_NAME) = isAbs logdir := by
  obtain ⟨h1, h2⟩ := pathComps_tbRunDirectory logdir hc
  have hp : ("plugins" : String).data.head? ≠ some '/' := by decide
  have hq : PLUGIN_NAME.data.head? ≠ some '/' := by decide
  simp only [pluginDirectory, pathComps_join _ _ hp, pathComps_join _ _ hq, isAbs_join _ _ hp,
    isAbs_join _ _ hq, h1, h2, List.append_assoc]
  exact ⟨rfl, trivial⟩

theorem pathComps_profileRunDir (e : Env) {c p : String} (hc : c = "." ∨ NamesPath c)
    (hp : ValidName p) :
    pathComps (profileRunDir e c p) =
        pathComps e.logdir ++ (pathComps c ++ [TB_NAME, PLUGIN_NAME, p]) ∧
      isAbs (profileRunDir e c p) = isAbs e.logdir := by
  obtain ⟨h1, h2⟩ := pathComps_pluginDirectory e.logdir hc
  simp [profileRunDir, pathComps_join _ _ hp.head?_ne, isAbs_join _ _ hp.head?_ne, h1, h2,
    pathComps_comp hp.pathComp]

/-- A container's directory is a directory exactly when the logdir resolves to a directory with
the container's names below it. -/
theorem isDir_tbRunDirectory (e : Env) {c : String} (hc : c = "." ∨ NamesPath c) :
    e.fs.isDir (tbRunDirectory e.logdir c) ↔
      ∃ base, e.fs.resolve e.logdir = some base ∧ e.fs.isDirAt (base ++ pathComps c) :=
  Fs.isDir_iff_of_comps (namesPath_comps_valid hc) (pathComps_tbRunDirectory e.logdir hc).1
    (pathComps_tbRunDirectory e.logdir hc).2

theorem profileComps_valid {c p : String} (hc : c = "." ∨ NamesPath c) (hp : ValidName p) :
    ∀ x ∈ pathComps c ++ [TB_NAME, PLUGIN_NAME, p], ValidName x := by
  intro x hx
  simp only [List.mem_append, List.mem_cons, List.mem_singleton, List.not_mem_nil, or_false] at hx
  rcases hx with hx | rfl | rfl | rfl
  · exact namesPath_comps_valid hc x hx
  · decide
  · decide
  · exact hp

theorem isDir_profileRunDir (e : Env) {c p : String} (hc : c = "." ∨ NamesPath c)
    (hp : ValidName p) :
    e.fs.isDir (profileRunDir e c p) ↔ ∃ base, e.fs.resolve e.logdir = some base ∧
      e.fs.isDirAt (base ++ (pathComps c ++ [TB_NAME, PLUGIN_NAME, p])) :=
  Fs.isDir_iff_of_comps (profileComps_valid hc hp) (pathComps_profileRunDir e hc hp).1
    (pathComps_profileRunDir e hc hp).2

/-- The absolute path of a profile run directory: the logdir's, then the container's names, the
plugin directory and the profile run. -/
theorem absPath_profileRunDir (e : Env) {c p : String} (hc : c = "." ∨ NamesPath c)
    (hp : ValidName p) :
    e.fs.absPath (profileRunDir e c p) =
      e.fs.absPath e.logdir ++ (pathComps c ++ [TB_NAME, PLUGIN_NAME, p]) :=
  Fs.absPath_of_comps (profileComps_valid hc hp) (pathComps_profileRunDir e hc hp).1
    (pathComps_profileRunDir e hc hp).2

theorem frontendRun_eq_joinNames {c p : String} (hc : c = "." ∨ NamesPath c) (hp : ValidName p) :
    frontendRun c p = joinNames (pathComps c ++ [p]) := by
  rcases hc with rfl | hc
  · simp [frontendRun, pathComps_dot, joinNames, join, hp.head?_ne]
  · rw [frontendRun, if_neg hc.ne_dot, joinNames_concat, hc.2]

/-! ### The containers of `tb_runs` -/

theorem mem_providerRuns {runs : List String} {c : String} :
    c ∈ providerRuns runs ↔
      ∃ run ∈ runs, basename run ∈ ["train", "validation"] ∧ c = dirname run := by
  unfold providerRuns
  rw [mem_foldl_of_step (P := fun run c => basename run ∈ ["train", "validation"] ∧ c = dirname run)]
  · simp
  · intro s run c; split_ifs with h <;> simp [h]

theorem mem_addWalkRuns {s : List String} {paths : List (List String)} {c : String} :
    c ∈ addWalkRuns s paths ↔ c ∈ s ∨ ∃ path ∈ paths, containerOf path = some c := by
  unfold addWalkRuns
  refine mem_foldl_of_step (P := fun path c => containerOf path = some c) (fun s path c => ?_) paths s c
  cases hc : containerOf path <;> simp [hc, eq_comm]

theorem containerOf_append {qs : List String} (h : qs ≠ []) :
    containerOf (qs ++ [TB_NAME, PLUGIN_NAME]) = some (joinNames qs) := by
  have hrev : (qs ++ [TB_NAME, PLUGIN_NAME]).reverse = PLUGIN_NAME :: TB_NAME :: qs.reverse := by
    simp
  simp [containerOf, hrev, Nat.one_le_iff_ne_zero, h]

theorem containerOf_eq_some {path : List String} {c : String} (h : containerOf path = some c) :
    ∃ qs, path = qs ++ [TB_NAME, PLUGIN_NAME] ∧ c = joinNames qs := by
  unfold containerOf at h
  split at h
  · rename_i lastDir secondLastDir parts hrev
    split_ifs at h with hc
    obtain ⟨-, rfl, rfl⟩ := hc
    refine ⟨parts.reverse, ?_, (Option.some.inj h).symm⟩
    rw [← List.reverse_reverse path, hrev]; simp
  · cases h

theorem tbRuns_isSome (e : Env) : (tbRuns e).isSome := by
  unfold tbRuns
  split_ifs
  · exact Option.isSome_map'.trans (findAllSubdirectories_isSome _ _ _)
  · rfl

/-- **On a filesystem tree a pass, `is_active` and `runs_imp` end.** -/
theorem runs_isSome (e : Env) (la : String → String → List String)
    (arrange : List String → List String) (cache : List (String × String)) (active : Bool) :
    (generateRuns e la arrange cache).isSome ∧ (isActive e la arrange cache active).isSome ∧
      (runsImp e la arrange cache).isSome := by
  have h : (generateRuns e la arrange cache).isSome := Option.isSome_map'.trans (tbRuns_isSome e)
  refine ⟨h, ?_, Option.isSome_map'.trans h⟩
  unfold isActive
  split_ifs
  exacts [rfl, Option.isSome_map'.trans h]

theorem mem_tbRuns_iff {e : Env} {runs : List String} (h : tbRuns e = some runs) {c : String} :
    c ∈ runs ↔ c = "." ∨ c ∈ providerRuns e.listRuns ∨
      (e.fs.isDir e.logdir ∧ ∃ out, findAllSubdirectories e.fs e.faults
        ((e.fs.resolve e.logdir).getD []) = some out ∧ ∃ path ∈ out, containerOf path = some c) := by
  unfold tbRuns at h
  split_ifs at h with hdir
  · obtain ⟨out, hout, rfl⟩ := Option.map_eq_some'.1 h
    simp [mem_addWalkRuns, hdir, hout, or_comm, or_assoc]
  · cases h; simp [hdir, or_comm]

/-- Every container of `tb_runs` is `.`, the parent of a provider run, or names joined by
separators. -/
theorem tbRuns_container {e : Env} {runs : List String} (h : tbRuns e = some runs) {c : String}
    (hc : c ∈ runs) :
    c = "." ∨ (∃ run ∈ e.listRuns, basename run ∈ ["train", "validation"] ∧ c = dirname run) ∨
      ∃ qs, (∀ x ∈ qs, ValidName x) ∧ c = joinNames qs := by
  rcases (mem_tbRuns_iff h).1 hc with hc | hc | ⟨-, out, hout, path, hpath, hcp⟩
  · exact .inl hc
  · exact .inr (.inl (mem_providerRuns.1 hc))
  · obtain ⟨qs, rfl, rfl⟩ := containerOf_eq_some hcp
    have hv := (findAllSubdirectories_sound hout hpath).2
    exact .inr (.inr ⟨qs, fun x hx => hv x (List.mem_append_left _ hx), rfl⟩)

theorem tbRuns_isHead {e : Env} {runs : List String} (h : tbRuns e = some runs) {c : String}
    (hc : c ∈ runs) : c = "." ∨ IsHead c := by
  rcases tbRuns_container h hc with hc | ⟨run, -, -, rfl⟩ | ⟨qs, hqs, rfl⟩
  · exact .inl hc
  · exact .inr (isHead_dirname run)
  · exact .inr (isHead_joinNames hqs)

/-- The containers of `tb_runs` are `.` or relative paths of names, when the data provider's runs
are: its root run `.` adds none, since its base name is `.`. -/
theorem tbRuns_namesPath {e : Env} (hruns : ∀ run ∈ e.listRuns, run = "." ∨ NamesPath run)
    {runs : List String} (h : tbRuns e = some runs) {c : String} (hc : c ∈ runs) :
    c = "." ∨ NamesPath c := by
  rcases tbRuns_container h hc with hc | ⟨run, hrun, hbase, rfl⟩ | ⟨qs, hqs, rfl⟩
  · exact .inl hc
  · rcases hruns run hrun with rfl | hn
    · exact absurd hbase (by decide)
    · exact .inr hn.dirname
  · exact .inr (namesPath_joinNames hqs)

/-- **Without failing listings the walk finds every container**: the names above every
`plugins/profile` directory below the logdir are in `tb_runs`. -/
theorem joinNames_mem_tbRuns {e : Env} {runs : List String} (h : tbRuns e = some runs)
    (hf : ∀ d, e.faults d = none) {base qs : List String}
    (hbase : e.fs.resolve e.logdir = some base) (hqs : qs ≠ [])
    (hd : e.fs.isDirAt (base ++ (qs ++ [TB_NAME, PLUGIN_NAME]))) : joinNames qs ∈ runs := by
  have hdir : e.fs.isDir e.logdir := by simp [Fs.isDir, hbase, Fs.isDirAt_of_append hd]
  obtain ⟨out, hout⟩ := Option.isSome_iff_exists.1
    (findAllSubdirectories_isSome e.fs e.faults ((e.fs.resolve e.logdir).getD []))
  refine (mem_tbRuns_iff h).2 (.inr (.inr ⟨hdir, out, hout, _, ?_, containerOf_append hqs⟩))
  rw [hbase, Option.getD_some] at hout
  exact findAllSubdirectories_complete hf (Fs.isDirAt_of_append hd) hout hd

/-- The container name of the names `qs` below the logdir: `.` for none. -/
def containerName (qs : List String) : String := if qs = [] then "." else joinNames qs

section ContainerName

variable {qs : List String} (hqs : ∀ x ∈ qs, ValidName x)
include hqs

theorem containerName_namesPath : containerName qs = "." ∨ NamesPath (containerName qs) := by
  unfold containerName; split_ifs
  · exact .inl rfl
  · exact .inr (namesPath_joinNames hqs)

theorem pathComps_containerName : pathComps (containerName qs) = qs := by
  unfold containerName; split_ifs with h
  · rw [h, pathComps_dot]
  · exact pathComps_joinNames hqs

theorem frontendRun_containerName {p : String} (hp : ValidName p) :
    frontendRun (containerName qs) p = joinNames (qs ++ [p]) := by
  rw [frontendRun_eq_joinNames (containerName_namesPath hqs) hp, pathComps_containerName hqs]

theorem runDir_containerName (e : Env) {p : String} (hp : ValidName p) :
    runDir e (frontendRun (containerName qs) p) =
      if e.fs.isDir (tbRunDirectory e.logdir (containerName qs)) then
        .ok (profileRunDir e (containerName qs) p)
      else .error (.runtimeError
        ("No matching run directory for run " ++ frontendRun (containerName qs) p)) :=
  runDir_frontendRun e ((containerName_namesPath hqs).imp_right
    fun h : NamesPath (containerName qs) => h.2 ▸ isHead_joinNames h.1) hp.1 hp.2.1

end ContainerName

/-- A non-empty run name of names is the frontend run name of its last name in the container of
the others. -/
theorem NamesPath.exists_container {r : String} (hr : NamesPath r) (hr0 : r ≠ "") :
    ∃ qs p, (∀ x ∈ qs, ValidName x) ∧ ValidName p ∧ pathComps r = qs ++ [p] ∧
      r = frontendRun (containerName qs) p := by
  obtain ⟨qs, p, hcomps⟩ := (List.eq_nil_or_concat (pathComps r)).resolve_left
    fun h => hr0 (by rw [← hr.2, h]; rfl)
  rw [List.concat_eq_append] at hcomps
  have hv : ∀ x ∈ qs ++ [p], ValidName x := hcomps ▸ hr.1
  have hqs : ∀ x ∈ qs, ValidName x := fun x hx => hv x (List.mem_append_left _ hx)
  have hp : ValidName p := hv p (by simp)
  exact ⟨qs, p, hqs, hp, hcomps, by rw [frontendRun_containerName hqs hp, ← hcomps, hr.2]⟩

/-- The run directory `_run_dir` gives for a run name of names lies in the logdir. -/
theorem absPath_runDir {e : Env} {r d : String} (hr : NamesPath r) (hr0 : r ≠ "")
    (h : runDir e r = .ok d) : e.fs.absPath e.logdir <+: e.fs.absPath d := by
  obtain ⟨qs, q, hqs, hq, -, rfl⟩ := hr.exists_container hr0
  rw [runDir_containerName hqs e hq] at h
  split_ifs at h
  cases h
  rw [absPath_profileRunDir e (containerName_namesPath hqs) hq]
  exact List.prefix_append _ _

theorem containerName_mem_tbRuns {e : Env} {runs : List String} (h : tbRuns e = some runs)
    (hf : ∀ d, e.faults d = none) {base qs : List String}
    (hbase : e.fs.resolve e.logdir = some base)
    (hd : e.fs.isDirAt (base ++ (qs ++ [TB_NAME, PLUGIN_NAME]))) : containerName qs ∈ runs := by
  unfold containerName; split_ifs with hqs
  · exact (mem_tbRuns_iff h).2 (.inl rfl)
  · exact joinNames_mem_tbRuns h hf hbase hqs hd

/-! ### `ListAssets` -/

theorem listAssets_valid {fs : Fs} {faults : List String → Option Nat} {runPath pluginName q : String}
    (h : q ∈ listAssets fs faults runPath pluginName) : ValidName q := by
  unfold listAssets at h
  split at h
  · split_ifs at h
    · obtain ⟨ch, hch, rfl⟩ := List.mem_map.1 h
      rw [(Fs.children_valid hch).rstrip_eq]; exact Fs.children_valid hch
    · cases h
  · cases h

theorem listAssets_visitable {fs : Fs} {faults : List String → Option Nat}
    {runPath pluginName q : String} (h : q ∈ listAssets fs faults runPath pluginName) :
    (rstrip '/' q).data ≠ [] ∧ '/' ∉ (rstrip '/' q).data := by
  have hq := listAssets_valid h
  rw [hq.rstrip_eq]; exact ⟨hq.1, hq.2.1⟩

/-- Without a failing listing, `ListAssets` lists every directory in the plugin directory. -/
theorem mem_listAssets {fs : Fs} {faults : List String → Option Nat} {runPath pluginName : String}
    {d : List String} {p : String} (hres : fs.resolve (pluginDirectory runPath pluginName) = some d)
    (hf : faults d = none) (hd : fs.isDirAt (d ++ [p])) :
    p ∈ listAssets fs faults runPath pluginName := by
  have hnode : (d ++ [p], Kind.dir) ∈ fs.nodes := by simpa [Fs.isDirAt] using hd
  have hp : ValidName p := fs.names_valid _ hnode p (by simp)
  simp only [listAssets, hres, Fs.isDirAt_of_append hd, hf, and_self, if_true]
  exact List.mem_map.2 ⟨p, Fs.mem_children_of_isDirAt hnode, hp.rstrip_eq⟩

/-! ### The pass keeps the cache consistent with `_run_dir` -/

/-- `_run_dir` of a frontend run name whose profile run directory exists is that directory. -/
theorem runDir_profileRunDir (e : Env) {c p : String} (hc : c = "." ∨ IsHead c) (hp : p.data ≠ [])
    (hsep : '/' ∉ p.data) (hdir : e.fs.isDir (profileRunDir e c p)) :
    runDir e (frontendRun c p) = .ok (profileRunDir e c p) := by
  have hp' : p.data.head? ≠ some '/' := fun h => hsep (List.mem_of_mem_head? h)
  rw [runDir_frontendRun e hc hp hsep, if_pos]
  exact Fs.isDir_of_isDir_join
    (Fs.isDir_of_isDir_join (Fs.isDir_of_isDir_join hdir hp') (by decide)) (by decide)

/-- The pairs of container and listed profile run the pass visits, in order. -/
def passItems (e : Env) (la : String → String → List String) (order : List String) :
    List (String × String) :=
  order.flatMap fun c => (la (tbRunDirectory e.logdir c) PLUGIN_NAME).map (c, ·)

theorem mem_passItems {e : Env} {la : String → String → List String} {order : List String}
    {c q : String} :
    (c, q) ∈ passItems e la order ↔ c ∈ order ∧ q ∈ la (tbRunDirectory e.logdir c) PLUGIN_NAME := by
  simp [passItems]

theorem passRuns_eq_foldl (e : Env) (la : String → String → List String) (order : List String)
    (cache : List (String × String)) :
    passRuns e la order cache =
      (passItems e la order).foldl (fun st x => visitRun e x.1 st x.2) ⟨[], cache⟩ := by
  unfold passRuns pluginAssets passItems
  generalize (⟨[], cache⟩ : PassState) = st
  induction order generalizing st with
  | nil => rfl
  | cons c order ih => simp [List.flatMap_cons, List.foldl_append, List.foldl_map, ih]

/-- What the state says after the pass has visited the pairs `done`: `visited_runs` holds, once
each, the frontend run names of the pairs whose directory exists, and the cache maps each of them
to an existing directory, the one `_run_dir` derives for it. -/
structure PassInv (e : Env) (done : List (String × String)) (st : PassState) : Prop where
  nodup : st.visited.Nodup
  mem_visited : ∀ r, r ∈ st.visited ↔ ∃ x ∈ done,
    frontendRun x.1 (rstrip '/' x.2) = r ∧ e.fs.isDir (profileRunDir e x.1 (rstrip '/' x.2))
  cache : ∀ r ∈ st.visited, ∃ d, st.cache.lookup r = some d ∧ runDir e r = .ok d ∧ e.fs.isDir d

/-- A pair the pass can visit: the container is `.` or a head of `os.path.split`, and the profile
run, stripped, is a non-empty name without a separator. -/
def Visitable (x : String × String) : Prop :=
  (x.1 = "." ∨ IsHead x.1) ∧ (rstrip '/' x.2).data ≠ [] ∧ '/' ∉ (rstrip '/' x.2).data

theorem PassInv.init (e : Env) (cache : List (String × String)) : PassInv e [] ⟨[], cache⟩ :=
  ⟨List.nodup_nil, by simp, by simp⟩

/-- **One profile run keeps the invariant**: a cache write for a name already yielded writes the
directory `_run_dir` derives, which is the one written before. -/
theorem PassInv.visit {e : Env} {done : List (String × String)} {st : PassState}
    {x : String × String} (h : PassInv e done st) (hx : Visitable x) :
    PassInv e (done ++ [x]) (visitRun e x.1 st x.2) := by
  obtain ⟨hc, hp, hsep⟩ := hx
  have hmem : ∀ r, (∃ y ∈ done ++ [x], frontendRun y.1 (rstrip '/' y.2) = r ∧
      e.fs.isDir (profileRunDir e y.1 (rstrip '/' y.2))) ↔ r ∈ st.visited ∨
      (frontendRun x.1 (rstrip '/' x.2) = r ∧ e.fs.isDir (profileRunDir e x.1 (rstrip '/' x.2))) := by
    intro r; simp [h.mem_visited, or_and_right, exists_or]
  dsimp only [visitRun]
  split_ifs with hdir
  · refine ⟨nodup_setAdd h.nodup _, fun r => ?_, fun r hr => ?_⟩
    · rw [hmem, mem_setAdd]; simp [hdir, eq_comm]
    · by_cases hr' : r = frontendRun x.1 (rstrip '/' x.2)
      · subst hr'
        exact ⟨_, by simp [List.lookup_cons], runDir_profileRunDir e hc hp hsep hdir, hdir⟩
      · obtain ⟨d, h1, h2, h3⟩ := h.cache r ((mem_setAdd.1 hr).resolve_right hr')
        exact ⟨d, by simp [List.lookup_cons, beq_false_of_ne hr', h1], h2, h3⟩
  · exact ⟨h.nodup, fun r => by rw [hmem]; simp [hdir], h.cache⟩

/-- The invariant holds over every run of the loop. -/
theorem PassInv.foldl {e : Env} {items done : List (String × String)} {st : PassState}
    (h : PassInv e done st) (hitems : ∀ x ∈ items, Visitable x) :
    PassInv e (done ++ items) (items.foldl (fun st x => visitRun e x.1 st x.2) st) := by
  induction items generalizing done st with
  | nil => simpa using h
  | cons x items ih =>
      simpa using ih (h.visit (hitems x (List.mem_cons_self _ _)))
        fun y hy => hitems y (List.mem_cons_of_mem _ hy)

/-- A complete pass over `tb_runs`, in any order, ends with the invariant over all it visited. -/
theorem generateRuns_inv (e : Env) (la : String → String → List String)
    (hla : ∀ runPath pluginName, ∀ q ∈ la runPath pluginName,
      (rstrip '/' q).data ≠ [] ∧ '/' ∉ (rstrip '/' q).data)
    {arrange : List String → List String} (harr : ∀ l, (arrange l).Perm l)
    (cache : List (String × String)) {runs : List String} (hruns : tbRuns e = some runs) :
    generateRuns e la arrange cache = some (passRuns e la (arrange runs) cache) ∧
      PassInv e (passItems e la (arrange runs)) (passRuns e la (arrange runs) cache) := by
  refine ⟨by simp [generateRuns, hruns], ?_⟩
  have hitems : ∀ x ∈ passItems e la (arrange runs), Visitable x := fun x hx => by
    have hx' := mem_passItems.1 (show (x.1, x.2) ∈ _ from hx)
    exact ⟨tbRuns_isHead hruns ((harr runs).subset hx'.1), hla _ _ _ hx'.2⟩
  rw [passRuns_eq_foldl]
  simpa using (PassInv.init e cache).foldl hitems

/-! ### What a pass yields, and `_run_dir` on it -/

/-- **Without failing listings the pass yields every profile run**: the name of every directory
`<logdir>/<qs>/plugins/profile/<p>`, for containers `qs` at every depth. -/
theorem joinNames_mem_passRuns {e : Env} (hf : ∀ d, e.faults d = none)
    {arrange : List String → List String} (harr : ∀ l, (arrange l).Perm l)
    (cache : List (String × String)) {runs : List String} (hruns : tbRuns e = some runs)
    {base qs : List String} {p : String} (hbase : e.fs.resolve e.logdir = some base)
    (hd : e.fs.isDirAt (base ++ (qs ++ [TB_NAME, PLUGIN_NAME, p]))) :
    joinNames (qs ++ [p]) ∈ (passRuns e (listAssets e.fs e.faults) (arrange runs) cache).visited := by
  have hv := Fs.valid_of_isDirAt hd
  have hqs : ∀ x ∈ qs, ValidName x := fun x hx => hv x (by simp [hx])
  have hp : ValidName p := hv p (by simp)
  have hcn := containerName_namesPath hqs
  have hcomps := pathComps_containerName hqs
  have hplug : e.fs.isDirAt (base ++ (qs ++ [TB_NAME, PLUGIN_NAME])) :=
    Fs.isDirAt_of_append (r := [p]) (by simpa using hd)
  have hres := Fs.resolve_of_comps hbase hplug
    (fun x hx => Fs.valid_of_isDirAt hplug x (List.mem_append_right _ hx))
    ((pathComps_pluginDirectory e.logdir hcn).1.trans (by rw [hcomps]))
    (pathComps_pluginDirectory e.logdir hcn).2
  have hq : p ∈ listAssets e.fs e.faults (tbRunDirectory e.logdir (containerName qs)) PLUGIN_NAME :=
    mem_listAssets hres (hf _) (by simpa using hd)
  have hdir : e.fs.isDir (profileRunDir e (containerName qs) p) :=
    (isDir_profileRunDir e hcn hp).2 ⟨base, hbase, by rw [hcomps]; exact hd⟩
  have hinv := (generateRuns_inv e (listAssets e.fs e.faults) (fun _ _ _ hq => listAssets_visitable hq) harr cache hruns).2
  rw [← frontendRun_containerName hqs hp]
  refine (hinv.mem_visited _).2 ⟨(containerName qs, p), mem_passItems.2
    ⟨(harr runs).symm.subset (containerName_mem_tbRuns hruns hf hbase hplug), hq⟩, ?_⟩
  simp [hp.rstrip_eq, hdir]

/-- **A pass of `generate_runs` yields each frontend run name once; it yields only the names
`<container>/<profile run>` of existing directories `<logdir>/<container>/plugins/profile/<profile
run>`; and when no listing fails it yields all of them, for containers at every depth** — for
every order of `tb_runs`, and every list of run names of the data provider that are TensorBoard's
root run `.` or relative paths of names. -/
theorem generateRuns_spec (e : Env) (hprov : ∀ run ∈ e.listRuns, run = "." ∨ NamesPath run)
    (arrange : List String → List String) (harr : ∀ l, (arrange l).Perm l)
    (cache : List (String × String)) :
    ∃ st, generateRuns e (listAssets e.fs e.faults) arrange cache = some st ∧ st.visited.Nodup ∧
      (∀ r ∈ st.visited, ∃ qs p base, r = joinNames (qs ++ [p]) ∧
        e.fs.resolve e.logdir = some base ∧ e.fs.isDirAt (base ++ qs ++ [TB_NAME, PLUGIN_NAME, p])) ∧
      ((∀ d, e.faults d = none) → ∀ qs p base, e.fs.resolve e.logdir = some base →
        e.fs.isDirAt (base ++ qs ++ [TB_NAME, PLUGIN_NAME, p]) →
          joinNames (qs ++ [p]) ∈ st.visited) := by
  obtain ⟨runs, hruns⟩ := Option.isSome_iff_exists.1 (tbRuns_isSome e)
  obtain ⟨hgen, hinv⟩ :=
    generateRuns_inv e (listAssets e.fs e.faults) (fun _ _ _ hq => listAssets_visitable hq) harr cache hruns
  refine ⟨_, hgen, hinv.nodup, fun r hr => ?_, fun hf qs p base hbase hd => ?_⟩
  · obtain ⟨⟨c, q⟩, hx, rfl, hdir⟩ := (hinv.mem_visited r).1 hr
    obtain ⟨hc, hq⟩ := mem_passItems.1 hx
    have hcn := tbRuns_namesPath hprov hruns ((harr runs).subset hc)
    have hqv := listAssets_valid hq
    simp only [hqv.rstrip_eq] at hdir ⊢
    obtain ⟨base, hbase, hd⟩ := (isDir_profileRunDir e hcn hqv).1 hdir
    exact ⟨pathComps c, q, base, frontendRun_eq_joinNames hcn hqv, hbase, by simpa using hd⟩
  · exact joinNames_mem_passRuns hf harr cache hruns hbase (by simpa using hd)

theorem generateRuns_spec_sample :
    (∀ run ∈ [".", "train"], run = "." ∨ NamesPath run) ∧ (∀ l : List String, (id l).Perm l) ∧
      ∃ st, generateRuns ⟨Fs.sample, fun _ => none, "/logs", [".", "train"]⟩
          (listAssets Fs.sample fun _ => none) id [] = some st ∧ st.visited.Nodup ∧
        (∀ r ∈ st.visited, ∃ qs p base, r = joinNames (qs ++ [p]) ∧
          Fs.sample.resolve "/logs" = some base ∧
          Fs.sample.isDirAt (base ++ qs ++ [TB_NAME, PLUGIN_NAME, p])) ∧
        ((List String → (none : Option Nat) = none) → ∀ qs p base,
          Fs.sample.resolve "/logs" = some base →
          Fs.sample.isDirAt (base ++ qs ++ [TB_NAME, PLUGIN_NAME, p]) →
            joinNames (qs ++ [p]) ∈ st.visited) :=
  ⟨by decide, fun l => .refl l,
    generateRuns_spec ⟨Fs.sample, fun _ => none, "/logs", [".", "train"]⟩ (by decide) id
      (fun l => .refl l) []⟩

/-- **After a pass, `_run_dir` agrees with the cache on every yielded name**: it returns without
raising the directory cached for the name, which is the existing directory checked when the name
was yielded; and every pair of container and profile run of the pass that gives the same name and
an existing directory gives that same directory, so no cache write of the pass replaces it by
another.  This holds for every order of `tb_runs`, every run list of the data provider, and every
`ListAssets` whose names, stripped, are non-empty and have no separator. -/
theorem generateRuns_runDir (e : Env) (la : String → String → List String)
    (hla : ∀ runPath pluginName, ∀ q ∈ la runPath pluginName,
      (rstrip '/' q).data ≠ [] ∧ '/' ∉ (rstrip '/' q).data)
    (arrange : List String → List String) (harr : ∀ l, (arrange l).Perm l)
    (cache : List (String × String)) :
    ∃ runs st, tbRuns e = some runs ∧ generateRuns e la arrange cache = some st ∧
      ∀ r ∈ st.visited, ∃ d, st.cache.lookup r = some d ∧ runDir e r = .ok d ∧
        (∃ c ∈ runs, ∃ q ∈ la (tbRunDirectory e.logdir c) PLUGIN_NAME,
          frontendRun c (rstrip '/' q) = r ∧ profileRunDir e c (rstrip '/' q) = d ∧ e.fs.isDir d) ∧
        ∀ c ∈ runs, ∀ q ∈ la (tbRunDirectory e.logdir c) PLUGIN_NAME,
          frontendRun c (rstrip '/' q) = r → e.fs.isDir (profileRunDir e c (rstrip '/' q)) →
            profileRunDir e c (rstrip '/' q) = d := by
  obtain ⟨runs, hruns⟩ := Option.isSome_iff_exists.1 (tbRuns_isSome e)
  obtain ⟨hgen, hinv⟩ := generateRuns_inv e la hla harr cache hruns
  have hocc : ∀ c ∈ runs, ∀ q ∈ la (tbRunDirectory e.logdir c) PLUGIN_NAME,
      e.fs.isDir (profileRunDir e c (rstrip '/' q)) →
        runDir e (frontendRun c (rstrip '/' q)) = .ok (profileRunDir e c (rstrip '/' q)) :=
    fun c hc q hq => runDir_profileRunDir e (tbRuns_isHead hruns hc) (hla _ _ q hq).1 (hla _ _ q hq).2
  refine ⟨runs, _, hruns, hgen, fun r hr => ?_⟩
  obtain ⟨d, hlookup, hrun, hd⟩ := hinv.cache r hr
  obtain ⟨⟨c, q⟩, hx, rfl, hdir⟩ := (hinv.mem_visited _).1 hr
  obtain ⟨hc, hq⟩ := mem_passItems.1 hx
  have hc' := (harr runs).subset hc
  refine ⟨d, hlookup, hrun, ⟨c, hc', q, hq, rfl, ?_, hd⟩, fun c' hc'' q' hq' hr' hdir' => ?_⟩
  · exact Except.ok.inj ((hocc c hc' q hq hdir).symm.trans hrun)
  · exact Except.ok.inj (by rw [← hocc c' hc'' q' hq' hdir', hr', hrun])

theorem generateRuns_runDir_sample :
    (∀ runPath pluginName, ∀ q ∈ listAssets Fs.sample (fun _ => none) runPath pluginName,
      (rstrip '/' q).data ≠ [] ∧ '/' ∉ (rstrip '/' q).data) ∧ (∀ l : List String, (id l).Perm l) ∧
    ∃ runs st, tbRuns ⟨Fs.sample, fun _ => none, "/logs", []⟩ = some runs ∧
      generateRuns ⟨Fs.sample, fun _ => none, "/logs", []⟩ (listAssets Fs.sample fun _ => none) id
        [] = some st ∧
      ∀ r ∈ st.visited, ∃ d, st.cache.lookup r = some d ∧
        runDir ⟨Fs.sample, fun _ => none, "/logs", []⟩ r = .ok d ∧
        (∃ c ∈ runs, ∃ q ∈ listAssets Fs.sample (fun _ => none) (tbRunDirectory "/logs" c) PLUGIN_NAME,
          frontendRun c (rstrip '/' q) = r ∧
          profileRunDir ⟨Fs.sample, fun _ => none, "/logs", []⟩ c (rstrip '/' q) = d ∧
          Fs.sample.isDir d) ∧
        ∀ c ∈ runs, ∀ q ∈ listAssets Fs.sample (fun _ => none) (tbRunDirectory "/logs" c) PLUGIN_NAME,
          frontendRun c (rstrip '/' q) = r →
          Fs.sample.isDir (profileRunDir ⟨Fs.sample, fun _ => none, "/logs", []⟩ c (rstrip '/' q)) →
            profileRunDir ⟨Fs.sample, fun _ => none, "/logs", []⟩ c (rstrip '/' q) = d :=
  ⟨fun _ _ _ hq => listAssets_visitable hq, fun l => .refl l,
    generateRuns_runDir ⟨Fs.sample, fun _ => none, "/logs", []⟩ _
      (fun _ _ _ hq => listAssets_visitable hq) id (fun l => .refl l) []⟩

/-- **`_run_dir` returns an existing directory exactly for the names a pass yields**, for every
run name that is a relative path of names and every filesystem whose listings do not fail; it
raises exactly when the directory of the name's container is missing, and then with the message
`No matching run directory for run <name>`.  Under an existing container it returns the path of
any profile run name, whether or not that directory exists. -/
theorem runDir_isDir_iff_yielded (e : Env) (hf : ∀ d, e.faults d = none)
    (arrange : List String → List String) (harr : ∀ l, (arrange l).Perm l)
    (cache : List (String × String)) {r : String} (hr : NamesPath r) (hr0 : r ≠ "") :
    ∃ st, generateRuns e (listAssets e.fs e.faults) arrange cache = some st ∧
      ((∃ d, runDir e r = .ok d ∧ e.fs.isDir d) ↔ r ∈ st.visited) ∧
      ((∃ err, runDir e r = .error err) ↔
        ¬ ∃ base, e.fs.resolve e.logdir = some base ∧
          e.fs.isDirAt (base ++ (pathComps r).dropLast)) ∧
      ∀ err, runDir e r = .error err →
        err = .runtimeError ("No matching run directory for run " ++ r) := by
  obtain ⟨runs, hruns⟩ := Option.isSome_iff_exists.1 (tbRuns_isSome e)
  obtain ⟨hgen, hinv⟩ := generateRuns_inv e (listAssets e.fs e.faults)
    (fun _ _ _ hq => listAssets_visitable hq) harr cache hruns
  obtain ⟨qs, p, hqs, hp, hcomps, hrc⟩ := hr.exists_container hr0
  have hcn := containerName_namesPath hqs
  have hrun := runDir_containerName hqs e hp
  rw [← hrc] at hrun
  refine ⟨_, hgen, ⟨?_, fun hmem => (hinv.cache r hmem).imp fun d h => h.2⟩, ?_, ?_⟩
  · rintro ⟨d, hd, hdir⟩
    rw [hrun] at hd
    split_ifs at hd
    cases hd
    obtain ⟨base, hbase, hdb⟩ := (isDir_profileRunDir e hcn hp).1 hdir
    rw [pathComps_containerName hqs] at hdb
    have := joinNames_mem_passRuns hf harr cache hruns hbase hdb
    rwa [← frontendRun_containerName hqs hp, ← hrc] at this
  · rw [hcomps, List.dropLast_concat, ← pathComps_containerName hqs, ← isDir_tbRunDirectory e hcn,
      hrun]
    split_ifs with h <;> simp [h]
  · intro err h
    rw [hrun] at h
    split_ifs at h
    cases h; rfl

theorem runDir_isDir_iff_yielded_sample :
    (List String → (none : Option Nat) = none) ∧ (∀ l : List String, (id l).Perm l) ∧
      NamesPath "run1" ∧ "run1" ≠ "" ∧
    ∃ st, generateRuns ⟨Fs.sample, fun _ => none, "/logs", []⟩ (listAssets Fs.sample fun _ => none)
        id [] = some st ∧
      ((∃ d, runDir ⟨Fs.sample, fun _ => none, "/logs", []⟩ "run1" = .ok d ∧ Fs.sample.isDir d) ↔
        "run1" ∈ st.visited) ∧
      ((∃ err, runDir ⟨Fs.sample, fun _ => none, "/logs", []⟩ "run1" = .error err) ↔
        ¬ ∃ base, Fs.sample.resolve "/logs" = some base ∧
          Fs.sample.isDirAt (base ++ (pathComps "run1").dropLast)) ∧
      ∀ err, runDir ⟨Fs.sample, fun _ => none, "/logs", []⟩ "run1" = .error err →
        err = .runtimeError ("No matching run directory for run " ++ "run1") :=
  ⟨fun _ => rfl, fun l => .refl l, by decide, by decide,
    runDir_isDir_iff_yielded ⟨Fs.sample, fun _ => none, "/logs", []⟩ (fun _ => rfl) id
      (fun l => .refl l) [] (by decide) (by decide)⟩

/-- `_run_dir` returns a path for a run that no pass yields, and that is not a directory: only the
container's directory is checked. -/
theorem runDir_unknown_run :
    runDir ⟨Fs.sample, fun _ => none, "/logs", []⟩ "run2" = .ok "/logs/plugins/profile/run2" ∧
      Fs.sample.isDir "/logs/plugins/profile/run2" = false ∧
      (generateRuns ⟨Fs.sample, fun _ => none, "/logs", []⟩ (listAssets Fs.sample fun _ => none) id
        []).map PassState.visited = some ["run1"] :=
  ⟨rfl, rfl, rfl⟩

end ProfilePlugin
