import ProfilePlugin.Data
/-
**The plugin object over a sequence of requests.**

One `ProfilePlugin` object serves every request of a TensorBoard server.  Between requests it
keeps `_is_active`, which caches a positive answer of `is_active` for good, and
`_run_to_profile_run_dir`, the map from frontend run names to profile run directories that every
pass of `generate_runs` writes and `generate_tools_of_run` reads.  `host_impl`, `data_impl` and
`hlo_module_list_impl` do not read the map: they derive the directory from the name again with
`_run_dir`.  Between two requests the filesystem, the runs of the data provider and the converter
may change in any way; only the logdir is fixed when the object is made.

`is_active` computes `any(self.generate_runs())`.  `any` stops the generator at the first
non-empty name it yields, so the cache writes of the rest of that pass are never made
(`ProfilePlugin.anyPass`).

Main definitions:

* `ProfilePlugin.Plugin` — the state of the object; `ProfilePlugin.Plugin.init` — `__init__`;
* `ProfilePlugin.World` — what the world does during one request;
* `ProfilePlugin.Call` — the requests, by the method that serves them;
* `ProfilePlugin.Plugin.isActiveCall` — `is_active`, with the early exit of `any`;
* `ProfilePlugin.Plugin.call`, `ProfilePlugin.Plugin.serve` — one request, and a sequence of them;
* `ProfilePlugin.CacheGood` — every cached directory is the one `_run_dir` derives.

Main results:

* `ProfilePlugin.isActiveCall_agrees` — **the early exit gives the answer of the whole pass**, and
  leaves a cache that the whole pass would only have extended;
* `ProfilePlugin.Plugin.call_good` — every request keeps `CacheGood` and every key of the cache;
* `ProfilePlugin.serve_runDir_cached` — **over every sequence of requests the cache agrees with
  `_run_dir`**: whenever both resolve a run name, they resolve it to the same directory, however
  the filesystem changed since the name was cached;
* `ProfilePlugin.serve_runs_runTools` — every name `runs_imp` returns stays in the cache for the
  rest of the session.
-/

set_option autoImplicit false

namespace ProfilePlugin

/-! ### The object and its requests -/

/-- The state a `ProfilePlugin` object keeps between requests. -/
structure Plugin where
  /-- `self.logdir`, from the context. -/
  logdir : String
  /-- `self.master_tpu_unsecure_channel`. -/
  masterTpuUnsecureChannel : String
  /-- `self._is_active`. -/
  isActive : Bool
  /-- `self._run_to_profile_run_dir`, newest write first. -/
  runToProfileRunDir : List (String × String)

/-- `ProfilePlugin(context)`: the flag unset and the cache empty. -/
def Plugin.init (logdir masterTpuUnsecureChannel : String) : Plugin :=
  ⟨logdir, masterTpuUnsecureChannel, false, []⟩

/-- What the world does during one request: the filesystem and its failing listings, the runs
`data_provider.list_runs` returns, the order in which the set `tb_runs` is iterated (a
permutation, whatever Python picks), the converter, the running version, and the version files
with what reading and writing them does. -/
structure World where
  fs : Fs
  faults : List String → Option Nat
  listRuns : List String
  arrange : List String → List String
  arrange_perm : ∀ l, (arrange l).Perm l
  xspaceToToolNames : List String → Except PyErr (List String)
  version : String
  dataIo : DataOracle
  versions : List String → Option String

/-- What a pass in the world `w` reads, under the logdir `logdir`. -/
def World.env (w : World) (logdir : String) : Env := ⟨w.fs, w.faults, logdir, w.listRuns⟩

@[simp] theorem World.env_logdir (w : World) (logdir : String) : (w.env logdir).logdir = logdir := rfl

@[simp] theorem World.env_fs (w : World) (logdir : String) : (w.env logdir).fs = w.fs := rfl

@[simp] theorem World.env_faults (w : World) (logdir : String) : (w.env logdir).faults = w.faults :=
  rfl

/-- The requests, by the method of the object that serves them. -/
inductive Call where
  /-- `is_active()`, asked by TensorBoard. -/
  | isActive
  /-- `runs_imp()`. -/
  | runs
  /-- `run_tools_imp(run)`. -/
  | runTools (run : String)
  /-- `host_impl(run, tool)`. -/
  | hosts (run tool : String)
  /-- `data_impl(request)`. -/
  | data (req : DataRequest)
  /-- `hlo_module_list_impl(request)`. -/
  | hloModuleList (run : String)

/-- What a request returns when it does not raise. -/
inductive Reply where
  | active (b : Bool)
  | names (l : List String)
  | data (d : Option String)
  | text (s : String)

/-- The loop of `generate_runs` over the pairs `items` of container and profile run, as `any`
drives it: it stops right after the first visit that yields a non-empty name.  The state then, and
whether such a name was yielded. -/
def anyPass (e : Env) : List (String × String) → PassState → PassState × Bool
  | [], st => (st, false)
  | x :: items, st =>
      if st.visited.length < (visitRun e x.1 st x.2).visited.length ∧
          frontendRun x.1 (rstrip '/' x.2) ≠ "" then (visitRun e x.1 st x.2, true)
      else anyPass e items (visitRun e x.1 st x.2)

/-- `is_active()` on the object: a set flag answers at once; otherwise the flag becomes
`any(self.generate_runs())`, and the cache keeps what the pass wrote until `any` stopped it.  The
walk and `_plugin_assets` run in full before the first name is yielded. -/
def Plugin.isActiveCall (p : Plugin) (w : World) : Option (Plugin × Bool) :=
  if p.isActive then some (p, true)
  else (tbRuns (w.env p.logdir)).map fun runs =>
    let r := anyPass (w.env p.logdir)
      (passItems (w.env p.logdir) (listAssets w.fs w.faults) (w.arrange runs))
      ⟨[], p.runToProfileRunDir⟩
    ({ p with isActive := r.2, runToProfileRunDir := r.1.cache }, r.2)

/-- One request in the world `w`: the object after it, and what the method returned or raised.
It is `none` only if a walk of the logdir runs out of fuel, which it does not. -/
def Plugin.call (p : Plugin) (w : World) : Call → Option (Plugin × Except PyErr Reply)
  | .isActive => (p.isActiveCall w).map fun r => (r.1, .ok (.active r.2))
  | .runs => (runsImp (w.env p.logdir) (listAssets w.fs w.faults) w.arrange p.runToProfileRunDir).map
      fun r => ({ p with runToProfileRunDir := r.2 }, .ok (.names r.1))
  | .runTools run => some (p, (generateToolsOfRun w.fs w.faults w.xspaceToToolNames
      p.runToProfileRunDir run).map .names)
  | .hosts run tool => some (p, (hostImpl (w.env p.logdir) run tool).map .names)
  | .data req => some (p, (dataImpl (w.env p.logdir) w.version w.dataIo w.versions req).result.map
      .data)
  | .hloModuleList run => some (p, (hloModuleListImpl (w.env p.logdir) run).map .text)

/-- A sequence of requests, each in its own world. -/
def Plugin.serve (p : Plugin) : List (World × Call) → Option Plugin
  | [] => some p
  | (w, c) :: rest => (p.call w c).bind fun r => r.1.serve rest

/-! ### What a pass changes -/

/-- A visit appends at most its frontend run name to `visited_runs`. -/
theorem visitRun_visited (e : Env) (c : String) (st : PassState) (q : String) :
    (visitRun e c st q).visited = st.visited ∨
      (visitRun e c st q).visited = st.visited ++ [frontendRun c (rstrip '/' q)] := by
  dsimp only [visitRun]
  split_ifs
  · unfold setAdd; split_ifs <;> simp
  · exact .inl rfl

/-- A visit only writes the cache. -/
theorem visitRun_cache (e : Env) (c : String) (st : PassState) (q : String) :
    ∃ w, (visitRun e c st q).cache = w ++ st.cache := by
  dsimp only [visitRun]
  split_ifs
  exacts [⟨[_], rfl⟩, ⟨[], rfl⟩]

/-- The loop only appends to `visited_runs` and only writes the cache. -/
theorem foldl_visitRun_extends (e : Env) (items : List (String × String)) (st : PassState) :
    st.visited <+: (items.foldl (fun st x => visitRun e x.1 st x.2) st).visited ∧
      ∃ w, (items.foldl (fun st x => visitRun e x.1 st x.2) st).cache = w ++ st.cache := by
  induction items generalizing st with
  | nil => exact ⟨List.prefix_refl _, [], rfl⟩
  | cons x items ih =>
      obtain ⟨hpre, w, hw⟩ := ih (visitRun e x.1 st x.2)
      obtain ⟨w', hw'⟩ := visitRun_cache e x.1 st x.2
      refine ⟨?_, w ++ w', by rw [List.foldl_cons, hw, hw', List.append_assoc]⟩
      rcases visitRun_visited e x.1 st x.2 with h | h <;> rw [h] at hpre
      exacts [hpre, (List.prefix_append _ _).trans hpre]

/-- The loop under `any` only writes the cache. -/
theorem anyPass_cache (e : Env) (items : List (String × String)) (st : PassState) :
    ∃ w, (anyPass e items st).1.cache = w ++ st.cache := by
  induction items generalizing st with
  | nil => exact ⟨[], rfl⟩
  | cons x items ih =>
      obtain ⟨w', hw'⟩ := visitRun_cache e x.1 st x.2
      simp only [anyPass]
      split_ifs
      · exact ⟨w', hw'⟩
      · obtain ⟨w, hw⟩ := ih (visitRun e x.1 st x.2)
        exact ⟨w ++ w', by rw [hw, hw', List.append_assoc]⟩

/-- **`any` stops the loop without changing its answer**: from a state that has yielded only
empty names, the early exit answers whether the whole loop yields a non-empty name, and the whole
loop would only have written more entries in front of the cache it leaves. -/
theorem anyPass_spec (e : Env) (items : List (String × String)) (st : PassState)
    (hst : ∀ r ∈ st.visited, r = "") :
    (anyPass e items st).2 =
        (items.foldl (fun st x => visitRun e x.1 st x.2) st).visited.any (· ≠ "") ∧
      ∃ w, (items.foldl (fun st x => visitRun e x.1 st x.2) st).cache =
        w ++ (anyPass e items st).1.cache := by
  induction items generalizing st with
  | nil =>
      refine ⟨?_, [], rfl⟩
      simpa [anyPass] using hst
  | cons x items ih =>
      obtain ⟨hpre, w, hw⟩ := foldl_visitRun_extends e items (visitRun e x.1 st x.2)
      simp only [anyPass, List.foldl_cons]
      split_ifs with hy
      · have hmem : frontendRun x.1 (rstrip '/' x.2) ∈ (visitRun e x.1 st x.2).visited := by
          rcases visitRun_visited e x.1 st x.2 with h | h
          · exact absurd (h ▸ hy.1) (lt_irrefl _)
          · simp [h]
        refine ⟨?_, w, hw⟩
        simpa using ⟨_, hpre.subset hmem, hy.2⟩
      · refine ih _ fun r hr => ?_
        rcases visitRun_visited e x.1 st x.2 with h | h <;> rw [h] at hr
        · exact hst r hr
        · rw [h] at hy
          rcases List.mem_append.1 hr with hr | hr
          · exact hst r hr
          · simpa [List.mem_singleton.1 hr] using hy

/-- **The early exit of `is_active` gives the answer of the whole pass** (`ProfilePlugin.isActive`),
sets the flag to it, changes nothing once the flag is set, and leaves a cache in front of which the
whole pass would only have written more entries. -/
theorem isActiveCall_agrees (p : Plugin) (w : World) :
    ∃ p' b, p.isActiveCall w = some (p', b) ∧
      isActive (w.env p.logdir) (listAssets w.fs w.faults) w.arrange p.runToProfileRunDir
        p.isActive = some b ∧
      p'.isActive = b ∧ (p.isActive = true → p' = p) ∧
      ∀ st, generateRuns (w.env p.logdir) (listAssets w.fs w.faults) w.arrange
          p.runToProfileRunDir = some st → ∃ rest, st.cache = rest ++ p'.runToProfileRunDir := by
  obtain ⟨runs, hruns⟩ := Option.isSome_iff_exists.1 (tbRuns_isSome (w.env p.logdir))
  have hgen : generateRuns (w.env p.logdir) (listAssets w.fs w.faults) w.arrange
      p.runToProfileRunDir = some (passRuns (w.env p.logdir) (listAssets w.fs w.faults)
        (w.arrange runs) p.runToProfileRunDir) := by
    simp [generateRuns, hruns]
  cases hact : p.isActive
  · set r := anyPass (w.env p.logdir)
      (passItems (w.env p.logdir) (listAssets w.fs w.faults) (w.arrange runs))
      ⟨[], p.runToProfileRunDir⟩ with hr
    obtain ⟨hb, hc⟩ := anyPass_spec (w.env p.logdir)
      (passItems (w.env p.logdir) (listAssets w.fs w.faults) (w.arrange runs))
      ⟨[], p.runToProfileRunDir⟩ (by simp)
    refine ⟨{ p with isActive := r.2, runToProfileRunDir := r.1.cache }, r.2,
      by simp [Plugin.isActiveCall, hact, hruns, hr], ?_, rfl, by simp, ?_⟩
    · rw [isActive, if_neg (by simp), hgen, passRuns_eq_foldl, hb]; rfl
    · rintro st hst
      rw [hgen, Option.some.injEq] at hst
      rw [← hst, passRuns_eq_foldl]
      exact hc
  · refine ⟨p, true, by simp [Plugin.isActiveCall, hact], by simp [isActive], hact, fun _ => rfl, ?_⟩
    rintro st hst
    rw [hgen, Option.some.injEq, passRuns_eq_foldl] at hst
    rw [← hst]
    exact (foldl_visitRun_extends _ _ _).2

/-! ### The cache agrees with `_run_dir` -/

/-- Every entry of the cache holds the directory `_run_dir` derives for its name under the logdir
`logdir`, whenever `_run_dir` returns, whatever the filesystem. -/
def CacheGood (logdir : String) (cache : List (String × String)) : Prop :=
  ∀ x ∈ cache, ∀ e : Env, e.logdir = logdir → ∀ d, runDir e x.1 = .ok d → d = x.2

theorem cacheGood_nil (logdir : String) : CacheGood logdir [] := by
  simp [CacheGood]

/-- The directory of a profile run depends on the pass only through the logdir. -/
theorem profileRunDir_congr {e e' : Env} (h : e.logdir = e'.logdir) (c p : String) :
    profileRunDir e c p = profileRunDir e' c p := by
  simp [profileRunDir, h]

/-- **One visit keeps the cache good**: it writes, for the name of a pair the pass can visit, the
directory `_run_dir` derives from that name under every filesystem. -/
theorem CacheGood.visitRun {e : Env} {st : PassState} {x : String × String}
    (h : CacheGood e.logdir st.cache) (hx : Visitable x) :
    CacheGood e.logdir (visitRun e x.1 st x.2).cache := by
  obtain ⟨hc, hp, hsep⟩ := hx
  dsimp only [ProfilePlugin.visitRun]
  split_ifs
  · rintro y (_ | ⟨_, hy⟩)
    · intro e' he' d hd
      rw [runDir_frontendRun e' hc hp hsep] at hd
      split_ifs at hd
      cases hd
      exact profileRunDir_congr he' _ _
    · exact h y hy
  · exact h

theorem CacheGood.foldl {e : Env} {items : List (String × String)} {st : PassState}
    (h : CacheGood e.logdir st.cache) (hitems : ∀ x ∈ items, Visitable x) :
    CacheGood e.logdir (items.foldl (fun st x => ProfilePlugin.visitRun e x.1 st x.2) st).cache := by
  induction items generalizing st with
  | nil => exact h
  | cons x items ih =>
      exact ih (h.visitRun (hitems x (List.mem_cons_self _ _)))
        fun y hy => hitems y (List.mem_cons_of_mem _ hy)

theorem CacheGood.anyPass {e : Env} {items : List (String × String)} {st : PassState}
    (h : CacheGood e.logdir st.cache) (hitems : ∀ x ∈ items, Visitable x) :
    CacheGood e.logdir (ProfilePlugin.anyPass e items st).1.cache := by
  induction items generalizing st with
  | nil => exact h
  | cons x items ih =>
      have hx := h.visitRun (hitems x (List.mem_cons_self _ _))
      simp only [ProfilePlugin.anyPass]
      split_ifs
      exacts [hx, ih hx fun y hy => hitems y (List.mem_cons_of_mem _ hy)]

/-- Every pair a pass over `tb_runs` visits, with the real `ListAssets`, can be visited. -/
theorem visitable_passItems {e : Env} {runs : List String} (hruns : tbRuns e = some runs)
    {arrange : List String → List String} (harr : ∀ l, (arrange l).Perm l) :
    ∀ x ∈ passItems e (listAssets e.fs e.faults) (arrange runs), Visitable x := fun x hx => by
  have hx' := mem_passItems.1 (show (x.1, x.2) ∈ _ from hx)
  exact ⟨tbRuns_isHead hruns ((harr runs).subset hx'.1), listAssets_visitable hx'.2⟩

theorem lookup_append_isSome {l : List (String × String)} {a : String}
    (h : (l.lookup a).isSome) (w : List (String × String)) : ((w ++ l).lookup a).isSome := by
  induction w with
  | nil => exact h
  | cons y w ih =>
      rw [List.cons_append, List.lookup_cons]
      split <;> simp [ih]

theorem mem_of_lookup_eq_some {l : List (String × String)} {a d : String}
    (h : l.lookup a = some d) : (a, d) ∈ l := by
  obtain ⟨l₁, l₂, he, -⟩ := List.lookup_eq_some_iff.1 h
  simp [he]

/-- **Every request keeps the cache good and keeps every key of it**, and returns. -/
theorem Plugin.call_good {p : Plugin} (hp : CacheGood p.logdir p.runToProfileRunDir) (w : World)
    (c : Call) :
    ∃ p' r, p.call w c = some (p', r) ∧ p'.logdir = p.logdir ∧
      CacheGood p'.logdir p'.runToProfileRunDir ∧
      ∀ run, (p.runToProfileRunDir.lookup run).isSome → (p'.runToProfileRunDir.lookup run).isSome := by
  obtain ⟨runs, hruns⟩ := Option.isSome_iff_exists.1 (tbRuns_isSome (w.env p.logdir))
  have hitems := visitable_passItems hruns w.arrange_perm
  have hp' : CacheGood (w.env p.logdir).logdir (⟨[], p.runToProfileRunDir⟩ : PassState).cache := hp
  cases c with
  | isActive =>
      cases hact : p.isActive
      · simp only [Plugin.call, Plugin.isActiveCall, hact, hruns, Option.map_some',
          Bool.false_eq_true, if_false]
        obtain ⟨rest, hrest⟩ := anyPass_cache (w.env p.logdir)
          (passItems (w.env p.logdir) (listAssets w.fs w.faults) (w.arrange runs))
          ⟨[], p.runToProfileRunDir⟩
        exact ⟨_, _, rfl, rfl, hp'.anyPass hitems, fun run h => by
          rw [hrest]; exact lookup_append_isSome h rest⟩
      · simp only [Plugin.call, Plugin.isActiveCall, hact, if_true, Option.map_some']
        exact ⟨_, _, rfl, rfl, hp, fun _ h => h⟩
  | runs =>
      simp only [Plugin.call, runsImp, generateRuns, hruns, Option.map_some']
      refine ⟨_, _, rfl, rfl, ?_, fun run h => ?_⟩
      · rw [passRuns_eq_foldl]
        exact hp'.foldl hitems
      · obtain ⟨rest, hrest⟩ := (foldl_visitRun_extends (w.env p.logdir)
          (passItems (w.env p.logdir) (listAssets w.fs w.faults) (w.arrange runs))
          ⟨[], p.runToProfileRunDir⟩).2
        simp only [passRuns_eq_foldl, hrest]
        exact lookup_append_isSome h rest
  | runTools run => exact ⟨p, _, rfl, rfl, hp, fun _ h => h⟩
  | hosts run tool => exact ⟨p, _, rfl, rfl, hp, fun _ h => h⟩
  | data req => exact ⟨p, _, rfl, rfl, hp, fun _ h => h⟩
  | hloModuleList run => exact ⟨p, _, rfl, rfl, hp, fun _ h => h⟩

theorem Plugin.call_isSome (p : Plugin) (w : World) (c : Call) : (p.call w c).isSome := by
  obtain ⟨runs, hruns⟩ := Option.isSome_iff_exists.1 (tbRuns_isSome (w.env p.logdir))
  cases c <;> simp [Plugin.call, Plugin.isActiveCall, runsImp, generateRuns, hruns]
  split_ifs <;> simp

/-- Every sequence of requests returns. -/
theorem Plugin.serve_isSome (p : Plugin) (steps : List (World × Call)) : (p.serve steps).isSome := by
  induction steps generalizing p with
  | nil => rfl
  | cons s steps ih =>
      obtain ⟨w, c⟩ := s
      obtain ⟨⟨p₁, r⟩, hcall⟩ := Option.isSome_iff_exists.1 (p.call_isSome w c)
      simpa [Plugin.serve, hcall] using ih p₁

/-- **Every sequence of requests returns, and keeps the cache good and every key of it.** -/
theorem Plugin.serve_good {p : Plugin} (hp : CacheGood p.logdir p.runToProfileRunDir)
    (steps : List (World × Call)) :
    ∃ p', p.serve steps = some p' ∧ p'.logdir = p.logdir ∧
      CacheGood p'.logdir p'.runToProfileRunDir ∧
      ∀ run, (p.runToProfileRunDir.lookup run).isSome → (p'.runToProfileRunDir.lookup run).isSome := by
  induction steps generalizing p with
  | nil => exact ⟨p, rfl, rfl, hp, fun _ h => h⟩
  | cons s steps ih =>
      obtain ⟨w, c⟩ := s
      obtain ⟨p₁, r, hcall, hl₁, hg₁, hk₁⟩ := p.call_good hp w c
      obtain ⟨p₂, hserve, hl₂, hg₂, hk₂⟩ := ih hg₁
      exact ⟨p₂, by simp [Plugin.serve, hcall, hserve], hl₂.trans hl₁, hg₂,
        fun run h => hk₂ run (hk₁ run h)⟩

/-- **Over every sequence of requests the cache agrees with `_run_dir`**: after any requests, in
any worlds, from a new object, whenever `generate_tools_of_run` finds a directory for a run name
in the cache and `_run_dir` returns a directory for it in any later world, the two are the same —
so `run_tools` and `hosts`, `data` and `module_list` read one directory for one run, however the
filesystem changed since the name was cached. -/
theorem serve_runDir_cached (logdir masterTpuUnsecureChannel : String)
    (steps : List (World × Call)) :
    ∃ p, (Plugin.init logdir masterTpuUnsecureChannel).serve steps = some p ∧
      ∀ run d, p.runToProfileRunDir.lookup run = some d →
        ∀ (w : World) d', runDir (w.env logdir) run = .ok d' → d' = d := by
  obtain ⟨p, hserve, hl, hg, -⟩ :=
    (Plugin.init logdir masterTpuUnsecureChannel).serve_good (cacheGood_nil _) steps
  exact ⟨p, hserve, fun run d hd w d' h =>
    hg _ (mem_of_lookup_eq_some hd) (w.env logdir) (by simp [hl, Plugin.init]) d' h⟩

/-- **Every name `runs_imp` returns stays in the cache**: after any requests from a new object, a
`runs` request returns, and on every request after it, in any worlds, `generate_tools_of_run`
finds each name it returned in the cache and raises no `KeyError` for it. -/
theorem serve_runs_runTools (logdir masterTpuUnsecureChannel : String) (pre : List (World × Call))
    (w : World) :
    ∃ p₁ p₂ names, (Plugin.init logdir masterTpuUnsecureChannel).serve pre = some p₁ ∧
      p₁.call w .runs = some (p₂, .ok (.names names)) ∧
      ∀ post, ∃ p₃, p₂.serve post = some p₃ ∧
        ∀ run ∈ names, (p₃.runToProfileRunDir.lookup run).isSome := by
  obtain ⟨p₁, hserve, -, hg₁, -⟩ :=
    (Plugin.init logdir masterTpuUnsecureChannel).serve_good (cacheGood_nil _) pre
  obtain ⟨runs, hruns⟩ := Option.isSome_iff_exists.1 (tbRuns_isSome (w.env p₁.logdir))
  obtain ⟨-, hinv⟩ := generateRuns_inv (w.env p₁.logdir) (listAssets w.fs w.faults)
    (fun _ _ _ hq => listAssets_visitable hq) w.arrange_perm p₁.runToProfileRunDir hruns
  obtain ⟨p₂, r, hcall, -, hg₂, -⟩ := p₁.call_good hg₁ w .runs
  have hreply := hcall
  simp only [Plugin.call, runsImp, generateRuns, hruns, Option.map_some', Option.some.injEq,
    Prod.mk.injEq] at hreply
  obtain ⟨rfl, rfl⟩ := hreply
  refine ⟨p₁, _, _, hserve, hcall, fun post => ?_⟩
  obtain ⟨p₃, hserve₃, -, -, hk⟩ := Plugin.serve_good hg₂ post
  refine ⟨p₃, hserve₃, fun run hrun => hk run ?_⟩
  obtain ⟨d, hd, -⟩ := hinv.cache run (List.mem_mergeSort.1 hrun)
  simp [hd]

/-! ### The flag of `is_active` -/

/-- No request clears the flag of `is_active`. -/
theorem Plugin.call_isActive {p p' : Plugin} {w : World} {c : Call} {r : Except PyErr Reply}
    (h : p.call w c = some (p', r)) (hp : p.isActive = true) : p'.isActive = true := by
  obtain ⟨runs, hruns⟩ := Option.isSome_iff_exists.1 (tbRuns_isSome (w.env p.logdir))
  cases c <;> simp only [Plugin.call, Plugin.isActiveCall, hp, if_true, runsImp, generateRuns, hruns,
    Option.map_some', Option.some.injEq, Prod.mk.injEq] at h <;> simp [← h.1, hp]

theorem Plugin.serve_isActive {p p' : Plugin} {steps : List (World × Call)}
    (h : p.serve steps = some p') (hp : p.isActive = true) : p'.isActive = true := by
  induction steps generalizing p with
  | nil => rw [Plugin.serve, Option.some.injEq] at h; exact h ▸ hp
  | cons s steps ih =>
      obtain ⟨w, c⟩ := s
      rw [Plugin.serve, Option.bind_eq_some] at h
      obtain ⟨⟨p₁, r⟩, hcall, hserve⟩ := h
      exact ih hserve (Plugin.call_isActive hcall hp)

/-- A world to instantiate results on: the sample tree, no failing listing, no runs of the data
provider, and a converter that finds no tools. -/
def World.sample : World :=
  ⟨Fs.sample, fun _ => none, [], id, fun l => .refl l, fun _ => .ok [], "", DataOracle.sample,
    fun _ => none⟩

end ProfilePlugin
