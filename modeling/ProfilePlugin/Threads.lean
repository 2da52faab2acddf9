import ProfilePlugin.Session
/-
**Passes of `generate_runs` on several threads, and the cache they share.**

TensorBoard serves requests on several threads.  The plugin creates `_is_active_lock` but never
acquires it, so nothing keeps two threads apart: `runs_route` and `is_active` both run a pass of
`generate_runs`, on any number of threads at once, and the passes write `_run_to_profile_run_dir`
without a lock.  A pass computes
`tb_runs`, walks the logdir and lists `plugin_assets` before its first write; it then visits its
pairs one by one, and each visit checks its directory and writes one entry, a single store into
the `dict`.  Between two visits any other thread may run, and the filesystem may change.

The model keeps the cache and, for each thread, the pairs its pass has still to visit and its
`visited_runs`.  A schedule starts passes, lets any thread visit its next pair in the world of that
moment, and stops a pass at any point (`any` stops the pass of `is_active` at its first name, and a
request may end).

Main definitions:

* `ProfilePlugin.Server`, `ProfilePlugin.Sched`, `ProfilePlugin.Server.step`,
  `ProfilePlugin.Server.run` — the threads, what the scheduler does next, and a schedule.

Main results:

* `ProfilePlugin.Server.run_good` — over every schedule, the cache keeps for each name the
  directory `_run_dir` derives for it, and keeps every name it holds.
-/

set_option autoImplicit false

namespace ProfilePlugin

/-- A pass of `generate_runs` in progress on one thread: the pairs of `plugin_assets` it has not
visited yet, and its `visited_runs`. -/
structure Pass where
  items : List (String × String)
  visited : List String

/-- The threads of a server: the cache they share, and the pass in progress on each thread. -/
structure Server where
  cache : List (String × String)
  passes : List Pass

/-- What the scheduler does next. -/
inductive Sched where
  /-- A request starts a pass in the world `w`: `tb_runs`, the walk and `plugin_assets` run
  before its first write. -/
  | start (w : World)
  /-- Thread `i` visits its next pair, in the world `w` of that moment. -/
  | visit (i : Nat) (w : World)
  /-- Thread `i` stops its pass, at its end or before. -/
  | stop (i : Nat)

/-- One step of the scheduler, for the plugin with the logdir `logdir`; `none` when the thread
named has no pair left to visit. -/
def Server.step (logdir : String) (s : Server) : Sched → Option Server
  | .start w => (tbRuns (w.env logdir)).map fun runs =>
      { s with passes := s.passes ++
          [⟨passItems (w.env logdir) (listAssets w.fs w.faults) (w.arrange runs), []⟩] }
  | .visit i w =>
      match s.passes[i]? with
      | some ⟨x :: rest, visited⟩ =>
          let st := visitRun (w.env logdir) x.1 ⟨visited, s.cache⟩ x.2
          some ⟨st.cache, s.passes.set i ⟨rest, st.visited⟩⟩
      | _ => none
  | .stop i => some { s with passes := s.passes.eraseIdx i }

/-- A schedule; a step that cannot be taken is skipped. -/
def Server.run (logdir : String) : Server → List Sched → Server
  | s, [] => s
  | s, a :: rest => Server.run logdir ((s.step logdir a).getD s) rest

/-- The cache is good, and every pair a pass has still to visit can be visited. -/
structure Server.Good (logdir : String) (s : Server) : Prop where
  cache : CacheGood logdir s.cache
  items : ∀ t ∈ s.passes, ∀ x ∈ t.items, Visitable x

/-! ### One step -/

/-- A visit writes at most one entry, in front of the cache. -/
theorem visitRun_cache_cons (e : Env) (c : String) (st : PassState) (q : String) :
    (visitRun e c st q).cache = st.cache ∨ ∃ kv, (visitRun e c st q).cache = kv :: st.cache := by
  dsimp only [visitRun]
  split_ifs
  exacts [.inr ⟨_, rfl⟩, .inl rfl]

/-- **One step keeps the threads good and keeps every name of the cache.** -/
theorem Server.step_good {logdir : String} {s s' : Server} {a : Sched} (h : s.Good logdir)
    (hs : s.step logdir a = some s') :
    s'.Good logdir ∧ ∀ k, (s.cache.lookup k).isSome → (s'.cache.lookup k).isSome := by
  cases a with
  | start w =>
    obtain ⟨runs, hruns, rfl⟩ := Option.map_eq_some'.1 hs
    refine ⟨⟨h.cache, fun t ht => ?_⟩, fun _ hk => hk⟩
    rcases List.mem_append.1 ht with ht | ht
    · exact h.items t ht
    · rw [List.mem_singleton.1 ht]
      exact visitable_passItems hruns w.arrange_perm
  | visit i w =>
    simp only [Server.step] at hs
    split at hs
    · rename_i x rest visited hi
      cases hs
      have hx := h.items _ (List.getElem?_mem hi)
      refine ⟨⟨?_, fun t ht x' hx' => ?_⟩, fun k hk => ?_⟩
      · have hc : CacheGood (w.env logdir).logdir (⟨visited, s.cache⟩ : PassState).cache := h.cache
        exact hc.visitRun (hx x (List.mem_cons_self _ _))
      · rcases List.mem_or_eq_of_mem_set ht with ht | rfl
        · exact h.items t ht x' hx'
        · exact hx x' (List.mem_cons_of_mem _ hx')
      · rcases visitRun_cache_cons (w.env logdir) x.1 ⟨visited, s.cache⟩ x.2 with he | ⟨kv, he⟩
        · rwa [he]
        · rw [he]
          exact lookup_append_isSome hk [kv]
    · cases hs
  | stop i =>
    cases hs
    exact ⟨⟨h.cache, fun t ht => h.items t (List.mem_of_mem_eraseIdx ht)⟩, fun _ hk => hk⟩

/-! ### Every schedule -/

/-- **Concurrent passes keep the cache good.**  From a server whose cache is good, over every
schedule of passes of `generate_runs` on any number of threads, each started in its own world,
each visit made in the world of its moment and each pass stopped at any point: every entry of
`_run_to_profile_run_dir` holds the directory `_run_dir` derives for its name, whatever the
filesystem, so two threads never write two directories for one name that `_run_dir` can find; and
no name once in the cache leaves it. -/
theorem Server.run_good (logdir : String) (s : Server) (h : s.Good logdir) (sched : List Sched) :
    (Server.run logdir s sched).Good logdir ∧
      ∀ k, (s.cache.lookup k).isSome → ((Server.run logdir s sched).cache.lookup k).isSome := by
  induction sched generalizing s with
  | nil => exact ⟨h, fun _ hk => hk⟩
  | cons a rest ih =>
    rw [Server.run]
    cases hs : s.step logdir a with
    | none => exact ih s h
    | some s' =>
      obtain ⟨h', hk'⟩ := Server.step_good h hs
      obtain ⟨h'', hk''⟩ := ih s' h'
      exact ⟨h'', fun k hk => hk'' k (hk' k hk)⟩

theorem Server.run_good_twoPasses :
    Server.Good "/logs" ⟨[], []⟩ ∧
      (Server.run "/logs" ⟨[], []⟩ [.start World.sample, .start World.sample,
        .visit 1 World.sample, .visit 0 World.sample, .stop 0]).Good "/logs" ∧
      ∀ k, (([] : List (String × String)).lookup k).isSome →
        ((Server.run "/logs" ⟨[], []⟩ [.start World.sample, .start World.sample,
          .visit 1 World.sample, .visit 0 World.sample, .stop 0]).cache.lookup k).isSome :=
  have hg : Server.Good "/logs" ⟨[], []⟩ := ⟨cacheGood_nil _, fun _ ht => nomatch ht⟩
  ⟨hg, Server.run_good "/logs" ⟨[], []⟩ hg [.start World.sample, .start World.sample,
    .visit 1 World.sample, .visit 0 World.sample, .stop 0]⟩

end ProfilePlugin
