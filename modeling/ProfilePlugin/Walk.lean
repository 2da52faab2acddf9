import Mathlib.Data.List.Nodup
import ProfilePlugin.Fs
/-
**The directory walk of `generate_runs`.**

`find_all_subdirectories(top_path)` walks a directory tree breadth first with a queue: it pops a
directory, yields it, and appends the directories among its entries; a listing that raises is
caught and contributes what it produced before raising.  There is no visited set, so termination
rests on the shape of the directory structure.

The loop is modelled over any type of paths with a fuel bound on its rounds
(`ProfilePlugin.walkLoop`, `none` when the fuel ends with directories still queued), so that it
can be run on directory graphs of any shape (`ProfilePlugin.Links`).  A path is kept as its parts
below the top directory — what `path.relative_to(top_path).parts` gives back — and when each
listing names an entry once, a duplicate-free invariant bounds the rounds by the number of
directories; on a filesystem tree (`ProfilePlugin.Fs`) that is the number of nodes.

Main definitions:

* `ProfilePlugin.getSubdirectories`, `ProfilePlugin.walkLoop` — `get_subdirectories` and the loop;
* `ProfilePlugin.BfsQueue` — the queue of a breadth-first walk;
* `ProfilePlugin.PathsInv`, `ProfilePlugin.Fs.WalkInv` — the invariant of the loop over paths of
  entry names, and on a tree;
* `ProfilePlugin.WalkReach` — the directories of a tree that the walk reaches;
* `ProfilePlugin.findAllSubdirectories` — `find_all_subdirectories` on a tree.

Main results:

* `ProfilePlugin.walkLoop_closed` — what a finished loop yields contains its queue and is closed
  under `get_subdirectories`;
* `ProfilePlugin.PathsInv.step` — one round keeps the invariant;
* `ProfilePlugin.PathsInv.walkLoop_isSome` — the loop ends when the directories are finitely many;
* `ProfilePlugin.findAllSubdirectories_isSome` — **the walk of a tree ends**;
* `ProfilePlugin.findAllSubdirectories_sound`, `ProfilePlugin.findAllSubdirectories_complete` —
  it yields only directories, and every directory below the top when no listing fails;
* `ProfilePlugin.walkLoop_depth_sorted` — the loop yields by non-decreasing depth;
* `ProfilePlugin.findAllSubdirectories_bfs` — **what the walk of a tree yields**: exactly the
  directories reached through the entries the listings produced, once each, the top first, by
  non-decreasing depth.
-/

set_option autoImplicit false

namespace ProfilePlugin

/-! ### The loop over any directory structure -/

section Loop

variable {P : Type} (isDir : P → Bool) (iterdir : P → Listing P)

/-- `get_subdirectories(current_dir, dirs_to_visit)`: the entries that are directories among those
the listing produced before it ended or raised; the error is caught and logged. -/
def getSubdirectories (d : P) : List P := (iterdir d).entries.filter isDir

/-- The loop `while dirs_to_visit:` of `find_all_subdirectories`, for at most `fuel` rounds: pop
the first directory, yield it, queue its subdirectories.  `none` when the fuel ends first. -/
def walkLoop : Nat → List P → Option (List P)
  | _, [] => some []
  | 0, _ :: _ => none
  | n + 1, d :: q => (walkLoop n (q ++ getSubdirectories isDir iterdir d)).map (d :: ·)

variable {isDir iterdir}

/-- **What a finished loop yields** contains the queue and is closed under
`get_subdirectories`. -/
theorem walkLoop_closed {n : Nat} {q out : List P} (h : walkLoop isDir iterdir n q = some out) :
    (∀ x ∈ q, x ∈ out) ∧ ∀ x ∈ out, ∀ y ∈ getSubdirectories isDir iterdir x, y ∈ out := by
  induction n generalizing q out with
  | zero => cases q with
    | nil => cases h; simp
    | cons => cases h
  | succ n ih => cases q with
    | nil => cases h; simp
    | cons d q =>
        obtain ⟨out', h', rfl⟩ := Option.map_eq_some'.1 h
        obtain ⟨hq, hcl⟩ := ih h'
        refine ⟨fun x hx => ?_, fun x hx y hy => ?_⟩
        · rcases List.mem_cons.1 hx with rfl | hx
          · exact List.mem_cons_self _ _
          · exact List.mem_cons_of_mem _ (hq x (List.mem_append_left _ hx))
        · rcases List.mem_cons.1 hx with rfl | hx
          · exact List.mem_cons_of_mem _ (hq y (List.mem_append_right _ hy))
          · exact List.mem_cons_of_mem _ (hcl x hx y hy)

/-- A property of the queue that `get_subdirectories` passes on holds of everything yielded. -/
theorem walkLoop_forall (Q : P → Prop) (hstep : ∀ x, Q x → ∀ y ∈ getSubdirectories isDir iterdir x, Q y)
    {n : Nat} {q out : List P} (hq : ∀ x ∈ q, Q x) (h : walkLoop isDir iterdir n q = some out) :
    ∀ x ∈ out, Q x := by
  induction n generalizing q out with
  | zero => cases q with
    | nil => cases h; simp
    | cons => cases h
  | succ n ih => cases q with
    | nil => cases h; simp
    | cons d q =>
        obtain ⟨out', h', rfl⟩ := Option.map_eq_some'.1 h
        have hd := hq d (List.mem_cons_self _ _)
        refine List.forall_mem_cons.2 ⟨hd, ih (fun x hx => ?_) h'⟩
        rcases List.mem_append.1 hx with hx | hx
        · exact hq x (List.mem_cons_of_mem _ hx)
        · exact hstep d hd x hx

/-! ### Breadth-first order -/

variable (depth : P → Nat)

/-- A queue of a breadth-first walk: depths in order, and none more than one above another. -/
structure BfsQueue (q : List P) : Prop where
  sorted : (q.map depth).Pairwise (· ≤ ·)
  spread : ∀ x ∈ q, ∀ y ∈ q, depth y ≤ depth x + 1

variable {depth}
variable (hsub : ∀ d, ∀ c ∈ getSubdirectories isDir iterdir d, depth c = depth d + 1)
include hsub

/-- After `d` is popped and its subdirectories queued, the queue lies between `d`'s depth and one
more. -/
theorem BfsQueue.bounds {d : P} {q : List P} (h : BfsQueue depth (d :: q)) :
    ∀ x ∈ q ++ getSubdirectories isDir iterdir d, depth d ≤ depth x ∧ depth x ≤ depth d + 1 := by
  intro x hx
  rcases List.mem_append.1 hx with hx | hx
  · have hs := h.sorted
    rw [List.map_cons] at hs
    exact ⟨List.rel_of_pairwise_cons hs (List.mem_map_of_mem _ hx),
      h.spread d (List.mem_cons_self _ _) x (List.mem_cons_of_mem _ hx)⟩
  · rw [hsub d x hx]; omega

/-- One round keeps the queue breadth-first. -/
theorem BfsQueue.step {d : P} {q : List P} (h : BfsQueue depth (d :: q)) :
    BfsQueue depth (q ++ getSubdirectories isDir iterdir d) := by
  have hb := h.bounds hsub
  refine ⟨?_, fun x hx y hy => by have := hb x hx; have := hb y hy; omega⟩
  have hs := h.sorted
  rw [List.map_cons, List.pairwise_cons] at hs
  rw [List.map_append, List.pairwise_append]
  refine ⟨hs.2, List.pairwise_of_forall_mem_list fun a ha b hb' => ?_, fun a ha b hb' => ?_⟩
  · obtain ⟨x, hx, rfl⟩ := List.mem_map.1 ha
    obtain ⟨y, hy, rfl⟩ := List.mem_map.1 hb'
    rw [hsub d x hx, hsub d y hy]
  · obtain ⟨x, hx, rfl⟩ := List.mem_map.1 ha
    obtain ⟨y, hy, rfl⟩ := List.mem_map.1 hb'
    rw [hsub d y hy]
    exact (hb x (List.mem_append_left _ hx)).2

/-- **The walk yields by non-decreasing depth**, for a depth that each subdirectory has one more
of than its parent. -/
theorem walkLoop_depth_sorted {n : Nat} {q out : List P} (hq : BfsQueue depth q)
    (h : walkLoop isDir iterdir n q = some out) : (out.map depth).Pairwise (· ≤ ·) := by
  induction n generalizing q out with
  | zero => cases q with
    | nil => cases h; simp
    | cons => cases h
  | succ n ih => cases q with
    | nil => cases h; simp
    | cons d q =>
        obtain ⟨out', h', rfl⟩ := Option.map_eq_some'.1 h
        -- everything yielded after `d` is at least as deep
        have hd := walkLoop_forall (fun y => depth d ≤ depth y)
          (fun x hx y hy => by dsimp only at hx ⊢; rw [hsub x y hy]; omega)
          (fun x hx => (hq.bounds hsub x hx).1) h'
        rw [List.map_cons, List.pairwise_cons]
        refine ⟨fun b hb => ?_, ih (hq.step hsub) h'⟩
        obtain ⟨y, hy, rfl⟩ := List.mem_map.1 hb
        exact hd y hy

end Loop

/-! ### Walks over paths of entry names -/

section Paths

variable {isDir : List String → Bool} {iterdir : List String → Listing (List String)}

/-- The invariant of a walk over paths of entry names below the top: no path twice, each a
directory, and each the top or a child of one already yielded. -/
structure PathsInv (isDir : List String → Bool) (done q : List (List String)) : Prop where
  nodup : (done ++ q).Nodup
  isDir : ∀ x ∈ done ++ q, isDir x = true
  parent : ∀ x ∈ done ++ q, x = [] ∨ x.dropLast ∈ done

theorem PathsInv.init (h : isDir [] = true) : PathsInv isDir [] [[]] :=
  ⟨by simp, by simpa using h, by simp⟩

variable (hlist : ∀ d, ∃ names : List String, names.Nodup ∧ (iterdir d).entries = names.map (d ++ [·]))
include hlist

theorem mem_getSubdirectories_of_names {d y : List String}
    (hy : y ∈ getSubdirectories isDir iterdir d) : isDir y = true ∧ ∃ c, y = d ++ [c] := by
  obtain ⟨names, -, he⟩ := hlist d
  obtain ⟨hy, hdir⟩ := List.mem_filter.1 hy
  rw [he] at hy
  obtain ⟨c, -, rfl⟩ := List.mem_map.1 hy
  exact ⟨hdir, c, rfl⟩

theorem getSubdirectories_nodup_of_names (d : List String) :
    (getSubdirectories isDir iterdir d).Nodup := by
  obtain ⟨names, hnd, he⟩ := hlist d
  unfold getSubdirectories
  rw [he]
  exact (hnd.map fun a b h => by simpa using h).filter _

/-- **One round keeps the invariant**: popping `d` and queueing its subdirectories. -/
theorem PathsInv.step {done q : List (List String)} {d : List String}
    (h : PathsInv isDir done (d :: q)) :
    PathsInv isDir (done ++ [d]) (q ++ getSubdirectories isDir iterdir d) := by
  have hd : d ∉ done := fun hd => by
    have := h.nodup
    rw [List.nodup_append] at this
    exact this.2.2 hd (List.mem_cons_self _ _)
  -- a path after the round was there before it, or is a subdirectory of `d`
  have hmem : ∀ x ∈ (done ++ [d]) ++ (q ++ getSubdirectories isDir iterdir d),
      x ∈ done ++ d :: q ∨ x ∈ getSubdirectories isDir iterdir d := by
    intro x hx; simp only [List.mem_append, List.mem_cons, List.mem_singleton] at hx ⊢; tauto
  refine ⟨?_, fun x hx => ?_, fun x hx => ?_⟩
  · rw [List.append_assoc, ← List.append_assoc [d], List.singleton_append, ← List.append_assoc,
      List.nodup_append]
    refine ⟨h.nodup, getSubdirectories_nodup_of_names hlist d, fun y hy hy' => ?_⟩
    obtain ⟨-, c, rfl⟩ := mem_getSubdirectories_of_names hlist hy'
    rcases h.parent _ hy with hy | hy
    · simp at hy
    · exact hd (by simpa using hy)
  · rcases hmem x hx with hx | hx
    · exact h.isDir x hx
    · exact (mem_getSubdirectories_of_names hlist hx).1
  · rcases hmem x hx with hx | hx
    · exact (h.parent x hx).imp_right (List.mem_append_left _)
    · obtain ⟨-, c, rfl⟩ := mem_getSubdirectories_of_names hlist hx
      exact .inr (by simp)

/-- The loop yields no path twice, nor one yielded before it. -/
theorem PathsInv.nodup_walkLoop {n : Nat} {done q out : List (List String)}
    (h : PathsInv isDir done q) (hw : walkLoop isDir iterdir n q = some out) :
    (done ++ out).Nodup := by
  induction n generalizing done q out with
  | zero => cases q with
    | nil => cases hw; simpa using h.nodup
    | cons => cases hw
  | succ n ih => cases q with
    | nil => cases hw; simpa using h.nodup
    | cons d q =>
        obtain ⟨out', h', rfl⟩ := Option.map_eq_some'.1 hw
        simpa using ih (h.step hlist) h'

/-- **The loop ends when the directories lie in a finite list `U`**, with as many rounds as `U` has
paths. -/
theorem PathsInv.walkLoop_isSome {U : List (List String)} (hU : ∀ x, isDir x = true → x ∈ U)
    {n : Nat} {done q : List (List String)} (h : PathsInv isDir done q)
    (hn : U.length ≤ n + done.length) : (walkLoop isDir iterdir n q).isSome := by
  induction n generalizing done q with
  | zero => cases q with
    | nil => rfl
    | cons d q =>
        have := (List.subperm_of_subset h.nodup fun x hx => hU x (h.isDir x hx)).length_le
        simp at this hn; omega
  | succ n ih => cases q with
    | nil => rfl
    | cons d q =>
        rw [walkLoop, Option.isSome_map']
        exact ih (h.step hlist) (by rw [List.length_append, List.length_singleton]; omega)

end Paths

/-! ### The walk of a filesystem tree -/

namespace Fs

variable (fs : Fs) (faults : List String → Option Nat) (base : List String)

/-- `path.is_dir()` for the path with parts `rel` below the directory `base`. -/
def relIsDir (rel : List String) : Bool := fs.isDirAt (base ++ rel)

/-- Iterating `path.iterdir()` for the path with parts `rel` below `base`: each entry is the path
with the entry's name appended. -/
def relIterdir (rel : List String) : Listing (List String) :=
  let l := fs.listing faults (base ++ rel)
  ⟨l.entries.map (rel ++ [·]), l.raised⟩

variable {fs}

theorem mem_getSubdirectories {d y : List String} :
    y ∈ getSubdirectories (fs.relIsDir base) (fs.relIterdir faults base) d ↔
      ∃ c ∈ (fs.listing faults (base ++ d)).entries, y = d ++ [c] ∧ fs.isDirAt (base ++ y) := by
  simp only [getSubdirectories, relIterdir, relIsDir, List.mem_filter, List.mem_map]
  constructor
  · rintro ⟨⟨c, hc, rfl⟩, hy⟩; exact ⟨c, hc, rfl, hy⟩
  · rintro ⟨c, hc, rfl, hy⟩; exact ⟨⟨c, hc, rfl⟩, hy⟩

/-- Each listing of the tree names every entry once. -/
theorem relIterdir_names (rel : List String) : ∃ names : List String, names.Nodup ∧
    (fs.relIterdir faults base rel).entries = names.map (rel ++ [·]) :=
  ⟨_, (children_nodup _).sublist (listing_entries_sublist faults _), rfl⟩

variable (fs)

/-- The invariant of the walk of a tree, over the paths already yielded and those queued: no path
twice, each a directory, and each the top or a child of one already yielded. -/
structure WalkInv (done q : List (List String)) : Prop where
  nodup : (done ++ q).Nodup
  isDir : ∀ x ∈ done ++ q, fs.isDirAt (base ++ x)
  parent : ∀ x ∈ done ++ q, x = [] ∨ x.dropLast ∈ done

variable {fs base}

theorem WalkInv.init (h : fs.isDirAt base) : WalkInv fs base [] [[]] :=
  ⟨by simp, by simpa using h, by simp⟩

/-- The invariant is that of any walk over paths of entry names. -/
theorem WalkInv.paths {done q : List (List String)} (h : WalkInv fs base done q) :
    PathsInv (fs.relIsDir base) done q :=
  ⟨h.nodup, h.isDir, h.parent⟩

/-- **One round keeps the invariant**: popping `d` and queueing its subdirectories. -/
theorem WalkInv.step {done q : List (List String)} {d : List String}
    (h : WalkInv fs base done (d :: q)) :
    WalkInv fs base (done ++ [d])
      (q ++ getSubdirectories (fs.relIsDir base) (fs.relIterdir faults base) d) :=
  have h' := h.paths.step (relIterdir_names faults base)
  ⟨h'.nodup, h'.isDir, h'.parent⟩

/-- A directory of the tree, as a path below `base`, is one of the nodes with `base` cut off. -/
theorem mem_nodes_of_relIsDir {x : List String} (hx : fs.relIsDir base x = true) :
    x ∈ ([] :: fs.nodes.map Prod.fst).map (·.drop base.length) := by
  refine List.mem_map.2 ⟨base ++ x, ?_, by simp⟩
  simp only [relIsDir, isDirAt, decide_eq_true_eq] at hx
  rcases hx with h0 | h0
  · rw [h0]; exact List.mem_cons_self _ _
  · exact List.mem_cons_of_mem _ (List.mem_map_of_mem Prod.fst h0)

theorem walkLoop_isSome {n : Nat} {done q : List (List String)} (h : WalkInv fs base done q)
    (hn : fs.nodes.length + 1 ≤ n + done.length) :
    (walkLoop (fs.relIsDir base) (fs.relIterdir faults base) n q).isSome :=
  h.paths.walkLoop_isSome (relIterdir_names faults base) (fun _ => mem_nodes_of_relIsDir)
    (by simpa using hn)

/-- The loop yields no path twice, nor one already yielded before it. -/
theorem WalkInv.nodup_walkLoop {n : Nat} {done q out : List (List String)} (h : WalkInv fs base done q)
    (hw : walkLoop (fs.relIsDir base) (fs.relIterdir faults base) n q = some out) :
    (done ++ out).Nodup :=
  h.paths.nodup_walkLoop (relIterdir_names faults base) hw

end Fs

variable (fs : Fs) (faults : List String → Option Nat) (base : List String)

/-- `find_all_subdirectories(top_path)` for the directory at the canonical path `base`: nothing
when it is not a directory, otherwise the loop from the queue `[top_path]`, with one round more
than the tree has nodes. -/
def findAllSubdirectories : Option (List (List String)) :=
  if fs.isDirAt base then
    walkLoop (fs.relIsDir base) (fs.relIterdir faults base) (fs.nodes.length + 1) [[]]
  else some []

/-- **The walk of a tree ends**, whatever listings fail. -/
theorem findAllSubdirectories_isSome : (findAllSubdirectories fs faults base).isSome := by
  unfold findAllSubdirectories
  split_ifs with h
  · exact Fs.walkLoop_isSome faults (Fs.WalkInv.init h) (by simp)
  · rfl

variable {fs faults base}

/-- The walk yields only directories below the top, named by valid names. -/
theorem findAllSubdirectories_sound {out : List (List String)}
    (h : findAllSubdirectories fs faults base = some out) {x : List String} (hx : x ∈ out) :
    fs.isDirAt (base ++ x) ∧ ∀ c ∈ x, ValidName c := by
  unfold findAllSubdirectories at h
  split_ifs at h with hb
  · refine walkLoop_forall (fun x => fs.isDirAt (base ++ x) ∧ ∀ c ∈ x, ValidName c) ?_
      (by simpa using hb) h x hx
    rintro x ⟨-, hv⟩ y hy
    obtain ⟨c, hc, rfl, hdir⟩ := (Fs.mem_getSubdirectories faults base).1 hy
    refine ⟨hdir, fun c' hc' => ?_⟩
    rcases List.mem_append.1 hc' with hc' | hc'
    · exact hv c' hc'
    · exact (List.mem_singleton.1 hc') ▸ Fs.children_valid (Fs.listing_entries_subset hc)
  · cases h; cases hx

/-- **Without failing listings the walk yields every directory below the top.** -/
theorem findAllSubdirectories_complete {out : List (List String)} (hf : ∀ d, faults d = none)
    (hb : fs.isDirAt base) (h : findAllSubdirectories fs faults base = some out) :
    ∀ {x : List String}, fs.isDirAt (base ++ x) → x ∈ out := by
  unfold findAllSubdirectories at h
  rw [if_pos hb] at h
  obtain ⟨hq, hcl⟩ := walkLoop_closed h
  intro x hx
  induction x using List.reverseRecOn with
  | nil => exact hq [] (List.mem_singleton_self _)
  | append_singleton x c ih =>
      have hpar : fs.isDirAt (base ++ x) :=
        Fs.isDirAt_of_append (r := [c]) (by simpa [List.append_assoc] using hx)
      refine hcl x (ih hpar) _ ((Fs.mem_getSubdirectories faults base).2 ⟨c, ?_, rfl, hx⟩)
      rw [Fs.listing_of_faults_none hpar (hf _)]
      apply Fs.mem_children_of_isDirAt
      simpa [Fs.isDirAt, List.append_assoc] using hx

variable (fs faults base)

/-- The paths the walk of a tree reaches: the top, and every entry that the listing of a reached
directory produced before it ended or raised, when the entry is a directory. -/
inductive WalkReach : List String → Prop
  | top : WalkReach []
  | child {d : List String} {c : String} : WalkReach d →
      c ∈ (fs.listing faults (base ++ d)).entries → fs.isDirAt (base ++ (d ++ [c])) →
      WalkReach (d ++ [c])

/-- **What the walk of a tree yields.**  Whatever listings fail, the walk ends; from a directory it
yields exactly the directories reached through the entries the listings produced before they
ended or raised, each once, the top first, by non-decreasing depth; from anything else, nothing. -/
theorem findAllSubdirectories_bfs :
    ∃ out, findAllSubdirectories fs faults base = some out ∧
      (fs.isDirAt base = true → (∀ x, x ∈ out ↔ WalkReach fs faults base x) ∧ out.Nodup ∧
        out.head? = some [] ∧ (out.map List.length).Pairwise (· ≤ ·)) ∧
      (fs.isDirAt base = false → out = []) := by
  obtain ⟨out, hout⟩ := Option.isSome_iff_exists.1 (findAllSubdirectories_isSome fs faults base)
  refine ⟨out, hout, fun hb => ?_, fun hb => ?_⟩
  · unfold findAllSubdirectories at hout
    rw [if_pos hb] at hout
    refine ⟨fun x => ⟨fun hx => ?_, fun hx => ?_⟩,
      by simpa using (Fs.WalkInv.init hb).nodup_walkLoop faults hout, ?_, ?_⟩
    · -- only reached directories are yielded
      refine walkLoop_forall (WalkReach fs faults base) (fun x hx y hy => ?_)
        (by simp [WalkReach.top]) hout x hx
      obtain ⟨c, hc, rfl, hdir⟩ := (Fs.mem_getSubdirectories faults base).1 hy
      exact .child hx hc hdir
    · -- every reached directory is yielded
      obtain ⟨hq, hcl⟩ := walkLoop_closed hout
      induction hx with
      | top => exact hq [] (List.mem_singleton_self _)
      | child _ hc hdir ih =>
          exact hcl _ ih _ ((Fs.mem_getSubdirectories faults base).2 ⟨_, hc, rfl, hdir⟩)
    · rw [walkLoop] at hout
      obtain ⟨out', -, rfl⟩ := Option.map_eq_some'.1 hout
      rfl
    · refine walkLoop_depth_sorted (fun d c hc => ?_) ⟨by simp, by simp⟩ hout
      obtain ⟨c, -, rfl, -⟩ := (Fs.mem_getSubdirectories faults base).1 hc
      simp
  · unfold findAllSubdirectories at hout
    rw [if_neg (by simp [hb])] at hout
    exact (Option.some.inj hout).symm

/-- A listing that raises after its first entry still passes that entry on: with every listing of
the sample tree raising, the walk from `/logs` yields every directory below it. -/
theorem findAllSubdirectories_failing_listings :
    (∀ d, (Fs.sample.listing (fun _ => some 1) d).raised = true) ∧
      findAllSubdirectories Fs.sample (fun _ => some 1) ["logs"] =
        some [[], ["plugins"], ["plugins", "profile"], ["plugins", "profile", "run1"]] := by
  refine ⟨fun d => ?_, by decide⟩
  unfold Fs.listing
  split_ifs <;> rfl

end ProfilePlugin
