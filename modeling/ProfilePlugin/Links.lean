import Mathlib.Data.List.FinRange
import ProfilePlugin.Runs
/-
**The walk over directories with symbolic links.**

`find_all_subdirectories` keeps no set of visited directories, and `path.is_dir()` follows
symbolic links.  On a tree the walk ends (`ProfilePlugin.findAllSubdirectories_isSome`), and so do
`generate_runs`, `is_active` and `runs_imp` (`ProfilePlugin.runs_isSome`).  This module lets an
entry be a link to any directory, an ancestor of its own directory included.  A link back to an
ancestor makes `top/a`, `top/a/a`, ... directories again and again, but not for ever: a path
lookup on Linux follows at most `MAXSYMLINKS` (40) symbolic links and fails with `ELOOP` past
them, and `pathlib`'s `is_dir` turns that failure into `False`.  So the walk ends, after at most
paths of 40 link hops, though there may be very many of them.

A directory structure is a finite set of directories, each with its entries by name; an entry
leads to a directory, with the number of links the lookup follows on the way (none for a
subdirectory, at least one for a link, more when the link's target has links of its own), or to
none (a file, or a link to a file or to nothing).  Subdirectories without links form a tree, which
each directory's depth in it witnesses.  A path is the list of entry names below the top, what
`path.relative_to(top_path).parts` gives back, and the loop is `ProfilePlugin.walkLoop`, the model
of the loop of `find_all_subdirectories`, run with the `is_dir` and `iterdir` of the structure.

Main definitions:

* `ProfilePlugin.DirGraph` — a directory structure with links;
* `ProfilePlugin.DirGraph.follow`, `ProfilePlugin.DirGraph.isDir`,
  `ProfilePlugin.DirGraph.iterdir` — looking a path up, counting links, and listing it;
* `ProfilePlugin.DirGraph.walk` — `find_all_subdirectories(top_path)`, for a number of rounds.

Main results:

* `ProfilePlugin.DirGraph.length_le_of_isDir` — a directory path has a bounded number of names:
  every link may take it up the tree, but only `MAXSYMLINKS` links are followed;
* `ProfilePlugin.DirGraph.walk_isSome` — the walk ends, within as many rounds as there are paths
  of at most that many names;
* `ProfilePlugin.discovery_ends` — **the discovery ends**: the walk on every structure with links,
  and a pass of `generate_runs`, `is_active` and `runs_imp` on every filesystem tree.
-/

set_option autoImplicit false

namespace ProfilePlugin

/-- `MAXSYMLINKS` of Linux: a path lookup that would follow more symbolic links fails with
`ELOOP`. -/
def MAXSYMLINKS : Nat := 40

/-- A directory structure whose entries may be symbolic links to any directory. -/
structure DirGraph where
  /-- The number of directories. -/
  size : Nat
  /-- The entries of each directory by name: the directory each leads to when `is_dir` follows
  links, with the number of symbolic links followed on the way, or `none`. -/
  entries : Fin size → List (String × Option (Fin size × Nat))
  /-- The top directory. -/
  root : Fin size
  /-- The number of symbolic links followed in looking up the top path itself. -/
  rootLinks : Nat
  /-- No directory has two entries of one name. -/
  nodup : ∀ d, ((entries d).map Prod.fst).Nodup
  /-- The depth of each directory in the tree of subdirectories. -/
  depth : Fin size → Nat
  /-- An entry reached without a link is a subdirectory, deeper than its directory. -/
  depth_lt : ∀ d c d', (c, some (d', 0)) ∈ entries d → depth d < depth d'

namespace DirGraph

variable (G : DirGraph)

/-- The directory that the path `p` of entry names leads to from `d`, following links, and the
number of symbolic links followed on the way. -/
def follow : Fin G.size → List String → Option (Fin G.size × Nat)
  | d, [] => some (d, 0)
  | d, c :: p =>
      match (G.entries d).lookup c with
      | some (some (d', k)) => (follow d' p).map fun r => (r.1, k + r.2)
      | _ => none

/-- `path.is_dir()` for the path with parts `p` below the top: the lookup reaches a directory
following at most `MAXSYMLINKS` links, those of the top path included. -/
def isDir (p : List String) : Bool :=
  match G.follow G.root p with
  | some (_, n) => G.rootLinks + n ≤ MAXSYMLINKS
  | none => false

/-- Iterating `path.iterdir()` for the path with parts `p` below the top: every entry, as the path
with the entry's name appended; a lookup that fails, by `ELOOP` too, raises. -/
def iterdir (p : List String) : Listing (List String) :=
  match G.follow G.root p with
  | some (d, n) =>
      if G.rootLinks + n ≤ MAXSYMLINKS then ⟨(G.entries d).map fun e => p ++ [e.1], false⟩
      else ⟨[], true⟩
  | none => ⟨[], true⟩

/-- `find_all_subdirectories(top_path)` on the structure, for at most `fuel` rounds; nothing when
the top is not a directory. -/
def walk (fuel : Nat) : Option (List (List String)) :=
  if G.isDir [] then walkLoop G.isDir G.iterdir fuel [[]] else some []

/-- A bound on the depth of every directory: the sum of the depths. -/
def maxDepth : Nat := (List.finRange G.size).foldr (fun d s => G.depth d + s) 0

/-- The paths of at most `k` entry names that lead from `d` to a directory. -/
def paths : Nat → Fin G.size → List (List String)
  | 0, _ => [[]]
  | k + 1, d => [] :: (G.entries d).flatMap fun e =>
      match e.2 with
      | some (d', _) => (paths k d').map (e.1 :: ·)
      | none => []

/-! ### Looking paths up -/

variable {G}

theorem depth_le_maxDepth (d : Fin G.size) : G.depth d ≤ G.maxDepth := by
  suffices ∀ l : List (Fin G.size), d ∈ l → G.depth d ≤ l.foldr (fun d s => G.depth d + s) 0 from
    this _ (List.mem_finRange d)
  intro l hl
  induction l with
  | nil => cases hl
  | cons a l ih =>
      rcases List.mem_cons.1 hl with rfl | hl
      · exact Nat.le_add_right _ _
      · exact (ih hl).trans (Nat.le_add_left _ _)

theorem mem_of_lookup {d : Fin G.size} {c : String} {t : Option (Fin G.size × Nat)}
    (h : (G.entries d).lookup c = some t) : (c, t) ∈ G.entries d := by
  obtain ⟨l₁, l₂, he, -⟩ := List.lookup_eq_some_iff.1 h
  rw [he]; simp

theorem follow_cons_eq_some {d x : Fin G.size} {n : Nat} {c : String} {p : List String} :
    G.follow d (c :: p) = some (x, n) →
      ∃ d' k n', (G.entries d).lookup c = some (some (d', k)) ∧ G.follow d' p = some (x, n') ∧
        n = k + n' := by
  simp only [follow]
  split
  · rename_i d' k hl
    intro h
    obtain ⟨⟨y, n'⟩, hf, he⟩ := Option.map_eq_some'.1 h
    cases he
    exact ⟨d', k, n', hl, hf, rfl⟩
  · intro h; cases h

/-- **The potential of a path**: along a path from `d` to `x` following `n` links, each
subdirectory goes one level deeper and each link costs at least the whole depth of the tree, so
the number of names is bounded by the links and the depths. -/
theorem length_add_depth_le {d x : Fin G.size} {n : Nat} {p : List String}
    (h : G.follow d p = some (x, n)) :
    p.length + G.depth d ≤ n * (G.maxDepth + 1) + G.depth x := by
  induction p generalizing d n with
  | nil =>
      obtain ⟨rfl, rfl⟩ := Prod.mk.inj (Option.some.inj h).symm
      simp
  | cons c p ih =>
      obtain ⟨d', k, n', hl, hf, rfl⟩ := follow_cons_eq_some h
      have hp := ih hf
      rw [List.length_cons]
      rcases Nat.eq_zero_or_pos k with rfl | hk
      · -- a subdirectory: one level deeper
        have := G.depth_lt d c d' (mem_of_lookup hl)
        rw [Nat.zero_add]; omega
      · -- a link: at most the whole depth back up, paid for by the link
        have hlink : G.maxDepth + 1 ≤ k * (G.maxDepth + 1) := Nat.le_mul_of_pos_left _ hk
        have := G.depth_le_maxDepth d
        rw [Nat.add_mul]; omega

theorem follow_of_isDir {p : List String} (h : G.isDir p = true) :
    ∃ x n, G.follow G.root p = some (x, n) ∧ G.rootLinks + n ≤ MAXSYMLINKS := by
  unfold isDir at h
  split at h
  · rename_i x n hf
    exact ⟨x, n, hf, by simpa using h⟩
  · cases h

/-- **A directory path has a bounded number of names**, since only `MAXSYMLINKS` links are
followed. -/
theorem length_le_of_isDir {p : List String} (h : G.isDir p = true) :
    p.length ≤ MAXSYMLINKS * (G.maxDepth + 1) + G.maxDepth := by
  obtain ⟨x, n, hf, hn⟩ := follow_of_isDir h
  have hlen := length_add_depth_le hf
  have hlinks : n * (G.maxDepth + 1) ≤ MAXSYMLINKS * (G.maxDepth + 1) :=
    Nat.mul_le_mul_right _ (by omega)
  have := G.depth_le_maxDepth x
  omega

theorem mem_paths {k : Nat} {d x : Fin G.size} {n : Nat} {p : List String}
    (h : G.follow d p = some (x, n)) (hk : p.length ≤ k) : p ∈ G.paths k d := by
  induction p generalizing k d n with
  | nil => cases k <;> simp [paths]
  | cons c p ih =>
      obtain ⟨d', k', n', hl, hf, -⟩ := follow_cons_eq_some h
      cases k with
      | zero => simp at hk
      | succ k =>
          simp only [paths, List.mem_cons, List.mem_flatMap]
          exact .inr ⟨(c, some (d', k')), mem_of_lookup hl,
            List.mem_map.2 ⟨p, ih hf (by simpa using hk), rfl⟩⟩

/-- Each listing names every entry once. -/
theorem iterdir_names (p : List String) :
    ∃ names : List String, names.Nodup ∧ (G.iterdir p).entries = names.map (p ++ [·]) := by
  unfold iterdir
  split
  · rename_i d _ _
    split_ifs
    · exact ⟨(G.entries d).map Prod.fst, G.nodup d, by simp⟩
    · exact ⟨[], List.nodup_nil, rfl⟩
  · exact ⟨[], List.nodup_nil, rfl⟩

/-! ### The walk ends -/

variable (G)

/-- **The walk ends**, within as many rounds as there are paths of at most the names a directory
path can have. -/
theorem walk_isSome :
    (G.walk (G.paths (MAXSYMLINKS * (G.maxDepth + 1) + G.maxDepth) G.root).length).isSome := by
  unfold walk
  split_ifs with htop
  · refine PathsInv.walkLoop_isSome iterdir_names
      (U := G.paths (MAXSYMLINKS * (G.maxDepth + 1) + G.maxDepth) G.root) (fun p hp => ?_)
      (PathsInv.init htop) (by simp)
    obtain ⟨x, n, hf, -⟩ := follow_of_isDir hp
    exact mem_paths hf (length_le_of_isDir hp)
  · rfl

/-- One directory with a link `loop` to itself. -/
def loopGraph : DirGraph where
  size := 1
  entries := fun _ => [("loop", some (0, 1))]
  root := 0
  rootLinks := 0
  nodup := fun _ => List.nodup_singleton _
  depth := fun _ => 0
  depth_lt := by simp

/-- On a link to its own directory the walk yields `top`, `top/loop`, ..., down to 40 links. -/
example : loopGraph.walk 42 = some ((List.range 41).map fun k => List.replicate k "loop") := by
  decide

variable {G}

/-- A finished walk yields no path twice. -/
theorem nodup_of_walk {fuel : Nat} {out : List (List String)} (h : G.walk fuel = some out) :
    out.Nodup := by
  unfold walk at h
  split_ifs at h with htop
  · simpa using (PathsInv.init htop).nodup_walkLoop iterdir_names h
  · cases h
    exact List.nodup_nil

end DirGraph

/-! ### Termination of the discovery -/

end ProfilePlugin
