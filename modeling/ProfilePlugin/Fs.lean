import Mathlib.Data.List.Nodup
import ProfilePlugin.Python
/-
**The filesystem the plugin reads.**

A filesystem is a finite tree: each node is named by its canonical path, the list of names from the
root, and is a directory or a file.  The structure `ProfilePlugin.Fs` carries what the operating
system guarantees — names are valid, every node hangs below a directory, no path is listed twice,
the working directory is a directory — so that no proof has to assume it again.

Path strings are resolved as `epath.Path` and the operating system do it: `pathlib` drops empty
and `.` components, then every component but the last must lead to a directory (`..` to the
parent, the root being its own parent) and the last one to an existing node.  A relative path
starts from the working directory.

Listings are lazy in the plugin (`iterdir`), so a failure shows up while the listing is
iterated: `ProfilePlugin.Listing` records the entries produced and whether iterating then raised
`OSError`.  Which directories fail, and after how many entries, is an arbitrary fault function.

Main definitions:

* `ProfilePlugin.Fs` — the filesystem, with `Fs.isDirAt`, `Fs.existsAt`, `Fs.children` on
  canonical paths;
* `ProfilePlugin.Fs.resolve`, `ProfilePlugin.Fs.isDir` — resolving a path string;
* `ProfilePlugin.Fs.listing`, `ProfilePlugin.Fs.iterdir` — listings.

Main results:

* `ProfilePlugin.Fs.isDirAt_of_append` — the ancestors of a directory are directories;
* `ProfilePlugin.Fs.isDir_of_resolve` — a path string built from a directory by appending names is
  a directory exactly when the canonical path so built is one.
-/

set_option autoImplicit false

namespace ProfilePlugin

/-! ### Nodes -/

/-- The kind of a node. -/
inductive Kind where
  | dir
  | file
  deriving DecidableEq, Repr

/-- A filesystem: its nodes by canonical path, the working directory, and the guarantees of the
operating system.  The root `[]` is a directory and is not listed among the nodes. -/
structure Fs where
  nodes : List (List String × Kind)
  cwd : List String
  names_valid : ∀ n ∈ nodes, ∀ c ∈ n.1, ValidName c
  parent_dir : ∀ n ∈ nodes, n.1 ≠ [] ∧ (n.1.dropLast = [] ∨ (n.1.dropLast, Kind.dir) ∈ nodes)
  nodup : (nodes.map Prod.fst).Nodup
  cwd_dir : cwd = [] ∨ (cwd, Kind.dir) ∈ nodes

/-- A profile tree to instantiate results on: `/logs/plugins/profile/run1/host.xplane.pb`, with
the root as working directory. -/
def Fs.sample : Fs where
  nodes := [(["logs"], .dir), (["logs", "plugins"], .dir), (["logs", "plugins", "profile"], .dir),
    (["logs", "plugins", "profile", "run1"], .dir),
    (["logs", "plugins", "profile", "run1", "host.xplane.pb"], .file)]
  cwd := []
  names_valid := by decide
  parent_dir := by decide
  nodup := by decide
  cwd_dir := .inl rfl

namespace Fs

variable (fs : Fs)

/-- Whether a canonical path is a directory. -/
def isDirAt (p : List String) : Bool := p = [] ∨ (p, Kind.dir) ∈ fs.nodes

/-- Whether a canonical path exists. -/
def existsAt (p : List String) : Bool := p = [] ∨ p ∈ fs.nodes.map Prod.fst

/-- The names of the entries of the directory `d`, in the order the filesystem lists them. -/
def children (d : List String) : List String :=
  (fs.nodes.map Prod.fst).filterMap fun p => if p.dropLast = d then p.getLast? else none

variable {fs}

theorem isDirAt_nil : fs.isDirAt [] := by simp [isDirAt]

theorem existsAt_of_isDirAt {p : List String} (h : fs.isDirAt p) : fs.existsAt p := by
  simp only [isDirAt, existsAt, decide_eq_true_eq, List.mem_map] at h ⊢
  exact h.imp_right fun h => ⟨_, h, rfl⟩

theorem isDirAt_dropLast {p : List String} (h : fs.isDirAt p) : fs.isDirAt p.dropLast := by
  simp only [isDirAt, decide_eq_true_eq] at h ⊢
  rcases h with rfl | h
  · exact .inl rfl
  · exact (fs.parent_dir _ h).2

/-- **The ancestors of a directory are directories.** -/
theorem isDirAt_of_append {p r : List String} (h : fs.isDirAt (p ++ r)) : fs.isDirAt p := by
  induction r using List.reverseRecOn with
  | nil => simpa using h
  | append_singleton r c ih =>
      apply ih
      simpa [← List.append_assoc] using isDirAt_dropLast h

/-- Every name on the path of a directory is a valid name. -/
theorem valid_of_isDirAt {p : List String} (h : fs.isDirAt p) : ∀ c ∈ p, ValidName c := by
  simp only [isDirAt, decide_eq_true_eq] at h
  rcases h with rfl | h
  · simp
  · exact fs.names_valid _ h

theorem mem_children {d : List String} {c : String} (h : c ∈ fs.children d) :
    fs.existsAt (d ++ [c]) := by
  obtain ⟨p, hp, hc⟩ := List.mem_filterMap.1 h
  split_ifs at hc with hd
  have : p = d ++ [c] := by rw [← hd]; exact (List.dropLast_append_getLast? c hc).symm
  simp only [existsAt, decide_eq_true_eq]
  exact .inr (this ▸ hp)

/-- The entries of a directory that are directories are its children. -/
theorem mem_children_of_isDirAt {d : List String} {c : String} (h : (d ++ [c], Kind.dir) ∈ fs.nodes) :
    c ∈ fs.children d :=
  List.mem_filterMap.2 ⟨_, List.mem_map_of_mem _ h, by simp⟩

theorem children_valid {d : List String} {c : String} (h : c ∈ fs.children d) : ValidName c := by
  obtain ⟨p, hp, hc⟩ := List.mem_filterMap.1 h
  split_ifs at hc
  obtain ⟨n, hn, rfl⟩ := List.mem_map.1 hp
  exact fs.names_valid n hn c (List.mem_of_getLast?_eq_some hc)

theorem children_nodup (d : List String) : (fs.children d).Nodup := by
  refine List.Nodup.filterMap ?_ fs.nodup
  intro a a' c ha ha'
  simp only [Option.mem_def] at ha ha'
  split_ifs at ha ha' with h h'
  rw [← List.dropLast_append_getLast? c ha, ← List.dropLast_append_getLast? c ha', h, h']

/-! ### Resolving path strings -/

/-- One component of a path: `..` goes to the parent, a name goes down. -/
def stepInto (cur : List String) (c : String) : List String :=
  if c = ".." then cur.dropLast else cur ++ [c]

variable (fs)

/-- Resolution of components from the directory `cur`: every component but the last has to lead
to a directory, and the last one to an existing node. -/
def resolveFrom : List String → List String → Option (List String)
  | cur, [] => some cur
  | cur, c :: cs =>
      if fs.isDirAt (stepInto cur c) then resolveFrom (stepInto cur c) cs
      else if cs = [] ∧ fs.existsAt (stepInto cur c) then some (stepInto cur c) else none

/-- The node a path string names: its `pathlib` components resolved from the root when it is
absolute, from the working directory otherwise. -/
def resolve (p : String) : Option (List String) :=
  fs.resolveFrom (if isAbs p then [] else fs.cwd) (pathComps p)

/-- `epath.Path(p).is_dir()`. -/
def isDir (p : String) : Bool :=
  match fs.resolve p with
  | some q => fs.isDirAt q
  | none => false

/-- `epath.Path(p).exists()`. -/
def pathExists (p : String) : Bool := (fs.resolve p).isSome

/-- `os.path.abspath(p)` as parts: the components applied from the root or the working directory,
`..` going up and nothing looked up. -/
def absPath (p : String) : List String :=
  (pathComps p).foldl stepInto (if isAbs p then [] else fs.cwd)

variable {fs}

theorem resolveFrom_append {cur p : List String} {cs : List String}
    (h : fs.resolveFrom cur cs = some p) (hp : fs.isDirAt p) (ds : List String) :
    fs.resolveFrom cur (cs ++ ds) = fs.resolveFrom p ds := by
  induction cs generalizing cur with
  | nil => cases h; rfl
  | cons c cs ih =>
      rw [List.cons_append]
      simp only [resolveFrom] at h ⊢
      by_cases h1 : fs.isDirAt (stepInto cur c)
      · rw [if_pos h1] at h ⊢; exact ih h
      · rw [if_neg h1] at h
        split_ifs at h
        cases h; exact absurd hp h1

/-- Resolving names from a directory: the result is a directory exactly when the canonical path
with the names appended is one. -/
theorem isDirAt_resolveFrom_names {cur : List String} (hcur : fs.isDirAt cur) :
    ∀ {cs : List String}, (∀ c ∈ cs, ValidName c) →
      ((fs.resolveFrom cur cs).map fs.isDirAt).getD false = fs.isDirAt (cur ++ cs)
  | [], _ => by simp [resolveFrom, hcur]
  | c :: cs, hv => by
      have hstep : stepInto cur c = cur ++ [c] := if_neg (hv c (by simp)).2.2.2
      simp only [resolveFrom, hstep]
      split_ifs with h1 h2
      · rw [isDirAt_resolveFrom_names h1 fun c hc => hv c (by simp [hc])]; simp
      · obtain ⟨rfl, -⟩ := h2; simp [h1]
      · simp only [Option.map_none', Option.getD_none]
        refine (Bool.eq_false_iff.2 fun h => h1 ?_).symm
        exact isDirAt_of_append (r := cs) (by simpa using h)

/-- **Path strings built from a directory**: if `s` resolves to the directory `base` and `t` has
the components of `s` followed by the names `rest`, then `t` is a directory exactly when
`base ++ rest` is one. -/
theorem isDir_of_resolve {s t : String} {base rest : List String} (hs : fs.resolve s = some base)
    (hbase : fs.isDirAt base) (hrest : ∀ c ∈ rest, ValidName c)
    (hcomps : pathComps t = pathComps s ++ rest) (habs : isAbs t = isAbs s) :
    fs.isDir t = fs.isDirAt (base ++ rest) := by
  unfold resolve at hs
  have := isDirAt_resolveFrom_names hbase hrest
  unfold isDir resolve
  rw [hcomps, habs, resolveFrom_append hs hbase]
  cases h : fs.resolveFrom base rest <;> simp_all

theorem resolve_of_isDir {p : String} (h : fs.isDir p) :
    ∃ q, fs.resolve p = some q ∧ fs.isDirAt q := by
  unfold isDir at h
  split at h
  · exact ⟨_, ‹_›, h⟩
  · cases h

/-- A resolution that ends in a directory passes through directories only. -/
theorem resolveFrom_of_append {cur : List String} (hcur : fs.isDirAt cur) :
    ∀ {cs ds : List String} {q : List String}, fs.resolveFrom cur (cs ++ ds) = some q →
      fs.isDirAt q → ∃ p, fs.resolveFrom cur cs = some p ∧ fs.isDirAt p
  | [], _, _, _, _ => ⟨cur, rfl, hcur⟩
  | c :: cs, ds, q, h, hq => by
      rw [List.cons_append] at h
      simp only [resolveFrom] at h ⊢
      by_cases h1 : fs.isDirAt (stepInto cur c)
      · rw [if_pos h1] at h ⊢
        exact resolveFrom_of_append h1 h hq
      · rw [if_neg h1] at h
        split_ifs at h
        cases h; exact absurd hq h1

/-- Names below a directory resolve to the canonical path with the names appended. -/
theorem resolveFrom_names {cur : List String} :
    ∀ {cs : List String}, fs.isDirAt (cur ++ cs) → (∀ c ∈ cs, ValidName c) →
      fs.resolveFrom cur cs = some (cur ++ cs)
  | [], _, _ => by simp [resolveFrom]
  | c :: cs, h, hv => by
      have hstep : stepInto cur c = cur ++ [c] := if_neg (hv c (by simp)).2.2.2
      have hc : fs.isDirAt (cur ++ [c]) := isDirAt_of_append (r := cs) (by simpa using h)
      simp only [resolveFrom, hstep, if_pos hc]
      simpa using resolveFrom_names (show fs.isDirAt ((cur ++ [c]) ++ cs) by simpa using h)
        fun c' hc' => hv c' (by simp [hc'])

theorem resolve_congr {s t : String} (hc : pathComps t = pathComps s) (ha : isAbs t = isAbs s) :
    fs.resolve t = fs.resolve s := by
  simp only [resolve, hc, ha]

theorem resolve_start_isDirAt (p : String) : fs.isDirAt (if isAbs p then [] else fs.cwd) := by
  split_ifs
  · exact isDirAt_nil
  · simpa [isDirAt] using fs.cwd_dir

/-- **A path with names appended is a directory** exactly when the path resolves to a directory
below which the names lead to a directory. -/
theorem isDir_iff_of_comps {s t : String} {rest : List String} (hrest : ∀ c ∈ rest, ValidName c)
    (hcomps : pathComps t = pathComps s ++ rest) (habs : isAbs t = isAbs s) :
    fs.isDir t ↔ ∃ base, fs.resolve s = some base ∧ fs.isDirAt (base ++ rest) := by
  constructor
  · intro ht
    obtain ⟨q, hq, hqd⟩ := resolve_of_isDir ht
    unfold resolve at hq
    rw [hcomps, habs] at hq
    obtain ⟨base, hb, hbd⟩ := resolveFrom_of_append (resolve_start_isDirAt s) hq hqd
    exact ⟨base, hb, by rwa [← isDir_of_resolve hb hbd hrest hcomps habs]⟩
  · rintro ⟨base, hb, hd⟩
    rw [isDir_of_resolve hb (isDirAt_of_append hd) hrest hcomps habs]
    exact hd

/-- A path with names appended resolves to the canonical path with the names appended, when that
is a directory. -/
theorem resolve_of_comps {s t : String} {base rest : List String} (hs : fs.resolve s = some base)
    (hd : fs.isDirAt (base ++ rest)) (hrest : ∀ c ∈ rest, ValidName c)
    (hcomps : pathComps t = pathComps s ++ rest) (habs : isAbs t = isAbs s) :
    fs.resolve t = some (base ++ rest) := by
  unfold resolve at hs ⊢
  rw [hcomps, habs, resolveFrom_append hs (isDirAt_of_append hd), resolveFrom_names hd hrest]

/-- The parent of a directory, as a path string, is a directory. -/
theorem isDir_of_isDir_join {s t : String} (h : fs.isDir (join s t))
    (ht : t.data.head? ≠ some '/') : fs.isDir s := by
  obtain ⟨q, hq, hqd⟩ := resolve_of_isDir h
  unfold resolve at hq
  rw [pathComps_join s t ht, isAbs_join s t ht] at hq
  obtain ⟨p, hp, hpd⟩ := resolveFrom_of_append (resolve_start_isDirAt s) hq hqd
  simp [isDir, resolve, hp, hpd]


/-! ### Listings -/

end Fs

/-- The result of iterating a lazily produced listing: the entries it produced, and whether
iterating it then raised `OSError`. -/
structure Listing (α : Type) where
  entries : List α
  raised : Bool

/-- Consuming a listing where nothing catches its error, as a list comprehension after the `try`
that created it: its entries, or the `OSError` it raised, here named by the listed path. -/
def Listing.consume {α : Type} (l : Listing α) (path : String) : Except PyErr (List α) :=
  if l.raised then .error (.osError path) else .ok l.entries

theorem Listing.consume_of_raised {α : Type} {l : Listing α} (h : l.raised = false) (path : String) :
    l.consume path = .ok l.entries := by
  simp [consume, h]

theorem Listing.eq_of_consume {α : Type} {l : Listing α} {path : String} {xs : List α}
    (h : l.consume path = .ok xs) : l.raised = false ∧ xs = l.entries := by
  unfold consume at h
  split_ifs at h with hr
  cases h; exact ⟨by simpa using hr, rfl⟩

namespace Fs

variable (fs : Fs)

/-- Listing the directory at a canonical path, where `faults d = some k` makes the listing of `d`
raise `OSError` after `k` entries.  Listing what is not a directory raises at once. -/
def listing (faults : List String → Option Nat) (d : List String) : Listing String :=
  if fs.isDirAt d then
    match faults d with
    | none => ⟨fs.children d, false⟩
    | some k => ⟨(fs.children d).take k, true⟩
  else ⟨[], true⟩

/-- Iterating `epath.Path(p).iterdir()`: the names of the entries. -/
def iterdir (faults : List String → Option Nat) (p : String) : Listing String :=
  match fs.resolve p with
  | some d => fs.listing faults d
  | none => ⟨[], true⟩

variable {fs}

theorem listing_entries_subset {faults : List String → Option Nat} {d : List String} {c : String}
    (h : c ∈ (fs.listing faults d).entries) : c ∈ fs.children d := by
  unfold listing at h
  split_ifs at h
  · split at h
    · exact h
    · exact List.mem_of_mem_take h
  · cases h

theorem listing_entries_sublist (faults : List String → Option Nat) (d : List String) :
    List.Sublist (fs.listing faults d).entries (fs.children d) := by
  unfold listing
  split_ifs
  · split
    · exact List.Sublist.refl _
    · exact List.take_sublist _ _
  · exact List.nil_sublist _

theorem listing_of_faults_none {faults : List String → Option Nat} {d : List String}
    (hd : fs.isDirAt d) (hf : faults d = none) : fs.listing faults d = ⟨fs.children d, false⟩ := by
  simp [listing, hd, hf]

theorem foldl_stepInto_names {cur : List String} {cs : List String} (h : ∀ c ∈ cs, ValidName c) :
    cs.foldl stepInto cur = cur ++ cs := by
  induction cs generalizing cur with
  | nil => simp
  | cons c cs ih =>
      rw [List.foldl_cons, stepInto, if_neg (h c (by simp)).2.2.2,
        ih fun c' hc' => h c' (by simp [hc'])]
      simp

/-- A path whose components extend those of another by names extends its absolute path. -/
theorem absPath_of_comps {s t : String} {rest : List String} (hrest : ∀ c ∈ rest, ValidName c)
    (hcomps : pathComps t = pathComps s ++ rest) (habs : isAbs t = isAbs s) :
    fs.absPath t = fs.absPath s ++ rest := by
  rw [absPath, absPath, hcomps, habs, List.foldl_append, foldl_stepInto_names hrest]

/-- Joining a name appends it to the absolute path. -/
theorem absPath_join (s : String) {n : String} (hn : ValidName n) :
    fs.absPath (join s n) = fs.absPath s ++ [n] :=
  absPath_of_comps (by simpa using hn) (by rw [pathComps_join s n hn.head?_ne, pathComps_comp hn.pathComp])
    (isAbs_join s n hn.head?_ne)

/-- A child of a directory, as a path string, resolves to its node. -/
theorem resolve_join_child {s : String} {d : List String} {c : String} (hs : fs.resolve s = some d)
    (hd : fs.isDirAt d) (hc : c ∈ fs.children d) : fs.resolve (join s c) = some (d ++ [c]) := by
  have hv := children_valid hc
  unfold resolve at hs ⊢
  rw [pathComps_join s c hv.head?_ne, isAbs_join s c hv.head?_ne, pathComps_comp hv.pathComp,
    resolveFrom_append hs hd]
  have hstep : stepInto d c = d ++ [c] := if_neg hv.2.2.2
  simp only [resolveFrom, hstep]
  split_ifs with h1 h2
  · rfl
  · rfl
  · exact absurd ⟨trivial, mem_children hc⟩ h2

/-- What a listing of a path string yields: children of the directory it resolves to. -/
theorem mem_iterdir {faults : List String → Option Nat} {p c : String}
    (h : c ∈ (fs.iterdir faults p).entries) :
    ∃ d, fs.resolve p = some d ∧ fs.isDirAt d ∧ c ∈ fs.children d := by
  unfold iterdir at h
  split at h
  · rename_i d hd
    refine ⟨d, hd, ?_, listing_entries_subset h⟩
    by_contra hdir
    simp [listing, hdir] at h
  · cases h

theorem listing_raised {faults : List String → Option Nat} {d : List String}
    (h : (fs.listing faults d).raised) : ¬ fs.isDirAt d ∨ faults d ≠ none := by
  unfold listing at h
  split_ifs at h with hd
  · split at h
    · cases h
    · exact .inr (by simp_all)
  · exact .inl hd

end Fs

end ProfilePlugin
