import Mathlib.Data.List.DropRight
/-
**Python strings, exceptions and `posixpath`, as the profile plugin uses them.**

Every path the plugin touches is assembled with `os.path.join`, frontend run names are taken apart
with `os.path.split` after `str.rstrip(os.sep)`, and the run names of the data provider are cut
with `os.path.basename` and `os.path.dirname`.  This module models these functions of CPython's
`posixpath` on the character lists of strings (`String.data`), and models what `pathlib` keeps of
a path string: the components between separators, without the empty ones and `.`.

The exceptions that the modelled code raises or catches are the constructors of
`ProfilePlugin.PyErr`; a function that can raise returns `Except PyErr`.

Main definitions:

* `ProfilePlugin.PyErr` — the Python exceptions;
* `ProfilePlugin.rstrip`, `ProfilePlugin.join`, `ProfilePlugin.split`, `ProfilePlugin.basename`,
  `ProfilePlugin.dirname`, `ProfilePlugin.strSplit` — the Python functions;
* `ProfilePlugin.ValidName` — a name that a directory listing can produce;
* `ProfilePlugin.joinNames` — `str(epath.Path(*parts))`, which for such names is
  `os.path.join(*parts)`;
* `ProfilePlugin.pathComps`, `ProfilePlugin.isAbs` — the components of a path string, and whether
  it is absolute.

Main results:

* `ProfilePlugin.split_join` — `os.path.split` takes `os.path.join(c, p)` apart again, for every
  head `c` that `os.path.split` can return and every `p` without a separator;
* `ProfilePlugin.pathComps_join` — joining a relative path appends its components;
* `ProfilePlugin.pathComps_joinNames` — the components of joined names are the names;
* `ProfilePlugin.strSplit_intercalate` — `str.split(sep)` takes `sep.join(l)` apart again when no
  piece has the separator.
-/

set_option autoImplicit false

namespace ProfilePlugin

open List

/-! ### Exceptions -/

/-- The Python exceptions that the modelled code raises or catches, with their messages. -/
inductive PyErr where
  /-- `OSError`; `IOError` is the same class. -/
  | osError (msg : String)
  /-- `FileNotFoundError`, a subclass of `OSError`. -/
  | fileNotFound (msg : String)
  | runtimeError (msg : String)
  | attributeError (msg : String)
  | valueError (msg : String)
  | keyError (key : String)
  /-- An exception of any other class, by class name. -/
  | other (cls msg : String)
  deriving DecidableEq, Repr

/-- The built-in subclasses of `OSError` other than `FileNotFoundError`, by name. -/
def OSERROR_SUBCLASSES : List String :=
  ["BlockingIOError", "ChildProcessError", "ConnectionError", "BrokenPipeError",
    "ConnectionAbortedError", "ConnectionRefusedError", "ConnectionResetError", "FileExistsError",
    "InterruptedError", "IsADirectoryError", "NotADirectoryError", "PermissionError",
    "ProcessLookupError", "TimeoutError"]

/-- `except OSError` (and `except IOError`, the same class): an `OSError`. -/
def PyErr.isOSError : PyErr → Bool
  | .osError _ | .fileNotFound _ => true
  | .other cls _ => cls ∈ OSERROR_SUBCLASSES
  | _ => false

/-- Every exception `x` raises satisfies `P`. -/
def RaisesOnly {α : Type} (P : PyErr → Prop) (x : Except PyErr α) : Prop :=
  ∀ err, x = .error err → P err

namespace RaisesOnly

variable {α β : Type} {P : PyErr → Prop}

theorem ok (a : α) : RaisesOnly P (.ok a : Except PyErr α) := fun _ h => nomatch h

theorem pure (a : α) : RaisesOnly P (Pure.pure a : Except PyErr α) := ok a

theorem bind {x : Except PyErr α} {f : α → Except PyErr β} (hx : RaisesOnly P x)
    (hf : ∀ a, RaisesOnly P (f a)) : RaisesOnly P (x >>= f) := by
  intro err h
  cases x with
  | error e => exact hx err (by cases h; rfl)
  | ok a => exact hf a err h

theorem mapM {f : α → Except PyErr β} (hf : ∀ a, RaisesOnly P (f a)) :
    ∀ l : List α, RaisesOnly P (l.mapM f)
  | [] => ok []
  | a :: l => by
      rw [List.mapM_cons]
      exact (hf a).bind fun b => (mapM hf l).bind fun bs => pure (b :: bs)

end RaisesOnly

/-! ### Character-list helpers -/

/-- The characters of `s` after its last separator: `s[i:]` for `i = s.rfind(os.sep) + 1`. -/
def afterSep (s : List Char) : List Char := s.rtakeWhile (· != '/')

/-- The characters of `s` up to and including its last separator: `s[:i]`. -/
def uptoSep (s : List Char) : List Char := s.rdropWhile (· != '/')

theorem rdropWhile_of_getLast?_ne {c : Char} {s : List Char} (h : s.getLast? ≠ some c) :
    s.rdropWhile (· == c) = s :=
  rdropWhile_eq_self_iff.2 fun hl e => h (by rw [getLast?_eq_getLast s hl]; simpa using e)

theorem getLast?_rdropWhile_ne (c : Char) (s : List Char) :
    (s.rdropWhile (· == c)).getLast? ≠ some c := by
  intro h
  have hne : s.rdropWhile (· == c) ≠ [] := by rintro e; simp [e] at h
  have := rdropWhile_last_not (· == c) s hne
  rw [getLast?_eq_getLast _ hne] at h
  simp_all

theorem afterSep_of_sep_not_mem {s : List Char} (h : '/' ∉ s) : afterSep s = s :=
  rtakeWhile_eq_self_iff.2 fun x hx => by
    simp only [bne_iff_ne, ne_eq]; rintro rfl; exact h hx

theorem uptoSep_of_sep_not_mem {s : List Char} (h : '/' ∉ s) : uptoSep s = [] :=
  rdropWhile_eq_nil_iff.2 fun x hx => by
    simp only [bne_iff_ne, ne_eq]; rintro rfl; exact h hx

theorem afterSep_append_sep (a b : List Char) (h : '/' ∉ b) : afterSep (a ++ '/' :: b) = b := by
  have hb : ∀ x ∈ b.reverse, (x != '/') = true := fun x hx => by
    simp only [bne_iff_ne, ne_eq]; rintro rfl; exact h (mem_reverse.1 hx)
  simp [afterSep, rtakeWhile, takeWhile_append_of_pos hb]

theorem uptoSep_append_sep (a b : List Char) (h : '/' ∉ b) :
    uptoSep (a ++ '/' :: b) = a ++ ['/'] := by
  have hb : ∀ x ∈ b.reverse, (x != '/') = true := fun x hx => by
    simp only [bne_iff_ne, ne_eq]; rintro rfl; exact h (mem_reverse.1 hx)
  simp [uptoSep, rdropWhile, dropWhile_append_of_pos hb]

/-- Splitting on a separator cuts at every separator. -/
theorem splitOn_append_sep (c : Char) (a b : List Char) :
    (a ++ c :: b).splitOn c = a.splitOn c ++ b.splitOn c := by
  induction a with
  | nil => simp [List.splitOn]
  | cons x a ih =>
      simp only [List.splitOn] at ih ⊢
      rw [cons_append, splitOnP_cons, splitOnP_cons, ih]
      split
      · rfl
      · obtain ⟨y, ys, hy⟩ := exists_cons_of_ne_nil (splitOnP_ne_nil (· == c) a)
        rw [hy]; rfl

/-- A list without the separator is one piece. -/
theorem splitOn_of_not_mem {c : Char} {a : List Char} (h : c ∉ a) : a.splitOn c = [a] :=
  splitOnP_eq_single _ _ fun x hx e => h (by rwa [← eq_of_beq e])

/-- A piece of a split holds no separator, and only characters of the split list. -/
theorem sep_not_mem_of_mem_splitOn {c : Char} :
    ∀ {s x : List Char}, x ∈ s.splitOn c → c ∉ x ∧ x ⊆ s
  | [], x, h => by
      rw [splitOn_nil, mem_singleton] at h
      subst h; simp
  | a :: s, x, h => by
      have ih : ∀ {y}, y ∈ s.splitOn c → c ∉ y ∧ y ⊆ a :: s := fun hy =>
        (sep_not_mem_of_mem_splitOn hy).imp_right (subset_cons_of_subset a)
      rw [List.splitOn, splitOnP_cons] at h
      split_ifs at h with ha
      · rcases mem_cons.1 h with rfl | h
        · simp
        · exact ih h
      · obtain ⟨y, ys, hy⟩ := exists_cons_of_ne_nil (splitOnP_ne_nil (· == c) s)
        have hmem : ∀ z ∈ y :: ys, z ∈ s.splitOn c := fun z hz => by rwa [List.splitOn, hy]
        rw [hy] at h
        rcases mem_cons.1 h with rfl | h
        · obtain ⟨h₁, h₂⟩ := sep_not_mem_of_mem_splitOn (hmem y (mem_cons_self _ _))
          refine ⟨fun hc => ?_, cons_subset_cons a h₂⟩
          rcases mem_cons.1 hc with rfl | hc
          · exact ha (beq_self_eq_true _)
          · exact h₁ hc
        · exact ih (hmem _ (mem_cons_of_mem _ h))

/-! ### The Python functions -/

/-- `s.rstrip(c)`. -/
def rstrip (c : Char) (s : String) : String := ⟨s.data.rdropWhile (· == c)⟩

/-- `os.path.join(a, b)`: `b` when it is absolute, otherwise `b` appended to `a` with one
separator between them unless `a` is empty or already ends with one. -/
def join (a b : String) : String :=
  if b.data.head? = some '/' then b
  else if a.data = [] ∨ a.data.getLast? = some '/' then a ++ b
  else a ++ "/" ++ b

/-- `os.path.split(p)`: the head keeps its trailing separators only when it consists of them. -/
def split (p : String) : String × String :=
  let head := uptoSep p.data
  (⟨if head ≠ [] ∧ ¬ head.all (· == '/') then head.rdropWhile (· == '/') else head⟩,
    ⟨afterSep p.data⟩)

/-- `os.path.basename(p)`. -/
def basename (p : String) : String := (split p).2

/-- `os.path.dirname(p)`. -/
def dirname (p : String) : String := (split p).1

/-- A join is empty only when both parts are. -/
theorem join_eq_empty {a b : String} (h : join a b = "") : a = "" ∧ b = "" := by
  have hd := congrArg String.data h
  unfold join at hd
  split_ifs at hd with h₁ h₂
  · simp [hd] at h₁
  · simp only [String.data_append, append_eq_nil] at hd
    exact ⟨String.ext hd.1, String.ext hd.2⟩
  · simp at hd

/-- `s.split(sep)` for a separator of one character: the pieces between the separators, the empty
ones kept. -/
def strSplit (s : String) (sep : Char) : List String := (s.data.splitOn sep).map String.mk

theorem intercalate_go_append (x y s : String) (as : List String) :
    String.intercalate.go (x ++ y) s as = x ++ String.intercalate.go y s as := by
  induction as generalizing y with
  | nil => rfl
  | cons a as ih =>
      rw [String.intercalate.go, String.intercalate.go, ← ih]
      simp only [String.append_assoc]

theorem intercalate_cons_cons (s a b : String) (as : List String) :
    s.intercalate (a :: b :: as) = a ++ s ++ s.intercalate (b :: as) :=
  intercalate_go_append (a ++ s) b s as

/-- **Splitting what `sep.join` joined**: a non-empty list of pieces without the separator comes
back whole from `str.split`. -/
theorem strSplit_intercalate {s : String} {c : Char} (hs : s.data = [c]) {l : List String}
    (hl : l ≠ []) (hc : ∀ m ∈ l, c ∉ m.data) : strSplit (s.intercalate l) c = l := by
  induction l with
  | nil => exact absurd rfl hl
  | cons a as ih =>
      have ha : a.data.splitOn c = [a.data] := splitOn_of_not_mem (hc a (mem_cons_self _ _))
      cases as with
      | nil => simp [strSplit, String.intercalate, String.intercalate.go, ha]
      | cons b as =>
          have hrest := ih (cons_ne_nil _ _) fun m hm => hc m (mem_cons_of_mem _ hm)
          rw [strSplit, intercalate_cons_cons, String.data_append, String.data_append, hs,
            append_assoc, singleton_append, splitOn_append_sep, ha, map_append]
          exact congrArg _ hrest

theorem rstrip_of_getLast?_ne {c : Char} {s : String} (h : s.data.getLast? ≠ some c) :
    rstrip c s = s := by
  simp [rstrip, rdropWhile_of_getLast?_ne h]

theorem rstrip_subset (c : Char) (s : String) : (rstrip c s).data ⊆ s.data :=
  ( rdropWhile_prefix _ _).subset

/-- Both parts of `os.path.split(p)` are made of characters of `p`. -/
theorem split_subset (p : String) : (split p).1.data ⊆ p.data ∧ (split p).2.data ⊆ p.data := by
  have hhead : uptoSep p.data ⊆ p.data := ( rdropWhile_prefix _ _).subset
  refine ⟨?_, (rtakeWhile_suffix _ _).subset⟩
  simp only [split]
  split_ifs
  · exact Subset.trans ( rdropWhile_prefix _ _).subset hhead
  · exact hhead

/-- `os.path.basename` of a name joined to a path is the name. -/
theorem basename_join (p : String) {n : String} (hn : '/' ∉ n.data) : basename (join p n) = n := by
  have hhead : n.data.head? ≠ some '/' := fun e => hn (mem_of_mem_head? e)
  unfold basename split join
  rw [if_neg hhead]
  apply String.ext
  split_ifs with h
  · rcases h with h | h
    · simp [h, afterSep_of_sep_not_mem hn]
    · obtain ⟨ys, hys⟩ : ∃ ys, p.data = ys ++ ['/'] := ⟨_, (dropLast_append_getLast? '/' h).symm⟩
      simp [hys, afterSep_append_sep _ _ hn]
  · simp [afterSep_append_sep _ _ hn]

/-- A string that `os.path.split` can return as a head: it ends with a separator only when it
consists of separators. -/
def IsHead (c : String) : Prop := c.data.getLast? = some '/' → c.data.all (· == '/')

instance : DecidablePred IsHead := fun _ => inferInstanceAs (Decidable (_ → _))

theorem isHead_dirname (p : String) : IsHead (dirname p) := by
  unfold IsHead dirname split
  dsimp only
  split_ifs with h
  · exact fun h' => absurd h' (getLast?_rdropWhile_ne _ _)
  · intro hl
    by_contra h'
    exact h ⟨by rintro e; simp [e] at hl, h'⟩

/-- **`os.path.split` undoes `os.path.join`**: for every head `c` and every `p` without a
separator, `os.path.split(os.path.join(c, p)) = (c, p)`. -/
theorem split_join {c p : String} (hc : IsHead c) (hsep : '/' ∉ p.data) :
    split (join c p) = (c, p) := by
  have hhead : p.data.head? ≠ some '/' := fun e => hsep (mem_of_mem_head? e)
  unfold join
  rw [if_neg hhead]
  by_cases hc0 : c.data = []
  · obtain rfl : c = "" := String.ext hc0
    simp [split, uptoSep_of_sep_not_mem hsep, afterSep_of_sep_not_mem hsep]
  by_cases hcl : c.data.getLast? = some '/'
  · rw [if_pos (Or.inr hcl)]
    have hdata : (c ++ p).data = c.data.dropLast ++ '/' :: p.data := by
      rw [String.data_append, ← dropLast_append_getLast? '/' hcl, dropLast_concat]; simp
    simp only [split, hdata, uptoSep_append_sep _ _ hsep, afterSep_append_sep _ _ hsep,
      dropLast_append_getLast? '/' hcl, hc hcl, not_true_eq_false, and_false, if_false]
  · rw [if_neg (by tauto)]
    have hdata : (c ++ "/" ++ p).data = c.data ++ '/' :: p.data := by simp
    have hall : ¬ (c.data ++ ['/']).all (· == '/') = true := by
      rw [all_append, Bool.and_eq_true, all_eq_true]
      rintro ⟨h, -⟩
      exact hcl (by rw [getLast?_eq_getLast _ hc0]; simpa using h _ (getLast_mem hc0))
    simp only [split, hdata, uptoSep_append_sep _ _ hsep, afterSep_append_sep _ _ hsep]
    rw [if_pos ⟨by simp, hall⟩, rdropWhile_concat_pos _ _ '/' (by simp),
      rdropWhile_of_getLast?_ne hcl]

/-! ### Names and path components -/

/-- A name that a directory listing can produce: non-empty, without a separator, and neither `.`
nor `..`. -/
def ValidName (n : String) : Prop := n.data ≠ [] ∧ '/' ∉ n.data ∧ n ≠ "." ∧ n ≠ ".."

instance : DecidablePred ValidName := fun _ => inferInstanceAs (Decidable (_ ∧ _ ∧ _ ∧ _))

theorem ValidName.head?_ne {n : String} (hn : ValidName n) : n.data.head? ≠ some '/' :=
  fun e => hn.2.1 (mem_of_mem_head? e)

theorem ValidName.getLast?_ne {n : String} (hn : ValidName n) : n.data.getLast? ≠ some '/' :=
  fun e => hn.2.1 (mem_of_getLast?_eq_some e)

theorem ValidName.rstrip_eq {n : String} (hn : ValidName n) : rstrip '/' n = n :=
  rstrip_of_getLast?_ne hn.getLast?_ne

/-- The components `pathlib` keeps of a path string: the pieces between separators, without the
empty ones (from doubled or trailing separators) and `.`. -/
def pathComps (p : String) : List String :=
  ((p.data.splitOn '/').map String.mk).filter (fun c => c ≠ "" ∧ c ≠ ".")

/-- Whether a path string is absolute. -/
def isAbs (p : String) : Bool := p.data.head? = some '/'

/-- `str(epath.Path(*parts))`; for parts that are names this is `os.path.join(*parts)`. -/
def joinNames (parts : List String) : String := parts.foldl join ""

theorem joinNames_concat (cs : List String) (n : String) :
    joinNames (cs ++ [n]) = join (joinNames cs) n := by
  simp [joinNames]

/-- Joining a relative path appends its components. -/
theorem pathComps_join (s t : String) (ht : t.data.head? ≠ some '/') :
    pathComps (join s t) = pathComps s ++ pathComps t := by
  unfold join
  rw [if_neg ht]
  split_ifs with h
  · rcases h with h | h
    · obtain rfl : s = "" := String.ext h
      simp [pathComps]
    · have hs : s.data = s.data.dropLast ++ ['/'] := (dropLast_append_getLast? '/' h).symm
      have e1 := splitOn_append_sep '/' s.data.dropLast []
      rw [← hs] at e1
      simp only [pathComps, String.data_append]
      conv_lhs => rw [hs, append_assoc, singleton_append, splitOn_append_sep]
      simp [e1]
  · simp only [pathComps, String.data_append, append_assoc]
    rw [show ("/" : String).data ++ t.data = '/' :: t.data from rfl, splitOn_append_sep]
    simp

theorem isAbs_join (s t : String) (ht : t.data.head? ≠ some '/') :
    isAbs (join s t) = isAbs s := by
  unfold join isAbs
  rw [if_neg ht]
  split_ifs with h
  · rcases h with h | h
    · obtain rfl : s = "" := String.ext h
      simpa using ht
    · obtain ⟨x, xs, hx⟩ := exists_cons_of_ne_nil (fun e : s.data = [] => by simp [e] at h)
      simp [hx]
  · obtain ⟨x, xs, hx⟩ := exists_cons_of_ne_nil (fun e : s.data = [] => h (Or.inl e))
    simp [hx]

/-- A component `pathlib` keeps: non-empty, without a separator, and not `.`; unlike a name, it
may be `..`. -/
def PathComp (c : String) : Prop := c.data ≠ [] ∧ '/' ∉ c.data ∧ c ≠ "."

theorem ValidName.pathComp {n : String} (hn : ValidName n) : PathComp n := ⟨hn.1, hn.2.1, hn.2.2.1⟩

theorem PathComp.head?_ne {n : String} (hn : PathComp n) : n.data.head? ≠ some '/' :=
  fun e => hn.2.1 (mem_of_mem_head? e)

theorem PathComp.getLast?_ne {n : String} (hn : PathComp n) : n.data.getLast? ≠ some '/' :=
  fun e => hn.2.1 (mem_of_getLast?_eq_some e)

/-- The components of a path string are components, made of its characters. -/
theorem pathComp_of_mem_pathComps {p c : String} (h : c ∈ pathComps p) :
    PathComp c ∧ c.data ⊆ p.data := by
  obtain ⟨hc, hne, hdot⟩ := mem_filter.1 h |>.imp_right fun h => by simpa using h
  obtain ⟨x, hx, rfl⟩ := mem_map.1 hc
  obtain ⟨hsep, hsub⟩ := sep_not_mem_of_mem_splitOn hx
  exact ⟨⟨fun e => hne (String.ext e), hsep, hdot⟩, hsub⟩

theorem pathComps_comp {n : String} (hn : PathComp n) : pathComps n = [n] := by
  have hsplit : n.data.splitOn '/' = [n.data] := splitOn_of_not_mem hn.2.1
  have hne : n ≠ "" := fun e => hn.1 (by rw [e])
  simp [pathComps, hsplit, hne, hn.2.2]

/-- Joining components one by one appends them to the components of the start. -/
theorem pathComps_foldl_join (root : String) {cs : List String} (h : ∀ c ∈ cs, PathComp c) :
    pathComps (cs.foldl join root) = pathComps root ++ cs := by
  induction cs using reverseRecOn with
  | nil => simp
  | append_singleton cs n ih =>
      have hn := h n (by simp)
      rw [foldl_concat, pathComps_join _ _ hn.head?_ne, ih fun c hc => h c (by simp [hc]),
        pathComps_comp hn, append_assoc]

theorem isAbs_foldl_join (root : String) {cs : List String} (h : ∀ c ∈ cs, PathComp c) :
    isAbs (cs.foldl join root) = isAbs root := by
  induction cs using reverseRecOn with
  | nil => rfl
  | append_singleton cs n ih =>
      rw [foldl_concat, isAbs_join _ _ (h n (by simp)).head?_ne, ih fun c hc => h c (by simp [hc])]

theorem pathComps_joinNames {cs : List String} (h : ∀ c ∈ cs, ValidName c) :
    pathComps (joinNames cs) = cs :=
  pathComps_foldl_join "" fun c hc => (h c hc).pathComp

theorem isAbs_joinNames {cs : List String} (h : ∀ c ∈ cs, ValidName c) :
    isAbs (joinNames cs) = false :=
  isAbs_foldl_join "" fun c hc => (h c hc).pathComp

theorem getLast?_join_of_sep_not_mem (s : String) {n : String} (h0 : n.data ≠ [])
    (hsep : '/' ∉ n.data) : (join s n).data.getLast? = n.data.getLast? := by
  obtain ⟨ys, y, hy⟩ := (eq_nil_or_concat n.data).resolve_left h0
  unfold join
  have hhead : n.data.head? ≠ some '/' := fun e => hsep (mem_of_mem_head? e)
  rw [if_neg hhead]
  split_ifs <;> simp [hy, ← append_assoc]

theorem isHead_joinNames {cs : List String} (h : ∀ c ∈ cs, ValidName c) :
    IsHead (joinNames cs) := by
  rcases eq_nil_or_concat cs with rfl | ⟨cs, n, rfl⟩
  · intro e; simp [joinNames] at e
  · rw [concat_eq_append] at h ⊢
    have hn := h n (by simp)
    rw [joinNames_concat]
    exact fun e => absurd ((getLast?_join_of_sep_not_mem _ hn.1 hn.2.1).symm.trans e)
      hn.getLast?_ne

/-- A relative path of names joined by single separators, as `str(epath.Path(*parts))` gives it for
names `parts` (`""` for none): a run name as TensorBoard reports it. -/
def NamesPath (p : String) : Prop := (∀ c ∈ pathComps p, ValidName c) ∧ joinNames (pathComps p) = p

instance : DecidablePred NamesPath := fun _ => inferInstanceAs (Decidable (_ ∧ _))

theorem namesPath_joinNames {cs : List String} (h : ∀ c ∈ cs, ValidName c) :
    NamesPath (joinNames cs) := by
  rw [NamesPath, pathComps_joinNames h]; exact ⟨h, rfl⟩

theorem NamesPath.isAbs {p : String} (h : NamesPath p) : isAbs p = false := by
  rw [← h.2]; exact isAbs_joinNames h.1

theorem NamesPath.head?_ne {p : String} (h : NamesPath p) : p.data.head? ≠ some '/' := by
  simpa [ProfilePlugin.isAbs] using h.isAbs

theorem NamesPath.ne_dot {p : String} (h : NamesPath p) : p ≠ "." := by
  rintro rfl; exact absurd h.2 (by decide)

/-- `os.path.split` of names joined by separators takes the last name off. -/
theorem split_joinNames {cs : List String} {n : String} (h : ∀ c ∈ cs, ValidName c)
    (hn : ValidName n) : split (joinNames (cs ++ [n])) = (joinNames cs, n) := by
  rw [joinNames_concat]; exact split_join (isHead_joinNames h) hn.2.1

theorem NamesPath.dirname {p : String} (h : NamesPath p) : NamesPath (dirname p) := by
  rcases eq_nil_or_concat (pathComps p) with hc | ⟨cs, n, hc⟩
  · rw [← h.2, hc]; decide
  · rw [concat_eq_append] at hc
    have hv := h.1
    rw [hc] at hv
    rw [← h.2, hc, ProfilePlugin.dirname, split_joinNames (fun c hc => hv c (by simp [hc]))
      (hv n (by simp))]
    exact namesPath_joinNames fun c hc => hv c (by simp [hc])

/-! ### The string of an `epath.Path` -/

/-- The root `pathlib` keeps of a path string: `//` for exactly two leading separators, `/` for
one or more than two, nothing for a relative path. -/
def pathRoot (p : String) : String :=
  if (p.data.takeWhile (· == '/')).length = 2 then "//" else if isAbs p then "/" else ""

/-- `str(epath.Path(p))`, the string `epath` hands to the operating system:
`os.path.join(*path.parts)`, the root followed by the components, or `.` when there are none. -/
def pathStr (p : String) : String :=
  if pathRoot p = "" ∧ pathComps p = [] then "." else (pathComps p).foldl join (pathRoot p)

theorem pathComps_pathRoot (p : String) : pathComps (pathRoot p) = [] := by
  unfold pathRoot; split_ifs <;> decide

theorem isAbs_pathRoot (p : String) : isAbs (pathRoot p) = isAbs p := by
  unfold pathRoot
  rcases h : p.data with _ | ⟨c, cs⟩
  · simp [isAbs, h]
  · by_cases hc : c = '/'
    · subst hc; split_ifs <;> simp_all [isAbs]
    · simp [isAbs, h, hc]

theorem pathComps_pathStr (p : String) : pathComps (pathStr p) = pathComps p := by
  unfold pathStr
  split_ifs with h
  · rw [h.2]; decide
  · rw [pathComps_foldl_join _ fun c hc => (pathComp_of_mem_pathComps hc).1, pathComps_pathRoot,
      nil_append]

theorem isAbs_pathStr (p : String) : isAbs (pathStr p) = isAbs p := by
  unfold pathStr
  split_ifs with h
  · rw [← isAbs_pathRoot p, h.1]; rfl
  · rw [isAbs_foldl_join _ fun c hc => (pathComp_of_mem_pathComps hc).1, isAbs_pathRoot]

theorem mem_join {a b : String} {ch : Char} (h : ch ∈ (join a b).data) :
    ch ∈ a.data ∨ ch ∈ b.data ∨ ch = '/' := by
  unfold join at h
  split_ifs at h
  · exact .inr (.inl h)
  · simp only [String.data_append, mem_append] at h; tauto
  · simp only [String.data_append, mem_append] at h
    rcases h with (h | h) | h
    · exact .inl h
    · exact .inr (.inr (by simpa using h))
    · exact .inr (.inl h)

theorem mem_foldl_join {ch : Char} :
    ∀ {root : String} {cs : List String}, ch ∈ (cs.foldl join root).data →
      ch ∈ root.data ∨ (∃ c ∈ cs, ch ∈ c.data) ∨ ch = '/'
  | _, [], h => .inl h
  | root, c :: cs, h => by
      rw [foldl_cons] at h
      rcases mem_foldl_join h with h | ⟨c', hc', h⟩ | h
      · rcases mem_join h with h | h | h
        · exact .inl h
        · exact .inr (.inl ⟨c, mem_cons_self _ _, h⟩)
        · exact .inr (.inr h)
      · exact .inr (.inl ⟨c', mem_cons_of_mem _ hc', h⟩)
      · exact .inr (.inr h)

/-- The characters of `str(epath.Path(p))` are those of `p`, separators and the `.` of an empty
path. -/
theorem mem_pathStr {p : String} {ch : Char} (h : ch ∈ (pathStr p).data) :
    ch ∈ p.data ∨ ch = '/' ∨ ch = '.' := by
  unfold pathStr at h
  split_ifs at h
  · exact .inr (.inr (by simpa using h))
  · rcases mem_foldl_join h with h | ⟨c, hc, h⟩ | h
    · right; left; unfold pathRoot at h; split_ifs at h <;> simp_all
    · exact .inl ((pathComp_of_mem_pathComps hc).2 h)
    · exact .inr (.inl h)

theorem isHead_pathStr (p : String) : IsHead (pathStr p) := by
  unfold pathStr
  split_ifs with h
  · decide
  · rcases eq_nil_or_concat (pathComps p) with hc | ⟨cs, n, hc⟩
    · rw [hc]; unfold pathRoot; split_ifs <;> decide
    · have hn := (pathComp_of_mem_pathComps (hc ▸ by simp : n ∈ pathComps p)).1
      rw [hc, concat_eq_append, foldl_concat]
      exact fun e => absurd ((getLast?_join_of_sep_not_mem _ hn.1 hn.2.1).symm.trans e)
        hn.getLast?_ne

theorem pathStr_ne_empty (p : String) : pathStr p ≠ "" := by
  unfold pathStr
  split_ifs with h
  · decide
  · rcases eq_nil_or_concat (pathComps p) with hc | ⟨cs, n, hc⟩
    · rw [hc]; exact fun e => h ⟨e, hc⟩
    · have hn := (pathComp_of_mem_pathComps (hc ▸ by simp : n ∈ pathComps p)).1
      rw [hc, concat_eq_append, foldl_concat]
      exact fun e => hn.1 (by rw [(join_eq_empty e).2])

end ProfilePlugin
