import Mathlib.Data.Char
import ProfilePlugin.Fs
/-
**`glob.glob` and `fnmatch`, as `epath.Path(d).glob(pattern)` runs them on a local path.**

`epath` globs a local path with `glob.glob(os.path.join(str(path), pattern))`.  This module models
CPython's `glob` and `fnmatch` (3.11) as they run there: without `recursive`, `root_dir`, `dir_fd`
or `include_hidden`.

`glob.glob` splits the pattern with `os.path.split`.  A part without the characters `*`, `?`, `[`
is looked up as it is (`_glob0`: `os.path.lexists`, or `os.path.isdir` for an empty last part);
a part with one of them is matched against the names `os.scandir` yields for its directory
(`_glob1`), where a name starting with `.` is left out unless the part starts with `.`.  The
directory part of the pattern is globbed the same way, for directories only.  So every component
of the path globbed — the logdir and the run name included — is a pattern: `run[1]` names the
directory `run1`, and `*` every directory.

`glob` swallows the `OSError` of a listing, keeping the names listed before it, and
`os.path.lexists` and `os.path.isdir` swallow every `OSError` and `ValueError`.  What escapes is
the `ValueError` that `os.scandir` raises for a path with a NUL character.

`fnmatch.translate` turns a pattern into a regular expression, matched against the whole name with
`re.DOTALL`: `*` matches any characters (newlines too), `?` one, and a bracket expression a set of
characters, built by the source's loop over the hyphens of the bracket
(`ProfilePlugin.bracketClass`); every other character stands for itself.  The lazy, atomic groups
`translate` writes for the stars accept the same names as trying every split: the parts between
stars have a fixed length, so the leftmost place a part matches is always one a match can use.

Main definitions:

* `ProfilePlugin.CharClass`, `ProfilePlugin.Atom`, `ProfilePlugin.translate`,
  `ProfilePlugin.matchAtoms`, `ProfilePlugin.fnmatch` — `fnmatch`;
* `ProfilePlugin.hasMagic`, `ProfilePlugin.isHidden`, `ProfilePlugin.Fs.listdir`,
  `ProfilePlugin.Fs.glob1`, `ProfilePlugin.Fs.glob0`, `ProfilePlugin.Fs.iglob`,
  `ProfilePlugin.Fs.glob` — `glob`;
* `ProfilePlugin.Fs.epathGlob` — `epath.Path(p).glob(pattern)`, as a list.

Main results:

* `ProfilePlugin.fnmatch_star_suffix` — a star followed by characters that are no pattern matches
  the names ending in them;
* `ProfilePlugin.Fs.epathGlob_star` — **globbing a path without pattern characters for `*` and a
  suffix** gives the names of its listing that end in the suffix and do not start with `.`, joined
  to `str(path)`, or the `ValueError` of a NUL character;
* `ProfilePlugin.Fs.epathGlob_raisesOnly` — the only exception of a glob is that `ValueError`.
-/

set_option autoImplicit false

namespace ProfilePlugin

/-! ### `fnmatch` -/

/-- A set of characters a pattern element accepts: ranges of characters (one character is the
range from it to itself), or every character outside them. -/
structure CharClass where
  negated : Bool
  ranges : List (Char × Char)
  deriving DecidableEq, Repr

/-- Whether the set holds a character. -/
def CharClass.accepts (k : CharClass) (c : Char) : Bool :=
  k.negated != k.ranges.any fun r => r.1 ≤ c && c ≤ r.2

/-- A character standing for itself: `re.escape(c)`. -/
def CharClass.lit (c : Char) : CharClass := ⟨false, [(c, c)]⟩

/-- `?`, and the bracket `[!]`: `.`, any character. -/
def CharClass.any : CharClass := ⟨true, []⟩

/-- An element of a translated pattern: a star, or one character of a set. -/
inductive Atom where
  | star
  | one (k : CharClass)
  deriving DecidableEq, Repr

/-- The end of a bracket expression that starts after `[`: a `!` and then a `]` right at the start
belong to it, and it runs to the next `]`.  The text inside and what follows the closing `]`, or
nothing when the bracket is not closed and `[` stands for itself. -/
def bracketEnd (rest : List Char) : Option (List Char × List Char) :=
  let j₀ := if rest.head? = some '!' then 1 else 0
  let j₁ := if rest[j₀]? = some ']' then j₀ + 1 else j₀
  let j := j₁ + ((rest.drop j₁).takeWhile (· != ']')).length
  if j < rest.length then some (rest.take j, rest.drop (j + 1)) else none

/-- The chunks of a bracket's text that has a hyphen: cut at each hyphen found searching from `k`
characters into the current chunk (`pat.find('-', k, j)`), the next search starting two
characters after the hyphen; a hyphen at the very end is kept at the end of the last chunk. -/
def hyphenChunks : Nat → List Char → Nat → List (List Char)
  | 0, s, _ => [s]
  | fuel + 1, s, k =>
      match (s.drop k).indexOf? '-' with
      | some m =>
          if s.drop (k + m + 1) = [] then [s.take (k + m) ++ ['-']]
          else s.take (k + m) :: hyphenChunks fuel (s.drop (k + m + 1)) 2
      | none => [s]

/-- The loop that removes empty ranges, from the last chunk back: when the last character of a
chunk comes after the first of the next, both go and the two chunks become one.  (The chunks are
never empty here.) -/
def removeEmptyRanges : List (List Char) → List (List Char)
  | [] => []
  | c :: cs =>
      match removeEmptyRanges cs with
      | d :: ds =>
          match c.getLast?, d.head? with
          | some a, some b => if b < a then (c.dropLast ++ d.tail) :: ds else c :: d :: ds
          | _, _ => c :: d :: ds
      | [] => [c]

/-- The ranges of the class `[...]` written from the chunks, the current one first: a hyphen
between two chunks is the range from the last character of the one to the first of the next, and
every other character, escaped, stands for itself. -/
def classRanges : List Char → List (List Char) → List (Char × Char)
  | c, [] => c.map fun a => (a, a)
  | c, d :: ds =>
      c.dropLast.map (fun a => (a, a)) ++
        (match c.getLast?, d.head? with
          | some a, some b => [(a, b)]
          | _, _ => []) ++
        classRanges d.tail ds

/-- The set a bracket expression accepts, from its text: the chunks at the hyphens after the
empty ranges are removed (the whole text when it has no hyphen), negated by a leading `!`.  An
empty class, `(?!)`, accepts nothing, and `[!]` alone, `.`, everything. -/
def bracketClass (stuff : List Char) : CharClass :=
  let chunks := if '-' ∈ stuff then
      removeEmptyRanges (hyphenChunks stuff.length stuff (if stuff.head? = some '!' then 2 else 1))
    else [stuff]
  match chunks with
  | ('!' :: c) :: cs => ⟨true, classRanges c cs⟩
  | c :: cs => ⟨false, classRanges c cs⟩
  | [] => ⟨false, []⟩

/-- The loop of `fnmatch.translate` over the characters of the pattern, with the elements so far,
last first; consecutive stars are one. -/
def translateFrom : Nat → List Char → List Atom → List Atom
  | 0, _, res => res.reverse
  | _, [], res => res.reverse
  | fuel + 1, c :: rest, res =>
      if c = '*' then translateFrom fuel rest (if res.head? = some .star then res else .star :: res)
      else if c = '?' then translateFrom fuel rest (.one .any :: res)
      else if c = '[' then
        match bracketEnd rest with
        | some (stuff, rest') => translateFrom fuel rest' (.one (bracketClass stuff) :: res)
        | none => translateFrom fuel rest (.one (.lit '[') :: res)
      else translateFrom fuel rest (.one (.lit c) :: res)

/-- `fnmatch.translate(pat)`, as a list of elements. -/
def translate (pat : String) : List Atom := translateFrom pat.length pat.data []

/-- Whether `p` holds of a suffix of `s`: what a star can leave to the rest of the pattern. -/
def anySuffix (p : List Char → Bool) : List Char → Bool
  | [] => p []
  | c :: s => p (c :: s) || anySuffix p s

/-- Whether the elements match the whole of a name. -/
def matchAtoms : List Atom → List Char → Bool
  | [], s => s.isEmpty
  | .star :: ps, s => anySuffix (matchAtoms ps) s
  | .one _ :: _, [] => false
  | .one k :: ps, c :: s => k.accepts c && matchAtoms ps s

/-- `fnmatch.fnmatch(name, pat)` on a POSIX system, where `os.path.normcase` changes nothing. -/
def fnmatch (name pat : String) : Bool := matchAtoms (translate pat) name.data

/-- A pattern character: `*`, `?` or `[`. -/
def IsMagic (c : Char) : Bool := c == '*' || c == '?' || c == '['

/-- `glob.has_magic(s)`. -/
def hasMagic (s : String) : Bool := s.data.any IsMagic

/-- `glob._ishidden(path)`. -/
def isHidden (s : String) : Bool := s.data.head? = some '.'

/-! ### Patterns without wildcards -/

theorem translateFrom_lits :
    ∀ {fuel : Nat} {cs : List Char} (res : List Atom), (∀ c ∈ cs, IsMagic c = false) →
      cs.length ≤ fuel → translateFrom fuel cs res = res.reverse ++ cs.map (.one ∘ .lit)
  | 0, [], _, _, _ => by simp [translateFrom]
  | _ + 1, [], _, _, _ => by simp [translateFrom]
  | fuel + 1, c :: cs, res, h, hl => by
      have hc := h c (List.mem_cons_self _ _)
      simp only [IsMagic, Bool.or_eq_false_iff, beq_eq_false_iff_ne] at hc
      rw [translateFrom, if_neg hc.1.1, if_neg hc.1.2, if_neg hc.2,
        translateFrom_lits _ (fun c' hc' => h c' (List.mem_cons_of_mem _ hc'))
          (by simpa using hl)]
      simp

/-- `*` followed by characters that are no pattern characters: a star, then the characters. -/
theorem translate_star_lits {cs : List Char} (h : ∀ c ∈ cs, IsMagic c = false) :
    translate ⟨'*' :: cs⟩ = .star :: cs.map (.one ∘ .lit) := by
  simp only [translate, String.length, List.length_cons, translateFrom, if_pos rfl]
  rw [translateFrom_lits _ h (Nat.le_refl _)]
  rfl

theorem CharClass.accepts_lit (a c : Char) : (CharClass.lit a).accepts c = decide (c = a) := by
  have : (a ≤ c ∧ c ≤ a) ↔ c = a := ⟨fun h => le_antisymm h.2 h.1, fun h => h ▸ ⟨le_rfl, le_rfl⟩⟩
  simp only [CharClass.accepts, CharClass.lit, List.any_cons, List.any_nil, Bool.or_false,
    Bool.false_bne, ← Bool.decide_and]
  exact decide_eq_decide.2 this

theorem matchAtoms_lits :
    ∀ (cs s : List Char), matchAtoms (cs.map (.one ∘ .lit)) s = (s = cs)
  | [], s => by simp [matchAtoms]
  | _ :: _, [] => by simp [matchAtoms]
  | a :: cs, c :: s => by
      simp [matchAtoms, CharClass.accepts_lit, matchAtoms_lits cs s]

theorem anySuffix_iff (p : List Char → Bool) :
    ∀ s, anySuffix p s = true ↔ ∃ t, t <:+ s ∧ p t = true
  | [] => by simp [anySuffix]
  | c :: s => by
      simp only [anySuffix, Bool.or_eq_true, anySuffix_iff p s, List.suffix_cons_iff]
      constructor
      · rintro (h | ⟨t, ht, h⟩)
        · exact ⟨_, .inl rfl, h⟩
        · exact ⟨t, .inr ht, h⟩
      · rintro ⟨t, rfl | ht, h⟩
        · exact .inl h
        · exact .inr ⟨t, ht, h⟩

/-- **A star followed by characters that are no pattern characters matches the names that end in
them.** -/
theorem fnmatch_star_suffix (name suffix : String) (h : hasMagic suffix = false) :
    fnmatch name ("*" ++ suffix) = suffix.data.isSuffixOf name.data := by
  have h' : ∀ c ∈ suffix.data, IsMagic c = false := by
    simpa [hasMagic] using h
  apply Bool.eq_iff_iff.2
  rw [fnmatch, show "*" ++ suffix = (⟨'*' :: suffix.data⟩ : String) from rfl,
    translate_star_lits h', matchAtoms, anySuffix_iff, List.isSuffixOf_iff_suffix]
  simp [matchAtoms_lits]

/-! ### `glob` -/

theorem hasMagic_pathStr {p : String} (h : hasMagic p = false) : hasMagic (pathStr p) = false := by
  simp only [hasMagic, List.any_eq_false] at h ⊢
  intro c hc
  rcases mem_pathStr hc with hc | rfl | rfl
  · exact h c hc
  · decide
  · decide

theorem hasMagic_of_subset {a b : String} (hab : a.data ⊆ b.data) (hb : hasMagic b = false) :
    hasMagic a = false := by
  simp only [hasMagic, List.any_eq_false] at hb ⊢
  exact fun c hc => hb c (hab hc)

theorem hasMagic_join {a b : String} (ha : hasMagic a = false) (hb : hasMagic b = false) :
    hasMagic (join a b) = false := by
  simp only [hasMagic, List.any_eq_false] at ha hb ⊢
  intro c hc
  rcases mem_join hc with hc | hc | rfl
  · exact ha c hc
  · exact hb c hc
  · decide

theorem hasMagic_join_of_right (a : String) {b : String} (h : hasMagic b = true) :
    hasMagic (join a b) = true := by
  simp only [hasMagic, List.any_eq_true] at h ⊢
  obtain ⟨c, hc, hm⟩ := h
  refine ⟨c, ?_, hm⟩
  unfold join
  split_ifs <;> simp [hc]

namespace Fs

variable (fs : Fs) (faults : List String → Option Nat)

/-- `os.path.lexists(p)`: `os.lstat` succeeds.  It raises `FileNotFoundError` for `''` and
`ValueError` for a path with a NUL character, both turned into `False`. -/
def lexists (p : String) : Bool := p != "" && !p.data.contains '\x00' && fs.pathExists p

/-- `os.path.isdir(p)`, which turns the same exceptions into `False`. -/
def osIsdir (p : String) : Bool := p != "" && !p.data.contains '\x00' && fs.isDir p

/-- `glob._listdir(dirname, None, dironly)`: the names `os.scandir` yields for `dirname` (`.` when
it is empty) before the listing ends or raises `OSError`, which `_iterdir` swallows; with
`dironly`, only those that are directories.  For a path with a NUL character `os.scandir` raises
`ValueError`, which `_iterdir` does not catch. -/
def listdir (dirname : String) (dironly : Bool) : Except PyErr (List String) :=
  let arg := if dirname = "" then "." else dirname
  if '\x00' ∈ arg.data then .error (.valueError "embedded null byte")
  else .ok (match fs.resolve arg with
    | some d => (fs.listing faults d).entries.filter fun n => !dironly || fs.isDirAt (d ++ [n])
    | none => [])

/-- `glob._glob1(dirname, pattern, None, dironly)`: the names of the directory that match the
pattern, those starting with `.` left out unless the pattern starts with `.`. -/
def glob1 (dirname pattern : String) (dironly : Bool) : Except PyErr (List String) := do
  let names ← fs.listdir faults dirname dironly
  let names := if isHidden pattern then names else names.filter fun x => !isHidden x
  return names.filter fun name => fnmatch name pattern

/-- `glob._glob0(dirname, basename, None, dironly)`: the name itself when it exists, or, for an
empty name, when the directory is one. -/
def glob0 (dirname basename : String) : List String :=
  if basename ≠ "" then (if fs.lexists (join dirname basename) then [basename] else [])
  else if fs.osIsdir dirname then [basename] else []

/-- `glob._iglob(pathname, '', None, False, dironly)`, as a list: one step of fuel per part of the
pattern.  `_join('', p)` is `p`, and `_join(d, b)` is `os.path.join(d, b)` for a non-empty `b`. -/
def iglob : Nat → String → Bool → Except PyErr (List String)
  | 0, _, _ => .ok []
  | fuel + 1, pathname, dironly =>
      let dirname := (split pathname).1
      let basename := (split pathname).2
      if !hasMagic pathname then
        if basename ≠ "" then .ok (if fs.lexists pathname then [pathname] else [])
        else .ok (if fs.osIsdir dirname then [pathname] else [])
      else if dirname = "" then fs.glob1 faults "" basename dironly
      else do
        let dirs ← if dirname ≠ pathname ∧ hasMagic dirname then iglob fuel dirname true
          else pure [dirname]
        let found ← dirs.mapM fun d => do
          let names ← if hasMagic basename then fs.glob1 faults d basename dironly
            else pure (fs.glob0 d basename)
          return names.map (join d)
        return found.flatten

/-- `glob.glob(pathname)`.  Each step takes `os.path.split`'s head, which is shorter than the
pattern, so the fuel never runs out. -/
def glob (pathname : String) : Except PyErr (List String) :=
  fs.iglob faults (pathname.length + 1) pathname false

/-- `list(epath.Path(p).glob(pattern))` on a local path: `glob.glob(os.path.join(str(path),
pattern))`, each result a path whose string it is. -/
def epathGlob (p pattern : String) : Except PyErr (List String) :=
  fs.glob faults (join (pathStr p) pattern)

/-! ### Globbing a directory for a suffix -/

variable {fs faults}

theorem resolve_pathStr (p : String) : fs.resolve (pathStr p) = fs.resolve p :=
  resolve_congr (pathComps_pathStr p) (isAbs_pathStr p)

theorem absPath_pathStr (p : String) : fs.absPath (pathStr p) = fs.absPath p := by
  simp only [absPath, pathComps_pathStr, isAbs_pathStr]

/-- The names `_glob1` keeps of the listing of a path without pattern characters. -/
theorem glob1_pathStr (p pattern : String) :
    fs.glob1 faults (pathStr p) pattern false =
      if '\x00' ∈ (pathStr p).data then .error (.valueError "embedded null byte")
      else .ok (((if isHidden pattern then (fs.iterdir faults p).entries
        else (fs.iterdir faults p).entries.filter fun x => !isHidden x)).filter
          fun name => fnmatch name pattern) := by
  simp only [glob1, listdir, if_neg (pathStr_ne_empty p), resolve_pathStr, iterdir]
  split_ifs <;> cases fs.resolve p <;> simp [bind, Except.bind, pure, Except.pure]

/-- A part with pattern characters in a directory without them: `_glob1` there, each name joined
to the directory. -/
theorem iglob_glob1 {fuel : Nat} {pathname : String} {dironly : Bool}
    (hp : hasMagic pathname = true) (hd : (split pathname).1 ≠ "")
    (hdm : hasMagic (split pathname).1 = false) (hm : hasMagic (split pathname).2 = true) :
    fs.iglob faults (fuel + 1) pathname dironly =
      (fs.glob1 faults (split pathname).1 (split pathname).2 dironly).map
        (List.map (join (split pathname).1)) := by
  rw [iglob]
  simp only [hp, hd, hdm, hm, Bool.not_true, Bool.false_eq_true, if_false, if_true, and_false,
    List.mapM_cons, List.mapM_nil]
  cases h : fs.glob1 faults (split pathname).1 (split pathname).2 dironly <;>
    simp [h, bind, Except.bind, pure, Except.pure, Except.map, List.mapM.loop]

/-- **Globbing a path without pattern characters for a star and a suffix**: the names of its
listing that end in the suffix and do not start with `.`, joined to `str(path)`, in the order of
the listing; or the `ValueError` of a NUL character. -/
theorem epathGlob_star {p suffix : String} (hp : hasMagic p = false)
    (hs : hasMagic suffix = false) (hsep : '/' ∉ suffix.data) :
    fs.epathGlob faults p ("*" ++ suffix) =
      if '\x00' ∈ (pathStr p).data then .error (.valueError "embedded null byte")
      else .ok (((fs.iterdir faults p).entries.filter fun x =>
        !isHidden x && suffix.data.isSuffixOf x.data).map (join (pathStr p))) := by
  have hsplit := split_join (isHead_pathStr p) (show '/' ∉ ("*" ++ suffix).data by simpa using hsep)
  have hmagic : hasMagic ("*" ++ suffix) = true := by simp [hasMagic, IsMagic]
  have hd : (split (join (pathStr p) ("*" ++ suffix))).1 ≠ "" := by
    rw [hsplit]; exact pathStr_ne_empty p
  have hdm : hasMagic (split (join (pathStr p) ("*" ++ suffix))).1 = false := by
    rw [hsplit]; exact hasMagic_pathStr hp
  have hm : hasMagic (split (join (pathStr p) ("*" ++ suffix))).2 = true := by rw [hsplit]; exact hmagic
  rw [epathGlob, glob, iglob_glob1 (hasMagic_join_of_right _ hmagic) hd hdm hm, hsplit,
    glob1_pathStr]
  simp only [show isHidden ("*" ++ suffix) = false from rfl, Bool.false_eq_true, if_false,
    fnmatch_star_suffix _ _ hs, List.filter_filter]
  split_ifs <;> simp [Except.map, Bool.and_comm]

/-! ### What a glob raises -/

/-- The `ValueError` `os.scandir` raises for a path with a NUL character. -/
def NulError (err : PyErr) : Prop := err = .valueError "embedded null byte"

theorem listdir_raisesOnly (dirname : String) (dironly : Bool) :
    RaisesOnly NulError (fs.listdir faults dirname dironly) := by
  intro err h
  unfold listdir at h
  dsimp only at h
  split_ifs at h <;> cases h <;> rfl

theorem glob1_raisesOnly (dirname pattern : String) (dironly : Bool) :
    RaisesOnly NulError (fs.glob1 faults dirname pattern dironly) :=
  (listdir_raisesOnly dirname dironly).bind fun _ => .pure _

theorem iglob_raisesOnly :
    ∀ (fuel : Nat) (pathname : String) (dironly : Bool),
      RaisesOnly NulError (fs.iglob faults fuel pathname dironly)
  | 0, _, _ => .ok _
  | fuel + 1, pathname, dironly => by
      rw [iglob]
      dsimp only
      -- the directories first, then the part globbed in each of them
      split_ifs <;> first
        | exact .ok _
        | exact glob1_raisesOnly _ _ _
        | refine .bind ?_ fun dirs => (RaisesOnly.mapM (fun d => ?_) dirs).bind fun _ => .pure _
      all_goals first
        | exact iglob_raisesOnly fuel _ true
        | exact .pure _
        | exact (glob1_raisesOnly _ _ _).bind fun _ => .pure _

/-- **The only exception of a glob** is the `ValueError` of a path with a NUL character. -/
theorem epathGlob_raisesOnly (p pattern : String) :
    RaisesOnly NulError (fs.epathGlob faults p pattern) :=
  iglob_raisesOnly _ _ _

end Fs

end ProfilePlugin
