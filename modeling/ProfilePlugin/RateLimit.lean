import Mathlib.Data.List.Basic
import Mathlib.Order.Basic
/-
**The rate limit of the directory walk.**

`find_all_subdirectories` lists each directory through `get_subdirectories`, decorated with
`sleep_and_retry` and `limits(calls=MAX_GCS_REQUESTS / AVERAGE_SUBDIR_NUMBER,
period=LIMIT_WINDOW_SECONDS)` from the `ratelimit` package.  The decorator is applied inside
`find_all_subdirectories`, so every walk — every pass of `generate_runs` — makes its own
`RateLimitDecorator` when the walk begins.  The decorator keeps a fixed window: it counts the
calls since `last_reset`, starts a new window at the first call `period` or more after it, and
raises `RateLimitException(period_remaining)` past `clamped_calls`; `sleep_and_retry` sleeps the
remaining period and calls again.

The clock is read as a natural number of ticks, any number of ticks a second; a call's two
readings of the clock, in `__period_remaining` and in the reset, are taken as one.  The calls of a
walk are one per directory it yields; how long each listing and the consumer between two yields
take is arbitrary, so a walk is modelled by the delays between its calls.

Main definitions:

* `ProfilePlugin.Limiter.call` — the wrapper of `RateLimitDecorator` on one call;
* `ProfilePlugin.sleepAndRetry` — `sleep_and_retry` around it;
* `ProfilePlugin.passListings`, `ProfilePlugin.getSubdirectoriesListings` — the listings of one
  walk, and those of the program's limiter;
* `ProfilePlugin.LimInv` — the invariant of a limiter over the listings it let through.

Main results:

* `ProfilePlugin.LimInv.call_none`, `ProfilePlugin.LimInv.call_some` — one call keeps the
  invariant;
* `ProfilePlugin.sleepAndRetry_isSome` — a call over the budget runs after one sleep;
* `ProfilePlugin.getSubdirectories_listings_le` — **every call of a walk runs, and the walk makes
  at most twice the budget, 200 listings, in any interval of `LIMIT_WINDOW_SECONDS`**.
-/

set_option autoImplicit false

namespace ProfilePlugin

/-! ### The limiter -/

/-- `MAX_GCS_REQUESTS`. -/
def MAX_GCS_REQUESTS : Nat := 1000

/-- `LIMIT_WINDOW_SECONDS`. -/
def LIMIT_WINDOW_SECONDS : Nat := 60

/-- `AVERAGE_SUBDIR_NUMBER`. -/
def AVERAGE_SUBDIR_NUMBER : Nat := 10

/-- `sys.maxsize` of a 64-bit interpreter, `2 ** 63 - 1`. -/
def maxsize : Nat := 9223372036854775807

/-- `RateLimitDecorator.clamped_calls`: `max(1, min(sys.maxsize, floor(calls)))`, for a number of
calls that is already whole (`floor(1000 / 10)` is the quotient of naturals). -/
def clampedCalls (calls : Nat) : Nat := max 1 (min maxsize calls)

/-- The state of a `RateLimitDecorator`: the start of its window and the calls counted in it. -/
structure Limiter where
  lastReset : Nat
  numCalls : Nat
  deriving DecidableEq, Repr

/-- A `RateLimitDecorator` made at the clock reading `now`. -/
def Limiter.init (now : Nat) : Limiter := ⟨now, 0⟩

/-- The `wrapper` of `RateLimitDecorator` on a call at the clock reading `now`: a new window when
`period_remaining <= 0`, the call counted, and `RateLimitException(period_remaining)` when the
count exceeds `clamped_calls`.  The new state, and the `period_remaining` of the exception, `none`
when the function is called. -/
def Limiter.call (period clampedCalls : Nat) (l : Limiter) (now : Nat) : Limiter × Option Int :=
  let periodRemaining : Int := period - ((now : Int) - l.lastReset)
  let l := if periodRemaining ≤ 0 then { lastReset := now, numCalls := 0 } else l
  let l := { l with numCalls := l.numCalls + 1 }
  (l, if l.numCalls > clampedCalls then some periodRemaining else none)

/-- `sleep_and_retry` for at most `fuel` attempts, the first at `now`: after a
`RateLimitException` the caller sleeps `period_remaining`, and `over` more since `time.sleep` may
sleep longer than asked, and calls again.  The state and the clock reading at which the function
runs, `none` when the attempts run out. -/
def sleepAndRetry (period clampedCalls over : Nat) : Nat → Limiter → Nat → Option (Limiter × Nat)
  | 0, _, _ => none
  | fuel + 1, l, now =>
      match l.call period clampedCalls now with
      | (l', none) => some (l', now)
      | (l', some periodRemaining) =>
          sleepAndRetry period clampedCalls over fuel l' (now + periodRemaining.toNat + over)

/-- The listings of one walk: the `i`-th call of `get_subdirectories` is made `gap` ticks after the
previous listing ran (the listing itself, and the consumer between two yields), with the
oversleep `over` of its retries.  The clock readings at which the listings run, `none` when a call
runs out of attempts. -/
def passListings (period clampedCalls fuel : Nat) :
    Limiter → Nat → List (Nat × Nat) → Option (List Nat)
  | _, _, [] => some []
  | l, now, (gap, over) :: calls =>
      match sleepAndRetry period clampedCalls over fuel l (now + gap) with
      | none => none
      | some (l', t) => (passListings period clampedCalls fuel l' t calls).map (t :: ·)

/-- The listings of a walk that begins at `start`, through the limiter of `get_subdirectories`
on a clock of `ticks` ticks a second. -/
def getSubdirectoriesListings (ticks fuel start : Nat) (calls : List (Nat × Nat)) :
    Option (List Nat) :=
  passListings (LIMIT_WINDOW_SECONDS * ticks) (clampedCalls (MAX_GCS_REQUESTS / AVERAGE_SUBDIR_NUMBER))
    fuel (Limiter.init start) start calls

/-- The listings of several walks, each begun at its own time with its own limiter, as the passes
of `generate_runs` made by `is_active` and by every `/runs` request make them. -/
def passesListings (ticks fuel : Nat) (walks : List (Nat × List (Nat × Nat))) :
    Option (List Nat) :=
  (walks.mapM fun w => getSubdirectoriesListings ticks fuel w.1 w.2).map List.flatten

theorem clampedCalls_pos (calls : Nat) : 0 < clampedCalls calls :=
  Nat.lt_of_lt_of_le Nat.one_pos (le_max_left _ _)

theorem clampedCalls_budget : clampedCalls (MAX_GCS_REQUESTS / AVERAGE_SUBDIR_NUMBER) = 100 := by
  decide

/-! ### One call -/

section Call

variable {period clampedCalls : Nat} {l : Limiter} {now : Nat}

theorem Limiter.call_fst (period clampedCalls : Nat) (l : Limiter) (now : Nat) :
    (l.call period clampedCalls now).1 = if l.lastReset + period ≤ now then ⟨now, 1⟩
      else ⟨l.lastReset, l.numCalls + 1⟩ := by
  unfold Limiter.call
  dsimp only
  split_ifs <;> first | rfl | omega

theorem Limiter.call_snd (period clampedCalls : Nat) (l : Limiter) (now : Nat) :
    (l.call period clampedCalls now).2 =
      if clampedCalls < (l.call period clampedCalls now).1.numCalls then
        some (period - ((now : Int) - l.lastReset))
      else none := rfl

theorem Limiter.call_snd_eq_none :
    (l.call period clampedCalls now).2 = none ↔
      (l.call period clampedCalls now).1.numCalls ≤ clampedCalls := by
  rw [Limiter.call_snd]
  split_ifs <;> simp <;> omega

/-- A call is refused only inside its window, and the exception carries the rest of the window. -/
theorem Limiter.call_snd_eq_some {r : Int} (hc : 0 < clampedCalls)
    (h : (l.call period clampedCalls now).2 = some r) :
    now < l.lastReset + period ∧ r = period - ((now : Int) - l.lastReset) ∧
      clampedCalls < l.numCalls + 1 := by
  rw [Limiter.call_snd] at h
  split_ifs at h with hC
  cases h
  rw [Limiter.call_fst] at hC
  split_ifs at hC with hr
  · exact absurd hC (by show ¬ clampedCalls < 1; omega)
  · exact ⟨by omega, rfl, hC⟩

end Call

/-! ### The invariant -/

/-- The listings at clock readings in `[a, a + w)`. -/
def countIn (ts : List Nat) (a w : Nat) : Nat := (ts.filter fun t => a ≤ t ∧ t < a + w).length

/-- What a limiter's state says of the listings `ts` it let through, up to the clock reading
`now`: all lie before the end of the current window, at most `clampedCalls` — and at most the
calls counted — in it, at most `clampedCalls` in the `period` before it, and so at most twice
`clampedCalls` in any interval of length `period`. -/
structure LimInv (period clampedCalls : Nat) (l : Limiter) (ts : List Nat) (now : Nat) : Prop where
  le_now : ∀ t ∈ ts, t ≤ now
  lastReset_le : l.lastReset ≤ now
  lt_end : ∀ t ∈ ts, t < l.lastReset + period
  window_le_numCalls : (ts.filter fun t => l.lastReset ≤ t).length ≤ l.numCalls
  window_le : (ts.filter fun t => l.lastReset ≤ t).length ≤ clampedCalls
  previous_le : (ts.filter fun t => l.lastReset ≤ t + period ∧ t < l.lastReset).length ≤
    clampedCalls
  count_le : ∀ a, countIn ts a period ≤ 2 * clampedCalls

theorem length_filter_le_add {p q r : Nat → Bool} :
    ∀ {ts : List Nat}, (∀ t ∈ ts, p t → q t ∨ r t) →
      (ts.filter p).length ≤ (ts.filter q).length + (ts.filter r).length
  | [], _ => by simp
  | t :: ts, h => by
      have ih := length_filter_le_add fun x hx => h x (List.mem_cons_of_mem _ hx)
      have ht := h t (List.mem_cons_self _ _)
      simp only [List.filter_cons]
      split_ifs <;> simp_all <;> omega

theorem length_filter_le_of_imp {p q : Nat → Bool} {ts : List Nat} (h : ∀ t ∈ ts, p t → q t) :
    (ts.filter p).length ≤ (ts.filter q).length := by
  have := length_filter_le_add (r := fun _ => false) fun t ht hp => .inl (h t ht hp)
  simpa using this

theorem countIn_append_singleton (ts : List Nat) (t a w : Nat) :
    countIn (ts ++ [t]) a w = countIn ts a w + if a ≤ t ∧ t < a + w then 1 else 0 := by
  unfold countIn
  rw [List.filter_append, List.length_append]
  split_ifs with h <;> simp [h]

section Inv

variable {period clampedCalls : Nat} {l : Limiter} {ts : List Nat} {now t : Nat}

theorem LimInv.init (start : Nat) : LimInv period clampedCalls (Limiter.init start) [] start :=
  ⟨by simp, le_rfl, by simp, by simp, by simp, by simp, by simp [countIn]⟩

theorem LimInv.mono (h : LimInv period clampedCalls l ts now) (ht : now ≤ t) :
    LimInv period clampedCalls l ts t :=
  { h with
    le_now := fun x hx => (h.le_now x hx).trans ht
    lastReset_le := h.lastReset_le.trans ht }

/-- A new window at `now`: the listings of the old window all lie in the `period` before it. -/
theorem LimInv.reset (h : LimInv period clampedCalls l ts now) (hr : l.lastReset + period ≤ now) :
    LimInv period clampedCalls ⟨now, 0⟩ ts now := by
  have hlt : ∀ x ∈ ts, x < now := fun x hx => (h.lt_end x hx).trans_le hr
  have hnone : (ts.filter fun x => now ≤ x).length = 0 := by
    simpa using fun x hx => hlt x hx
  refine ⟨h.le_now, le_rfl, fun x hx => by dsimp only; have := hlt x hx; omega, hnone.le,
    by simp [hnone], ?_, h.count_le⟩
  calc (ts.filter fun x => now ≤ x + period ∧ x < now).length
      ≤ (ts.filter fun x => l.lastReset ≤ x).length :=
        length_filter_le_of_imp fun x _ hx => by simp at hx ⊢; omega
    _ ≤ clampedCalls := h.window_le

/-- A refused call is counted. -/
theorem LimInv.count (h : LimInv period clampedCalls l ts now) :
    LimInv period clampedCalls ⟨l.lastReset, l.numCalls + 1⟩ ts now :=
  { h with window_le_numCalls := h.window_le_numCalls.trans (Nat.le_succ _) }

/-- A call let through inside the window, within the budget. -/
theorem LimInv.accept (h : LimInv period clampedCalls l ts now) (hw : now < l.lastReset + period)
    (hc : l.numCalls + 1 ≤ clampedCalls) :
    LimInv period clampedCalls ⟨l.lastReset, l.numCalls + 1⟩ (ts ++ [now]) now := by
  have hwin := h.window_le_numCalls
  have hprev := h.previous_le
  have hr := h.lastReset_le
  refine ⟨fun x hx => ?_, hr, fun x hx => ?_, ?_, ?_, ?_, fun a => ?_⟩
  · rcases List.mem_append.1 hx with hx | hx
    · exact h.le_now x hx
    · rw [List.mem_singleton.1 hx]
  · rcases List.mem_append.1 hx with hx | hx
    · exact h.lt_end x hx
    · rw [List.mem_singleton.1 hx]; exact hw
  · simp only [List.filter_append, List.length_append]; simp [hr]; omega
  · simp only [List.filter_append, List.length_append]; simp [hr]; omega
  · simpa [List.filter_append, hr] using hprev
  · rw [countIn_append_singleton]
    split_ifs with ha
    · -- the listings of `[a, a + period)` lie in the window or in the `period` before it
      have hsplit : countIn ts a period ≤ (ts.filter fun x => l.lastReset ≤ x).length +
          (ts.filter fun x => l.lastReset ≤ x + period ∧ x < l.lastReset).length :=
        length_filter_le_add fun x _ hx => by simp at hx ⊢; omega
      omega
    · simpa using h.count_le a

/-- **One call that runs** keeps the invariant, with its clock reading added to the listings. -/
theorem LimInv.call_none (h : LimInv period clampedCalls l ts now) (ht : now ≤ t) (hp : 0 < period)
    (hn : (l.call period clampedCalls t).2 = none) :
    LimInv period clampedCalls (l.call period clampedCalls t).1 (ts ++ [t]) t := by
  rw [Limiter.call_snd_eq_none, Limiter.call_fst period clampedCalls l t] at hn
  rw [Limiter.call_fst period clampedCalls l t]
  split_ifs at hn ⊢ with hr
  · exact ((h.mono ht).reset hr).accept (by simpa using hp) hn
  · exact (h.mono ht).accept (by omega) hn

/-- **One call that is refused** keeps the invariant. -/
theorem LimInv.call_some (h : LimInv period clampedCalls l ts now) (ht : now ≤ t)
    (hc : 0 < clampedCalls) {r : Int} (hs : (l.call period clampedCalls t).2 = some r) :
    LimInv period clampedCalls (l.call period clampedCalls t).1 ts t := by
  obtain ⟨hw, -⟩ := Limiter.call_snd_eq_some hc hs
  rw [Limiter.call_fst, if_neg (by omega)]
  exact (h.mono ht).count

end Inv

/-! ### Retries and walks -/

section Run

variable {period clampedCalls : Nat}

/-- A call that the limiter lets through runs at its first attempt. -/
theorem sleepAndRetry_of_call_none {over fuel : Nat} {l : Limiter} {t : Nat}
    (h : (l.call period clampedCalls t).2 = none) :
    sleepAndRetry period clampedCalls over (fuel + 1) l t = some ((l.call period clampedCalls t).1, t) := by
  rw [sleepAndRetry]
  cases hc : l.call period clampedCalls t with
  | mk l' r => rw [hc] at h; cases h; rfl

/-- A refused call sleeps its `period_remaining`, and `over` more, and tries again. -/
theorem sleepAndRetry_of_call_some {over fuel : Nat} {l : Limiter} {t : Nat} {r : Int}
    (h : (l.call period clampedCalls t).2 = some r) :
    sleepAndRetry period clampedCalls over (fuel + 1) l t =
      sleepAndRetry period clampedCalls over fuel (l.call period clampedCalls t).1
        (t + r.toNat + over) := by
  rw [sleepAndRetry]
  cases hc : l.call period clampedCalls t with
  | mk l' r' => rw [hc] at h; cases h; rfl

/-- `sleep_and_retry` keeps the invariant, with the reading at which the function ran added to the
listings, no earlier than the first attempt. -/
theorem LimInv.of_sleepAndRetry (hp : 0 < period) (hc : 0 < clampedCalls) {over : Nat} :
    ∀ {fuel : Nat} {l l' : Limiter} {ts : List Nat} {now t t' : Nat},
      LimInv period clampedCalls l ts now → now ≤ t →
      sleepAndRetry period clampedCalls over fuel l t = some (l', t') →
      LimInv period clampedCalls l' (ts ++ [t']) t' ∧ t ≤ t'
  | 0, _, _, _, _, _, _, _, _, h => by cases h
  | fuel + 1, l, l', ts, now, t, t', h, ht, hs => by
      cases hcall : (l.call period clampedCalls t).2 with
      | none =>
          rw [sleepAndRetry_of_call_none hcall] at hs
          cases hs
          exact ⟨h.call_none ht hp hcall, le_rfl⟩
      | some r =>
          rw [sleepAndRetry_of_call_some hcall] at hs
          obtain ⟨h', ht'⟩ := LimInv.of_sleepAndRetry hp hc (h.call_some ht hc hcall) (by omega) hs
          exact ⟨h', by omega⟩

/-- **A call over the budget runs after one sleep**: the sleep reaches the end of the window, and
the next attempt opens a new one. -/
theorem sleepAndRetry_isSome (hc : 0 < clampedCalls) (over : Nat) {fuel : Nat} (hf : 2 ≤ fuel)
    (l : Limiter) (now : Nat) : (sleepAndRetry period clampedCalls over fuel l now).isSome := by
  obtain ⟨fuel, rfl⟩ : ∃ k, fuel = k + 2 := ⟨fuel - 2, by omega⟩
  cases hcall : (l.call period clampedCalls now).2 with
  | none => rw [sleepAndRetry_of_call_none hcall]; rfl
  | some r =>
      obtain ⟨hw, hr, -⟩ := Limiter.call_snd_eq_some hc hcall
      have hl₁ : (l.call period clampedCalls now).1 = ⟨l.lastReset, l.numCalls + 1⟩ := by
        rw [Limiter.call_fst, if_neg (by omega)]
      -- the retry comes at the end of the window or later, and opens a new one
      have hnew : (l.call period clampedCalls now).1.lastReset + period ≤ now + r.toNat + over := by
        rw [hl₁]; dsimp only; omega
      have hn : ((l.call period clampedCalls now).1.call period clampedCalls
          (now + r.toNat + over)).2 = none := by
        rw [Limiter.call_snd_eq_none, Limiter.call_fst, if_pos hnew]
        exact hc
      rw [sleepAndRetry_of_call_some hcall, sleepAndRetry_of_call_none hn]
      rfl

/-- A walk keeps the invariant, with its listings added. -/
theorem LimInv.of_passListings (hp : 0 < period) (hc : 0 < clampedCalls) {fuel : Nat} :
    ∀ {calls : List (Nat × Nat)} {l : Limiter} {ts out : List Nat} {now : Nat},
      LimInv period clampedCalls l ts now →
      passListings period clampedCalls fuel l now calls = some out →
      ∃ l' now', LimInv period clampedCalls l' (ts ++ out) now'
  | [], l, ts, out, now, h, hs => by cases hs; exact ⟨l, now, by simpa using h⟩
  | (gap, over) :: calls, l, ts, out, now, h, hs => by
      unfold ProfilePlugin.passListings at hs
      cases hr : ProfilePlugin.sleepAndRetry period clampedCalls over fuel l (now + gap) with
      | none => rw [hr] at hs; cases hs
      | some p =>
          obtain ⟨l₁, t⟩ := p
          rw [hr] at hs
          obtain ⟨out', hs', rfl⟩ := Option.map_eq_some'.1 hs
          obtain ⟨h₁, -⟩ := h.of_sleepAndRetry hp hc (Nat.le_add_right _ _) hr
          obtain ⟨l', now', h'⟩ := LimInv.of_passListings hp hc h₁ hs'
          exact ⟨l', now', by simpa using h'⟩

/-- With two attempts a call, every call of a walk runs. -/
theorem passListings_isSome (hc : 0 < clampedCalls) {fuel : Nat} (hf : 2 ≤ fuel) :
    ∀ (calls : List (Nat × Nat)) (l : Limiter) (now : Nat),
      ∃ out, passListings period clampedCalls fuel l now calls = some out ∧
        out.length = calls.length
  | [], _, _ => ⟨[], rfl, rfl⟩
  | (gap, over) :: calls, l, now => by
      have hs : (sleepAndRetry period clampedCalls over fuel l (now + gap)).isSome :=
        sleepAndRetry_isSome hc over hf l (now + gap)
      obtain ⟨⟨l₁, t⟩, hr⟩ := Option.isSome_iff_exists.1 hs
      obtain ⟨out, hout, hlen⟩ := passListings_isSome hc hf calls l₁ t
      exact ⟨t :: out, by simp [ProfilePlugin.passListings, hr, hout], by simp [hlen]⟩

theorem passListings_cons {fuel gap over t : Nat} {l l' : Limiter} {now : Nat}
    {calls : List (Nat × Nat)}
    (h : sleepAndRetry period clampedCalls over fuel l (now + gap) = some (l', t)) :
    passListings period clampedCalls fuel l now ((gap, over) :: calls) =
      (passListings period clampedCalls fuel l' t calls).map (t :: ·) := by
  rw [passListings, h]

/-- Calls at one clock reading, inside the window and within the budget, all run at once. -/
theorem passListings_replicate_append (period clampedCalls fuel over t : Nat)
    (rest : List (Nat × Nat)) :
    ∀ (k : Nat) (l : Limiter), t < l.lastReset + period → l.numCalls + k ≤ clampedCalls →
      passListings period clampedCalls (fuel + 1) l t (List.replicate k (0, over) ++ rest) =
        (passListings period clampedCalls (fuel + 1) ⟨l.lastReset, l.numCalls + k⟩ t rest).map
          (List.replicate k t ++ ·)
  | 0, ⟨_, _⟩, _, _ => by simp
  | k + 1, l, hw, hk => by
      have hrun : (l.call period clampedCalls t).2 = none := by
        rw [Limiter.call_snd_eq_none, Limiter.call_fst, if_neg (by omega)]; dsimp only; omega
      rw [List.replicate_succ, List.cons_append, passListings]
      simp only [Nat.add_zero]
      rw [sleepAndRetry_of_call_none hrun, Limiter.call_fst, if_neg (by omega)]
      dsimp only
      rw [passListings_replicate_append period clampedCalls fuel over t rest k
        ⟨l.lastReset, l.numCalls + 1⟩ hw (by show l.numCalls + 1 + k ≤ clampedCalls; omega),
        Option.map_map, show l.numCalls + 1 + k = l.numCalls + (k + 1) by omega]
      rfl

end Run

/-! ### The walks of `generate_runs` -/

/-- **Every call of a walk runs, and a walk makes at most 200 listings in any interval of
`LIMIT_WINDOW_SECONDS`**: whatever the delays between its calls and the oversleeps of its
retries, on a clock of any resolution, every call of `get_subdirectories` is suspended at most
once and then runs (two rounds of the loop of `sleep_and_retry` suffice), and no interval of
`LIMIT_WINDOW_SECONDS` holds more than twice the budget `MAX_GCS_REQUESTS / AVERAGE_SUBDIR_NUMBER`
of the walk's listings: at most the budget in each window of the limiter, and an interval meets
at most two windows. -/
theorem getSubdirectories_listings_le (ticks : Nat) (hticks : 0 < ticks) {fuel : Nat}
    (hfuel : 2 ≤ fuel) (start : Nat) (calls : List (Nat × Nat)) :
    ∃ ts, getSubdirectoriesListings ticks fuel start calls = some ts ∧ ts.length = calls.length ∧
      ∀ a, countIn ts a (LIMIT_WINDOW_SECONDS * ticks) ≤
        2 * (MAX_GCS_REQUESTS / AVERAGE_SUBDIR_NUMBER) := by
  have hc := clampedCalls_pos (MAX_GCS_REQUESTS / AVERAGE_SUBDIR_NUMBER)
  have hp : 0 < LIMIT_WINDOW_SECONDS * ticks := Nat.mul_pos (by decide) hticks
  obtain ⟨ts, hts, hlen⟩ := passListings_isSome hc hfuel calls (Limiter.init start) start
  obtain ⟨l', now', h⟩ := (LimInv.init start).of_passListings hp hc hts
  refine ⟨ts, hts, hlen, fun a => ?_⟩
  have := h.count_le a
  rwa [List.nil_append, clampedCalls_budget] at this

theorem getSubdirectories_listings_le_one_tick :
    0 < 1 ∧ 2 ≤ 2 ∧ ∃ ts, getSubdirectoriesListings 1 2 0 [(0, 0)] = some ts ∧ ts.length = 1 ∧
      ∀ a, countIn ts a (LIMIT_WINDOW_SECONDS * 1) ≤ 2 * (MAX_GCS_REQUESTS / AVERAGE_SUBDIR_NUMBER) :=
  ⟨Nat.one_pos, le_rfl, getSubdirectories_listings_le 1 Nat.one_pos le_rfl 0 [(0, 0)]⟩

theorem countIn_replicate (k x a w : Nat) :
    countIn (List.replicate k x) a w = if a ≤ x ∧ x < a + w then k else 0 := by
  unfold countIn
  rw [List.filter_replicate]
  split_ifs with h₁ h₂ h₂ <;> simp_all

theorem countIn_append (ts ts' : List Nat) (a w : Nat) :
    countIn (ts ++ ts') a w = countIn ts a w + countIn ts' a w := by
  simp only [countIn, List.filter_append, List.length_append]

/-- One walk lists 100 directories at second 59 of its limiter and 100 more at second 60, 200
within one second; and three walks begun together list 300 directories at once. -/
theorem getSubdirectories_listings_burst :
    getSubdirectoriesListings 1 2 0 ((59, 0) :: List.replicate 199 (0, 0)) =
        some (List.replicate 100 59 ++ List.replicate 100 60) ∧
      countIn (List.replicate 100 59 ++ List.replicate 100 60) 59 LIMIT_WINDOW_SECONDS = 200 ∧
      passesListings 1 2 (List.replicate 3 (0, List.replicate 100 (0, 0))) =
        some (List.replicate 100 0 ++ List.replicate 100 0 ++ List.replicate 100 0) ∧
      countIn (List.replicate 100 0 ++ List.replicate 100 0 ++ List.replicate 100 0) 0
        LIMIT_WINDOW_SECONDS = 300 := by
  have hwalk : getSubdirectoriesListings 1 2 0 (List.replicate 100 (0, 0)) =
      some (List.replicate 100 0) := by
    rw [getSubdirectoriesListings, clampedCalls_budget, ← List.append_nil (List.replicate 100 (0, 0)),
      passListings_replicate_append _ 100 1 0 0 [] 100 (Limiter.init 0) (by decide) (by decide)]
    simp only [passListings, Option.map_some', List.append_nil]
  refine ⟨?_, by rw [countIn_append, countIn_replicate, countIn_replicate]; decide,
    ?_, by rw [countIn_append, countIn_append, countIn_replicate]; decide⟩
  · -- 100 calls at second 59; the next is refused, sleeps one second and runs; 99 more
    have h₁ : sleepAndRetry (LIMIT_WINDOW_SECONDS * 1) 100 0 2 (Limiter.init 0) (0 + 59) =
        some (⟨0, 1⟩, 59) := rfl
    have h₂ : sleepAndRetry (LIMIT_WINDOW_SECONDS * 1) 100 0 2 ⟨0, 1 + 99⟩ (59 + 0) =
        some (⟨60, 1⟩, 60) := rfl
    rw [getSubdirectoriesListings, clampedCalls_budget, show List.replicate 199 ((0 : Nat), (0 : Nat)) =
        List.replicate 99 (0, 0) ++ (0, 0) :: (List.replicate 99 (0, 0) ++ []) by
      rw [List.append_nil, ← List.replicate_succ, ← List.replicate_add],
      passListings_cons h₁, passListings_replicate_append _ 100 1 0 59 _ 99 ⟨0, 1⟩ (by decide)
        (by decide), passListings_cons h₂,
      passListings_replicate_append _ 100 1 0 60 [] 99 ⟨60, 1⟩ (by decide) (by decide)]
    simp only [passListings, Option.map_some', List.append_nil, ← List.cons_append,
      ← List.replicate_succ]
  · rw [passesListings, show List.replicate 3 (0, List.replicate 100 ((0 : Nat), (0 : Nat))) =
      [(0, List.replicate 100 (0, 0)), (0, List.replicate 100 (0, 0)), (0, List.replicate 100 (0, 0))]
      from rfl]
    simp only [List.mapM_cons, List.mapM_nil, hwalk, Option.bind_eq_bind, Option.some_bind,
      Option.pure_def, Option.map_some', List.flatten_cons, List.flatten_nil, List.append_nil,
      List.append_assoc]

end ProfilePlugin
