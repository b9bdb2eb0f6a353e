import Mathlib.Data.Fintype.Card
import Mathlib.Data.Fintype.EquivFin

/-!
# Loops that may not return

A `while` loop is a body that either goes round `again` with new loop variables or
leaves with a result. `run` executes a bounded number of rounds and `Returns` says that
some bound is enough, so a loop that never leaves simply returns nothing.

Read `terminates_iff_no_revisit` first: a loop whose variables range over a finite set
terminates exactly when it never comes back to values it has already had. `run_card`
adds that the size of that set is then a sufficient bound.
-/

namespace Loop

/-- What one round of a loop body does. -/
inductive Round (σ ρ : Type*) where
  | again (state : σ)
  | leave (result : ρ)

variable {σ τ ρ υ : Type*}

/-- Execute at most this many rounds; `none` means the loop has not left by then. -/
def run (body : σ → Round σ ρ) : Nat → σ → Option ρ
  | 0, _ => none
  | fuel + 1, state =>
      match body state with
      | .again next => run body fuel next
      | .leave result => some result

/-- The loop started in `state` leaves with `result`. -/
def Returns (body : σ → Round σ ρ) (state : σ) (result : ρ) : Prop :=
  ∃ fuel, run body fuel state = some result

/-- The loop started in `state` leaves. -/
def Terminates (body : σ → Round σ ρ) (state : σ) : Prop :=
  ∃ result, Returns body state result

/-- The loop variables after `rounds` rounds, if the loop has not left before. -/
def after (body : σ → Round σ ρ) : Nat → σ → Option σ
  | 0, state => some state
  | rounds + 1, state =>
      match body state with
      | .again next => after body rounds next
      | .leave _ => none

variable {body : σ → Round σ ρ} {state next : σ} {result other : ρ}

/-- More rounds do not change the result. -/
theorem run_mono {fuel more : Nat} (h : run body fuel state = some result)
    (hle : fuel ≤ more) : run body more state = some result := by
  induction fuel generalizing state more with
  | zero => simp [run] at h
  | succ fuel ih =>
      obtain ⟨rest, rfl⟩ : ∃ rest, more = rest + 1 := ⟨more - 1, by omega⟩
      simp only [run] at h ⊢
      cases hbody : body state with
      | leave final => simpa [hbody] using h
      | again next =>
          simp only [hbody] at h ⊢
          exact ih h (by omega)

/-- A loop has at most one result. -/
theorem Returns.unique (h : Returns body state result) (hother : Returns body state other) :
    result = other := by
  obtain ⟨fuel, hrun⟩ := h
  obtain ⟨more, hmore⟩ := hother
  have hleft := run_mono hrun (Nat.le_max_left fuel more)
  have hright := run_mono hmore (Nat.le_max_right fuel more)
  exact Option.some.inj (hleft.symm.trans hright)

/-- A body that leaves at once is the whole loop. -/
theorem returns_leave (hbody : body state = .leave result) :
    Returns body state other ↔ other = result := by
  have hleave : Returns body state result := ⟨1, by simp [run, hbody]⟩
  constructor
  · intro h
    exact h.unique hleave
  · rintro rfl
    exact hleave

/-- A round that goes on can be peeled off. -/
theorem returns_again (hbody : body state = .again next) :
    Returns body state result ↔ Returns body next result := by
  constructor
  · rintro ⟨fuel, h⟩
    cases fuel with
    | zero => simp [run] at h
    | succ fuel => exact ⟨fuel, by simpa [run, hbody] using h⟩
  · rintro ⟨fuel, h⟩
    exact ⟨fuel + 1, by simpa [run, hbody] using h⟩

/-- The variables after one more round come from the variables after the last one. -/
theorem after_succ (rounds : Nat) :
    after body (rounds + 1) state = some next ↔
      ∃ current, after body rounds state = some current ∧ body current = .again next := by
  induction rounds generalizing state with
  | zero =>
      cases hbody : body state <;> simp [after, hbody]
  | succ rounds ih =>
      cases hbody : body state with
      | leave final => simp [after, hbody]
      | again following =>
          rw [show after body (rounds + 1 + 1) state = after body (rounds + 1) following by
            simp [after, hbody], ih]
          simp [after, hbody]

/-- The loop leaves exactly when some round it gets to leaves. -/
theorem returns_iff_after :
    Returns body state result ↔
      ∃ rounds current, after body rounds state = some current ∧
        body current = .leave result := by
  constructor
  · rintro ⟨fuel, h⟩
    induction fuel generalizing state with
    | zero => simp [run] at h
    | succ fuel ih =>
        cases hbody : body state with
        | leave final =>
            have heq : final = result := by simpa [run, hbody] using h
            exact ⟨0, state, rfl, heq ▸ hbody⟩
        | again next =>
            obtain ⟨rounds, current, hafter, hleave⟩ := ih (by simpa [run, hbody] using h)
            exact ⟨rounds + 1, current, by simpa [after, hbody] using hafter, hleave⟩
  · rintro ⟨rounds, current, hafter, hleave⟩
    induction rounds generalizing state with
    | zero =>
        cases hafter
        exact (returns_leave hleave).2 rfl
    | succ rounds ih =>
        cases hbody : body state with
        | leave final => simp [after, hbody] at hafter
        | again next =>
            exact (returns_again hbody).2 (ih (by simpa [after, hbody] using hafter))

/-- The number of rounds before leaving is a sufficient bound. -/
theorem run_of_after {rounds : Nat} {current : σ} (hafter : after body rounds state = some current)
    (hleave : body current = .leave result) : run body (rounds + 1) state = some result := by
  induction rounds generalizing state with
  | zero =>
      cases hafter
      simp [run, hleave]
  | succ rounds ih =>
      cases hbody : body state with
      | leave final => simp [after, hbody] at hafter
      | again next =>
          rw [run]
          simpa [hbody] using ih (by simpa [after, hbody] using hafter)

/-- Earlier rounds were reached, too. -/
theorem after_prefix {rounds earlier : Nat} {current : σ}
    (h : after body rounds state = some current) (hle : earlier ≤ rounds) :
    ∃ passed, after body earlier state = some passed := by
  induction rounds generalizing current with
  | zero =>
      obtain rfl : earlier = 0 := by omega
      exact ⟨current, h⟩
  | succ rounds ih =>
      rcases Nat.lt_or_eq_of_le hle with hlt | rfl
      · obtain ⟨before, hbefore, _⟩ := (after_succ rounds).1 h
        exact ih hbefore (by omega)
      · exact ⟨current, h⟩

/-- Rounds compose. -/
theorem after_add {first second : Nat} {middle : σ}
    (h : after body first state = some middle) :
    after body (first + second) state = after body second middle := by
  induction first generalizing state with
  | zero =>
      cases h
      simp
  | succ first ih =>
      cases hbody : body state with
      | leave final => simp [after, hbody] at h
      | again next =>
          rw [Nat.succ_add]
          simpa [after, hbody] using ih (by simpa [after, hbody] using h)

/-- A loop that gets to the same variables twice gets to every later round. -/
theorem not_terminates_of_revisit {first period : Nat} (hperiod : 0 < period) {current : σ}
    (hfirst : after body first state = some current)
    (hsecond : after body (first + period) state = some current) :
    ¬ Terminates body state := by
  have hcycle : after body period current = some current := by
    rw [← after_add hfirst]
    exact hsecond
  have hmany : ∀ count, after body (count * period) current = some current := by
    intro count
    induction count with
    | zero => simp [after]
    | succ count ih =>
        rw [Nat.succ_mul, after_add ih]
        exact hcycle
  rintro ⟨result, hreturns⟩
  obtain ⟨rounds, last, hlast, hleave⟩ := returns_iff_after.1 hreturns
  -- Going round the cycle `rounds + 1` times passes the round that left.
  have hlong : after body (first + (rounds + 1) * period) state = some current := by
    rw [after_add hfirst]
    exact hmany _
  have hle : rounds + 1 ≤ first + (rounds + 1) * period :=
    (Nat.le_mul_of_pos_right _ hperiod).trans (Nat.le_add_left _ _)
  obtain ⟨passed, hpassed⟩ := after_prefix hlong hle
  obtain ⟨before, hbefore, hagain⟩ := (after_succ rounds).1 hpassed
  obtain rfl : before = last := Option.some.inj (hbefore.symm.trans hlast)
  simp [hleave] at hagain

/-- If the variables stay in a finite set and are never the same twice, the loop leaves within
as many rounds as the set has elements. -/
theorem run_of_no_revisit (values : Finset σ)
    (hvalues : ∀ rounds current, after body rounds state = some current → current ∈ values)
    (hfresh : ∀ first second current, first < second →
      after body first state = some current → after body second state ≠ some current) :
    ∃ result, run body values.card state = some result := by
  by_contra hnone
  -- Without a result every round up to the bound is reached, which is one value too many.
  have hreached : ∀ rounds, rounds ≤ values.card → ∃ current,
      after body rounds state = some current := by
    intro rounds
    induction rounds with
    | zero => exact fun _ => ⟨state, rfl⟩
    | succ rounds ih =>
        intro hle
        obtain ⟨current, hcurrent⟩ := ih (by omega)
        cases hbody : body current with
        | again next => exact ⟨next, (after_succ rounds).2 ⟨current, hcurrent, hbody⟩⟩
        | leave result =>
            exact absurd ⟨result, run_mono (run_of_after hcurrent hbody) hle⟩ hnone
  have : Nonempty σ := ⟨state⟩
  choose! visited hvisited using hreached
  have hmaps : ∀ rounds ∈ Finset.range (values.card + 1), visited rounds ∈ values := by
    intro rounds hrounds
    exact hvalues rounds _ (hvisited rounds (by simpa [Nat.lt_succ_iff] using hrounds))
  obtain ⟨first, hfirst, second, hsecond, hne, heq⟩ :=
    Finset.exists_ne_map_eq_of_card_lt_of_maps_to (by simp) hmaps
  have hbefore := hvisited first (by simpa [Nat.lt_succ_iff] using hfirst)
  have hlater := hvisited second (by simpa [Nat.lt_succ_iff] using hsecond)
  rcases Nat.lt_or_gt_of_ne hne with hlt | hlt
  · exact hfresh first second _ hlt hbefore (heq ▸ hlater)
  · exact hfresh second first _ hlt hlater (heq ▸ hbefore)

/-- A loop over a finite set of values terminates exactly when it never revisits one. -/
theorem terminates_iff_no_revisit (values : Finset σ)
    (hvalues : ∀ rounds current, after body rounds state = some current → current ∈ values) :
    Terminates body state ↔
      ∀ first second current, first < second →
        after body first state = some current → after body second state ≠ some current := by
  constructor
  · intro hterminates first second current hlt hfirst hsecond
    obtain ⟨period, rfl⟩ : ∃ period, second = first + period := ⟨second - first, by omega⟩
    exact not_terminates_of_revisit (by omega) hfirst hsecond hterminates
  · intro hfresh
    obtain ⟨result, hrun⟩ := run_of_no_revisit values hvalues hfresh
    exact ⟨result, _, hrun⟩

/-- A terminating loop over a finite set of values needs no more rounds than the set has
elements. -/
theorem run_card (values : Finset σ)
    (hvalues : ∀ rounds current, after body rounds state = some current → current ∈ values) :
    Returns body state result ↔ run body values.card state = some result := by
  constructor
  · intro h
    obtain ⟨found, hrun⟩ := run_of_no_revisit values hvalues
      ((terminates_iff_no_revisit values hvalues).1 ⟨result, h⟩)
    rw [hrun, h.unique ⟨_, hrun⟩]
  · intro h
    exact ⟨_, h⟩

/-- A loop that gets closer to its end with every round leaves, with what its invariant says. -/
theorem run_decreasing (body : σ → Round σ ρ) (state : σ) (holds : σ → Prop) (good : ρ → Prop)
    (left : σ → Nat)
    (hround : ∀ state, holds state →
      (∃ next, body state = .again next ∧ holds next ∧ left next < left state) ∨
      (∃ result, body state = .leave result ∧ good result))
    (hstart : holds state) {fuel : Nat} (hfuel : left state < fuel) :
    ∃ result, run body fuel state = some result ∧ good result := by
  induction fuel generalizing state with
  | zero => omega
  | succ fuel ih =>
      rcases hround state hstart with ⟨next, hbody, hnext, hless⟩ | ⟨result, hbody, hgood⟩
      · obtain ⟨result, hrun, hgood⟩ := ih next hnext (by omega)
        exact ⟨result, by simpa only [run, hbody] using hrun, hgood⟩
      · exact ⟨result, by simp only [run, hbody], hgood⟩

/-- If a loop's rounds follow those of a shadow loop on part of the variables, then it leaves
within any number of rounds within which the shadow leaves. -/
theorem run_of_shadow {shadow : τ → Round τ υ} (view : σ → τ)
    (hagain : ∀ state next, body state = .again next → shadow (view state) = .again (view next))
    {fuel : Nat} (h : (run shadow fuel (view state)).isSome) : (run body fuel state).isSome := by
  induction fuel generalizing state with
  | zero => simp [run] at h
  | succ fuel ih =>
      cases hbody : body state with
      | leave final => simp [run, hbody]
      | again next =>
          have hshadow := hagain state next hbody
          simpa [run, hbody] using ih (by simpa [run, hshadow] using h)

/-- If moreover the shadow leaves wherever the loop does, it leaves as early as the loop. -/
theorem run_shadow {shadow : τ → Round τ υ} (view : σ → τ)
    (hagain : ∀ state next, body state = .again next → shadow (view state) = .again (view next))
    (hleave : ∀ state result, body state = .leave result →
      ∃ final, shadow (view state) = .leave final)
    {fuel : Nat} (h : (run body fuel state).isSome) : (run shadow fuel (view state)).isSome := by
  induction fuel generalizing state with
  | zero => simp [run] at h
  | succ fuel ih =>
      cases hbody : body state with
      | leave final =>
          obtain ⟨_, hshadow⟩ := hleave state final hbody
          simp [run, hshadow]
      | again next =>
          have hshadow := hagain state next hbody
          simpa [run, hshadow] using ih (by simpa [run, hbody] using h)

/-- Execute at most this many rounds, each after a check of the loop variables that may fault. A
loop that has not left by then is stuck. -/
def runGuarded {ε : Type*} (check : σ → Except ε Unit) (stuck : ε) (body : σ → Round σ ρ) :
    Nat → σ → Except ε ρ
  | 0, _ => .error stuck
  | fuel + 1, state =>
      match check state, body state with
      | .error fault, _ => .error fault
      | .ok _, .again next => runGuarded check stuck body fuel next
      | .ok _, .leave result => .ok result

/-- The loop returns if every round that it gets to passes the check. -/
theorem run_guarded_iff {ε : Type*} {check : σ → Except ε Unit} {stuck : ε} {fuel : Nat} :
    runGuarded check stuck body fuel state = .ok result ↔
      run body fuel state = some result ∧
        ∀ rounds current, after body rounds state = some current → check current = .ok () := by
  induction fuel generalizing state with
  | zero => simp [runGuarded, run]
  | succ fuel ih =>
      cases hcheck : check state with
      | error fault =>
          have hfirst : ¬ ∀ rounds current, after body rounds state = some current →
              check current = .ok () := by
            intro h
            have hstate := h 0 state rfl
            rw [hcheck] at hstate
            cases hstate
          simp [runGuarded, hcheck, hfirst]
      | ok passed =>
          cases hbody : body state with
          | leave final =>
              simp only [runGuarded, hcheck, hbody, run, Except.ok.injEq, Option.some.injEq]
              refine ⟨fun h => ⟨h, fun rounds current hafter => ?_⟩, fun h => h.1⟩
              cases rounds with
              | zero =>
                  cases hafter
                  exact hcheck
              | succ rounds => simp [after, hbody] at hafter
          | again next =>
              simp only [runGuarded, hcheck, hbody, run, ih]
              refine and_congr_right fun _ => ⟨fun h rounds current hafter => ?_,
                fun h rounds current hafter => ?_⟩
              · cases rounds with
                | zero =>
                    cases hafter
                    exact hcheck
                | succ rounds => exact h rounds current (by simpa [after, hbody] using hafter)
              · exact h (rounds + 1) current (by simpa [after, hbody] using hafter)

end Loop
