import Mathlib.Data.List.Basic

/-!
# What a machine sends

A machine whose steps may fault and send something. `emit` executes a list of actions and collects
what is sent. Two states that a relation kept by every step holds between cannot be told apart by
what is sent: `sent_eq` is the induction that two-run proofs use.
-/

namespace Machine

variable {σ α β ε : Type*}

/-- Execute the actions in order and collect what is sent; the first fault ends the run. -/
def emit (step : σ → α → Except ε (σ × List β)) : σ → List α → Except ε (σ × List β)
  | state, [] => .ok (state, [])
  | state, action :: actions =>
      match step state action with
      | .error fault => .error fault
      | .ok (next, first) =>
          (emit step next actions).map fun result => (result.1, first ++ result.2)

variable {step : σ → α → Except ε (σ × List β)} {s t next : σ} {action : α}
  {actions later : List α} {first rest : List β}

theorem emit_cons (h : step s action = .ok (next, first)) :
    emit step s (action :: actions) =
      (emit step next actions).map fun result => (result.1, first ++ result.2) := by
  simp only [emit, h]

/-- A step that sends nothing. -/
theorem emit_quiet (h : step s action = .ok (next, [])) :
    emit step s (action :: actions) = emit step next actions := by
  rw [emit_cons h]
  cases emit step next actions <;> rfl

/-- Execution up to a state, and from there on. -/
theorem emit_append (h : emit step s actions = .ok (next, first)) :
    emit step s (actions ++ later) =
      (emit step next later).map fun result => (result.1, first ++ result.2) := by
  induction actions generalizing s first with
  | nil =>
      cases h
      cases hlater : emit step next later with
      | error fault => simp [hlater, Except.map]
      | ok result => simp [hlater, Except.map]
  | cons action actions ih =>
      cases hstep : step s action with
      | error fault => simp [emit, hstep] at h
      | ok result =>
          obtain ⟨state, sent⟩ := result
          rw [emit_cons hstep] at h
          rw [List.cons_append, emit_cons hstep]
          cases hrest : emit step state actions with
          | error fault => simp [hrest, Except.map] at h
          | ok final =>
              rw [hrest] at h
              cases h
              rw [ih hrest]
              cases emit step final.1 later with
              | error fault => rfl
              | ok result => simp [Except.map]

/-- The first step of an execution, and the rest. -/
theorem emit_cons_ok {sends : List β} {finish : σ}
    (h : emit step s (action :: actions) = .ok (finish, sends)) :
    ∃ next first rest, step s action = .ok (next, first) ∧
      emit step next actions = .ok (finish, rest) ∧ sends = first ++ rest := by
  cases hstep : step s action with
  | error fault => simp [emit, hstep] at h
  | ok result =>
      obtain ⟨next, first⟩ := result
      rw [emit_cons hstep] at h
      cases hrest : emit step next actions with
      | error fault => simp [hrest, Except.map] at h
      | ok final =>
          obtain ⟨last, rest⟩ := final
          rw [hrest] at h
          cases h
          exact ⟨next, first, rest, rfl, hrest, rfl⟩

/-- What every step keeps, and what holds of all that it sends while it does, holds of an
execution. -/
theorem emit_invariant {finish : σ} {sends : List β} (holds : σ → Prop) (good : β → Prop)
    (hstart : holds s)
    (hstep : ∀ s action next first, action ∈ actions → holds s →
      step s action = .ok (next, first) → holds next ∧ ∀ b ∈ first, good b)
    (h : emit step s actions = .ok (finish, sends)) : holds finish ∧ ∀ b ∈ sends, good b := by
  induction actions generalizing s sends with
  | nil =>
      cases h
      exact ⟨hstart, fun _ hb => by cases hb⟩
  | cons action actions ih =>
      obtain ⟨next, first, rest, hfirst, hrest, rfl⟩ := emit_cons_ok h
      obtain ⟨hnext, hgood⟩ := hstep _ _ _ _ (List.mem_cons_self ..) hstart hfirst
      obtain ⟨hfinish, hlater⟩ := ih hnext
        (fun _ _ _ _ hlater => hstep _ _ _ _ (List.mem_cons_of_mem _ hlater)) hrest
      exact ⟨hfinish, List.forall_mem_append.2 ⟨hgood, hlater⟩⟩

/-- An execution of the actions from `s` on comes to the state `mid`, in which `action` leads to
`next` and sends `first`. -/
def Passes (step : σ → α → Except ε (σ × List β)) (s : σ) (actions : List α) (mid : σ) (action : α)
    (next : σ) (first : List β) : Prop :=
  ∃ before later sends, actions = before ++ action :: later ∧
    emit step s before = .ok (mid, sends) ∧ step mid action = .ok (next, first)

/-- A counter in a state, and what it counts of all that is sent. -/
structure Counter (σ β : Type*) where
  read : σ → UInt32
  counts : β → Bool

/-- The counter has been increased by as many as have been sent, up to an overflow. -/
def Counter.Counted (counter : Counter σ β) (s next : σ) (sends : List β) : Prop :=
  counter.read next = counter.read s + UInt32.ofNat (sends.countP counter.counts)

theorem Counter.counted_quiet {counter : Counter σ β} {sends : List β}
    (hsame : counter.read next = counter.read s) (hquiet : ∀ b ∈ sends, counter.counts b = false) :
    counter.Counted s next sends := by
  have hnone : sends.countP counter.counts = 0 := List.countP_eq_zero.2 fun b hb => by
    rw [hquiet b hb]
    exact Bool.false_ne_true
  rw [Counter.Counted, hsame, hnone]
  exact (UInt32.add_zero _).symm

/-- A counter counts in an execution, if it does in every step. -/
theorem emit_count {finish : σ} {sends : List β} (counter : Counter σ β)
    (hstep : ∀ s action next first, step s action = .ok (next, first) →
      counter.Counted s next first)
    (h : emit step s actions = .ok (finish, sends)) : counter.Counted s finish sends := by
  induction actions generalizing s sends with
  | nil =>
      cases h
      exact (UInt32.add_zero _).symm
  | cons action actions ih =>
      obtain ⟨next, first, rest, hfirst, hrest, rfl⟩ := emit_cons_ok h
      rw [Counter.Counted, ih hrest, hstep _ _ _ _ hfirst, List.countP_append, UInt32.ofNat_add,
        UInt32.add_assoc]

/-- What is sent in the course of some actions. -/
def sent (step : σ → α → Except ε (σ × List β)) (s : σ) (actions : List α) : Except ε (List β) :=
  (emit step s actions).map Prod.snd

theorem sent_append (h : emit step s actions = .ok (next, first)) :
    sent step s (actions ++ later) = (sent step next later).map (first ++ ·) := by
  rw [sent, sent, emit_append h]
  cases emit step next later <;> rfl

theorem sent_cons (h : step s action = .ok (next, first)) :
    sent step s (action :: actions) = (sent step next actions).map (first ++ ·) := by
  rw [sent, sent, emit_cons h]
  cases emit step next actions <;> rfl

/-- Both states fault alike, or send the same and stay related. -/
def Matches (related : σ → σ → Prop) : Except ε (σ × List β) → Except ε (σ × List β) → Prop
  | .error fault, .error other => fault = other
  | .ok (s, first), .ok (t, second) => related s t ∧ first = second
  | _, _ => False

/-- Related states send the same, if related states match in every step. -/
theorem sent_eq {related : σ → σ → Prop}
    (hstep : ∀ s t action, related s t → Matches related (step s action) (step t action))
    (h : related s t) (actions : List α) : sent step s actions = sent step t actions := by
  induction actions generalizing s t with
  | nil => rfl
  | cons action actions ih =>
      have hmatch := hstep s t action h
      cases hleft : step s action with
      | error fault =>
          cases hright : step t action with
          | error other =>
              rw [hleft, hright] at hmatch
              cases hmatch
              simp only [sent, emit, hleft, hright]
          | ok result =>
              rw [hleft, hright] at hmatch
              cases hmatch
      | ok left =>
          cases hright : step t action with
          | error fault =>
              rw [hleft, hright] at hmatch
              cases hmatch
          | ok right =>
              rw [hleft, hright] at hmatch
              obtain ⟨hrelated, hsent⟩ := hmatch
              rw [sent_cons hleft, sent_cons hright, ih hrelated, hsent]

end Machine
