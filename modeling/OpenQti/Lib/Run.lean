import Mathlib.Logic.Basic
import OpenQti.Lib.Ensures

/-!
# Runs of a machine whose steps may fault

A machine is a step function into `Except ε`. A `Run` is a finite sequence of successful
steps, each of them allowed in the state in which it is taken; `fun _ _ => True` allows
everything. `Run.invariant` is the induction that safety proofs use.
-/

namespace Machine

variable {σ α ε : Type*}

/-- `Run step allowed start actions finish`: the actions, in this order and all of them allowed,
lead from `start` to `finish` without a fault. -/
inductive Run (step : σ → α → Except ε σ) (allowed : σ → α → Prop) : σ → List α → σ → Prop where
  | nil (start) : Run step allowed start [] start
  | snoc {start state next : σ} {actions : List α} {action : α} :
      Run step allowed start actions state → allowed state action →
      step state action = .ok next → Run step allowed start (actions ++ [action]) next

/-- Every step is allowed. -/
abbrev Anything (_ : σ) (_ : α) : Prop := True

variable {step : σ → α → Except ε σ} {allowed : σ → α → Prop}
  {start state finish : σ} {actions : List α} {action : α}

/-- A property that holds at the start and is kept by every allowed step holds throughout. -/
theorem Run.invariant (holds : σ → Prop) (hstart : holds start)
    (hstep : ∀ state action next, holds state → allowed state action →
      step state action = .ok next → holds next)
    (h : Run step allowed start actions finish) : holds finish := by
  induction h with
  | nil => exact hstart
  | snoc _ hallowed hnext ih => exact hstep _ _ _ ih hallowed hnext

/-- A run is one of a machine that allows more. -/
theorem Run.mono {permitted : σ → α → Prop}
    (hallowed : ∀ state action, allowed state action → permitted state action)
    (h : Run step allowed start actions finish) : Run step permitted start actions finish := by
  induction h with
  | nil => exact .nil _
  | snoc _ haction hnext ih => exact .snoc ih (hallowed _ _ haction) hnext

/-- One run after the other. -/
theorem Run.append {middle : σ} {later : List α} (hfirst : Run step allowed start actions middle)
    (hlater : Run step allowed middle later finish) :
    Run step allowed start (actions ++ later) finish := by
  induction hlater with
  | nil =>
      rw [List.append_nil]
      exact hfirst
  | snoc _ haction hnext ih =>
      rw [← List.append_assoc]
      exact .snoc ih haction hnext

/-- Some actions lead from one state to the other. -/
def Leads (step : σ → α → Except ε σ) (start finish : σ) : Prop :=
  ∃ actions, Run step Anything start actions finish

theorem Leads.refl (start : σ) : Leads step start start := ⟨[], .nil start⟩

theorem Leads.trans {middle : σ} (hfirst : Leads step start middle)
    (hlater : Leads step middle finish) : Leads step start finish := by
  obtain ⟨actions, hactions⟩ := hfirst
  obtain ⟨later, hrun⟩ := hlater
  exact ⟨actions ++ later, hactions.append hrun⟩

/-- What every step keeps holds of all that the actions lead to. -/
theorem Leads.invariant (holds : σ → Prop)
    (hstep : ∀ state action next, holds state → step state action = .ok next → holds next)
    (h : Leads step start finish) (hstart : holds start) : holds finish := by
  obtain ⟨actions, hrun⟩ := h
  exact hrun.invariant holds hstart fun _ _ _ hstate _ hnext => hstep _ _ _ hstate hnext

/-- Execute the actions in order; the first fault ends the run. -/
def exec (step : σ → α → Except ε σ) : σ → List α → Except ε σ
  | state, [] => .ok state
  | state, action :: actions =>
      match step state action with
      | .ok next => exec step next actions
      | .error fault => .error fault

/-- Execution up to the last action. -/
theorem exec_snoc (h : exec step start actions = .ok state) :
    exec step start (actions ++ [action]) = step state action := by
  induction actions generalizing start with
  | nil =>
      cases h
      simp only [exec, List.nil_append]
      split <;> simp_all
  | cons first actions ih =>
      cases hstep : step start first with
      | error fault => simp [exec, hstep] at h
      | ok next =>
          simp only [exec, hstep, List.cons_append] at h ⊢
          exact ih h

/-- A property that every step keeps holds at the end of a successful execution. -/
theorem exec_invariant (holds : σ → Prop) (hstart : holds start)
    (hstep : ∀ state action next, holds state → step state action = .ok next → holds next)
    (h : exec step start actions = .ok finish) : holds finish := by
  induction actions generalizing start with
  | nil =>
      cases h
      exact hstart
  | cons first actions ih =>
      cases hfirst : step start first with
      | error fault => simp [exec, hfirst] at h
      | ok next =>
          simp only [exec, hfirst] at h
          exact ih (hstep _ _ _ hstart hfirst) h

/-- If it depends on the action alone whether a step faults, an execution succeeds exactly if no
action faults. -/
theorem exec_ensures_iff {safe : α → Prop}
    (hstep : ∀ state action, ((step state action).Ensures fun _ => True) ↔ safe action) :
    ((exec step start actions).Ensures fun _ => True) ↔ ∀ action ∈ actions, safe action := by
  induction actions generalizing start with
  | nil => simp [exec, Except.ensures_ok]
  | cons first actions ih =>
      rw [List.forall_mem_cons, ← hstep start first]
      cases hfirst : step start first with
      | error fault => simp [exec, hfirst, Except.ensures_error]
      | ok next => simp [exec, hfirst, Except.ensures_ok, ih]

/-- A run is a successful execution. -/
theorem Run.exec (h : Run step allowed start actions finish) :
    exec step start actions = .ok finish := by
  induction h with
  | nil => rfl
  | snoc _ _ hstep ih => rw [exec_snoc ih, hstep]

end Machine
