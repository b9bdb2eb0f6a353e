import OpenQti.Lib.Trace

/-!
# Rates

A machine that sends something at most once in a step, and then not again for a number of steps.
`held s` is a number of steps in which it is not sent from `s` on. `emit_rate` bounds how often it
is sent in a whole execution, from any state.
-/

namespace Machine

variable {σ α β ε : Type*} {step : σ → α → Except ε (σ × List β)} {s finish : σ} {actions : List α}
  {sends : List β}

/-- What is counted is sent once at most, and held back for `k` steps after that. -/
def HeldBack (step : σ → α → Except ε (σ × List β)) (counts : β → Bool) (held : σ → Nat)
    (k : Nat) : Prop :=
  ∀ s action next first, step s action = .ok (next, first) →
    (first.countP counts = 0 ∧ held s ≤ held next + 1) ∨
      (first.countP counts = 1 ∧ held s = 0 ∧ k ≤ held next)

theorem held_back_count {counts : β → Bool} {held : σ → Nat} {k : Nat}
    (hheld : HeldBack step counts held k) (h : emit step s actions = .ok (finish, sends)) :
    sends.countP counts * (k + 1) ≤ actions.length - held s + k := by
  induction actions generalizing s sends with
  | nil =>
      cases h
      simp
  | cons action actions ih =>
      obtain ⟨next, first, rest, hfirst, hrest, rfl⟩ := emit_cons_ok h
      have hlater := ih hrest
      rw [List.countP_append, List.length_cons]
      rcases hheld _ _ _ _ hfirst with ⟨hnone, hnext⟩ | ⟨hone, hfree, hnext⟩
      · rw [hnone, Nat.zero_add]
        omega
      · rw [hone, hfree, Nat.add_mul, Nat.one_mul]
        -- nothing more is sent in the steps that are held back
        by_cases hshort : actions.length ≤ held next
        · have hnone : rest.countP counts = 0 := by
            by_contra hsome
            have hle : 1 * (k + 1) ≤ rest.countP counts * (k + 1) :=
              Nat.mul_le_mul_right _ (Nat.one_le_iff_ne_zero.2 hsome)
            omega
          rw [hnone]
          omega
        · omega

/-- In `n` steps it is sent at most once in every `k + 1` of them. -/
theorem emit_rate {counts : β → Bool} {held : σ → Nat} {k : Nat}
    (hheld : HeldBack step counts held k) (h : emit step s actions = .ok (finish, sends)) :
    sends.countP counts ≤ (actions.length + k) / (k + 1) := by
  have hcount := held_back_count hheld h
  have hfree : actions.length - held s ≤ actions.length := Nat.sub_le _ _
  exact (Nat.le_div_iff_mul_le k.succ_pos).2 (Nat.le_trans hcount (Nat.add_le_add_right hfree k))

end Machine
