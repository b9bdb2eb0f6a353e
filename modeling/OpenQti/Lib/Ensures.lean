import Mathlib.Logic.Basic

/-!
# Postconditions of computations that may fault

`Ensures x post` says that the computation `x` does not fault and that its result satisfies
`post`. Each way of composing computations has a lemma that states what it ensures in terms
of its parts, so that the condition under which a program does not fault is found by
rewriting. The other way round, a result of a composed computation is taken apart into the
results of its parts.
-/

namespace Except

universe u v

variable {ε : Type u} {α β : Type v}

/-- The computation does not fault, and its result satisfies the postcondition. -/
def Ensures (x : Except ε α) (post : α → Prop) : Prop := ∃ a, x = .ok a ∧ post a

variable {x : Except ε α} {f : α → Except ε β} {post : α → Prop} {after : β → Prop}

/-- A result is what the computation ensures. -/
theorem ensures_of_eq_ok {a : α} (h : x = .ok a) : x.Ensures fun b => b = a := ⟨a, h, rfl⟩

theorem ensures_ok {a : α} : (ok a : Except ε α).Ensures post ↔ post a := by
  simp [Ensures]

theorem ensures_error {fault : ε} : (error fault : Except ε α).Ensures post ↔ False := by
  simp [Ensures]

theorem ensures_bind : (x >>= f).Ensures after ↔ x.Ensures fun a => (f a).Ensures after := by
  cases x with
  | error fault => simp [bind, Except.bind, Ensures]
  | ok a => simp [bind, Except.bind, Ensures]

theorem ensures_ite {c : Prop} [Decidable c] {y : Except ε α} :
    (if c then x else y).Ensures post ↔ (c → x.Ensures post) ∧ (¬ c → y.Ensures post) := by
  by_cases hc : c <;> simp [hc]

theorem ensures_map_error {δ : Type u} {g : ε → δ} :
    (x.mapError g).Ensures post ↔ x.Ensures post := by
  cases x with
  | error fault =>
      show (error (g fault) : Except δ α).Ensures post ↔ _
      rw [ensures_error, ensures_error]
  | ok a =>
      show (ok a : Except δ α).Ensures post ↔ _
      rw [ensures_ok, ensures_ok]

/-- A postcondition that does not depend on the result. -/
theorem ensures_const {q : Prop} : (x.Ensures fun _ => q) ↔ (x.Ensures fun _ => True) ∧ q := by
  simp only [Ensures, and_true]
  exact ⟨fun ⟨a, hx, hq⟩ => ⟨⟨a, hx⟩, hq⟩, fun ⟨⟨a, hx⟩, hq⟩ => ⟨a, hx, hq⟩⟩

/-- A computation followed by one for which the result does not matter. -/
theorem ensures_bind_const {q : Prop} (hf : ∀ a, (f a).Ensures after ↔ q) :
    (x >>= f).Ensures after ↔ (x.Ensures fun _ => True) ∧ q := by
  rw [ensures_bind]
  simp only [hf]
  exact ensures_const

/-! ## Taking results apart -/

/-- A computation has gone through its first part. -/
theorem bind_ok {b : β} (h : x >>= f = .ok b) : ∃ a, x = .ok a ∧ f a = .ok b := by
  cases x with
  | error fault => cases h
  | ok a => exact ⟨a, rfl, h⟩

/-- The rest of a computation after a part whose result is known. -/
theorem bind_of_eq_ok {a : α} (h : x = .ok a) : x >>= f = f a := by
  rw [h]
  rfl

/-- A result that has been mapped. -/
theorem of_map_ok {g : α → β} {b : β} (h : x.map g = .ok b) : ∃ a, x = .ok a ∧ g a = b := by
  cases x with
  | error fault => cases h
  | ok a => exact ⟨a, rfl, Except.ok.inj h⟩

/-- What every round of a loop keeps holds at its end. -/
theorem foldlM_invariant {ι : Type*} {step : α → ι → Except ε α} {items : List ι} {start finish : α}
    (holds : α → Prop) (hstart : holds start)
    (hstep : ∀ a i next, holds a → step a i = .ok next → holds next)
    (h : items.foldlM step start = .ok finish) : holds finish := by
  induction items generalizing start with
  | nil =>
      cases h
      exact hstart
  | cons i items ih =>
      rw [List.foldlM_cons] at h
      obtain ⟨next, hnext, hrest⟩ := bind_ok h
      exact ih (hstep _ _ _ hstart hnext) hrest

/-! ## Every item of a list -/

section

variable {ι : Type*} {step : ι → Except ε α} {items : List ι}

end

end Except
