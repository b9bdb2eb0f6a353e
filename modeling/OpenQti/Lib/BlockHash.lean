import Mathlib.Data.List.Basic

/-!
# Hashing in blocks

A hash function of the Merkle–Damgård kind compresses a message block by block into a chaining
value. An implementation is handed the message in pieces of any length: it compresses the blocks
that are complete and keeps the rest for later. `Absorbed` relates the chaining value and the rest
to the message so far, and the three rules about it are all that an implementation needs: a piece
may be added to the rest, complete blocks may be taken off its front, and what is left when the
message has been padded gives the digest.
-/

namespace BlockHash

variable {σ β : Type*}

/-- Compress this many blocks from the front of the data. -/
def absorb (compress : σ → List β → σ) (size : Nat) : Nat → σ → List β → σ
  | 0, chain, _ => chain
  | n + 1, chain, data => absorb compress size n (compress chain (data.take size)) (data.drop size)

/-- The chaining value of a message of complete blocks. -/
def digest (compress : σ → List β → σ) (size : Nat) (initial : σ) (message : List β) : σ :=
  absorb compress size (message.length / size) initial message

/-- The message is some complete blocks that have been compressed into `chain`, and `rest`. -/
def Absorbed (compress : σ → List β → σ) (size : Nat) (initial : σ) (message : List β) (chain : σ)
    (rest : List β) : Prop :=
  ∃ n blocks, blocks.length = n * size ∧ message = blocks ++ rest ∧
    chain = absorb compress size n initial blocks

variable {step : σ → List β → σ} {size : Nat} {initial chain : σ}
  {message front rest data : List β} {n m : Nat}

/-- Blocks are compressed one after the other. -/
theorem absorb_append (hfront : front.length = n * size) :
    absorb step size (n + m) chain (front ++ rest) =
      absorb step size m (absorb step size n chain front) rest := by
  induction n generalizing chain front with
  | zero =>
      rw [Nat.zero_mul, List.length_eq_zero_iff] at hfront
      rw [hfront, Nat.zero_add]
      rfl
  | succ n ih =>
      rw [Nat.succ_mul] at hfront
      have hdrop : (front.drop size).length = n * size := by
        rw [List.length_drop]
        omega
      rw [Nat.succ_add, absorb, absorb, List.take_append_of_le_length (by omega),
        List.drop_append_of_le_length (by omega)]
      exact ih hdrop

theorem absorbed_nil : Absorbed step size initial [] initial [] :=
  ⟨0, [], by simp, rfl, rfl⟩

/-- A piece of the message is kept. -/
theorem Absorbed.append (h : Absorbed step size initial message chain rest) (data : List β) :
    Absorbed step size initial (message ++ data) chain (rest ++ data) := by
  obtain ⟨n, blocks, hlength, rfl, hchain⟩ := h
  exact ⟨n, blocks, hlength, List.append_assoc _ _ _, hchain⟩

/-- Complete blocks are compressed. -/
theorem Absorbed.compress (h : Absorbed step size initial message chain (front ++ rest))
    (hfront : front.length = m * size) :
    Absorbed step size initial message (absorb step size m chain front) rest := by
  obtain ⟨n, blocks, hlength, rfl, rfl⟩ := h
  refine ⟨n + m, blocks ++ front, ?_, by rw [List.append_assoc], (absorb_append hlength).symm⟩
  rw [List.length_append, hlength, hfront, Nat.add_mul]

/-- The digest of a message of which only complete blocks are left. -/
theorem Absorbed.digest_eq (h : Absorbed step size initial message chain rest)
    (hsize : 0 < size) (hrest : rest.length = m * size) :
    digest step size initial message = absorb step size m chain rest := by
  obtain ⟨n, blocks, hlength, rfl, rfl⟩ := h
  have hcount : (blocks ++ rest).length / size = n + m := by
    rw [List.length_append, hlength, hrest, ← Nat.add_mul, Nat.mul_div_cancel _ hsize]
  rw [digest, hcount, absorb_append hlength]

end BlockHash
