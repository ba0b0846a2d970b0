import Chip8.Memory

/-!
# Reading and writing memory

What a read gives after a write, and memories that agree on some addresses. A write touches only the
addresses from its start on, as many as it has bytes (`read_store`), and what it writes past the end is
not there to be read.
-/

namespace Chip8.Memory

/-! ### Reads -/

theorem read_of_lt (m : Memory) {a : Nat} (h : a < 4096) : m.read a = m[a] := by
  have hmin : min a 4095 = a := by omega
  simp only [read, hmin]

/-- Memories are equal if every read gives the same. -/
theorem eq_of_read {m m' : Memory} (h : ∀ k < 4096, m.read k = m'.read k) : m = m' := by
  refine Vector.ext fun k hk => ?_
  rw [← read_of_lt m hk, ← read_of_lt m' hk]
  exact h k hk

theorem getElem?_block (m : Memory) {a count k : Nat} (h : k < count) :
    (m.block a count)[k]? = some (m.read (a + k)) := by
  simp [block, h]

/-! ### Writes -/

theorem read_setIfInBounds (m : Memory) (a : Nat) (b : UInt8) {k : Nat} (hk : k < 4096) :
    read (m.setIfInBounds a b) k = if a = k then b else m.read k := by
  rw [read_of_lt _ hk, read_of_lt _ hk, Vector.getElem_setIfInBounds]

/-- **What a write leaves to read**: its own bytes where it reaches, the old ones elsewhere. -/
theorem read_store (m : Memory) (a : Nat) (bs : List UInt8) {k : Nat} (hk : k < 4096) :
    (m.store a bs).read k = if a ≤ k ∧ k < a + bs.length then bs.getD (k - a) 0 else m.read k := by
  induction bs generalizing m a with
  | nil => simp [store, show ¬ (a ≤ k ∧ k < a) by omega]
  | cons b bs ih =>
    simp only [store, List.length_cons]
    rw [ih, read_setIfInBounds _ _ _ hk]
    by_cases hak : a = k
    · subst hak
      simp [show ¬ (a + 1 ≤ a) by omega]
    · by_cases hin : a + 1 ≤ k ∧ k < a + 1 + bs.length
      · rw [if_pos hin, if_pos (by omega), show k - a = (k - (a + 1)) + 1 by omega, List.getD_cons_succ]
      · rw [if_neg hin, if_neg hak, if_neg (by omega)]

/-! ### Agreement -/

/-- The address is one of the `n` addresses from `a` on. -/
def Within (a n k : Nat) : Prop := a ≤ k ∧ k < a + n

instance (a n k : Nat) : Decidable (Within a n k) := inferInstanceAs (Decidable (_ ∧ _))

/-- The memories hold the same bytes at the addresses that satisfy `P`. -/
def AgreeOn (P : Nat → Prop) (m m' : Memory) : Prop := ∀ k : Fin 4096, P k → m[k] = m'[k]

theorem AgreeOn.refl (P : Nat → Prop) (m : Memory) : AgreeOn P m m := fun _ _ => rfl

theorem AgreeOn.read {P : Nat → Prop} {m m' : Memory} (h : AgreeOn P m m') {k : Nat} (hk : k < 4096)
    (hP : P k) : m.read k = m'.read k := by
  rw [read_of_lt m hk, read_of_lt m' hk]
  exact h ⟨k, hk⟩ hP

theorem agreeOn_of_read {P : Nat → Prop} {m m' : Memory}
    (h : ∀ k < 4096, P k → m.read k = m'.read k) : AgreeOn P m m' := by
  intro k hP
  have := h k k.isLt hP
  rwa [read_of_lt m k.isLt, read_of_lt m' k.isLt] at this

end Chip8.Memory
