import Chip8.CallStack

/-!
# The call stack within its bounds

A call stack is well formed when its pointer is within the sixteen slots, its free slots hold zero and
its slots in use hold 12-bit addresses. The empty stack is well formed, a push with room and a pop of
a slot in use keep it so. Between a push and the pop that matches it the slots below are not touched
(`Keeps`), so the pop gives back the stack as it was and the address as it was kept.

As a list, the stack grows by a push and shrinks by a pop at its end.
-/

namespace Chip8.CallStack

/-! ### Pushing and popping, slot by slot -/

/-- The low 12 bits of a word. -/
theorem toNat_and_mask (a : UInt16) : (a &&& 0x0FFF).toNat = a.toNat % 4096 := by
  rw [UInt16.toNat_and]
  exact Nat.and_two_pow_sub_one_eq_mod a.toNat 12

theorem toNat_pointer_push {s : CallStack} (h : s.pointer.toNat < 16) (a : UInt16) :
    (s.push a).pointer.toNat = s.pointer.toNat + 1 := by
  simp only [push, UInt8.toNat_add, UInt8.reduceToNat]
  omega

theorem slots_push (s : CallStack) (a : UInt16) {k : Nat} (hk : k < 16) :
    (s.push a).slots[k] = if s.pointer.toNat = k then a &&& 0x0FFF else s.slots[k] := by
  simp only [push, Vector.getElem_setIfInBounds]

theorem toNat_pointer_pop {s : CallStack} (h : s.pointer ≠ 0) :
    s.pop.1.pointer.toNat = s.pointer.toNat - 1 := by
  have hpos : s.pointer.toNat ≠ 0 := fun e => h (UInt8.toNat_inj.mp e)
  have hle : 1 ≤ s.pointer := UInt8.le_iff_toNat_le.mpr (by simp only [UInt8.reduceToNat]; omega)
  exact UInt8.toNat_sub_of_le _ _ hle

theorem slots_pop {s : CallStack} (h : s.pointer ≠ 0) {k : Nat} (hk : k < 16) :
    s.pop.1.slots[k] = if s.pointer.toNat - 1 = k then 0 else s.slots[k] := by
  rw [← toNat_pointer_pop h]
  exact Vector.getElem_setIfInBounds hk

/-- A pop gives what the top slot held. -/
theorem snd_pop {s : CallStack} (h : s.pointer ≠ 0) {k : Nat} (hk : k < 16)
    (htop : s.pointer.toNat = k + 1) : s.pop.2 = s.slots[k] := by
  have hp := toNat_pointer_pop h
  simp only [pop] at hp ⊢
  have hmin : min (s.pointer - 1).toNat 15 = k := by omega
  simp only [slot, hmin]

/-! ### Well-formed stacks -/

/-- What holds of the stack of a running machine. -/
structure WellFormed (s : CallStack) : Prop where
  /-- At most sixteen slots are in use. -/
  pointer_le : s.pointer.toNat ≤ 16
  /-- A free slot holds zero. -/
  free : ∀ k : Fin 16, s.pointer.toNat ≤ k → s.slots[k] = 0
  /-- A slot in use holds an address. -/
  used : ∀ k : Fin 16, k < s.pointer.toNat → s.slots[k].toNat ≤ 0xFFF

theorem wellFormed_empty : WellFormed empty where
  pointer_le := by decide
  free := fun k _ => by simp [empty]
  used := fun k h => by simp [empty]

theorem WellFormed.push {s : CallStack} (hs : s.WellFormed) (h : s.pointer.toNat < 16) (a : UInt16) :
    (s.push a).WellFormed := by
  have hp := toNat_pointer_push h a
  refine ⟨by omega, fun k hk => ?_, fun k hk => ?_⟩
  · rw [hp] at hk
    rw [Fin.getElem_fin, slots_push s a k.isLt, if_neg (by omega)]
    exact hs.free k (by omega)
  · rw [hp] at hk
    rw [Fin.getElem_fin, slots_push s a k.isLt]
    by_cases htop : s.pointer.toNat = k
    · rw [if_pos htop, toNat_and_mask]
      omega
    · rw [if_neg htop]
      exact hs.used k (by omega)

theorem WellFormed.pop {s : CallStack} (hs : s.WellFormed) (h : s.pointer ≠ 0) :
    s.pop.1.WellFormed := by
  have hp := toNat_pointer_pop h
  have hle := hs.pointer_le
  refine ⟨by omega, fun k hk => ?_, fun k hk => ?_⟩
  · rw [Fin.getElem_fin, slots_pop h k.isLt]
    by_cases htop : s.pointer.toNat - 1 = k
    · rw [if_pos htop]
    · rw [if_neg htop]
      exact hs.free k (by omega)
  · rw [Fin.getElem_fin, slots_pop h k.isLt, if_neg (by omega)]
    exact hs.used k (by omega)

/-- What a pop gives is a 12-bit address. -/
theorem WellFormed.snd_pop_le {s : CallStack} (hs : s.WellFormed) (h : s.pointer ≠ 0) :
    s.pop.2.toNat ≤ 0xFFF := by
  have hle := hs.pointer_le
  have hpos : s.pointer.toNat ≠ 0 := fun e => h (UInt8.toNat_inj.mp e)
  rw [snd_pop h (k := s.pointer.toNat - 1) (by omega) (by omega)]
  exact hs.used ⟨s.pointer.toNat - 1, by omega⟩ (show s.pointer.toNat - 1 < _ by omega)

/-- Well-formed stacks of one depth are the same if their slots in use are. -/
theorem WellFormed.ext {s t : CallStack} (hs : s.WellFormed) (ht : t.WellFormed)
    (hp : s.pointer = t.pointer)
    (h : ∀ k : Fin 16, k < s.pointer.toNat → s.slots[k] = t.slots[k]) : s = t := by
  have hslots : s.slots = t.slots := by
    refine Vector.ext fun k hk => ?_
    by_cases hin : k < s.pointer.toNat
    · exact h ⟨k, hk⟩ hin
    · have hs0 : s.slots[k] = 0 := hs.free ⟨k, hk⟩ (by simpa using hin)
      have ht0 : t.slots[k] = 0 := ht.free ⟨k, hk⟩ (by rw [← hp]; simpa using hin)
      rw [hs0, ht0]
  cases s
  cases t
  cases hp
  cases hslots
  rfl

/-! ### Below a return address -/

/-- The stack `t` has the slots in use of `s`, then a slot that holds `a`, and perhaps more. -/
structure Keeps (s : CallStack) (a : UInt16) (t : CallStack) : Prop where
  /-- More slots are in use than in `s`. -/
  deeper : s.pointer.toNat < t.pointer.toNat
  /-- The slots in use of `s` are as they were. -/
  below : ∀ k : Fin 16, k < s.pointer.toNat → t.slots[k] = s.slots[k]
  /-- The slot above them holds the address. -/
  top : ∀ k : Fin 16, k = s.pointer.toNat → t.slots[k] = a

/-- A push keeps the stack it was made on. -/
theorem keeps_push {s : CallStack} (h : s.pointer.toNat < 16) (a : UInt16) :
    Keeps s (a &&& 0x0FFF) (s.push a) := by
  refine ⟨by rw [toNat_pointer_push h]; omega, fun k hk => ?_, fun k hk => ?_⟩
  · rw [Fin.getElem_fin, slots_push s a k.isLt, if_neg (by omega)]
    rfl
  · rw [Fin.getElem_fin, slots_push s a k.isLt, if_pos hk.symm]

theorem Keeps.push {s t : CallStack} {a : UInt16} (h : Keeps s a t) (ht : t.pointer.toNat < 16)
    (b : UInt16) : Keeps s a (t.push b) := by
  have hd := h.deeper
  refine ⟨by rw [toNat_pointer_push ht]; omega, fun k hk => ?_, fun k hk => ?_⟩
  · rw [Fin.getElem_fin, slots_push t b k.isLt, if_neg (by omega)]
    exact h.below k hk
  · rw [Fin.getElem_fin, slots_push t b k.isLt, if_neg (by omega)]
    exact h.top k hk

/-- A pop that does not come back to the depth of `s` keeps it. -/
theorem Keeps.pop {s t : CallStack} {a : UInt16} (h : Keeps s a t) (ht : t.pointer ≠ 0)
    (hd : s.pointer.toNat < t.pop.1.pointer.toNat) : Keeps s a t.pop.1 := by
  have hp := toNat_pointer_pop ht
  refine ⟨hd, fun k hk => ?_, fun k hk => ?_⟩
  · rw [Fin.getElem_fin, slots_pop ht k.isLt, if_neg (by omega)]
    exact h.below k hk
  · rw [Fin.getElem_fin, slots_pop ht k.isLt, if_neg (by omega)]
    exact h.top k hk

/-- **The matching pop**: a pop that comes back to the depth of `s` gives back `s` and the address. -/
theorem Keeps.pop_eq {s t : CallStack} {a : UInt16} (h : Keeps s a t) (hs : s.WellFormed)
    (ht : t.WellFormed) (hd : t.pop.1.pointer = s.pointer) (h0 : t.pointer ≠ 0) : t.pop = (s, a) := by
  have hp := toNat_pointer_pop h0
  have hdeep := h.deeper
  have hle := ht.pointer_le
  rw [hd] at hp
  have hfst : t.pop.1 = s := by
    refine (ht.pop h0).ext hs hd fun k hk => ?_
    rw [hd] at hk
    rw [Fin.getElem_fin, slots_pop h0 k.isLt, if_neg (by omega)]
    exact h.below k hk
  have hsnd : t.pop.2 = a := by
    rw [snd_pop h0 (k := s.pointer.toNat) (by omega) (by omega)]
    exact h.top ⟨s.pointer.toNat, by omega⟩ rfl
  exact Prod.ext hfst hsnd

/-- A pop straight after a push gives back the stack, and with room for it the address as it was kept. -/
theorem WellFormed.pop_push {s : CallStack} (hs : s.WellFormed) (a : UInt16) :
    (s.push a).pop.1 = s ∧ (s.pointer.toNat < 16 → (s.push a).pop.2 = a &&& 0x0FFF) := by
  by_cases hroom : s.pointer.toNat < 16
  · have hp := toNat_pointer_push hroom a
    have h0 : (s.push a).pointer ≠ 0 := fun h => by
      rw [h] at hp
      exact absurd hp (by simp)
    have hdepth : (s.push a).pop.1.pointer = s.pointer :=
      UInt8.toNat_inj.mp (by rw [toNat_pointer_pop h0, hp, Nat.add_sub_cancel])
    have h := (keeps_push hroom a).pop_eq hs (hs.push hroom a) hdepth h0
    rw [h]
    exact ⟨rfl, fun _ => rfl⟩
  · -- A full stack is not written to, neither by the push nor by the pop.
    have hle := hs.pointer_le
    have hfull : s.pointer = 16 := UInt8.toNat_inj.mp (show s.pointer.toNat = 16 by omega)
    refine ⟨?_, fun h => absurd h hroom⟩
    obtain ⟨slots, pointer⟩ := s
    subst hfull
    have hout : ∀ x, slots.setIfInBounds 16 x = slots := fun _ =>
      Vector.setIfInBounds_eq_of_size_le (Nat.le_refl 16)
    have htop : (16 + 1 - 1 : UInt8) = 16 := by decide
    simp only [CallStack.push, CallStack.pop, UInt8.reduceToNat, htop, hout]

/-! ### The stack as a list -/

theorem length_toList {s : CallStack} (h : s.pointer.toNat ≤ 16) : s.toList.length = s.pointer.toNat := by
  rw [toList, List.length_take, Vector.length_toList]
  exact Nat.min_eq_left h

/-- A push puts the address, as it is kept, at the end. -/
theorem toList_push {s : CallStack} (h : s.pointer.toNat < 16) (a : UInt16) :
    (s.push a).toList = s.toList ++ [a &&& 0x0FFF] := by
  have hlen : s.pointer.toNat < (s.slots.toList.set s.pointer.toNat (a &&& 0x0FFF)).length := by
    rw [List.length_set, Vector.length_toList]
    exact h
  rw [toList, toNat_pointer_push h, push, Vector.toList_setIfInBounds,
    List.take_succ_eq_append_getElem hlen, List.getElem_set_self, List.take_set_of_le (Nat.le_refl _)]
  rfl

/-- A pop takes the end away, which is what it gives. -/
theorem toList_pop {s : CallStack} (h : s.pointer ≠ 0) (hle : s.pointer.toNat ≤ 16) :
    s.toList = s.pop.1.toList ++ [s.pop.2] := by
  obtain ⟨k, hk⟩ : ∃ k, s.pointer.toNat = k + 1 :=
    Nat.exists_eq_succ_of_ne_zero fun e => h (UInt8.toNat_inj.mp e)
  have hp := toNat_pointer_pop h
  have hlen : k < s.slots.toList.length := by
    rw [Vector.length_toList]
    omega
  have hslots : s.pop.1.slots = s.slots.setIfInBounds k 0 := by
    rw [show k = s.pop.1.pointer.toNat by omega]
    rfl
  rw [snd_pop h (k := k) (by omega) hk, toList, toList, hp, hslots, hk,
    List.take_succ_eq_append_getElem hlen, Vector.toList_setIfInBounds,
    List.take_set_of_le (Nat.le_of_eq (Nat.add_sub_cancel ..))]
  rfl

end Chip8.CallStack
