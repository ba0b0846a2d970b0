import Chip8.Keypad

/-!
# The keys

The lowest key that is down, and what events leave of a keypad: a key is as its latest event says, and
as it was before if there was none (`get_apply`).
-/

namespace Chip8.Keypad

/-! ### The lowest key -/

/-- No key is the lowest one down exactly when every key is up. -/
theorem lowest?_eq_none_iff {k : Keypad} : k.lowest? = none ↔ ∀ key : Nibble, k.get key = false := by
  unfold lowest?
  rw [List.find?_eq_none]
  constructor
  · intro h key
    exact Bool.eq_false_iff.mpr (h key (List.mem_finRange key))
  · intro h key _
    exact Bool.eq_false_iff.mp (h key)

/-- The lowest key that is down is the one below which every key is up. -/
theorem lowest?_eq_some_iff {k : Keypad} {key : Nibble} :
    k.lowest? = some key ↔ k.get key = true ∧ ∀ j < key, k.get j = false := by
  unfold lowest?
  rw [List.find?_eq_some_iff_getElem]
  constructor
  · rintro ⟨hdown, place, hplace, hkey, hup⟩
    rw [List.getElem_finRange] at hkey
    refine ⟨hdown, fun j hj => ?_⟩
    have hbelow := hup j.val (by subst hkey; exact hj)
    rw [List.getElem_finRange, Bool.not_eq_true'] at hbelow
    exact hbelow
  · rintro ⟨hdown, hup⟩
    have hlen : key.val < (List.finRange 16).length := by
      rw [List.length_finRange]
      exact key.isLt
    refine ⟨hdown, key.val, hlen, ?_, fun j hj => ?_⟩
    · rw [List.getElem_finRange]
      rfl
    · rw [List.getElem_finRange, Bool.not_eq_true']
      exact hup ⟨j, Nat.lt_trans hj key.isLt⟩ hj

/-- The lowest key that is down is down. -/
theorem get_of_lowest? {k : Keypad} {key : Nibble} (h : k.lowest? = some key) : k.get key = true :=
  (lowest?_eq_some_iff.mp h).1

/-! ### Events -/

theorem apply_append (k : Keypad) (es fs : List KeyEvent) :
    k.apply (es ++ fs) = (k.apply es).apply fs := List.foldl_append

/-- How the latest event for a key says that the key is, if there is one. -/
def latest? (es : List KeyEvent) (key : Nibble) : Option Bool :=
  (es.filter fun e => e.key = key).getLast?.map (·.pressed)

theorem latest?_cons (e : KeyEvent) (es : List KeyEvent) (key : Nibble) :
    latest? (e :: es) key = (latest? es key).or (if e.key = key then some e.pressed else none) := by
  unfold latest?
  by_cases h : e.key = key
  · rw [List.filter_cons_of_pos (by simpa using h), List.getLast?_cons, if_pos h]
    cases (es.filter fun e => e.key = key).getLast? <;> rfl
  · rw [List.filter_cons_of_neg (by simpa using h), if_neg h, Option.or_none]

theorem get_press (k : Keypad) (e : KeyEvent) (key : Nibble) :
    (k.press e).get key = if e.key = key then e.pressed else k.get key := by
  show (k.set e.key e.pressed e.key.isLt)[key.val] = _
  rw [Vector.getElem_set]
  by_cases h : e.key = key
  · rw [if_pos h, if_pos (congrArg Fin.val h)]
  · rw [if_neg h, if_neg fun hv => h (Fin.ext hv)]
    rfl

/-- **A key is as its latest event says**, or as it was. -/
theorem get_apply (k : Keypad) (es : List KeyEvent) (key : Nibble) :
    (k.apply es).get key = (latest? es key).getD (k.get key) := by
  induction es generalizing k with
  | nil => rfl
  | cons e es ih =>
    rw [show k.apply (e :: es) = (k.press e).apply es from rfl, ih, get_press, latest?_cons]
    cases latest? es key with
    | some pressed => rfl
    | none => by_cases h : e.key = key <;> simp [h]

end Chip8.Keypad
