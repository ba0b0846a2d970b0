import Chip8.Proofs.Frame
import Chip8.Proofs.Run
import Mathlib.Logic.Function.Iterate

/-!
# The random stream

The key of the generator is the one with which the machine started, gone on once for each draw: an
instruction that draws goes on to the next key, and nothing else touches it, neither another instruction nor
an event that fails (`rng_after`). So how often a run has drawn tells its key (`rng_run`), and with it the
byte that is drawn next: whatever two programs do, whatever keys move and however the timers count, the two
draw the same bytes one after the other (`draws_aligned`). What differs is the register that a byte is loaded
into and the mask that it is put through.
-/

namespace Chip8

namespace Random

/-- The key after some draws. -/
def keyAfter (key : Block) (draws : Nat) : Block := next^[draws] key

/-- The byte of the draw that comes after some draws. -/
def stream (key : Block) (draws : Nat) : UInt8 := byte (keyAfter key draws)

theorem keyAfter_succ (key : Block) (draws : Nat) : keyAfter key (draws + 1) = keyAfter (next key) draws :=
  Function.iterate_succ_apply next draws key

end Random

namespace Machine

open Instruction (HasForm)

/-! ### Draws -/

/-- The event is a step that performs `Cxnn`. -/
def Draws (m : Machine) (e : Event) : Prop :=
  e = .step ∧ m.step.isOk = true ∧ firstNibble m.word.toNat = 0xC

instance (m : Machine) (e : Event) : Decidable (m.Draws e) := inferInstanceAs (Decidable (_ ∧ _))

/-- How many times a run draws. -/
def draws (m : Machine) : List Event → Nat
  | [] => 0
  | e :: es => (if m.Draws e then 1 else 0) + (m.after e).draws es

/-- A word of category `C` is a draw into a register through a mask. -/
theorem random_of_form {w : Int} {i : Instruction} (hw : HasForm w i) (h : firstNibble w = 0xC) :
    ∃ x mask, i = .random x mask ∧ x.val = secondNibble w ∧ mask.toNat = lastByte w := by
  cases i with
  | random x mask => exact ⟨x, mask, rfl, hw.2.1, hw.2.2⟩
  | clear =>
    cases (show w = 0x00E0 from hw)
    exact absurd h (by decide)
  | ret =>
    cases (show w = 0x00EE from hw)
    exact absurd h (by decide)
  | _ => exact absurd (hw.1.symm.trans h) (by decide)

/-! ### The key -/

/-- A step goes on to the next key if it draws. -/
theorem rng_step {m m' : Machine} (h : m.step = .ok m') :
    m'.rng = if firstNibble m.word.toNat = 0xC then Random.next m.rng else m.rng := by
  obtain ⟨-, i, hd, -, rfl⟩ := step_eq_ok_iff.mp h
  have hform := Instruction.hasForm_of_decode? hd
  by_cases hw : firstNibble m.word.toNat = 0xC
  · obtain ⟨x, mask, rfl, -⟩ := random_of_form hform hw
    rw [if_pos hw]
    rfl
  · rw [if_neg hw]
    refine (m.fetch.1.rng_perform i).resolve_right ?_
    rintro ⟨x, mask, rfl⟩
    exact hw hform.1

/-- **An event goes on to the next key if it draws**, and else leaves the key as it is. -/
theorem rng_after (m : Machine) (e : Event) :
    (m.after e).rng = if m.Draws e then Random.next m.rng else m.rng := by
  by_cases he : e = .step
  · subst he
    cases hs : m.step with
    | error f =>
      have hafter : m.after .step = m := by simp only [after, attempt, hs, Except.mapError]
      rw [hafter, if_neg]
      rintro ⟨-, hok, -⟩
      rw [hs] at hok
      cases hok
    | ok m' =>
      have hafter : m.after .step = m' := by simp only [after, attempt, hs, Except.mapError]
      have hdraws : m.Draws .step ↔ firstNibble m.word.toNat = 0xC :=
        ⟨fun hd => hd.2.2, fun hw => ⟨rfl, by rw [hs]; rfl, hw⟩⟩
      rw [hafter, rng_step hs]
      simp only [hdraws]
  · rw [if_neg fun hd => he hd.1]
    unfold after
    split
    case h_1 m' hok =>
      rcases step_or_sameCore hok with ⟨hstep, -⟩ | hsame
      · exact absurd hstep he
      · exact hsame.rng
    case h_2 => rfl

/-- **How often a run has drawn tells its key.** -/
theorem rng_run (m : Machine) (es : List Event) : (m.run es).rng = Random.keyAfter m.rng (m.draws es) := by
  induction es generalizing m with
  | nil => rfl
  | cons e es ih =>
    show ((m.after e).run es).rng = _
    rw [ih, rng_after, draws]
    by_cases hd : m.Draws e
    · rw [if_pos hd, if_pos hd, Nat.add_comm, Random.keyAfter_succ]
    · rw [if_neg hd, if_neg hd, Nat.zero_add]

/-! ### The byte -/

/-- The machine `m'` is after a draw of a byte at the program counter of `m`: the word there names a register
and a mask, the byte is loaded into that register through that mask, and no other register is changed. -/
structure Drawn (m m' : Machine) (b : UInt8) (x : Nibble) (mask : UInt8) : Prop where
  /-- The word names the register. -/
  names : x.val = secondNibble m.word.toNat
  /-- The word holds the mask. -/
  holds : mask.toNat = lastByte m.word.toNat
  /-- The byte is loaded through the mask. -/
  loaded : m'.register x = b &&& mask
  /-- What the mask takes away is zero. -/
  cleared : m'.register x &&& ~~~mask = 0
  /-- The other registers are as they were. -/
  others : ∀ k, k ≠ x → m'.register k = m.register k

/-- The register and the mask can be read off the word. -/
theorem Drawn.register_eq {m m' : Machine} {b : UInt8} {x : Nibble} {mask : UInt8} (h : Drawn m m' b x mask)
    {k : Nibble} {a : UInt8} (hk : secondNibble m.word.toNat = k.val) (ha : lastByte m.word.toNat = a.toNat) :
    m'.register k = b &&& a := by
  obtain rfl : x = k := Fin.ext (Int.ofNat_inj.mp (h.names.trans hk))
  obtain rfl : mask = a := UInt8.toNat_inj.mp (Int.ofNat_inj.mp (h.holds.trans ha))
  exact h.loaded

/-- If the next step performs `Cxnn`, it draws the byte. -/
def NextDraw (m : Machine) (b : UInt8) : Prop :=
  ∀ m', m.step = .ok m' → firstNibble m.word.toNat = 0xC → ∃ x mask, Drawn m m' b x mask

/-- The byte of a draw is that of the key. -/
theorem nextDraw (m : Machine) : m.NextDraw (Random.byte m.rng) := by
  intro m' h hw
  obtain ⟨-, i, hd, -, rfl⟩ := step_eq_ok_iff.mp h
  obtain ⟨x, mask, rfl, hx, hmask⟩ := random_of_form (Instruction.hasForm_of_decode? hd) hw
  have hregister : ∀ k, (m.fetch.1.perform (.random x mask)).register k =
      if k = x then Random.byte m.rng &&& mask else m.register k :=
    fun k => register_load m.fetch.1 x (Random.byte m.rng &&& mask) k
  have hloaded := (hregister x).trans (if_pos rfl)
  refine ⟨x, mask, hx, hmask, hloaded, ?_, fun k hk => (hregister k).trans (if_neg hk)⟩
  rw [hloaded, UInt8.and_assoc, UInt8.and_not_self, UInt8.and_zero]

/-- **The random stream depends on the key at the start and the number of draws.** Take two machines with the
same key, and two runs of whatever programs, key events, ticks and loads, failing ones among them. Whenever
both have drawn the same number of times they have the same key, and the next draw of either draws the same
byte, which is given by the key at the start and that number alone. -/
theorem draws_aligned {m m' : Machine} (hrng : m'.rng = m.rng) (es es' : List Event)
    (hcount : m'.draws es' = m.draws es) :
    (m'.run es').rng = (m.run es).rng ∧
      (m.run es).NextDraw (Random.stream m.rng (m.draws es)) ∧
      (m'.run es').NextDraw (Random.stream m.rng (m.draws es)) := by
  have hkey := m.rng_run es
  have hkey' : (m'.run es').rng = Random.keyAfter m.rng (m.draws es) := by
    rw [m'.rng_run es', hrng, hcount]
  refine ⟨hkey'.trans hkey.symm, ?_, ?_⟩
  · have h := (m.run es).nextDraw
    rw [hkey] at h
    exact h
  · have h := (m'.run es').nextDraw
    rw [hkey'] at h
    exact h

theorem exists_of_isOk {ε α : Type} {x : Except ε α} (h : x.isOk = true) : ∃ a, x = .ok a := by
  cases x with
  | ok a => exact ⟨a, rfl⟩
  | error e => cases h

/-- A program that draws twice into one register. -/
def rolling : Machine := (start ⟨0, 7⟩).run [.load [0xC3, 0x0F, 0xC3, 0xFF]]

/-- A program that draws into another register, adds to it, and draws again. -/
def rolling' : Machine := (start ⟨0, 7⟩).run [.load [0xC5, 0xF0, 0x75, 0x01, 0xC6, 0x3C]]

/-- When both have drawn once, the one among ticks and keys, both have gone on to the same other key and draw the
same byte next: the one keeps the whole of it and the other what its mask leaves. -/
theorem draws_aligned_once :
    let s := rolling.run [.tick 5, .step, .press [⟨2, true⟩]]
    let s' := rolling'.run [.step, .step]
    s'.rng = s.rng ∧ s.rng ≠ rolling.rng ∧
      ∃ n n', s.step = .ok n ∧ s'.step = .ok n' ∧ n'.register 6 = n.register 3 &&& 0x3C := by
  have hmoved : (rolling.run [.tick 5, .step, .press [⟨2, true⟩]]).rng ≠ rolling.rng := by decide +kernel
  have hstart : rolling'.draws [.step, .step] = rolling.draws [.tick 5, .step, .press [⟨2, true⟩]] ∧
      rolling'.rng = rolling.rng := by decide +kernel
  obtain ⟨hkey, hdraw, hdraw'⟩ := draws_aligned hstart.2 _ _ hstart.1
  refine ⟨hkey, hmoved, ?_⟩
  generalize hs : rolling.run [.tick 5, .step, .press [⟨2, true⟩]] = s at hdraw ⊢
  generalize hs' : rolling'.run [.step, .step] = s' at hdraw' ⊢
  have hword : s.step.isOk = true ∧ s.word = 0xC3FF := by
    subst hs
    decide +kernel
  have hword' : s'.step.isOk = true ∧ s'.word = 0xC63C := by
    subst hs'
    decide +kernel
  obtain ⟨n, hn⟩ := exists_of_isOk hword.1
  obtain ⟨n', hn'⟩ := exists_of_isOk hword'.1
  obtain ⟨x, mask, hdrawn⟩ := hdraw n hn (by rw [hword.2]; decide)
  obtain ⟨x', mask', hdrawn'⟩ := hdraw' n' hn' (by rw [hword'.2]; decide)
  refine ⟨n, n', hn, hn', ?_⟩
  rw [hdrawn.register_eq (k := 3) (a := 0xFF) (by rw [hword.2]; decide) (by rw [hword.2]; decide),
    hdrawn'.register_eq (k := 6) (a := 0x3C) (by rw [hword'.2]; decide) (by rw [hword'.2]; decide),
    UInt8.and_assoc]
  rfl

end Machine

end Chip8
