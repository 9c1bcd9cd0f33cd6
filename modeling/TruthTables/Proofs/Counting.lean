import Mathlib.Algebra.BigOperators.Fin
import Mathlib.Tactic.LinearCombination
import Mathlib.Tactic.Positivity
import TruthTables.Cube

/-!
# Counting in binary

The vector of a counter is the counter written in binary.  `Cube.number` reads a vector back as a
number, the first value as the most significant bit, and the two are inverse: the number of the
vector of a counter is the counter without its higher bits (`number_bits`, and `number_bits_int` for
counters of either sign), and the vector of the number of some bits is these bits (`bits_number`).
So `vectors` lists every vector of its width once, and at the place that is its number
(`getElem?_vectors_eq_some_iff`).
-/

namespace TruthTables

namespace Cube

/-- The number that bits stand for, the most significant one first. -/
def number : List Bool → Nat
  | [] => 0
  | b :: bs => b.toNat * 2 ^ bs.length + number bs

theorem number_lt (bs : List Bool) : number bs < 2 ^ bs.length := by
  induction bs with
  | nil => exact Nat.one_pos
  | cons b bs ih =>
    rw [number, List.length_cons, Nat.pow_succ]
    cases b with
    | false => rw [Bool.toNat_false]; omega
    | true => rw [Bool.toNat_true]; omega

theorem number_map_eq_sum {α : Type} (f : α → Bool) (xs : List α) :
    number (xs.map f) = ∑ i : Fin xs.length, (f xs[i]).toNat * 2 ^ (xs.length - 1 - i) := by
  induction xs with
  | nil => rfl
  | cons x xs ih =>
    have hsum : ∑ i : Fin (xs.length + 1),
        (f (x :: xs)[i]).toNat * 2 ^ (xs.length + 1 - 1 - (i : Nat)) =
          (f x).toNat * 2 ^ xs.length +
            ∑ i : Fin xs.length, (f xs[i]).toNat * 2 ^ (xs.length - 1 - i) := by
      rw [Fin.sum_univ_succ]
      refine congrArg₂ (· + ·) rfl (Finset.sum_congr rfl fun i _ => ?_)
      have hplace : xs.length + 1 - 1 - (i.succ : Nat) = xs.length - 1 - i := by
        rw [Fin.val_succ]
        omega
      rw [hplace]
      rfl
    rw [List.map_cons, number, List.length_map, ih]
    exact hsum.symm

theorem eq_of_number_eq {bs cs : List Bool} (hl : bs.length = cs.length)
    (h : number bs = number cs) : bs = cs := by
  induction bs generalizing cs with
  | nil => exact (List.length_eq_zero_iff.mp hl.symm).symm
  | cons b bs ih =>
    cases cs with
    | nil => cases hl
    | cons c cs =>
      have hl' : bs.length = cs.length := Nat.succ.inj hl
      have hb := number_lt bs
      have hc := number_lt cs
      rw [number, number, hl'] at h
      rw [hl'] at hb
      have hbc : b = c := by
        cases b <;> cases c <;> simp only [Bool.toNat_false, Bool.toNat_true] at h ⊢ <;> omega
      subst hbc
      rw [ih hl' (Nat.add_left_cancel h)]

theorem emod_two_pow_succ (n : Int) (k : Nat) :
    n % 2 ^ (k + 1) = n / 2 ^ k % 2 * 2 ^ k + n % 2 ^ k := by
  have hpos : (0 : Int) < 2 ^ k := by positivity
  have hdiv := Int.mul_ediv_add_emod n (2 ^ k)
  have hhalf := Int.mul_ediv_add_emod (n / 2 ^ k) 2
  have hlow := Int.emod_nonneg n hpos.ne'
  have hhigh := Int.emod_lt_of_pos n hpos
  have hbit := Int.emod_two_eq_zero_or_one (n / 2 ^ k)
  have hboth : n / 2 ^ (k + 1) = n / 2 ^ k / 2 ∧
      n % 2 ^ (k + 1) = n / 2 ^ k % 2 * 2 ^ k + n % 2 ^ k := by
    refine (Int.ediv_emod_unique (by positivity)).mpr ⟨?_, ?_, ?_⟩
    · rw [pow_succ]
      linear_combination hdiv + 2 ^ k * hhalf
    · rcases hbit with h | h <;> rw [h] <;> omega
    · rw [pow_succ]
      rcases hbit with h | h <;> rw [h] <;> omega
  exact hboth.2

theorem toNat_bit (counter : Int) (place : Nat) :
    ((bit counter place).toNat : Int) = counter / 2 ^ place % 2 := by
  have hshift : (counter >>> place) % 2 = counter / 2 ^ place % 2 := by
    rw [Int.shiftRight_eq_div_pow]
    norm_cast
  rw [bit, hshift]
  rcases Int.emod_two_eq_zero_or_one (counter / 2 ^ place) with h | h
  · rw [h]; rfl
  · rw [h]; rfl

/-- **The vector of a counter is its remainder in binary**, for a negative counter that of its
two's complement. -/
theorem number_bits_int (counter : Int) (width : Nat) :
    (number (bits counter width) : Int) = counter % 2 ^ width := by
  induction width with
  | zero => rw [pow_zero, Int.emod_one]; rfl
  | succ width ih =>
    rw [bits, number, length_bits, emod_two_pow_succ, ← ih, ← toNat_bit]
    push_cast
    rfl

/-- **The vector of a counter is the counter in binary**, without the bits that find no place. -/
theorem number_bits (counter width : Nat) : number (bits counter width) = counter % 2 ^ width := by
  exact_mod_cast number_bits_int counter width

theorem bits_number (bs : List Bool) : bits (number bs) bs.length = bs := by
  refine eq_of_number_eq (length_bits _ _) ?_
  rw [number_bits, Nat.mod_eq_of_lt (number_lt bs)]

/-! ### The vectors in order -/

theorem count_of_pos {c : Cube} (h : 0 < c.width) : c.count = 2 ^ c.width :=
  if_neg (Nat.pos_iff_ne_zero.mp h)

theorem getElem?_vectors (c : Cube) (k : Nat) :
    c.vectors[k]? = if k < c.count then some (c.vector k) else none := by
  rw [vectors, vectorsFrom, Nat.sub_zero, Nat.min_self, List.getElem?_map]
  by_cases h : k < c.count
  · rw [if_pos h, List.getElem?_range' h, Option.map_some, Nat.zero_add, Nat.one_mul]
  · rw [if_neg h, List.getElem?_eq_none (by rw [List.length_range']; omega), Option.map_none]

/-- **Every vector is listed once, at the place that is its number.** -/
theorem getElem?_vectors_eq_some_iff {c : Cube} (h : 0 < c.width) {k : Nat} {bs : List Bool} :
    c.vectors[k]? = some bs ↔ bs.length = c.width ∧ number bs = k := by
  rw [getElem?_vectors, count_of_pos h]
  constructor
  · intro hk
    by_cases hlt : k < 2 ^ c.width
    · rw [if_pos hlt] at hk
      cases hk
      exact ⟨length_vector c k, by rw [vector, number_bits, Nat.mod_eq_of_lt hlt]⟩
    · rw [if_neg hlt] at hk
      cases hk
  · rintro ⟨hl, rfl⟩
    rw [← hl, if_pos (number_lt bs), vector, ← hl, bits_number]

end Cube

end TruthTables
