import BytecodeStore.Proofs.Growth.Ascent
import Mathlib.Algebra.Order.Ring.Nat
import Mathlib.Data.Nat.Find
import Mathlib.Order.Bounds.Basic

/-! # Geometric growth in closed form

From its floor on, geometric growth multiplies, and a product that leaves the range stops at its end. Stopping at each
step or only once at the last comes to the same, so the iterates are powers of the factor in exact arithmetic. What a
requirement leads to is therefore the first such power that holds it, and there is no answer exactly where the factor
or the floor cannot increase a capacity.
-/
namespace BytecodeStore
variable {p : Doubling} {current c : UInt64} {required k : ℕ}

@[simp] theorem saturate_toNat (c : UInt64) : saturate c.toNat = c := by
  have := toNat_le_maxCount c
  rw [← UInt64.toNat_inj, toNat_saturate]
  omega

theorem saturate_of_maxCount_le {n : ℕ} (h : maxCount ≤ n) : (saturate n).toNat = maxCount := by
  rw [toNat_saturate, Nat.min_eq_right h]

theorem saturate_of_le {n : ℕ} (h : n ≤ maxCount) : (saturate n).toNat = n := by
  rw [toNat_saturate, Nat.min_eq_left h]

/-- A product may stop at the end of the range before the next factor comes. -/
theorem saturate_saturate_mul (n f : ℕ) : saturate ((saturate n).toNat * f) = saturate (n * f) := by
  by_cases h : n ≤ maxCount
  · rw [saturate_of_le h]
  cases f with
  | zero => rw [Nat.mul_zero, Nat.mul_zero]
  | succ f =>
    have large : maxCount ≤ n := Nat.le_of_not_le h
    rw [← UInt64.toNat_inj, saturate_of_maxCount_le large,
      saturate_of_maxCount_le (Nat.le_mul_of_pos_right _ f.succ_pos),
      saturate_of_maxCount_le (Nat.le_trans large (Nat.le_mul_of_pos_right _ f.succ_pos))]

namespace Doubling

theorem after_of_lt (below : c < p.minimum) : GrowthRule.after p c = p.minimum := if_pos below

theorem after_of_le (grounded : p.minimum ≤ c) : GrowthRule.after p c = saturate (c.toNat * p.factor.toNat) :=
  if_neg (UInt64.not_lt.mpr grounded)

theorem le_saturate_mul {f : ℕ} (hf : 0 < f) : c ≤ saturate (c.toNat * f) := by
  have := toNat_le_maxCount c
  have := Nat.le_mul_of_pos_right c.toNat hf
  rw [UInt64.le_iff_toNat_le, toNat_saturate]
  omega

/-- From the floor on, the iterates are powers. A factor of zero would fall below the floor again. -/
theorem iterate_after (grounded : p.minimum ≤ c) (hf : 0 < p.factor.toNat) (k : ℕ) :
    (GrowthRule.after p)^[k] c = saturate (c.toNat * p.factor.toNat ^ k) := by
  induction k with
  | zero => rw [Function.iterate_zero_apply, Nat.pow_zero, Nat.mul_one, saturate_toNat]
  | succ k ih =>
    have still : p.minimum ≤ saturate (c.toNat * p.factor.toNat ^ k) :=
      UInt64.le_trans grounded (le_saturate_mul (Nat.pow_pos hf))
    rw [Function.iterate_succ_apply', ih, after_of_le still, saturate_saturate_mul, Nat.pow_succ, Nat.mul_assoc]

/-- A capacity that the factor cannot increase: there is nothing to multiply, or the factor is at most one. -/
theorem not_lt_after (grounded : p.minimum ≤ c) (stuck : p.factor.toNat ≤ 1 ∨ c.toNat = 0) :
    ¬ c < GrowthRule.after p c := by
  have product : c.toNat * p.factor.toNat ≤ c.toNat := by
    rcases stuck with small | nothing
    · exact Nat.le_trans (Nat.mul_le_mul_left c.toNat small) (Nat.le_of_eq (Nat.mul_one _))
    · rw [nothing, Nat.zero_mul]
  rw [after_of_le grounded, UInt64.lt_iff_toNat_lt, toNat_saturate]
  omega

/-- Below its floor a capacity that is too small is lifted to the floor first. -/
theorem capacityFor_of_below (short : current.toNat < required) (below : current < p.minimum) :
    capacityFor p current required = capacityFor p p.minimum required := by
  have step : GrowthRule.after p current = p.minimum := after_of_lt below
  rw [capacityFor_of_grows p short (by rw [step]; exact below), step]

/-- Under geometric growth a raise from zero, or from the floor on, doubles the capacity or reaches the end of the
range. -/
theorem two_mul_le_of_capacityFor (grounded : current = 0 ∨ p.minimum ≤ current)
    (h : capacityFor p current required = some c) (larger : current < c) :
    p.minimum ≤ c ∧ (c.toNat = maxCount ∨ 2 * current.toNat ≤ c.toNat) := by
  obtain ⟨grows, reached⟩ := after_le_of_capacityFor h larger
  have := toNat_le_maxCount c
  rw [UInt64.lt_iff_toNat_lt] at grows larger
  rw [UInt64.le_iff_toNat_le] at reached
  by_cases below : current < p.minimum
  · rw [after_of_lt below] at grows reached
    have empty : current = 0 := grounded.resolve_right (UInt64.not_le.mpr below)
    refine ⟨UInt64.le_iff_toNat_le.mpr reached, .inr ?_⟩
    rw [empty]
    exact Nat.zero_le _
  · have grounded := UInt64.not_lt.mp below
    rw [after_of_le grounded, toNat_saturate] at grows reached
    have factor : 2 ≤ p.factor.toNat := by
      by_contra small
      have := not_lt_after grounded (.inl (Nat.lt_succ_iff.mp (Nat.lt_of_not_le small)))
      rw [after_of_le grounded, UInt64.lt_iff_toNat_lt, toNat_saturate] at this
      exact this grows
    have doubled : current.toNat * 2 ≤ current.toNat * p.factor.toNat := Nat.mul_le_mul_left _ factor
    rw [UInt64.le_iff_toNat_le] at grounded ⊢
    omega

/-- The power that first holds the requirement is the first fit: those before it are exact and strictly increase. -/
theorem firstFit_of_isLeast (grounded : p.minimum ≤ c) (hf : 1 < p.factor.toNat) (hc : 0 < c.toNat)
    (countable : required ≤ maxCount) (least : IsLeast {k | required ≤ c.toNat * p.factor.toNat ^ k} k) :
    FirstFit p c required (saturate (c.toNat * p.factor.toNat ^ k)) := by
  have hpos : 0 < p.factor.toNat := Nat.lt_of_succ_lt hf
  have holds : required ≤ c.toNat * p.factor.toNat ^ k := least.1
  have short {j : ℕ} (hj : j < k) : c.toNat * p.factor.toNat ^ j < required :=
    Nat.lt_of_not_le fun fits => absurd (least.2 fits) (Nat.not_le_of_lt hj)
  -- What is below the requirement is in the range, so only the last product may be stopped.
  have value {j : ℕ} (hj : j < k) :
      ((GrowthRule.after p)^[j] c).toNat = c.toNat * p.factor.toNat ^ j := by
    rw [iterate_after grounded hpos, saturate_of_le (Nat.le_trans (Nat.le_of_lt (short hj)) countable)]
  refine ⟨k, ?_, ?_, iterate_after grounded hpos k, ?_⟩
  · intro j hj
    have larger : c.toNat * p.factor.toNat ^ j < c.toNat * p.factor.toNat ^ (j + 1) :=
      Nat.mul_lt_mul_of_pos_left (Nat.pow_lt_pow_right hf (Nat.lt_succ_self j)) hc
    have := short hj
    rw [UInt64.lt_iff_toNat_lt, value hj, iterate_after grounded hpos, toNat_saturate]
    omega
  · intro j hj
    rw [value hj]
    exact short hj
  · rw [toNat_saturate]
    omega

theorem exists_isLeast_power {base factor : ℕ} (hb : 0 < base) (hf : 1 < factor) (required : ℕ) :
    ∃ k, IsLeast {k | required ≤ base * factor ^ k} k := by
  have some : ∃ k, required ≤ base * factor ^ k :=
    ⟨required, Nat.le_trans (Nat.le_of_lt (Nat.lt_pow_self hf)) (Nat.le_mul_of_pos_left _ hb)⟩
  exact ⟨Nat.find some, Nat.find_spec some, fun _ fits => Nat.find_min' some fits⟩

/-- The capacity from which growth multiplies: the current one, lifted to the floor. -/
def base (p : Doubling) (current : UInt64) : ℕ := max current.toNat p.minimum.toNat

theorem base_of_le (grounded : p.minimum ≤ c) : p.base c = c.toNat :=
  Nat.max_eq_left (UInt64.le_iff_toNat_le.mp grounded)

theorem base_of_lt (below : c < p.minimum) : p.base c = p.minimum.toNat :=
  Nat.max_eq_right (Nat.le_of_lt (UInt64.lt_iff_toNat_lt.mp below))

theorem exists_grounded (p : Doubling) {current : UInt64} (short : current.toNat < required) :
    ∃ c : UInt64, p.minimum ≤ c ∧ c.toNat = p.base current ∧
      capacityFor p current required = capacityFor p c required := by
  by_cases below : current < p.minimum
  · exact ⟨p.minimum, UInt64.le_refl _, (base_of_lt below).symm, capacityFor_of_below short below⟩
  · have grounded := UInt64.not_lt.mp below
    exact ⟨current, grounded, (base_of_le grounded).symm, rfl⟩

theorem capacityFor_of_stuck (short : p.base current < required)
    (stuck : p.factor.toNat ≤ 1 ∨ p.base current = 0) : capacityFor p current required = none := by
  have : current.toNat < required := Nat.lt_of_le_of_lt (Nat.le_max_left _ _) short
  obtain ⟨c, grounded, hc, same⟩ := p.exists_grounded this
  rw [← hc] at short stuck
  rw [same, capacityFor_of_stalled p short (not_lt_after grounded stuck)]

theorem capacityFor_of_power (short : current.toNat < required) (countable : required ≤ maxCount)
    (growing : ¬ (p.base current < required ∧ (p.factor.toNat ≤ 1 ∨ p.base current = 0))) :
    ∃ k, IsLeast {k | required ≤ p.base current * p.factor.toNat ^ k} k ∧
      capacityFor p current required = some (saturate (p.base current * p.factor.toNat ^ k)) := by
  obtain ⟨c, grounded, hc, same⟩ := p.exists_grounded short
  rw [← hc] at growing ⊢
  rw [same]
  by_cases fits : required ≤ c.toNat
  · refine ⟨0, ⟨?_, fun _ _ => Nat.zero_le _⟩, ?_⟩
    · rw [Set.mem_ofPred_eq, Nat.pow_zero, Nat.mul_one]
      exact fits
    · rw [capacityFor_of_le p fits, Nat.pow_zero, Nat.mul_one, saturate_toNat]
  · obtain ⟨hf, hpos⟩ : 1 < p.factor.toNat ∧ 0 < c.toNat := by omega
    obtain ⟨k, least⟩ := exists_isLeast_power hpos hf required
    exact ⟨k, least, capacityFor_eq_some_iff.mpr (firstFit_of_isLeast grounded hf hpos countable least)⟩

theorem capacityFor_eq_none_iff_stuck (countable : required ≤ maxCount) :
    capacityFor p current required = none ↔
      p.base current < required ∧ (p.factor.toNat ≤ 1 ∨ p.base current = 0) := by
  constructor
  · intro none
    by_contra growing
    by_cases fits : required ≤ current.toNat
    · rw [capacityFor_of_le p fits] at none
      cases none
    · obtain ⟨k, _, some⟩ := capacityFor_of_power (Nat.lt_of_not_le fits) countable growing
      rw [none] at some
      cases some
  · rintro ⟨short, stuck⟩
    exact capacityFor_of_stuck short stuck

/-- Geometric growth has no answer exactly where the requirement lies above the base and the base cannot be increased.
A requirement that fits leaves the capacity as it is. Every other answer is the first power on the base that holds the
requirement, in exact arithmetic up to the end of the range; for requirements up to the floor it is the floor. -/
theorem capacityFor_closed_form (p : Doubling) (current required : UInt64) :
    (capacityFor p current required.toNat = none ↔
      p.base current < required.toNat ∧ (p.factor.toNat ≤ 1 ∨ p.base current = 0)) ∧
    (required ≤ current → capacityFor p current required.toNat = some current) ∧
    (current < required → ¬ (p.base current < required.toNat ∧ (p.factor.toNat ≤ 1 ∨ p.base current = 0)) →
      ∃ k, IsLeast {k | required.toNat ≤ p.base current * p.factor.toNat ^ k} k ∧
        (capacityFor p current required.toNat).map UInt64.toNat =
          some (min maxCount (p.base current * p.factor.toNat ^ k)) ∧
        (required ≤ p.minimum → k = 0 ∧ capacityFor p current required.toNat = some p.minimum)) := by
  have countable := toNat_le_maxCount required
  refine ⟨capacityFor_eq_none_iff_stuck countable, fun fits => ?_, fun short growing => ?_⟩
  · exact capacityFor_of_le p (UInt64.le_iff_toNat_le.mp fits)
  obtain ⟨k, least, reached⟩ := capacityFor_of_power (UInt64.lt_iff_toNat_lt.mp short) countable growing
  refine ⟨k, least, ?_, fun low => ?_⟩
  · rw [reached, Option.map_some, toNat_saturate, Nat.min_comm]
  · have below : current < p.minimum := UInt64.lt_of_lt_of_le short low
    have base := base_of_lt below
    have start : required.toNat ≤ p.base current * p.factor.toNat ^ 0 := by
      rw [base, Nat.pow_zero, Nat.mul_one]
      exact UInt64.le_iff_toNat_le.mp low
    obtain rfl : k = 0 := Nat.le_zero.mp (least.2 start)
    rw [base, Nat.pow_zero, Nat.mul_one, saturate_toNat] at reached
    exact ⟨rfl, reached⟩

/-- From twelve, which is on no power of two, to thirty; and a last step that stops at the end of the range. -/
theorem capacityFor_closed_form_off_the_powers :
    (IsLeast {k | 30 ≤ 12 * 2 ^ k} 2 ∧ (capacityFor (⟨8, 2⟩ : Doubling) 12 30).map UInt64.toNat = some 48) ∧
      (capacityFor (⟨3, 5⟩ : Doubling) 0 maxCount).map UInt64.toNat = some maxCount := by
  obtain ⟨k, least, value, _⟩ := (capacityFor_closed_form ⟨8, 2⟩ 12 30).2.2 (by decide) (by decide)
  obtain ⟨l, least', value', _⟩ :=
    (capacityFor_closed_form ⟨3, 5⟩ 0 (UInt64.ofNat maxCount)).2.2 (by decide) (by decide)
  have high : k ≤ 2 := least.2 (by decide)
  obtain rfl | rfl | rfl : k = 0 ∨ k = 1 ∨ k = 2 := by omega
  · exact absurd least.1 (by decide)
  · exact absurd least.1 (by decide)
  · exact ⟨⟨least, value⟩, value'.trans (congrArg some (Nat.min_eq_left least'.1))⟩

end Doubling

end BytecodeStore
