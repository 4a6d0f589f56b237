import BytecodeStore.Proofs.Growth.Doubling
import Mathlib.Data.List.Range

/-! # Standard growth of a bare capacity

Growth without a rule value at hand is geometric growth with the standard floor and factor. From the second capacity on
it is on or above the floor, so its iterates are the powers of two on the first one, in exact arithmetic up to the end
of the range. There, and nowhere else, it stands still.
-/
namespace BytecodeStore
variable {c d : UInt64}

theorem grownCapacity_eq_after : grownCapacity = GrowthRule.after Doubling.standard := rfl

/-- What grows is lifted to eight, or doubled. -/
theorem toNat_grownCapacity (c : UInt64) :
    (grownCapacity c).toNat = if c.toNat < 8 then 8 else min maxCount (c.toNat * 2) := by
  have lifted : c < standardMinimum ↔ c.toNat < 8 := UInt64.lt_iff_toNat_lt
  unfold grownCapacity
  simp only [lifted]
  split
  · rfl
  · rw [toNat_saturate, Nat.min_comm]
    rfl

theorem toNat_iterate_grownCapacity (c : UInt64) (k : ℕ) :
    (grownCapacity^[k + 1] c).toNat =
      if c.toNat < 8 then min maxCount (8 * 2 ^ k) else min maxCount (c.toNat * 2 ^ (k + 1)) := by
  have powers {b : UInt64} (grounded : standardMinimum ≤ b) (j : ℕ) :
      (grownCapacity^[j] b).toNat = min maxCount (b.toNat * 2 ^ j) := by
    rw [grownCapacity_eq_after, Doubling.iterate_after grounded (by decide), toNat_saturate, Nat.min_comm]
    rfl
  split
  · rename_i below
    have lifted : grownCapacity c = standardMinimum := if_pos (UInt64.lt_iff_toNat_lt.mpr below)
    rw [Function.iterate_succ_apply, lifted, powers (UInt64.le_refl _)]
    rfl
  · rename_i above
    exact powers (UInt64.le_iff_toNat_le.mpr (Nat.le_of_not_lt above)) (k + 1)

theorem lt_grownCapacity (inside : c.toNat < maxCount) : c < grownCapacity c := by
  rw [UInt64.lt_iff_toNat_lt, toNat_grownCapacity]
  split <;> omega

theorem grownCapacity_eq_self_iff : grownCapacity c = c ↔ c.toNat = maxCount := by
  constructor
  · intro still
    by_contra inside
    have grows := lt_grownCapacity (Nat.lt_of_le_of_ne (toNat_le_maxCount c) inside)
    rw [still] at grows
    exact UInt64.lt_irrefl c grows
  · intro last
    rw [← UInt64.toNat_inj, toNat_grownCapacity, last]
    rfl

theorem grownCapacity_mono (h : c ≤ d) : grownCapacity c ≤ grownCapacity d := by
  rw [UInt64.le_iff_toNat_le] at h ⊢
  rw [toNat_grownCapacity, toNat_grownCapacity]
  have : 8 ≤ maxCount := by decide
  split <;> split <;> omega

theorem iterate_grownCapacity_mono (h : c ≤ d) (k : ℕ) : grownCapacity^[k] c ≤ grownCapacity^[k] d := by
  induction k with
  | zero => exact h
  | succ k ih =>
    rw [Function.iterate_succ_apply', Function.iterate_succ_apply']
    exact grownCapacity_mono ih

theorem grownCapacities_eq_map (c : UInt64) (steps : ℕ) :
    grownCapacities c steps = (List.range steps).map fun k => grownCapacity^[k + 1] c := by
  induction steps generalizing c with
  | zero => rfl
  | succ steps ih =>
    rw [grownCapacities, ih, List.range_succ_eq_map, List.map_cons, List.map_map]
    rfl

/-- Standard growth in closed form: eight times a power of two below the floor, the start times a power of two from
there on, and the end of the range where these leave it. It is the growth of the standard rule. Every step increases the
capacity until it is the largest one, which is reached by the sixty-second step and is the only one that stays, and
larger capacities lead to larger ones. -/
theorem iterate_grownCapacity_closed_form (c : UInt64) :
    (∀ k, (grownCapacity^[k + 1] c).toNat =
      if c.toNat < 8 then min maxCount (8 * 2 ^ k) else min maxCount (c.toNat * 2 ^ (k + 1))) ∧
    (∀ k, grownCapacity^[k] c = (GrowthRule.after Doubling.standard)^[k] c) ∧
    (∀ steps, grownCapacities c steps = (List.range steps).map fun k => grownCapacity^[k + 1] c) ∧
    (∀ k, (grownCapacity^[k] c).toNat < maxCount → grownCapacity^[k] c < grownCapacity^[k + 1] c) ∧
    (grownCapacity^[62] c).toNat = maxCount ∧
    (grownCapacity c = c ↔ c.toNat = maxCount) ∧
    ∀ d k, c ≤ d → grownCapacity^[k] c ≤ grownCapacity^[k] d := by
  refine ⟨toNat_iterate_grownCapacity c, fun _ => rfl, grownCapacities_eq_map c, fun k inside => ?_, ?_,
    grownCapacity_eq_self_iff, fun d k h => iterate_grownCapacity_mono h k⟩
  · rw [Function.iterate_succ_apply']
    exact lt_grownCapacity inside
  · rw [toNat_iterate_grownCapacity c 61]
    have : maxCount ≤ 8 * 2 ^ 61 := by decide
    split <;> omega

/-- From twelve, which is on no power of two, the last doubling ends at sixty steps, and one more reaches the end. -/
theorem twelve_grows_to_the_end :
    ((grownCapacity^[60] 12).toNat = 12 * 2 ^ 60 ∧ (grownCapacity^[61] 12).toNat = maxCount) ∧
    ((grownCapacity^[60] 12).toNat < maxCount ∧ grownCapacity^[60] 12 < grownCapacity^[61] 12) ∧
    (12 : UInt64) ≤ 13 ∧ grownCapacity^[60] 12 ≤ grownCapacity^[60] 13 := by
  obtain ⟨powers, _, _, grows, _, _, mono⟩ := iterate_grownCapacity_closed_form 12
  have sixty : (grownCapacity^[60] 12).toNat = 12 * 2 ^ 60 := (powers 59).trans (by decide)
  have last : (grownCapacity^[61] 12).toNat = maxCount := (powers 60).trans (by decide)
  have inside : (grownCapacity^[60] 12).toNat < maxCount := by
    rw [sixty]
    decide
  exact ⟨⟨sixty, last⟩, ⟨inside, grows 60 inside⟩, by decide, mono 13 60 (by decide)⟩

end BytecodeStore
