import BytecodeStore.Growth.Rule

/-! # The capacity that a requirement leads to

`capacityFor rule current required` follows the rule from `current` until the requirement fits. A rule that
does not increase the capacity on the way has stalled, and there is no answer.
-/
namespace BytecodeStore
variable {ρ : Type} [GrowthRule ρ]

def capacityFor (rule : ρ) (current : UInt64) (required : Nat) : Option UInt64 :=
  if current.toNat < required then
    if current < GrowthRule.after rule current then
      capacityFor rule (GrowthRule.after rule current) required
    else none
  else some current
termination_by required - current.toNat
decreasing_by
  rename_i short grows
  have := UInt64.lt_iff_toNat_lt.mp grows
  omega

theorem capacityFor_of_le (rule : ρ) {current : UInt64} {required : Nat} (h : required ≤ current.toNat) :
    capacityFor rule current required = some current := by
  rw [capacityFor, if_neg (by omega)]

theorem capacityFor_of_stalled (rule : ρ) {current : UInt64} {required : Nat} (h : current.toNat < required)
    (stalled : ¬ current < GrowthRule.after rule current) : capacityFor rule current required = none := by
  rw [capacityFor, if_pos h, if_neg stalled]

theorem capacityFor_of_grows (rule : ρ) {current : UInt64} {required : Nat} (h : current.toNat < required)
    (grows : current < GrowthRule.after rule current) :
    capacityFor rule current required = capacityFor rule (GrowthRule.after rule current) required := by
  rw [capacityFor, if_pos h, if_pos grows]

/-- An answer holds the requirement and is no smaller than the start. -/
theorem capacityFor_bounds (rule : ρ) {current c : UInt64} {required : Nat}
    (h : capacityFor rule current required = some c) : required ≤ c.toNat ∧ current ≤ c := by
  fun_induction capacityFor rule current required with
  | case1 current short grows ih =>
    exact ⟨(ih h).1, UInt64.le_trans (UInt64.le_of_lt grows) (ih h).2⟩
  | case2 current short stalled => simp at h
  | case3 current fits =>
    obtain rfl := Option.some.inj h
    exact ⟨by omega, UInt64.le_refl _⟩

end BytecodeStore
