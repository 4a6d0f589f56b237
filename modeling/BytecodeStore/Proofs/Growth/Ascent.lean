import BytecodeStore.Growth.Reach
import Mathlib.Data.Nat.Find
import Mathlib.Logic.Function.Iterate

/-! # The ascent of a growth rule

A rule may be any function, so what it does from a capacity on is told by its iterates. The ascent goes on as long
as each step increases the capacity. `capacityFor` follows it to the first capacity that holds the requirement, and
has no answer exactly when the ascent ends before. A requirement can be met in two parts, the smaller one first.
-/
namespace BytecodeStore
open GrowthRule
variable {ρ : Type} [GrowthRule ρ] {rule : ρ} {current c : UInt64} {required : ℕ}

/-- The first `k` steps of a rule from `current` all increase the capacity. -/
def Ascends (rule : ρ) (current : UInt64) (k : ℕ) : Prop :=
  ∀ j < k, (after rule)^[j] current < (after rule)^[j + 1] current

/-- The ascent from `current` reaches `c`, and `c` is the first capacity on it that holds `required`. -/
def FirstFit (rule : ρ) (current : UInt64) (required : ℕ) (c : UInt64) : Prop :=
  ∃ k, Ascends rule current k ∧ (∀ j < k, ((after rule)^[j] current).toNat < required) ∧
    (after rule)^[k] current = c ∧ required ≤ c.toNat

/-- The ascent from `current` ends at a capacity that does not hold `required`. -/
def Stalls (rule : ρ) (current : UInt64) (required : ℕ) : Prop :=
  ∃ k, Ascends rule current k ∧ ((after rule)^[k] current).toNat < required ∧
    ¬ (after rule)^[k] current < (after rule)^[k + 1] current

theorem ascends_zero : Ascends rule current 0 := fun _ h => absurd h (Nat.not_lt_zero _)

theorem ascends_succ {k : ℕ} :
    Ascends rule current (k + 1) ↔ current < after rule current ∧ Ascends rule (after rule current) k := by
  constructor
  · intro h
    exact ⟨h 0 (Nat.succ_pos k), fun j hj => h (j + 1) (Nat.succ_lt_succ hj)⟩
  · rintro ⟨h, hs⟩ j hj
    cases j with
    | zero => exact h
    | succ j => exact hs j (Nat.lt_of_succ_lt_succ hj)

theorem Ascends.iterate_le {j k : ℕ} (h : Ascends rule current k) (hj : j ≤ k) :
    (after rule)^[j] current ≤ (after rule)^[k] current := by
  induction hj with
  | refl => exact UInt64.le_refl _
  | @step k _ ih =>
    have before : Ascends rule current k := fun i hi => h i (Nat.lt_succ_of_lt hi)
    exact UInt64.le_trans (ih before) (UInt64.le_of_lt (h k (Nat.lt_succ_self k)))

theorem Ascends.le {k : ℕ} (h : Ascends rule current k) : current ≤ (after rule)^[k] current :=
  h.iterate_le (Nat.zero_le k)

theorem firstFit_of_le (h : required ≤ current.toNat) : FirstFit rule current required c ↔ current = c := by
  constructor
  · rintro ⟨k, _, short, rfl, _⟩
    cases k with
    | zero => rfl
    | succ k =>
      have := short 0 (Nat.succ_pos k)
      simp only [Function.iterate_zero, id_eq] at this
      omega
  · rintro rfl
    exact ⟨0, ascends_zero, fun _ hj => absurd hj (Nat.not_lt_zero _), rfl, h⟩

theorem firstFit_of_grows (h : current.toNat < required) (grows : current < after rule current) :
    FirstFit rule current required c ↔ FirstFit rule (after rule current) required c := by
  constructor
  · rintro ⟨k, hs, short, rfl, fits⟩
    cases k with
    | zero =>
      simp only [Function.iterate_zero, id_eq] at fits
      omega
    | succ k =>
      exact ⟨k, (ascends_succ.mp hs).2, fun j hj => short (j + 1) (Nat.succ_lt_succ hj), rfl, fits⟩
  · rintro ⟨k, hs, short, hc, fits⟩
    refine ⟨k + 1, ascends_succ.mpr ⟨grows, hs⟩, ?_, hc, fits⟩
    intro j hj
    cases j with
    | zero => exact h
    | succ j => exact short j (Nat.lt_of_succ_lt_succ hj)

theorem not_firstFit_of_stalled (h : current.toNat < required) (stalled : ¬ current < after rule current) :
    ¬ FirstFit rule current required c := by
  rintro ⟨k, hs, _, rfl, fits⟩
  cases k with
  | zero =>
    simp only [Function.iterate_zero, id_eq] at fits
    omega
  | succ k => exact stalled (ascends_succ.mp hs).1

theorem not_stalls_of_le (h : required ≤ current.toNat) : ¬ Stalls rule current required := by
  rintro ⟨k, hs, short, _⟩
  have := UInt64.le_iff_toNat_le.mp hs.le
  omega

theorem stalls_of_grows (grows : current < after rule current) :
    Stalls rule current required ↔ Stalls rule (after rule current) required := by
  constructor
  · rintro ⟨k, hs, short, stalled⟩
    cases k with
    | zero => exact absurd grows stalled
    | succ k => exact ⟨k, (ascends_succ.mp hs).2, short, stalled⟩
  · rintro ⟨k, hs, short, stalled⟩
    exact ⟨k + 1, ascends_succ.mpr ⟨grows, hs⟩, short, stalled⟩

/-- A way ends too early exactly when it comes to a step that does not increase before it comes to the requirement. The
first such step is where it ends. -/
theorem stalls_iff_exists_step : Stalls rule current required ↔
    ∃ k, (∀ j ≤ k, ((after rule)^[j] current).toNat < required) ∧
      ¬ (after rule)^[k] current < (after rule)^[k + 1] current := by
  constructor
  · rintro ⟨k, hs, short, stalled⟩
    refine ⟨k, fun j hj => ?_, stalled⟩
    have below := UInt64.le_iff_toNat_le.mp (hs.iterate_le hj)
    exact Nat.lt_of_le_of_lt below short
  · rintro ⟨k, short, stalled⟩
    have some : ∃ k, ¬ (after rule)^[k] current < (after rule)^[k + 1] current := ⟨k, stalled⟩
    classical
    refine ⟨Nat.find some, fun j hj => ?_, short _ (Nat.find_min' some stalled), Nat.find_spec some⟩
    exact Decidable.not_not.mp (Nat.find_min some hj)

theorem capacityFor_eq_some_iff : capacityFor rule current required = some c ↔ FirstFit rule current required c := by
  fun_induction capacityFor rule current required with
  | case1 current short grows ih => rw [ih, firstFit_of_grows short grows]
  | case2 current short stalled => simp [not_firstFit_of_stalled short stalled]
  | case3 current fits => rw [firstFit_of_le (Nat.le_of_not_lt fits), Option.some_inj]

theorem capacityFor_eq_none_iff : capacityFor rule current required = none ↔ Stalls rule current required := by
  fun_induction capacityFor rule current required with
  | case1 current short grows ih => rw [ih, stalls_of_grows grows]
  | case2 current short stalled => simpa using ⟨0, ascends_zero, short, stalled⟩
  | case3 current fits => simp [not_stalls_of_le (Nat.le_of_not_lt fits)]

/-- An answer above the start lies on the way behind the first step. -/
theorem after_le_of_capacityFor (h : capacityFor rule current required = some c) (larger : current < c) :
    current < after rule current ∧ after rule current ≤ c := by
  obtain ⟨k, hs, _, rfl, _⟩ := capacityFor_eq_some_iff.mp h
  cases k with
  | zero => exact absurd larger (UInt64.lt_irrefl _)
  | succ k => exact ⟨(ascends_succ.mp hs).1, (ascends_succ.mp hs).2.le⟩

/-- The way to a requirement leads over the answers to all smaller ones. -/
theorem capacityFor_bind (rule : ρ) (current : UInt64) {first last : ℕ} (h : first ≤ last) :
    (capacityFor rule current first).bind (capacityFor rule · last) = capacityFor rule current last := by
  fun_induction capacityFor rule current first with
  | case1 current short grows ih => rw [ih, capacityFor_of_grows rule (by omega) grows]
  | case2 current short stalled => rw [capacityFor_of_stalled rule (by omega) stalled, Option.bind_none]
  | case3 current fits => rw [Option.bind_some]

theorem capacityFor_max (rule : ρ) (current : UInt64) (first last : ℕ) :
    capacityFor rule current (max first last) = (capacityFor rule current first).bind (capacityFor rule · last) := by
  rcases Nat.le_total first last with h | h
  · rw [Nat.max_eq_right h, capacityFor_bind rule current h]
  · rw [Nat.max_eq_left h]
    cases reached : capacityFor rule current first with
    | none => rw [Option.bind_none]
    | some c =>
      have holds := (capacityFor_bounds rule reached).1
      rw [Option.bind_some, capacityFor_of_le rule (Nat.le_trans h holds)]

end BytecodeStore
