import BytecodeStore.Proofs.Growth.Ascent
import Mathlib.Data.List.Range

/-! # What a rule is asked

A rule is a function of its owner, and to ask it is all that the way to a requirement costs. `follow` is that way with
the answers taken inside a monad, so that the questions can be kept. They are the first iterates, without a gap, and
each of them but the last is followed by a larger one; so there are at most as many as there are capacities between
the start and the requirement, whatever the rule.
-/
namespace BytecodeStore
open GrowthRule
variable {ρ : Type} [GrowthRule ρ] {rule : ρ} {current c : UInt64} {required : ℕ}

/-- Follows answers to the first capacity that holds the requirement, as long as they increase. -/
def follow {m : Type → Type} [Monad m] (ask : UInt64 → m UInt64) (current : UInt64) (required : ℕ) :
    m (Option UInt64) :=
  if current.toNat < required then do
    let next ← ask current
    if current < next then follow ask next required else pure none
  else pure (some current)
termination_by required - current.toNat
decreasing_by
  rename_i short grows
  have := UInt64.lt_iff_toNat_lt.mp grows
  omega

/-- The answer of a rule, the question being added to those before. -/
def recorded (rule : ρ) (capacity : UInt64) : StateM (List UInt64) UInt64 := fun asked =>
  (after rule capacity, asked ++ [capacity])

/-- The first `n` capacities on the way of a rule, the start being the first. -/
def firstIterates (rule : ρ) (current : UInt64) (n : ℕ) : List UInt64 :=
  (List.range n).map fun j => (after rule)^[j] current

theorem firstIterates_succ (n : ℕ) :
    firstIterates rule current (n + 1) = current :: firstIterates rule (after rule current) n := by
  rw [firstIterates, List.range_succ_eq_map, List.map_cons, List.map_map]
  rfl

theorem run_follow_of_le (h : required ≤ current.toNat) (asked : List UInt64) :
    (follow (recorded rule) current required).run asked = (some current, asked) := by
  rw [follow, if_neg (Nat.not_lt_of_le h)]
  rfl

theorem run_follow_of_grows (h : current.toNat < required) (grows : current < after rule current)
    (asked : List UInt64) :
    (follow (recorded rule) current required).run asked =
      (follow (recorded rule) (after rule current) required).run (asked ++ [current]) := by
  rw [follow, if_pos h]
  simp only [StateT.run, bind, StateT.bind, recorded, if_pos grows]

theorem run_follow_of_stalled (h : current.toNat < required) (stalled : ¬ current < after rule current)
    (asked : List UInt64) :
    (follow (recorded rule) current required).run asked = (none, asked ++ [current]) := by
  rw [follow, if_pos h]
  simp only [StateT.run, bind, StateT.bind, recorded, if_neg stalled]
  rfl

/-- What a rule is asked are its first iterates, and no more of them than there are capacities to the requirement. -/
theorem run_follow (rule : ρ) (current : UInt64) (required : ℕ) (asked : List UInt64) :
    ∃ n ≤ required - current.toNat, (follow (recorded rule) current required).run asked =
      (capacityFor rule current required, asked ++ firstIterates rule current n) := by
  fun_induction capacityFor rule current required generalizing asked with
  | case1 current short grows ih =>
    -- every question uses up one capacity below the requirement at least
    obtain ⟨n, few, ran⟩ := ih (asked ++ [current])
    have larger := UInt64.lt_iff_toNat_lt.mp grows
    refine ⟨n + 1, by omega, ?_⟩
    rw [run_follow_of_grows short grows, ran, firstIterates_succ, List.append_assoc]
    rfl
  | case2 current short stalled =>
    exact ⟨1, Nat.sub_pos_of_lt short, run_follow_of_stalled short stalled asked⟩
  | case3 current fits =>
    refine ⟨0, Nat.zero_le _, ?_⟩
    rw [run_follow_of_le (Nat.le_of_not_lt fits)]
    exact congrArg _ (List.append_nil asked).symm

/-- The way to a requirement under any rule, such as any function on words. It asks the rule no more often than there are
capacities below the requirement from the start on. It leads to the first capacity that holds the requirement, if every
step up to there increases, and otherwise to none. Requirements can be met one after the other. -/
theorem capacityFor_follows_any_rule (rule : ρ) (current : UInt64) (required : ℕ) :
    (∃ n ≤ required - current.toNat, (follow (recorded rule) current required).run [] =
      (capacityFor rule current required, firstIterates rule current n)) ∧
    (∀ c, capacityFor rule current required = some c ↔ FirstFit rule current required c) ∧
    (capacityFor rule current required = none ↔
      ∃ k, (∀ j ≤ k, ((after rule)^[j] current).toNat < required) ∧
        ¬ (after rule)^[k] current < (after rule)^[k + 1] current) ∧
    ∀ first last : ℕ, capacityFor rule current (max first last) =
      (capacityFor rule current first).bind (capacityFor rule · last) := by
  refine ⟨run_follow rule current required [], fun c => capacityFor_eq_some_iff, ?_, capacityFor_max rule current⟩
  rw [capacityFor_eq_none_iff, stalls_iff_exists_step]

/-- A rule that goes round is left where it falls back. -/
example : (follow (recorded (⟨[(0, 5), (5, 9)], 5⟩ : Schedule)) 0 10).run [] = (none, [0, 5, 9]) := by cbv

end BytecodeStore
