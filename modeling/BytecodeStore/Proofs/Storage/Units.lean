import BytecodeStore.Proofs.Growth.Doubling
import BytecodeStore.Proofs.Storage.Run

/-! # Elements without width

Elements without width take no memory, so no reservation for them is refused and nothing but the range of counts bounds
a buffer of them. Geometric growth with a positive floor and a factor of two or more reaches the end of that range: a
product that leaves it stops at the largest word, which is still more than any capacity below. So an append fails
exactly where the count would leave the range.
-/
namespace BytecodeStore

theorem Doubling.capacityFor_eq_none_iff_uncountable {p : Doubling} (floor : 1 ≤ p.minimum) (factor : 2 ≤ p.factor)
    {current : UInt64} {required : ℕ} : capacityFor p current required = none ↔ maxCount < required := by
  have floor : 1 ≤ p.minimum.toNat := UInt64.le_iff_toNat_le.mp floor
  have factor : 2 ≤ p.factor.toNat := UInt64.le_iff_toNat_le.mp factor
  have lifted : 1 ≤ p.base current := Nat.le_trans floor (Nat.le_max_right _ _)
  by_cases countable : required ≤ maxCount
  · rw [capacityFor_eq_none_iff_stuck countable]
    omega
  · refine iff_of_true ?_ (Nat.lt_of_not_le countable)
    apply Option.eq_none_iff_forall_ne_some.mpr
    intro c reached
    have bound := (capacityFor_bounds p reached).1
    have := toNat_le_maxCount c
    omega

theorem Buffer.refused_iff_uncountable {m : Allocator} {b : Buffer Units Doubling} {k : ℕ} {e : GrowthError}
    (floor : 1 ≤ b.rule.minimum) (factor : 2 ≤ b.rule.factor) :
    Refused m b k e ↔ maxCount < b.count + k ∧ e = .capacityOverflow b.count := by
  rw [refused_iff, Doubling.capacityFor_eq_none_iff_uncountable floor factor]
  apply or_iff_left
  rintro ⟨next, _, _, denied, _⟩
  have granted : m.grants (Block.width Units) next = true := m.grants_of_width_zero next
  rw [granted] at denied
  cases denied

namespace Session
variable {m : Allocator} {slots : Session Units Doubling} {b : Buffer Units Doubling} {slot k : ℕ}
variable {action : Action Units Unit} {values : List Unit}

theorem step_of_uncountable (floor : 1 ≤ b.rule.minimum) (factor : 2 ≤ b.rule.factor)
    (append : action.values? = some values) (holds : slots[action.slot]? = some b)
    (beyond : maxCount < b.count + values.length) :
    step m slots action = (slots, .failed ⟨.capacityOverflow b.count, #[]⟩) := by
  have refused := (Buffer.refused_iff_uncountable (m := m) floor factor).mpr ⟨beyond, rfl⟩
  rcases (stepped_step m slots action).append_cases append holds with
    ⟨c, growths, appended, _, _⟩ | ⟨e, refused', next, result⟩
  · exact absurd refused appended.not_refused
  · rw [refused'.unique refused] at result
    exact Prod.ext next result

theorem step_of_countable (floor : 1 ≤ b.rule.minimum) (factor : 2 ≤ b.rule.factor)
    (append : action.values? = some values) (holds : slots[action.slot]? = some b)
    (within : b.count + values.length ≤ maxCount) :
    ∃ c growths, step m slots action = (slots.set action.slot c, .done growths) ∧
      c.count = b.count + values.length ∧ c.rule = b.rule := by
  rcases (stepped_step m slots action).append_cases append holds with
    ⟨c, growths, appended, next, result⟩ | ⟨e, refused, _, _⟩
  · exact ⟨c, growths, Prod.ext next result, appended.count_eq, appended.rule_eq⟩
  · have beyond := ((Buffer.refused_iff_uncountable floor factor).mp refused).1
    omega

/-- A buffer of elements without width under geometric growth takes all that can be counted. An append of `k` elements
fails if and only if there would be more, and then says so and changes nothing; every other one succeeds, and so does a
push below the largest count. -/
theorem units_fill_the_range (floor : 1 ≤ b.rule.minimum) (factor : 2 ≤ b.rule.factor)
    (holds : slots[slot]? = some b) (m : Allocator) (k : ℕ) :
    ((∃ e, (step m slots (.extend slot ⟨k⟩)).2 = .failed e) ↔ maxCount < b.count + k) ∧
    (maxCount < b.count + k →
      step m slots (.extend slot ⟨k⟩) = (slots, .failed ⟨.capacityOverflow b.count, #[]⟩)) ∧
    (b.count + k ≤ maxCount → ∃ c growths, step m slots (.extend slot ⟨k⟩) = (slots.set slot c, .done growths) ∧
      c.count = b.count + k ∧ c.rule = b.rule) ∧
    (b.count < maxCount → ∃ c growths, step m slots (.push slot ()) = (slots.set slot c, .done growths) ∧
      c.count = b.count + 1 ∧ c.rule = b.rule) := by
  have append : (Action.extend slot ⟨k⟩ : Action Units Unit).values? = some (List.replicate k ()) := rfl
  have length : (List.replicate k ()).length = k := List.length_replicate
  have failure : maxCount < b.count + k →
      step m slots (.extend slot ⟨k⟩) = (slots, .failed ⟨.capacityOverflow b.count, #[]⟩) := by
    intro beyond
    exact step_of_uncountable floor factor append holds (by rw [length]; exact beyond)
  have success : b.count + k ≤ maxCount → ∃ c growths,
      step m slots (.extend slot ⟨k⟩) = (slots.set slot c, .done growths) ∧ c.count = b.count + k ∧
        c.rule = b.rule := by
    intro within
    have done := step_of_countable (m := m) floor factor append holds (by rw [length]; exact within)
    rw [length] at done
    exact done
  refine ⟨⟨?_, fun beyond => ⟨_, congrArg Prod.snd (failure beyond)⟩⟩, failure, success, ?_⟩
  · rintro ⟨e, failed⟩
    by_contra within
    obtain ⟨c, growths, done, _⟩ := success (Nat.le_of_not_lt within)
    rw [done] at failed
    cases failed
  · intro below
    have single : (Action.push slot () : Action Units Unit).values? = some [()] := rfl
    exact step_of_countable floor factor single holds below

/-- A full buffer at half of the range: its next capacity would be one more than the largest word. It still takes one
more element, but not as many again as it has. -/
theorem half_a_range_of_units :
    let b : Buffer Units Doubling := ⟨⟨0x8000000000000000⟩, 0x8000000000000000, ⟨8, 2⟩, by decide⟩
    (∃ c growths, step .addressSpace [b] (.push 0 ()) = ([c], .done growths) ∧ c.count = 0x8000000000000001) ∧
      step .addressSpace [b] (.extend 0 ⟨0x8000000000000000⟩) =
        ([b], .failed ⟨.capacityOverflow 0x8000000000000000, #[]⟩) := by
  intro b
  have floor : 1 ≤ b.rule.minimum := by decide
  have factor : 2 ≤ b.rule.factor := by decide
  have holds : [b][0]? = some b := rfl
  obtain ⟨_, failure, _, push⟩ := units_fill_the_range floor factor holds .addressSpace 0x8000000000000000
  obtain ⟨c, growths, done, count, _⟩ := push (by decide)
  exact ⟨⟨c, growths, done, count⟩, failure (by decide)⟩

end Session

end BytecodeStore
