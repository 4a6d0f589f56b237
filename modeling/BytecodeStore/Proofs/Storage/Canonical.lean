import BytecodeStore.Proofs.Storage.Run

/-! # Canonical capacities

Single pushes take one step of the rule, bulk appends several, and failures, frees and copies stand in between. Yet the
capacity of a buffer is a function of its rule and its count alone: the first capacity on the ascent from zero that
holds the count. A buffer has therefore no memory of how it came to its elements.
-/
namespace BytecodeStore.Buffer
variable {σ ρ α : Type} [Block σ α] [GrowthRule ρ]
variable {m : Allocator} {b c : Buffer σ ρ} {values : List α} {growths : Array Growth}

def Canonical (b : Buffer σ ρ) : Prop := capacityFor b.rule 0 b.count = some b.capacity

omit [GrowthRule ρ] in
theorem count_withRule (rule : ρ) : (withRule rule : Buffer σ ρ).count = 0 := Block.size_empty

theorem canonical_withRule (rule : ρ) : (withRule rule : Buffer σ ρ).Canonical :=
  capacityFor_of_le rule (by rw [count_withRule]; exact Nat.zero_le _)

/-- The ascent to the larger count leads over the capacity of the smaller one. -/
theorem Canonical.append (h : b.Appended m values c growths) (hb : b.Canonical) : c.Canonical := by
  have hle : b.count ≤ b.count + values.length := Nat.le_add_right _ _
  rw [Canonical, h.rule_eq, h.count_eq, ← capacityFor_bind b.rule 0 hle, hb, Option.bind_some, h.reached]

theorem Reachable.canonical (h : b.Reachable) : b.Canonical :=
  h.invariant canonical_withRule Canonical.append fun b _ => canonical_withRule b.rule

theorem Canonical.capacity_eq_zero_iff (h : b.Canonical) : b.capacity = 0 ↔ b.count = 0 := by
  constructor
  · intro hz
    have := b.count_le_capacity
    rw [hz] at this
    exact Nat.le_zero.mp this
  · intro hz
    rw [Canonical, hz, capacityFor_of_le b.rule (Nat.zero_le _), Option.some_inj] at h
    exact h.symm

theorem Canonical.eq_iff_toList_eq (hb : b.Canonical) (hc : c.Canonical) (hr : c.rule = b.rule) :
    b = c ↔ b.toList = c.toList := by
  constructor
  · intro h
    rw [h]
  · intro h
    have count : b.count = c.count := by rw [← length_toList, h, length_toList]
    have capacity : b.capacity = c.capacity := by
      rw [Canonical, count, ← hr] at hb
      exact Option.some.inj (hb.symm.trans hc)
    exact ext_toList h capacity hr.symm

/-- Whatever a run did, the capacity of a buffer is determined by its rule and its count: it holds the count, it is
zero for the empty buffer only, and buffers with one rule and the same elements are the same. -/
theorem capacity_history_independent (hb : b.Reachable) :
    capacityFor b.rule 0 b.count = some b.capacity ∧ b.count ≤ b.capacity.toNat ∧ (b.capacity = 0 ↔ b.count = 0) ∧
      b.free = withRule b.rule ∧
      ∀ c : Buffer σ ρ, c.Reachable → c.rule = b.rule → (b = c ↔ b.toList = c.toList) := by
  have canonical := hb.canonical
  refine ⟨canonical, (capacityFor_bounds b.rule canonical).1, canonical.capacity_eq_zero_iff, rfl, ?_⟩
  intro c hc hr
  exact canonical.eq_iff_toList_eq hc.canonical hr

/-- Three bytes that came one by one after a free and a refused push, and three that came to a copy in two parts. -/
theorem three_bytes_history_independent :
    let b : Buffer (Array UInt8) Doubling := ⟨#[1, 2, 3], 4, ⟨2, 2⟩, by decide⟩
    let c : Buffer (Array UInt8) Doubling := ⟨#[1, 2, 4], 4, ⟨2, 2⟩, by decide⟩
    b.Reachable ∧ c.Reachable ∧ capacityFor b.rule 0 b.count = some b.capacity ∧ (b = c ↔ b.toList = c.toList) := by
  have hb : (⟨#[1, 2, 3], 4, ⟨2, 2⟩, by decide⟩ : Buffer (Array UInt8) Doubling).Reachable :=
    ⟨[⟨2, 2⟩], [(.addressSpace, .push 0 7), (.addressSpace, .free 0), (⟨fun _ _ => false⟩, .push 0 7),
      (.addressSpace, .push 0 1), (.addressSpace, .push 0 2), (.addressSpace, .push 0 3)], by decide⟩
  have hc : (⟨#[1, 2, 4], 4, ⟨2, 2⟩, by decide⟩ : Buffer (Array UInt8) Doubling).Reachable :=
    ⟨[⟨2, 2⟩], [(.addressSpace, .push 0 1), (.addressSpace, .clone 0), (.addressSpace, .extend 1 #[2]),
      (.addressSpace, .push 1 4)], by decide⟩
  exact ⟨hb, hc, (capacity_history_independent hb).1, (capacity_history_independent hb).2.2.2.2 _ hc rfl⟩

end BytecodeStore.Buffer
