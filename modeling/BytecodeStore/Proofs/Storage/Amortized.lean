import BytecodeStore.Proofs.Growth.Doubling
import BytecodeStore.Proofs.Storage.Trace

/-! # Growth is paid for by what is appended

A slot under geometric growth that began empty raises its capacity rarely: each raise at least doubles it or reaches
the end of the range, where no other follows. What is present at the raises is therefore a geometric sum, which its
last term bounds; and as nothing is taken away before the slot is freed, the elements that forced the last raise are
still there to pay for it.
-/
namespace BytecodeStore.Session
variable {σ α : Type} [Block σ α]
variable {m : Allocator} {slots next : Session σ Doubling} {b c : Buffer σ Doubling} {action : Action σ α}
variable {result : StepResult} {slot : ℕ} {growths earlier : List Growth} {values : List α} {new : Array Growth}

/-- The elements that were present at raises of the capacity, over all of them. -/
def present (growths : List Growth) : ℕ := (growths.map Growth.count).sum

theorem present_append_singleton (growths : List Growth) (g : Growth) :
    present (growths ++ [g]) = present growths + g.count := by
  simp [present]

/-- A buffer that began empty, after the given raises. As long as it can grow further, the raises have doubled its
capacity and the elements present at them fit into it. -/
structure Amortized (b : Buffer σ Doubling) (growths : List Growth) : Prop where
  grounded : b.capacity = 0 ∨ b.rule.minimum ≤ b.capacity
  length_le : growths.length ≤ 65
  present_le : present growths ≤ 2 * (b.count - 1)
  doubled : (growths = [] ∧ b.capacity = 0) ∨ b.capacity.toNat = maxCount ∨
    (2 ^ growths.length ≤ 2 * b.capacity.toNat ∧ present growths ≤ b.capacity.toNat)

theorem amortized_of_empty (h : b.capacity = 0) : Amortized b [] where
  grounded := .inl h
  length_le := Nat.zero_le _
  present_le := Nat.zero_le _
  doubled := .inl ⟨rfl, h⟩

theorem Amortized.of_same_capacity (hb : Amortized b growths) (rule : c.rule = b.rule)
    (capacity : c.capacity = b.capacity) (count : b.count ≤ c.count) : Amortized c growths where
  grounded := by rw [rule, capacity]; exact hb.grounded
  length_le := hb.length_le
  present_le := Nat.le_trans hb.present_le (Nat.mul_le_mul_left 2 (Nat.sub_le_sub_right count 1))
  doubled := by rw [capacity]; exact hb.doubled

/-- Where a buffer can still grow, one raise more stays within the bounds, and the raises before it fit the capacity. -/
theorem Amortized.before_raise (hb : Amortized b growths) (larger : b.capacity < c.capacity) :
    growths.length + 1 ≤ 65 ∧ present growths + b.count ≤ 2 * b.capacity.toNat ∧
      (b.capacity.toNat = 0 ∧ growths = [] ∨ 2 ^ growths.length ≤ 2 * b.capacity.toNat) := by
  have held := b.count_le_capacity
  have below := toNat_le_maxCount c.capacity
  rw [UInt64.lt_iff_toNat_lt] at larger
  rcases hb.doubled with ⟨rfl, zero⟩ | full | ⟨power, fits⟩
  · have : b.capacity.toNat = 0 := congrArg UInt64.toNat zero
    exact ⟨by decide, by simp only [present, List.map_nil, List.sum_nil]; omega, .inl ⟨this, rfl⟩⟩
  · omega
  · have bound : 2 ^ growths.length < 2 ^ 65 := by
      unfold maxCount at below
      omega
    exact ⟨(Nat.pow_lt_pow_iff_right (by decide)).mp bound, by omega, .inr power⟩

theorem Amortized.append (h : b.Appended m values c new) (hb : Amortized b growths) :
    Amortized c (growths ++ new.toList) := by
  have count : b.count ≤ c.count := by rw [h.count_eq]; exact Nat.le_add_right _ _
  rw [h.growths_eq]
  by_cases larger : b.capacity < c.capacity
  · rw [if_pos larger, List.toList_toArray]
    have short : b.capacity.toNat < c.count := by
      rw [h.count_eq]
      exact Buffer.short_of_reached h.reached larger
    obtain ⟨lifted, doubled⟩ := Doubling.two_mul_le_of_capacityFor hb.grounded h.reached larger
    obtain ⟨few, paid, power⟩ := hb.before_raise larger
    have present_eq : present (growths ++ [b.growthTo c.capacity]) = present growths + b.count :=
      present_append_singleton _ _
    refine ⟨.inr (by rw [h.rule_eq]; exact lifted), ?_, by omega, .inr ?_⟩
    · rw [List.length_append, List.length_singleton]
      exact few
    -- At the end of the range no raise can follow, so nothing is to be kept up for one.
    · refine doubled.imp_right fun twice => ⟨?_, by omega⟩
      rw [List.length_append, List.length_singleton, Nat.pow_succ]
      rw [UInt64.lt_iff_toNat_lt] at larger
      rcases power with ⟨zero, rfl⟩ | power
      · rw [List.length_nil, Nat.pow_zero]
        omega
      · omega
  · rw [if_neg larger, Array.toList_empty, List.append_nil]
    exact hb.of_same_capacity h.rule_eq (UInt64.le_antisymm (UInt64.not_lt.mp larger) h.capacity_le) count

/-- The growths that a history reports of one slot, without the actions that caused them. -/
def raises (slot : ℕ) (entries : List (Action σ α × StepResult)) : List Growth := (reports slot entries).map Prod.snd

omit [Block σ α] in
theorem raises_done (here : action.slot = slot) (new : Array Growth) (past : List (Action σ α × StepResult)) :
    raises slot ((action, .done new) :: past) = new.toList ++ raises slot past := by
  have growths : (new.toList.map (action, ·)).map Prod.snd = new.toList := by
    rw [List.map_map]
    exact List.map_id _
  rw [raises, reports_done here, List.map_append, growths, raises]

theorem Stepped.amortized (h : Stepped m slots action next result) (holds : slots[slot]? = some b)
    (kept : action ≠ .free slot) (hb : Amortized b earlier) :
    ∃ c new, next[slot]? = some c ∧ Amortized c (earlier ++ new) ∧
      ∀ past, raises slot ((action, result) :: past) = new ++ raises slot past := by
  rcases h.on_slot holds kept with ⟨same, quiet⟩ | ⟨values, c, new, _, appended, hc, here, rfl⟩
  · refine ⟨b, [], same, by rw [List.append_nil]; exact hb, fun past => ?_⟩
    rw [raises, quiet, List.nil_append, raises]
  · exact ⟨c, new.toList, hc, hb.append appended, raises_done here new⟩

/-- Induction on the steps: the raises of a step go behind those before the run and in front of those after it. -/
theorem run_amortized (steps : List (Allocator × Action σ α)) (holds : slots[slot]? = some b)
    (kept : ∀ entry ∈ steps, entry.2 ≠ .free slot) (hb : Amortized b earlier) :
    ∃ c, (run slots steps).1[slot]? = some c ∧ Amortized c (earlier ++ raises slot (history slots steps)) := by
  induction steps generalizing slots b earlier with
  | nil =>
    refine ⟨b, holds, ?_⟩
    rw [show raises slot (history slots []) = [] from rfl, List.append_nil]
    exact hb
  | cons first rest ih =>
    obtain ⟨c, new, hc, amortized, front⟩ :=
      (stepped_step first.1 slots first.2).amortized holds (kept first List.mem_cons_self) hb
    obtain ⟨d, hd, done⟩ := ih hc (fun entry later => kept entry (List.mem_cons_of_mem _ later)) amortized
    rw [history_cons, front, ← List.append_assoc]
    exact ⟨d, hd, done⟩

/-- A slot that began empty raises its capacity at most 65 times until it is freed, whatever is appended to it and
whatever the allocators refuse. The elements present at the raises are in all at most twice those that it then holds
but one, and none as long as it holds none. -/
theorem growth_amortized (begun : Begun slots slot 0) {steps : List (Allocator × Action σ α)}
    (kept : ∀ entry ∈ steps, entry.2 ≠ .free slot) :
    ∃ c, (run slots steps).1[slot]? = some c ∧
      (raises slot (history slots steps)).length ≤ 65 ∧
      present (raises slot (history slots steps)) ≤ 2 * (c.count - 1) ∧
      (c.count = 0 → present (raises slot (history slots steps)) = 0) := by
  obtain ⟨b, holds, empty⟩ := begun.holds
  obtain ⟨c, hc, amortized⟩ := run_amortized steps holds kept (amortized_of_empty empty)
  rw [List.nil_append] at amortized
  refine ⟨c, hc, amortized.length_le, amortized.present_le, fun none => ?_⟩
  have := amortized.present_le
  omega

/-- Five bytes that came one by one with a refusal between them: the slot is raised with none, one, two and four of
them present, which are seven. -/
theorem five_bytes_amortized :
    let slots : Session (Array UInt8) Doubling := start [⟨1, 2⟩]
    let steps : List (Allocator × Action (Array UInt8) UInt8) :=
      [(.addressSpace, .push 0 1), (⟨fun _ _ => false⟩, .push 0 2), (.addressSpace, .push 0 2),
        (.addressSpace, .push 0 3), (.addressSpace, .push 0 4), (.addressSpace, .push 0 5)]
    let raised := raises 0 (history slots steps)
    raised = [⟨0, 1, 0⟩, ⟨1, 2, 1⟩, ⟨2, 4, 2⟩, ⟨4, 8, 4⟩] ∧ present raised = 7 ∧
      ∃ c, (run slots steps).1[0]? = some c ∧ raised.length ≤ 65 ∧ present raised ≤ 2 * (c.count - 1) ∧
        (c.count = 0 → present raised = 0) := by
  intro slots steps raised
  have begun : Begun slots 0 0 := .fresh (by decide)
  have kept : ∀ entry ∈ steps, entry.2 ≠ .free 0 := by simp [steps]
  exact ⟨rfl, rfl, growth_amortized begun kept⟩

end BytecodeStore.Session
