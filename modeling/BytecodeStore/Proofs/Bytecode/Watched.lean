import BytecodeStore.Bytecode.Watched
import BytecodeStore.Proofs.Bytecode.Walk
import BytecodeStore.Proofs.Storage.Units
import BytecodeStore.Proofs.Storage.Watched

/-! # Watched readers do not trap

A byte that is there lies below the count, so the offset behind its instruction is a word whatever offset a reader
starts from. The readers of a chunk therefore never trap, and the operations of a session trap in one case only.
-/
namespace BytecodeStore
open Watched

namespace Chunk
variable {c : Chunk} {offset : ℕ} {op : OpCode} {byte : UInt8} {e : DecodeError}

theorem add_size (inside : offset < c.count) : add offset op.size = .ok ⟨offset + op.size, rfl⟩ := by
  apply add_of_le
  have bound := c.count_le_maxCount
  rw [op.size_eq_one]
  omega

theorem instructionAt_bare (c : Chunk) (offset : ℕ) :
    BareChunk.instructionAt c.bare offset = .ok (c.instructionAt offset) := by
  have same : Block.get? c.bare.data offset = c.get? offset := rfl
  rw [BareChunk.instructionAt, instructionAt, same]
  cases hb : c.get? offset with
  | none => rfl
  | some byte =>
    have inside := lt_count_of_get? hb
    have sum : add offset 1 = .ok ⟨offset + 1, rfl⟩ := add_of_le (Nat.le_trans inside c.count_le_maxCount)
    cases known : OpCode.ofByte? byte with
    | none =>
      simp only [known, sum]
      rfl
    | some op =>
      simp only [known, add_size inside]
      rfl

theorem opAt_bare_of_ok (h : c.opAt offset = .ok op) : BareChunk.opAt c.bare offset = pure op := by
  obtain ⟨byte, hb, hop⟩ := opAt_eq_ok_iff.mp h
  have same : Block.get? c.bare.data offset = some byte := hb
  simp only [BareChunk.opAt, same, hop]

theorem opAt_bare_of_error (inside : offset < c.count) (h : c.opAt offset = .error e) :
    BareChunk.opAt c.bare offset = throw e := by
  obtain ⟨byte, hb, unknown, rfl⟩ := opAt_eq_error inside h
  have same : Block.get? c.bare.data offset = some byte := hb
  simp only [BareChunk.opAt, same, unknown]

theorem opsFrom_bare (c : Chunk) (offset : ℕ) : (BareChunk.opsFrom c.bare offset).run = .ok (c.opsFrom offset) := by
  fun_induction opsFrom c offset with
  | case1 offset inside e h =>
    rw [BareChunk.opsFrom, if_pos (show offset < c.bare.count from inside), opAt_bare_of_error inside h]
    rfl
  | case2 offset inside op h ih =>
    rw [BareChunk.opsFrom, if_pos (show offset < c.bare.count from inside), opAt_bare_of_ok h, pure_bind,
      add_size inside, lift_ok_bind]
    change ((BareChunk.opsFrom c.bare (offset + op.size)).run >>= _) = _
    rw [ih]
    cases c.opsFrom (offset + op.size) <;> rfl
  | case3 offset outside =>
    rw [BareChunk.opsFrom, if_neg (show ¬ offset < c.bare.count from outside)]
    rfl

theorem checkFrom_bare (c : Chunk) (offset : ℕ) :
    (BareChunk.checkFrom c.bare offset).run = .ok (c.checkFrom offset) := by
  fun_induction checkFrom c offset with
  | case1 offset inside e h =>
    rw [BareChunk.checkFrom, if_pos (show offset < c.bare.count from inside), opAt_bare_of_error inside h]
    rfl
  | case2 offset inside op h beyond =>
    rw [op.size_eq_one] at beyond
    omega
  | case3 offset inside op h within ih =>
    rw [BareChunk.checkFrom, if_pos (show offset < c.bare.count from inside), opAt_bare_of_ok h, pure_bind,
      add_size inside, lift_ok_bind]
    exact (congrArg ExceptT.run (if_neg within)).trans ih
  | case4 offset outside =>
    rw [BareChunk.checkFrom, if_neg (show ¬ offset < c.bare.count from outside)]
    rfl

theorem check_bare (c : Chunk) : (BareChunk.check c.bare).run = .ok c.check := by
  rw [BareChunk.check, c.fits_bare, check_true, lift_ok_bind]
  exact c.checkFrom_bare 0

end Chunk

namespace BareSession

/-- An operation on what a run makes of empty buffers traps in one case: it is a push, on as many elements as can be
counted. Elements with a width never come to that many, so no run of them traps, and each does what the plain run does.
The readers of a chunk do not trap either, whatever offset an instruction is shown at. -/
theorem traps_only_at_the_last_count :
    (∀ {σ ρ α : Type} [Block σ α] [GrowthRule ρ] {slots : BareSession σ ρ}, Reached slots →
      (∀ (m : Allocator) (action : Action σ α) (t : Trap), step m slots action = .error t ↔
        t = .overflow ∧ ∃ slot a b, action = .push slot a ∧ slots[slot]? = some b ∧ b.count = maxCount) ∧
      (0 < Block.width σ → ∀ b ∈ slots, b.count < maxCount)) ∧
    (∀ {σ ρ α : Type} [Block σ α] [GrowthRule ρ], 0 < Block.width σ →
      ∀ (rules : List ρ) (steps : List (Allocator × Action σ α)), (∀ entry ∈ steps, entry.1.Limited) →
        let plain := Session.run (Session.start rules) steps
        run (start rules) steps = .ok (plain.1.map Buffer.bare, plain.2)) ∧
    ∀ {slots : BareSession (Array UInt8) Doubling}, Reached slots → ∀ c ∈ slots, ∃ plain : Chunk, c = plain.bare ∧
      (∀ offset, BareChunk.instructionAt c offset = .ok (plain.instructionAt offset)) ∧
      (BareChunk.ops c).run = .ok plain.ops ∧ (BareChunk.check c).run = .ok plain.check := by
  refine ⟨?_, ?_, ?_⟩
  · intro σ ρ α _ _ slots reached
    obtain ⟨plain, rfl, bounded⟩ := reached.exists_plain
    refine ⟨fun m action t => Session.step_bare_eq_error_iff, fun wide c hc => ?_⟩
    obtain ⟨b, hb, rfl⟩ := List.mem_map.mp hc
    exact (bounded b hb).count_lt wide
  · intro σ ρ α _ _ wide rules steps fair
    rw [← Session.bare_start]
    exact Session.run_bare_of_wide wide fair (Session.forall_mem_start Buffer.bounded_withRule rules)
  · intro slots reached c hc
    obtain ⟨plain, rfl, -⟩ := reached.exists_plain
    obtain ⟨b, -, rfl⟩ := List.mem_map.mp hc
    exact ⟨b, rfl, Chunk.instructionAt_bare b, Chunk.opsFrom_bare b 0, Chunk.check_bare b⟩

/-- As many elements without width as can be counted are appended at once, and none is pushed behind them. A byte is
below that, and is checked without a trap. -/
theorem push_behind_all_units_traps :
    (∃ slots : BareSession Units Doubling, Reached slots ∧ step .addressSpace slots (.push 0 ()) = .error .overflow) ∧
    let c : BareChunk := ⟨#[0], 8, .standard⟩
    Reached [c] ∧ c.count < maxCount ∧
      ∃ plain : Chunk, c = plain.bare ∧ plain.count = 1 ∧ (BareChunk.check c).run = .ok plain.check := by
  have limited : Allocator.addressSpace.Limited := by
    intro width slots accepted
    have within := of_decide_eq_true accepted
    exact Nat.le_of_lt (Nat.lt_trans within (by decide))
  have fair {σ α : Type} (action : Action σ α) : ∀ entry ∈ [(Allocator.addressSpace, action)], entry.1.Limited := by
    intro entry single
    rw [List.mem_singleton.mp single]
    exact limited
  obtain ⟨steps, runs, readers⟩ := traps_only_at_the_last_count
  refine ⟨?_, ?_⟩
  · -- the number of elements is named, so that no list of that length is ever computed
    obtain ⟨k, all⟩ : ∃ k, k = maxCount := ⟨_, rfl⟩
    let fill : Action Units Unit := .extend 0 ⟨k⟩
    let first : Session Units Doubling := Session.start [.standard]
    have append : fill.values? = some (List.replicate k ()) := rfl
    have within : (Buffer.withRule .standard : Buffer Units Doubling).count + (List.replicate k ()).length ≤
        maxCount := by
      rw [List.length_replicate, all]
      exact Nat.le_of_eq (Nat.zero_add _)
    have holds : first[fill.slot]? = some (Buffer.withRule .standard) := rfl
    obtain ⟨c, growth, done, count, -⟩ :=
      Session.step_of_countable (m := .addressSpace) (by decide) (by decide) append holds within
    have possible : ¬ PushesLast first.bare fill := by
      rintro ⟨slot, a, b, pushes, -⟩
      have pushes : (Action.extend 0 ⟨k⟩ : Action Units Unit) = .push slot a := pushes
      cases pushes
    have filled : run (start [.standard]) [(.addressSpace, fill)] = .ok ([c.bare], [.done growth]) := by
      rw [← Session.bare_start, run, Session.step_bare possible, done]
      rfl
    have last : c.bare.count = maxCount := by
      rw [Buffer.count_bare, count, List.length_replicate, ← all]
      exact Nat.zero_add k
    have reached : Reached [c.bare] := ⟨[.standard], _, _, fair fill, filled⟩
    exact ⟨[c.bare], reached, ((steps reached).1 _ _ _).mpr ⟨rfl, 0, (), c.bare, rfl, rfl, last⟩⟩
  · intro c
    have wide : 0 < Block.width (Array UInt8) := by decide
    have written : run (start [.standard]) [(.addressSpace, .push 0 (0 : UInt8))] =
        .ok ([c], [.done #[⟨0, 8, 0⟩]]) := runs wide [Doubling.standard] _ (fair _)
    have reached : Reached [c] := ⟨[.standard], _, _, fair _, written⟩
    obtain ⟨plain, same, -, -, checked⟩ := readers reached c List.mem_cons_self
    have one : plain.count = 1 := by
      rw [← Buffer.count_bare, ← same]
      rfl
    exact ⟨reached, (steps reached).2 wide c List.mem_cons_self, plain, same, one, checked⟩

end BareSession

end BytecodeStore
