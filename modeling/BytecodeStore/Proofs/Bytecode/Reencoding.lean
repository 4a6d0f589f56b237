import BytecodeStore.Proofs.Bytecode.Walk
import BytecodeStore.Proofs.Storage.Pieces

/-! # Decoding and writing again

A chunk that decodes is what comes of writing its opcodes one by one into an empty chunk of its rule. That holds of its
capacity as well, however the chunk came to its bytes: what a run makes of an empty buffer, one append of all its
elements makes of it too, under the allocator of the run, and so do pushes if that allocator grants whatever is smaller
than what it grants. The other way round, opcodes that were written are what is decoded.
-/
namespace BytecodeStore

namespace Buffer
variable {σ ρ α : Type} [Block σ α] [GrowthRule ρ] {m : Allocator} {b c : Buffer σ ρ}
variable {values : List α} {growths : Array Growth}

/-- Buffers that some run under one allocator produces from empty ones. -/
def ReachableUnder (m : Allocator) (b : Buffer σ ρ) : Prop :=
  ∃ (rules : List ρ) (steps : List (Allocator × Action σ α)), (∀ entry ∈ steps, entry.1 = m) ∧
    b ∈ (Session.run (Session.start rules) steps).1

/-- One append to an empty buffer brings it to the elements and the capacity of `b`. -/
def AppendedAnew (m : Allocator) (b : Buffer σ ρ) : Prop := ∃ growths, (withRule b.rule).Appended m b.toList b growths

theorem appendedAnew_withRule (rule : ρ) : (withRule rule : Buffer σ ρ).AppendedAnew m := by
  refine ⟨#[], ?_⟩
  rw [toList_withRule]
  exact appended_nil_iff.mpr ⟨rfl, rfl⟩

theorem AppendedAnew.append (h : b.Appended m values c growths) (anew : b.AppendedAnew m) : c.AppendedAnew m := by
  obtain ⟨first, anew⟩ := anew
  rw [AppendedAnew, h.rule_eq, h.toList_eq]
  -- the larger capacity was granted to the second append, so nothing is asked of the allocator here
  exact anew.trans h

theorem ReachableUnder.appendedAnew (h : b.ReachableUnder m) : b.AppendedAnew m := by
  obtain ⟨rules, steps, fair, hb⟩ := h
  have append {m' : Allocator} {b c : Buffer σ ρ} {values : List α} {growths : Array Growth} (same : m' = m)
      (h : b.Appended m' values c growths) (anew : b.AppendedAnew m) : c.AppendedAnew m := by
    rw [same] at h
    exact anew.append h
  have free (b : Buffer σ ρ) (_ : b.AppendedAnew m) : b.free.AppendedAnew m := appendedAnew_withRule b.rule
  have fresh (rule : ρ) : (withRule rule : Buffer σ ρ).AppendedAnew m := appendedAnew_withRule rule
  have all := Session.forall_mem_start fresh rules
  exact Session.forall_mem_run append free all fair b hb

end Buffer

theorem OpCode.toByte_injective : Function.Injective OpCode.toByte := by
  have back : ofByte? ∘ toByte = some := funext ofByte?_toByte
  apply Function.Injective.of_comp
  rw [back]
  exact fun _ _ => Option.some.inj

namespace Chunk
variable {m : Allocator} {c d : Chunk} {start stop : ℕ} {ops : List (ℕ × OpCode)} {offset : ℕ}

/-! ## Writing opcodes -/

/-- Writes opcodes in order and stops at the first that fails, with what that one leaves. -/
def pushOps (m : Allocator) (c : Chunk) : List OpCode → Except (Abandoned Chunk) Chunk
  | [] => .ok c
  | op :: rest =>
    match c.pushOp m op with
    | .error f => .error f
    | .ok (d, _) => pushOps m d rest

theorem pushOps_eq (c : Chunk) (ops : List OpCode) :
    c.pushOps m ops = c.appendPieces m (ops.map fun op => .one op.toByte) := by
  induction ops generalizing c with
  | nil => rfl
  | cons op rest ih =>
    have first : c.pushOp m op = c.appendPiece m (.one op.toByte) := rfl
    rw [pushOps, List.map_cons, Buffer.appendPieces, first]
    cases c.appendPiece m (.one op.toByte) with
    | error f => rfl
    | ok r => exact ih r.1

theorem pushOps_eq_ok_iff (hm : m.DownwardClosed) {ops : List OpCode} :
    c.pushOps m ops = .ok d ↔ ∃ growths, c.Appended m (ops.map OpCode.toByte) d growths := by
  have bytes : (ops.map fun op => (.one op.toByte : Piece (Array UInt8) UInt8)).flatMap Piece.toList =
      ops.map OpCode.toByte := by
    rw [List.flatMap_map]
    exact List.map_eq_flatMap.symm
  rw [pushOps_eq, Buffer.appendPieces_eq_ok_iff hm, bytes]

/-- Whatever the allocator does, opcodes that were all written are there. -/
theorem toList_of_pushOps {ops : List OpCode} (h : c.pushOps m ops = .ok d) :
    d.toList = c.toList ++ ops.map OpCode.toByte := by
  induction ops generalizing c with
  | nil =>
    cases h
    exact (List.append_nil _).symm
  | cons op rest ih =>
    rw [pushOps] at h
    cases first : c.pushOp m op with
    | error e =>
      rw [first] at h
      cases h
    | ok r =>
      rw [first] at h
      have appended : c.Appended m [op.toByte] r.1 r.2 := Buffer.push_eq_ok_iff.mp first
      rw [ih h, appended.toList_eq, List.append_assoc, List.map_cons, List.singleton_append]

/-! ## Decoded opcodes -/

/-- The instructions lie one behind the other, from `start` to `stop`. -/
inductive Tiles (stop : ℕ) : ℕ → List (ℕ × OpCode) → Prop where
  | done : Tiles stop stop []
  | next {start : ℕ} {op : OpCode} {rest : List (ℕ × OpCode)} (h : Tiles stop (start + op.size) rest) :
    Tiles stop start ((start, op) :: rest)

theorem Tiles.start_le (h : Tiles stop start ops) : ∀ p ∈ ops, start ≤ p.1 := by
  induction h with
  | done => nofun
  | @next start op rest h ih =>
    intro p hp
    rcases List.mem_cons.mp hp with rfl | later
    · exact Nat.le_refl _
    · exact Nat.le_trans (Nat.le_add_right start op.size) (ih p later)

theorem Tiles.increasing (h : Tiles stop start ops) : ops.Pairwise fun p q => p.1 < q.1 := by
  induction h with
  | done => exact .nil
  | @next start op rest h ih =>
    refine .cons (fun q later => ?_) ih
    have := h.start_le q later
    have := op.size_pos
    omega

theorem tiles_of_opsFrom (within : offset ≤ c.count) (h : c.opsFrom offset = .ok ops) : Tiles c.count offset ops := by
  fun_induction opsFrom c offset generalizing ops with
  | case1 offset inside e failed => cases h
  | case2 offset inside op read ih =>
    cases later : c.opsFrom (offset + op.size) with
    | error e =>
      rw [later] at h
      cases h
    | ok rest =>
      rw [later] at h
      cases h
      have inside : offset + op.size ≤ c.count := by rw [op.size_eq_one]; exact inside
      exact .next (ih inside later)
  | case3 offset outside =>
    cases h
    have last : offset = c.count := Nat.le_antisymm within (Nat.le_of_not_lt outside)
    rw [last]
    exact .done

theorem Decodes.bytes (h : c.Decodes 0 ops) : (ops.map Prod.snd).map OpCode.toByte = c.toList := by
  have bytes : ops.map (fun p => p.2.toByte) = c.toList.mapIdx fun _ byte => byte :=
    h.map_eq fun i byte op _ hop => OpCode.toByte_of_ofByte? hop
  rw [List.mapIdx_eq_zipIdx_map] at bytes
  rw [List.map_map]
  exact bytes.trans (List.zipIdx_map_fst 0 c.toList)

theorem bytes_of_ops (h : c.ops = .ok ops) : (ops.map Prod.snd).map OpCode.toByte = c.toList := by
  rcases c.opsFrom_cases 0 with ⟨listed, decoded, decodes⟩ | ⟨i, byte, failed, _⟩
  · obtain rfl := Except.ok.inj (h.symm.trans decoded)
    exact decodes.bytes
  · cases h.symm.trans failed

/-- Decoding and writing undo each other. The opcodes that are decoded from a chunk fill it without a gap, and written
one by one into an empty chunk of its rule they give the chunk again, with its capacity; the opcodes that were written
into an empty chunk are decoded from it, in order. -/
theorem decoding_inverts_writing (hm : m.DownwardClosed) :
    (∀ c : Chunk, c.ReachableUnder m → ∀ ops, c.ops = .ok ops →
      Tiles c.count 0 ops ∧ (ops.Pairwise fun p q => p.1 < q.1) ∧
        (withRule c.rule).pushOps m (ops.map Prod.snd) = .ok c) ∧
    ∀ (rule : Doubling) (ops : List OpCode) (d : Chunk), (withRule rule).pushOps m ops = .ok d →
      ∃ listed, d.ops = .ok listed ∧ listed.map Prod.snd = ops ∧ d.check = .ok () := by
  constructor
  · intro c reachable ops h
    have tiles := tiles_of_opsFrom (Nat.zero_le _) h
    obtain ⟨growths, anew⟩ := reachable.appendedAnew
    rw [← bytes_of_ops h] at anew
    exact ⟨tiles, tiles.increasing, (pushOps_eq_ok_iff hm).mpr ⟨growths, anew⟩⟩
  · intro rule ops d h
    have bytes : d.toList = ops.map OpCode.toByte := toList_of_pushOps h
    have decodable : d.Decodable := by
      intro byte hb
      rw [bytes] at hb
      obtain ⟨op, _, rfl⟩ := List.mem_map.mp hb
      exact ⟨op, OpCode.ofByte?_toByte op⟩
    rcases d.opsFrom_cases 0 with ⟨listed, decoded, decodes⟩ | ⟨i, byte, _, first⟩
    · have decoded : d.ops = .ok listed := decoded
      have same := decodes.bytes.trans bytes
      have check : d.check = .ok () := by rw [check_eq, decoded, Except.map]
      exact ⟨listed, decoded, List.map_injective_iff.mpr OpCode.toByte_injective same, check⟩
    · exact absurd decodable first.not_decodable

/-- A copy of three bytes, written behind a free, that a block of one came to, and four opcodes that are written. -/
theorem four_opcodes_written_and_decoded :
    let c : Chunk := ⟨#[0, 0, 0, 0], 4, ⟨2, 2⟩, by decide⟩
    Allocator.addressSpace.DownwardClosed ∧ c.ReachableUnder .addressSpace ∧
      (withRule ⟨2, 2⟩).pushOps .addressSpace [.ret, .ret, .ret, .ret] = .ok c ∧
      ∃ listed, c.ops = .ok listed ∧ listed.map Prod.snd = [.ret, .ret, .ret, .ret] ∧ Tiles 4 0 listed ∧
        (withRule ⟨2, 2⟩).pushOps .addressSpace (listed.map Prod.snd) = .ok c := by
  intro c
  have hm := Allocator.addressSpace_downwardClosed
  have reachable : c.ReachableUnder .addressSpace := by
    let actions : List (Action (Array UInt8) UInt8) :=
      [.push 0 7, .free 0, .push 0 0, .push 0 0, .push 0 0, .clone 0, .extend 1 #[0]]
    refine ⟨[⟨2, 2⟩], actions.map (Allocator.addressSpace, ·), ?_, by decide +kernel⟩
    intro entry h
    obtain ⟨action, _, rfl⟩ := List.mem_map.mp h
    rfl
  have written : (withRule ⟨2, 2⟩).pushOps .addressSpace [.ret, .ret, .ret, .ret] = .ok c := rfl
  obtain ⟨decoding, writing⟩ := decoding_inverts_writing hm
  obtain ⟨listed, decoded, opcodes, _⟩ := writing _ _ c written
  obtain ⟨tiles, _, again⟩ := decoding c reachable listed decoded
  exact ⟨hm, reachable, written, listed, decoded, opcodes, tiles, again⟩

end Chunk

end BytecodeStore
