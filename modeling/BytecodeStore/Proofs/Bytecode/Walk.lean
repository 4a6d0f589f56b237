import BytecodeStore.Bytecode.Summary
import Mathlib.Data.List.Forall2

/-! # Walks over a chunk

Four loops read a chunk from offset zero: the listing and the lines of a summary go on behind a byte that names no
opcode, the decoder and the check stop at it. Each of them visits the offsets below the count in order and no others.
The two that go on render the same texts, and the two that stop do so for the same reason.
-/
namespace BytecodeStore

theorem OpCode.size_eq_one (op : OpCode) : op.size = 1 := by cases op; rfl

namespace Chunk
variable {c : Chunk} {offset i : ℕ} {byte : UInt8} {op : OpCode}

theorem get?_eq_some (h : i < c.count) : ∃ byte, c.get? i = some byte := by
  rw [Buffer.get?_eq]
  exact ⟨_, List.getElem?_eq_getElem (by rw [Buffer.length_toList]; exact h)⟩

theorem get?_eq_none (h : c.count ≤ i) : c.get? i = none := by
  rw [Buffer.get?_eq, List.getElem?_eq_none_iff, Buffer.length_toList]
  exact h

theorem lt_count_of_get? (h : c.get? i = some byte) : i < c.count := by
  by_contra outside
  rw [get?_eq_none (Nat.le_of_not_lt outside)] at h
  cases h

theorem instructionAt_of_le (h : c.count ≤ i) : c.instructionAt i = ("<end of chunk>", i) := by
  rw [instructionAt, get?_eq_none h]

/-- Also behind an unknown byte the next instruction is one further. -/
theorem instructionAt_snd (h : i < c.count) : (c.instructionAt i).2 = i + 1 := by
  obtain ⟨byte, hb⟩ := get?_eq_some h
  simp only [instructionAt, hb]
  split
  · rw [OpCode.size_eq_one]
  · rfl

theorem opAt_eq_ok_iff : c.opAt i = .ok op ↔ ∃ byte, c.get? i = some byte ∧ OpCode.ofByte? byte = some op := by
  unfold opAt
  cases c.get? i with
  | none => simp
  | some byte => cases h : OpCode.ofByte? byte <;> simp [h]

theorem instructionAt_fst (h : c.opAt i = .ok op) : (c.instructionAt i).1 = op.mnemonic := by
  obtain ⟨byte, hb, hop⟩ := opAt_eq_ok_iff.mp h
  simp only [instructionAt, hb, hop]

theorem opAt_eq_error {e : DecodeError} (inside : i < c.count) (h : c.opAt i = .error e) :
    ∃ byte, c.get? i = some byte ∧ OpCode.ofByte? byte = none ∧ e = .invalidOpcode i byte := by
  obtain ⟨byte, hb⟩ := get?_eq_some inside
  simp only [opAt, hb] at h
  cases unknown : OpCode.ofByte? byte with
  | none =>
    simp only [unknown, Except.error.injEq] at h
    exact ⟨byte, hb, unknown, h.symm⟩
  | some op => simp [unknown] at h

def offsetsFrom (c : Chunk) (offset : ℕ) : List ℕ := List.range' offset (c.count - offset)

theorem offsetsFrom_of_lt (h : offset < c.count) : c.offsetsFrom offset = offset :: c.offsetsFrom (offset + 1) := by
  rw [offsetsFrom, show c.count - offset = c.count - (offset + 1) + 1 by omega, List.range'_succ, offsetsFrom]

theorem offsetsFrom_of_le (h : c.count ≤ offset) : c.offsetsFrom offset = [] := by
  rw [offsetsFrom, Nat.sub_eq_zero_of_le h, List.range'_zero]

/-- What is said of the offsets of a chunk is said of its bytes with their indices. -/
theorem map_offsetsFrom_zero {β : Type} {f : ℕ → β} {g : ℕ → UInt8 → β}
    (h : ∀ i byte, c.get? i = some byte → f i = g i byte) : (c.offsetsFrom 0).map f = c.toList.mapIdx g := by
  apply List.ext_getElem
  · simp [offsetsFrom, Buffer.length_toList]
  · intro i hi hi'
    have inside : i < c.toList.length := by simpa using hi'
    simp only [offsetsFrom, List.getElem_map, List.getElem_range', List.getElem_mapIdx, Nat.zero_add, Nat.one_mul]
    exact h i _ (by rw [Buffer.get?_eq, List.getElem?_eq_getElem inside])

/-! ## Rendering -/

def lineAt (c : Chunk) (i : ℕ) : Line := ⟨i, (c.get? i).getD 0, (c.instructionAt i).1⟩

def listedLine (c : Chunk) (i : ℕ) : String := Numeral.padded 4 i ++ " " ++ (c.instructionAt i).1 ++ "\n"

theorem linesFrom_eq (c : Chunk) (offset : ℕ) : c.linesFrom offset = (c.offsetsFrom offset).map c.lineAt := by
  fun_induction linesFrom c offset with
  | case1 offset inside ih => rw [ih, instructionAt_snd inside, offsetsFrom_of_lt inside, List.map_cons, lineAt]
  | case2 offset outside => rw [offsetsFrom_of_le (Nat.le_of_not_lt outside), List.map_nil]

theorem listFrom_eq (c : Chunk) (offset : ℕ) (out : String) :
    c.listFrom offset out = out ++ String.join ((c.offsetsFrom offset).map c.listedLine) := by
  fun_induction listFrom c offset out with
  | case1 offset out inside ih =>
    rw [ih, instructionAt_snd inside, offsetsFrom_of_lt inside, List.map_cons, String.join_cons, listedLine,
      String.append_assoc]
  | case2 offset out outside =>
    rw [offsetsFrom_of_le (Nat.le_of_not_lt outside), List.map_nil, String.join_nil, String.append_empty]

/-! ## Decoding -/

/-- `i` is the first offset from `start` on whose byte names no opcode. -/
structure FirstUnknown (c : Chunk) (start i : ℕ) (byte : UInt8) : Prop where
  start_le : start ≤ i
  get?_eq : c.get? i = some byte
  unknown : OpCode.ofByte? byte = none
  known : ∀ j, start ≤ j → j < i → ∃ op, c.opAt j = .ok op

/-- The instructions from `offset` on, each with its own offset. -/
def Decodes (c : Chunk) (offset : ℕ) (ops : List (ℕ × OpCode)) : Prop :=
  List.Forall₂ (fun i p => p.1 = i ∧ c.opAt i = .ok p.2) (c.offsetsFrom offset) ops

theorem opsFrom_cases (c : Chunk) (offset : ℕ) :
    (∃ ops, c.opsFrom offset = .ok ops ∧ c.Decodes offset ops) ∨
      ∃ i byte, c.opsFrom offset = .error (.invalidOpcode i byte) ∧ c.FirstUnknown offset i byte := by
  fun_induction opsFrom c offset with
  | case1 offset inside e h =>
    obtain ⟨byte, hb, unknown, rfl⟩ := opAt_eq_error inside h
    exact .inr ⟨offset, byte, rfl, Nat.le_refl _, hb, unknown, fun j hj hj' => absurd hj' (Nat.not_lt.mpr hj)⟩
  | case2 offset inside op h ih =>
    rw [op.size_eq_one] at ih ⊢
    rcases ih with ⟨ops, hops, decodes⟩ | ⟨i, byte, hops, first⟩
    · refine .inl ⟨(offset, op) :: ops, by rw [hops]; rfl, ?_⟩
      rw [Decodes, offsetsFrom_of_lt inside]
      exact .cons ⟨rfl, h⟩ decodes
    · refine .inr ⟨i, byte, by rw [hops]; rfl, Nat.le_of_succ_le first.start_le, first.get?_eq, first.unknown, ?_⟩
      intro j hj hj'
      rcases Nat.eq_or_lt_of_le hj with rfl | later
      · exact ⟨op, h⟩
      · exact first.known j later hj'
  | case3 offset outside =>
    refine .inl ⟨[], rfl, ?_⟩
    rw [Decodes, offsetsFrom_of_le (Nat.le_of_not_lt outside)]
    exact .nil

/-- The check is the decoder without its result: an instruction never runs past the end. -/
theorem checkFrom_eq (c : Chunk) (offset : ℕ) : c.checkFrom offset = (c.opsFrom offset).map fun _ => () := by
  fun_induction checkFrom c offset with
  | case1 offset inside e h => rw [opsFrom, if_pos inside, h, Except.map]
  | case2 offset inside op h beyond =>
    rw [op.size_eq_one] at beyond
    omega
  | case3 offset inside op h within ih =>
    rw [ih, opsFrom.eq_def c offset, if_pos inside, h]
    dsimp only
    cases c.opsFrom (offset + op.size) <;> rfl
  | case4 offset outside => rw [opsFrom, if_neg outside, Except.map]

def Decodable (c : Chunk) : Prop := ∀ byte ∈ c.toList, ∃ op, OpCode.ofByte? byte = some op

theorem Decodes.decodable {ops : List (ℕ × OpCode)} (h : c.Decodes 0 ops) : c.Decodable := by
  intro byte hb
  obtain ⟨i, hi⟩ := List.mem_iff_getElem?.mp hb
  rw [← Buffer.get?_eq] at hi
  have known : ∀ i ∈ c.offsetsFrom 0, ∃ op, c.opAt i = .ok op :=
    ((List.forall₂_and_left _ _).mp (h.imp fun i p hp => ⟨⟨p.2, hp.2⟩, hp⟩)).1
  have visited : i ∈ c.offsetsFrom 0 := by
    rw [offsetsFrom, List.mem_range'_1]
    have := lt_count_of_get? hi
    omega
  obtain ⟨op, hop⟩ := known i visited
  obtain ⟨byte', hb', hop⟩ := opAt_eq_ok_iff.mp hop
  obtain rfl := Option.some.inj (hi.symm.trans hb')
  exact ⟨op, hop⟩

theorem FirstUnknown.not_decodable (h : c.FirstUnknown offset i byte) : ¬ c.Decodable := by
  intro decodable
  have hb : byte ∈ c.toList := List.mem_of_getElem? ((Buffer.get?_eq c i).symm.trans h.get?_eq)
  obtain ⟨op, hop⟩ := decodable byte hb
  rw [h.unknown] at hop
  cases hop

/-- What is said of decoded instructions is said of the bytes that they were decoded from. -/
theorem Decodes.map_eq {β : Type} {f : ℕ × OpCode → β} {g : ℕ → UInt8 → β} {ops : List (ℕ × OpCode)}
    (h : c.Decodes 0 ops)
    (agree : ∀ i byte op, c.get? i = some byte → OpCode.ofByte? byte = some op → f (i, op) = g i byte) :
    ops.map f = c.toList.mapIdx g := by
  have read : (c.offsetsFrom 0).map (fun i => (c.get? i).map (g i)) = c.toList.mapIdx fun i byte => some (g i byte) := by
    apply map_offsetsFrom_zero
    intro i byte hb
    rw [hb, Option.map_some]
  have decoded : (c.offsetsFrom 0).map (fun i => (c.get? i).map (g i)) = ops.map fun p => some (f p) := by
    rw [← List.forall₂_eq_eq_eq, List.forall₂_map_left_iff, List.forall₂_map_right_iff]
    refine h.imp ?_
    rintro i ⟨_, op⟩ ⟨rfl, hop⟩
    obtain ⟨byte, hb, hop⟩ := opAt_eq_ok_iff.mp hop
    rw [hb, Option.map_some, agree _ _ _ hb hop]
  have same : (ops.map f).map some = (c.toList.mapIdx g).map some := by
    rw [List.mapIdx_eq_zipIdx_map] at read ⊢
    rw [List.map_map, List.map_map]
    exact decoded.symm.trans read
  exact List.map_injective_iff.mpr (fun _ _ => Option.some.inj) same

theorem Decodes.texts {ops : List (ℕ × OpCode)} (h : c.Decodes 0 ops) :
    ops.map (fun p => (p.1, p.2.mnemonic)) = c.toList.mapIdx fun i _ => (i, (c.instructionAt i).1) := by
  apply h.map_eq
  intro i byte op hb hop
  rw [instructionAt_fst (opAt_eq_ok_iff.mpr ⟨byte, hb, hop⟩)]

/-- What the walks that stop and the summary say of a chunk whose bytes all name opcodes. -/
structure Accepted (c : Chunk) (name : String) (ops : List (ℕ × OpCode)) : Prop where
  ops_eq : c.ops = .ok ops
  check_eq : c.check = .ok ()
  valid_eq : (c.summary name).valid = true
  error_eq : (c.summary name).error = none

/-- What they say of any other chunk. -/
structure Rejected (c : Chunk) (name : String) (e : DecodeError) : Prop where
  ops_eq : c.ops = .error e
  check_eq : c.check = .error e
  valid_eq : (c.summary name).valid = false
  error_eq : (c.summary name).error = some e

theorem check_eq (c : Chunk) : c.check = c.ops.map fun _ => () := checkFrom_eq c 0

theorem accepted_of_ops {ops : List (ℕ × OpCode)} (name : String) (h : c.ops = .ok ops) : c.Accepted name ops := by
  have check : c.check = .ok () := by rw [check_eq, h, Except.map]
  have fault : c.fault? = none := by rw [fault?, check]
  exact ⟨h, check, by rw [Summary.valid, summary, fault, Option.isNone_none], fault⟩

theorem rejected_of_ops {e : DecodeError} (name : String) (h : c.ops = .error e) : c.Rejected name e := by
  have check : c.check = .error e := by rw [check_eq, h, Except.map]
  have fault : c.fault? = some e := by rw [fault?, check]
  exact ⟨h, check, by rw [Summary.valid, summary, fault, Option.isNone_some], fault⟩

/-- The decoder, the check and the summary agree on every chunk. -/
theorem decode_cases (c : Chunk) (name : String) :
    (c.Decodable ∧ ∃ ops, c.Decodes 0 ops ∧ c.Accepted name ops) ∨
      (¬ c.Decodable ∧ ∃ i byte, c.FirstUnknown 0 i byte ∧ c.Rejected name (.invalidOpcode i byte)) := by
  rcases c.opsFrom_cases 0 with ⟨ops, h, decodes⟩ | ⟨i, byte, h, first⟩
  · exact .inl ⟨decodes.decodable, ops, decodes, accepted_of_ops name h⟩
  · exact .inr ⟨first.not_decodable, i, byte, first, rejected_of_ops name h⟩

theorem lines_eq (c : Chunk) : c.lines = c.toList.mapIdx fun i byte => ⟨i, byte, (c.instructionAt i).1⟩ := by
  rw [lines, linesFrom_eq]
  apply map_offsetsFrom_zero
  intro i byte hb
  rw [lineAt, hb, Option.getD_some]

theorem listing_eq (c : Chunk) (name : String) :
    c.listing name = s!"== {name} == (count={c.count}, capacity={c.capacity.toNat})\n" ++
      String.join (c.toList.mapIdx fun i _ => Numeral.padded 4 i ++ " " ++ (c.instructionAt i).1 ++ "\n") := by
  rw [listing, listFrom_eq]
  refine congrArg (fun rows => _ ++ String.join rows) (map_offsetsFrom_zero ?_)
  intro i byte _
  rfl

/-- The four walks agree. Those that render give every offset below the count one entry, in order and with the same
text. Those that decode succeed together, exactly when every byte names an opcode, and then with the mnemonics that
are rendered; otherwise they, and the summary, report the first byte that names none. -/
theorem walks_agree (c : Chunk) (name : String) :
    ((c.summary name).instructions = c.toList.mapIdx (fun i byte => ⟨i, byte, (c.instructionAt i).1⟩) ∧
      c.listing name = s!"== {name} == (count={c.count}, capacity={c.capacity.toNat})\n" ++
        String.join (c.toList.mapIdx fun i _ => Numeral.padded 4 i ++ " " ++ (c.instructionAt i).1 ++ "\n") ∧
      (∀ i < c.count, (c.instructionAt i).2 = i + 1) ∧
      ∀ i, c.count ≤ i → c.instructionAt i = ("<end of chunk>", i)) ∧
    (((∃ ops, c.ops = .ok ops) ↔ c.Decodable) ∧ (c.check = .ok () ↔ c.Decodable) ∧
      ((c.summary name).valid = true ∧ (c.summary name).error = none ↔ c.Decodable) ∧
      ∀ ops, c.ops = .ok ops →
        ops.map (fun p => (p.1, p.2.mnemonic)) = c.toList.mapIdx fun i _ => (i, (c.instructionAt i).1)) ∧
    (¬ c.Decodable → ∃ i byte, c.FirstUnknown 0 i byte ∧ c.ops = .error (.invalidOpcode i byte) ∧
      c.check = .error (.invalidOpcode i byte) ∧ (c.summary name).valid = false ∧
      (c.summary name).error.map DecodeError.message = some (DecodeError.invalidOpcode i byte).message) ∧
    ∀ offset count, c.check ≠ .error (.outOfBounds offset count) := by
  refine ⟨⟨c.lines_eq, c.listing_eq name, fun i => instructionAt_snd, fun i => instructionAt_of_le⟩, ?_⟩
  rcases c.decode_cases name with ⟨hd, ops, decodes, h⟩ | ⟨hd, i, byte, first, h⟩
  · refine ⟨⟨iff_of_true ⟨ops, h.ops_eq⟩ hd, iff_of_true h.check_eq hd, iff_of_true ⟨h.valid_eq, h.error_eq⟩ hd, ?_⟩,
      fun hn => absurd hd hn, ?_⟩
    · intro ops' hops
      obtain rfl := Except.ok.inj (h.ops_eq.symm.trans hops)
      exact decodes.texts
    · intro offset count
      rw [h.check_eq]
      nofun
  · rw [h.ops_eq, h.check_eq, h.valid_eq, h.error_eq]
    refine ⟨⟨iff_of_false nofun hd, iff_of_false nofun hd, iff_of_false nofun hd, nofun⟩, fun _ => ?_, fun _ _ => nofun⟩
    exact ⟨i, byte, first, rfl, rfl, rfl, rfl⟩

/-- The byte in the middle stops the decoder and is a line of the listing. -/
theorem unknown_byte_stops_decoding_alone :
    let c : Chunk := ⟨#[0x00, 0x7f, 0x00], 8, .standard, by decide⟩
    ¬ c.Decodable ∧ (∃ i byte, c.FirstUnknown 0 i byte ∧ c.ops = .error (.invalidOpcode i byte)) ∧
      (c.instructionAt 1).2 = 2 ∧ c.instructionAt 3 = ("<end of chunk>", 3) := by
  intro c
  have first : c.FirstUnknown 1 1 0x7f := ⟨Nat.le_refl 1, rfl, rfl, fun j hj hj' => absurd hj' (Nat.not_lt.mpr hj)⟩
  have hd := first.not_decodable
  have all := c.walks_agree "x"
  obtain ⟨i, byte, first, ops, _⟩ := all.2.2.1 hd
  exact ⟨hd, ⟨i, byte, first, ops⟩, all.1.2.2.1 1 (by decide), all.1.2.2.2 3 (by decide)⟩

end Chunk

end BytecodeStore
