import BytecodeStore.Proofs.Bytecode.Walk
import Mathlib.Data.List.Induction

/-! # What a listing tells of its chunk

The name stands in a listing as it is, so it may hold line breaks and whatever looks like a header or a line. Read from
the end there is no doubt nevertheless: a header ends with a bracket and a line never does, a line breaks at its end
only, and its offset says how many lines there are before it. What is left in front of the lines is the header, and the
capacity at the end of it has no equality sign.
-/
namespace BytecodeStore

/-! ## Cutting texts -/

section
variable {α : Type} {x : α} {a b a' b' : List α}

/-- Texts that are cut at the first `x`. -/
theorem append_cons_inj_left (ha : x ∉ a) (ha' : x ∉ a') (h : a ++ x :: b = a' ++ x :: b') : a = a' ∧ b = b' := by
  rcases List.append_eq_append_iff.mp h with ⟨_ | ⟨y, between⟩, rfl, later⟩ | ⟨_ | ⟨y, between⟩, rfl, later⟩
  · exact ⟨(List.append_nil a).symm, (List.cons.inj later).2⟩
  · exact absurd (by simp [(List.cons.inj later).1]) ha'
  · exact ⟨List.append_nil a', (List.cons.inj later).2.symm⟩
  · exact absurd (by simp [(List.cons.inj later).1]) ha

/-- Texts that are cut at the last `x`. -/
theorem append_cons_inj_right (hb : x ∉ b) (hb' : x ∉ b') (h : a ++ x :: b = a' ++ x :: b') : a = a' ∧ b = b' := by
  have backwards := congrArg List.reverse h
  simp only [List.reverse_append, List.reverse_cons, List.append_assoc, List.singleton_append] at backwards
  have parts := append_cons_inj_left (by simpa using hb) (by simpa using hb') backwards
  exact ⟨List.reverse_inj.mp parts.2, List.reverse_inj.mp parts.1⟩

end

/-! ## Numbers and bytes as texts -/

theorem Numeral.isDigit_of_mem_padded {width n : ℕ} {x : Char} (h : x ∈ (padded width n).toList) :
    x.isDigit = true := by
  simp only [padded, String.toList_ofList, List.leftpad, List.mem_append, List.mem_replicate] at h
  rcases h with ⟨-, rfl⟩ | h
  · rfl
  · exact Nat.isDigit_of_mem_toDigits (by decide) (by decide) h

theorem Numeral.padded_injective (width : ℕ) : Function.Injective (padded width) := by
  have value (n : ℕ) : Nat.ofDigitChars 10 (padded width n).toList 0 = n := by
    simp [padded, List.leftpad, Nat.ofDigitChars_append, Nat.ofDigitChars_replicate_zero, Nat.ofDigitChars_ten_toDigits]
  intro m n h
  rw [← value m, h, value n]

theorem Hex.digit?_upper : ∀ n < 16, digit? (Nat.digitChar n).toUpper = some n := by decide

theorem Hex.isAlphanum_of_mem_upper {b : UInt8} {x : Char} (h : x ∈ upper b) : x.isAlphanum = true := by
  have digit : ∀ n < 16, (Nat.digitChar n).toUpper.isAlphanum = true := by decide
  have := b.toNat_lt
  simp only [upper, lower, List.map_cons, List.map_nil, List.mem_cons, List.not_mem_nil, or_false] at h
  rcases h with rfl | rfl
  · exact digit _ (by omega)
  · exact digit _ (by omega)

theorem Hex.upper_injective : Function.Injective upper := by
  intro a b h
  simp only [upper, lower, List.map_cons, List.map_nil, List.cons.injEq, and_true] at h
  have high := congrArg digit? h.1
  have low := congrArg digit? h.2
  have := a.toNat_lt
  have := b.toNat_lt
  rw [digit?_upper _ (by omega), digit?_upper _ (by omega), Option.some.injEq] at high low
  exact UInt8.toNat_inj.mp (by omega)

/-! ## Instructions as texts -/

namespace OpCode

/-- How the instruction that starts with a byte is shown. -/
def shown (b : UInt8) : String :=
  match ofByte? b with
  | some op => op.mnemonic
  | none => unknown b

theorem shown_of_some {b : UInt8} {op : OpCode} (h : ofByte? b = some op) : shown b = op.mnemonic := by
  rw [shown, h]

theorem shown_of_none {b : UInt8} (h : ofByte? b = none) : shown b = unknown b := by
  rw [shown, h]

theorem toList_unknown (b : UInt8) : (unknown b).toList = "unknown opcode 0x".toList ++ Hex.upper b :=
  String.toList_append.trans (congrArg _ String.toList_ofList)

theorem mnemonic_ne_unknown (op : OpCode) (b : UInt8) : op.mnemonic ≠ unknown b := by
  cases op
  intro h
  have first := congrArg (fun s => s.toList.head?) h
  simp only [toList_unknown] at first
  cases first

theorem shown_injective : Function.Injective shown := by
  intro a b h
  cases ha : ofByte? a with
  | some op =>
    rw [shown_of_some ha] at h
    cases hb : ofByte? b with
    | some op' =>
      cases op
      cases op'
      exact (toByte_of_ofByte? ha).symm.trans (toByte_of_ofByte? hb)
    | none => exact absurd (h.trans (shown_of_none hb)) (mnemonic_ne_unknown op b)
  | none =>
    rw [shown_of_none ha] at h
    cases hb : ofByte? b with
    | some op => exact absurd ((shown_of_some hb).symm.trans h.symm) (mnemonic_ne_unknown op a)
    | none =>
      have digits := String.toList_inj.mpr (h.trans (shown_of_none hb))
      rw [toList_unknown, toList_unknown, List.append_right_inj] at digits
      exact Hex.upper_injective digits

theorem newline_notMem_shown (b : UInt8) : '\n' ∉ (shown b).toList := by
  cases h : ofByte? b with
  | some op =>
    rw [shown_of_some h]
    cases op
    decide
  | none =>
    rw [shown_of_none h, toList_unknown]
    intro inside
    rcases List.mem_append.mp inside with inside | inside
    · exact absurd inside (by decide)
    · exact absurd (Hex.isAlphanum_of_mem_upper inside) (by decide)

/-- The last character of an instruction is a letter or a digit. -/
theorem exists_shown_eq (b : UInt8) : ∃ text last, (shown b).toList = text ++ [last] ∧ last.isAlphanum = true := by
  cases h : ofByte? b with
  | some op =>
    rw [shown_of_some h]
    cases op
    exact ⟨"OP_RETUR".toList, 'N', rfl, rfl⟩
  | none =>
    have digits : Hex.upper b = [(Nat.digitChar (b.toNat / 16)).toUpper] ++ [(Nat.digitChar (b.toNat % 16)).toUpper] :=
      rfl
    rw [shown_of_none h, toList_unknown, digits, ← List.append_assoc]
    exact ⟨_, _, rfl, Hex.isAlphanum_of_mem_upper (digits ▸ List.mem_append_right _ List.mem_cons_self)⟩

end OpCode

/-! ## Lines -/

namespace Chunk
variable {c c' : Chunk} {name name' : String}

/-- A line of a listing without its end. -/
def row (i : ℕ) (b : UInt8) : List Char := (Numeral.padded 4 i).toList ++ ' ' :: (OpCode.shown b).toList

theorem newline_notMem_row (i : ℕ) (b : UInt8) : '\n' ∉ row i b := by
  intro inside
  rcases List.mem_append.mp inside with inside | inside
  · exact absurd (Numeral.isDigit_of_mem_padded inside) (by decide)
  · rcases List.mem_cons.mp inside with inside | inside
    · exact absurd inside (by decide)
    · exact OpCode.newline_notMem_shown b inside

/-- The first blank of a line ends its offset. -/
theorem row_inj {i j : ℕ} {a b : UInt8} (h : row i a = row j b) : i = j ∧ a = b := by
  have blank (n : ℕ) : ' ' ∉ (Numeral.padded 4 n).toList := fun inside =>
    absurd (Numeral.isDigit_of_mem_padded inside) (by decide)
  obtain ⟨offset, text⟩ := append_cons_inj_left (blank i) (blank j) h
  exact ⟨Numeral.padded_injective 4 (String.toList_inj.mp offset), OpCode.shown_injective (String.toList_inj.mp text)⟩

/-- What stands before the closing bracket of a header, and the lines behind it. -/
def listed (front : List Char) (bytes : List UInt8) : List Char :=
  front ++ [')', '\n'] ++ (bytes.mapIdx fun i b => row i b ++ ['\n']).flatten

theorem listed_nil (front : List Char) : listed front [] = front ++ [')'] ++ ['\n'] := by simp [listed]

theorem listed_concat (front : List Char) (bytes : List UInt8) (b : UInt8) :
    listed front (bytes ++ [b]) = listed front bytes ++ row bytes.length b ++ ['\n'] := by
  simp [listed, List.mapIdx_concat]

theorem exists_listed_eq (front : List Char) (bytes : List UInt8) : ∃ text, listed front bytes = text ++ ['\n'] := by
  rcases bytes.eq_nil_or_concat with rfl | ⟨bytes, b, rfl⟩
  · exact ⟨_, listed_nil front⟩
  · rw [List.concat_eq_append]
    exact ⟨_, listed_concat front bytes b⟩

theorem listed_nil_ne_concat (front front' : List Char) (bytes : List UInt8) (b : UInt8) :
    listed front [] ≠ listed front' (bytes ++ [b]) := by
  intro h
  obtain ⟨text, last, shown, alphanum⟩ := OpCode.exists_shown_eq b
  rw [listed_nil, listed_concat, List.append_left_inj, row, shown, ← List.cons_append, ← List.append_assoc,
    ← List.append_assoc, List.append_singleton_inj] at h
  rw [← h.2] at alphanum
  cases alphanum

theorem listed_inj {front front' : List Char} {bytes bytes' : List UInt8} (h : listed front bytes = listed front' bytes') :
    front = front' ∧ bytes = bytes' := by
  induction bytes using List.reverseRecOn generalizing bytes' with
  | nil =>
    rcases bytes'.eq_nil_or_concat with rfl | ⟨rest', b', rfl⟩
    · rw [listed_nil, listed_nil, List.append_left_inj, List.append_left_inj] at h
      exact ⟨h, rfl⟩
    · rw [List.concat_eq_append] at h
      exact absurd h (listed_nil_ne_concat front front' rest' b')
  | append_singleton rest b ih =>
    rcases bytes'.eq_nil_or_concat with rfl | ⟨rest', b', rfl⟩
    · exact absurd h.symm (listed_nil_ne_concat front' front rest b)
    · rw [List.concat_eq_append] at h ⊢
      -- The break before the last line is the last one but its own.
      obtain ⟨text, lines⟩ := exists_listed_eq front rest
      obtain ⟨text', lines'⟩ := exists_listed_eq front' rest'
      rw [listed_concat, listed_concat, List.append_left_inj, lines, lines', List.append_assoc, List.append_assoc,
        List.singleton_append, List.singleton_append] at h
      obtain ⟨above, last⟩ := append_cons_inj_right (newline_notMem_row _ b) (newline_notMem_row _ b') h
      obtain ⟨fronts, rests⟩ := ih (lines.trans (above ▸ lines'.symm))
      exact ⟨fronts, by rw [rests, (row_inj last).2]⟩

/-! ## Listings -/

/-- The header of a listing up to its closing bracket. -/
def heading (name : String) (count capacity : ℕ) : List Char :=
  "== ".toList ++ name.toList ++ " == (count=".toList ++ Nat.toDigits 10 count ++ ", capacity".toList ++
    '=' :: Nat.toDigits 10 capacity

theorem heading_inj {count capacity capacity' : ℕ} (h : heading name count capacity = heading name' count capacity') :
    name = name' ∧ capacity = capacity' := by
  have digits (n : ℕ) : '=' ∉ Nat.toDigits 10 n := fun inside =>
    absurd (Nat.isDigit_of_mem_toDigits (by decide) (by decide) inside) (by decide)
  obtain ⟨front, number⟩ := append_cons_inj_right (digits capacity) (digits capacity') h
  rw [List.append_left_inj, List.append_left_inj, List.append_left_inj, List.append_right_inj] at front
  have value := congrArg (Nat.ofDigitChars 10 · 0) number
  simp only [Nat.ofDigitChars_ten_toDigits] at value
  exact ⟨String.toList_inj.mp front, value⟩

theorem toList_listedLine {i : ℕ} {b : UInt8} (h : c.get? i = some b) :
    (c.listedLine i).toList = row i b ++ ['\n'] := by
  have text : (c.instructionAt i).1 = OpCode.shown b := by
    simp only [instructionAt, h, OpCode.shown]
    cases OpCode.ofByte? b <;> rfl
  simp [listedLine, row, text]

theorem toList_header (name : String) (count capacity : ℕ) :
    (s!"== {name} == (count={count}, capacity={capacity})\n").toList = heading name count capacity ++ [')', '\n'] := by
  change ("== " ++ name ++ " == (count=" ++ toString count ++ ", capacity=" ++ toString capacity ++ ")\n").toList = _
  delta heading
  simp

theorem toList_listing (c : Chunk) (name : String) :
    (c.listing name).toList = listed (heading name c.toList.length c.capacity.toNat) c.toList := by
  have lines := map_offsetsFrom_zero (f := fun i => (c.listedLine i).toList) fun i b => toList_listedLine
  rw [listing, listFrom_eq, String.toList_append, String.toList_join, toList_header, listed, ← lines,
    ← List.flatMap_def, List.flatMap_map, Buffer.length_toList]

/-- A listing is that of one name and of one chunk, up to the rule by which the chunk grows. -/
theorem listing_eq_listing_iff (c c' : Chunk) (name name' : String) :
    c.listing name = c'.listing name' ↔ name = name' ∧ c.toList = c'.toList ∧ c.capacity = c'.capacity := by
  rw [← String.toList_inj, toList_listing, toList_listing]
  constructor
  · intro h
    obtain ⟨headings, bytes⟩ := listed_inj h
    rw [bytes] at headings
    obtain ⟨names, capacities⟩ := heading_inj headings
    exact ⟨names, bytes, UInt64.toNat_inj.mp capacities⟩
  · rintro ⟨names, bytes, capacities⟩
    rw [names, bytes, capacities]

end Chunk
end BytecodeStore
