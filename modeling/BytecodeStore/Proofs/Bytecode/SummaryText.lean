import BytecodeStore.Bytecode.Summary
import BytecodeStore.Proofs.Bytecode.Walk
import BytecodeStore.Proofs.Json.Writing

/-! # What a summary tells of its chunk

Both texts of a summary stand for one value, the one that is spelled out in `Chunk.decoded`. Its name is the given one,
whatever characters that has, and the bytes of its instructions are the code. So nothing of the chunk is lost.
-/
namespace BytecodeStore
open Json

def Line.decoded (line : Line) : Value :=
  .object [(some "offset", .natural line.offset), (some "byte", .natural line.byte.toNat),
    (some "text", .string (some line.text))]

theorem Line.value_toJson (line : Line) : line.toJson.value = line.decoded := by
  simp [Line.toJson, Line.decoded, Json.value, memberValues_eq_map]

theorem Line.decoded_injective : Function.Injective Line.decoded := by
  intro line line' h
  simp only [Line.decoded, Value.object.injEq, List.cons.injEq, Prod.mk.injEq, Value.natural.injEq, Value.string.injEq,
    Option.some.injEq, true_and, and_true] at h
  obtain ⟨offset, byte, text⟩ := h
  obtain ⟨o, b, t⟩ := line
  obtain rfl := UInt8.toNat_inj.mp byte
  subst offset text
  rfl

namespace Chunk

/-- What a summary stands for. There is an error if and only if the chunk is not valid. -/
def decoded (c : Chunk) (name : String) (error : Option String) : Value :=
  .object <|
    [(some "name", .string (some name)), (some "count", .natural c.count), (some "capacity", .natural c.capacity.toNat),
      (some "policy", .object
        [(some "minimum", .natural c.rule.minimum.toNat), (some "factor", .natural c.rule.factor.toNat)]),
      (some "valid", .bool error.isNone)] ++
    (error.map fun e => (some "error", Value.string (some e))).toList ++
    [(some "instructions", .array (c.lines.map Line.decoded))]

theorem map_byte_lines (c : Chunk) : c.lines.map Line.byte = c.toList := by
  rw [lines_eq]
  apply List.ext_getElem <;> simp

theorem value_summary (c : Chunk) (name : String) :
    (c.summary name).toJson.value = c.decoded name (c.fault?.map DecodeError.message) := by
  have lines : c.lines.map (fun line => line.toJson.value) = c.lines.map Line.decoded :=
    List.map_congr_left fun line _ => line.value_toJson
  cases fault : c.fault? <;>
    simp [summary, Summary.toJson, Summary.valid, Doubling.toJson, decoded, Json.value, itemValues_eq_map,
      memberValues_eq_map, fault, Function.comp_def, lines]

theorem decoded_inj {c c' : Chunk} {name name' : String} {error error' : Option String}
    (h : c.decoded name error = c'.decoded name' error') :
    name = name' ∧ c.toList = c'.toList ∧ c.capacity = c'.capacity ∧ c.rule = c'.rule := by
  obtain ⟨front, back⟩ := List.append_inj' (Value.object.inj h) rfl
  simp only [List.cons_append, List.cons.injEq, Prod.mk.injEq, Value.string.injEq, Value.natural.injEq,
    Value.object.injEq, Option.some.injEq, UInt64.toNat_inj, true_and, and_true] at front
  simp only [List.cons.injEq, Prod.mk.injEq, Value.array.injEq, true_and, and_true] at back
  obtain ⟨names, -, capacities, ⟨minimums, factors⟩, -⟩ := front
  have lines := List.map_injective_iff.mpr Line.decoded_injective back
  refine ⟨names, ?_, capacities, ?_⟩
  · rw [← map_byte_lines, lines, map_byte_lines]
  · change (⟨c.rule.minimum, c.rule.factor⟩ : Doubling) = ⟨c'.rule.minimum, c'.rule.factor⟩
    rw [minimums, factors]

theorem fault?_eq_none_iff (c : Chunk) : c.fault? = none ↔ c.check = .ok () := by
  unfold fault?
  cases c.check <;> simp

/-- A summary and its chunk determine each other, in each layout of the text. -/
theorem summary_text_eq_iff {write : Json → String} (stands : ∀ j v, Stands (write j) v ↔ v = j.value) (c c' : Chunk)
    (name name' : String) :
    write (c.summary name).toJson = write (c'.summary name').toJson ↔
      name = name' ∧ c.toList = c'.toList ∧ c.capacity = c'.capacity ∧ c.rule = c'.rule := by
  constructor
  · intro h
    have value := (stands _ _).mpr (rfl : (c.summary name).toJson.value = _)
    rw [h, stands, value_summary, value_summary] at value
    exact decoded_inj value
  · rintro ⟨rfl, bytes, capacity, rule⟩
    rw [Buffer.ext_toList bytes capacity rule]

/-- Both texts of a summary are decoded to the same value, and each determines the name and the chunk. -/
theorem summary_decodes (c c' : Chunk) (name name' : String) :
    (∃ error : Option String, (error = none ↔ c.check = .ok ()) ∧ ∀ v,
      (Stands (c.summary name).toJson.compact v ↔ v = c.decoded name error) ∧
      (Stands (c.summary name).toJson.pretty v ↔ v = c.decoded name error)) ∧
    c.lines.map Line.byte = c.toList ∧
    ((c.summary name).toJson.compact = (c'.summary name').toJson.compact ↔
      name = name' ∧ c.toList = c'.toList ∧ c.capacity = c'.capacity ∧ c.rule = c'.rule) ∧
    ((c.summary name).toJson.pretty = (c'.summary name').toJson.pretty ↔
      name = name' ∧ c.toList = c'.toList ∧ c.capacity = c'.capacity ∧ c.rule = c'.rule) := by
  refine ⟨⟨c.fault?.map DecodeError.message, ?_, fun v => ?_⟩, c.map_byte_lines,
    summary_text_eq_iff stands_compact_iff c c' name name', summary_text_eq_iff stands_pretty_iff c c' name name'⟩
  · rw [Option.map_eq_none_iff, fault?_eq_none_iff]
  · rw [← value_summary]
    exact ⟨stands_compact_iff _ v, stands_pretty_iff _ v⟩

end Chunk
end BytecodeStore
