import BytecodeStore.Bytecode.OpCode
import BytecodeStore.Text.Numeral

/-! # Workloads

Code to measure a store with, and the numbers that such a measurement takes from its environment.
-/
namespace BytecodeStore.Workload

def sizes : List Nat := [16, 256, 1024, 16 * 1024, 64 * 1024]

def payload (length : Nat) : Array UInt8 := Array.replicate length OpCode.ret.toByte

/-- The number in a setting, or the default where there is none or it is no numeral. -/
def number (setting : Option String) (default : UInt64) : UInt64 :=
  match setting.map Numeral.parse with
  | some (.ok n) => n
  | _ => default

end BytecodeStore.Workload
