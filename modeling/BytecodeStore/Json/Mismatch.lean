import BytecodeStore.Decimal.Shortest
import BytecodeStore.Json.Parsed
import BytecodeStore.Text.Quoted

/-! # How a refused value is reported -/
namespace BytecodeStore.Json

def Found.message : Found → String
  | .null => "null"
  | .bool b => "boolean `" ++ toString b ++ "`"
  | .integer n => "integer `" ++ toString n ++ "`"
  | .decimal negative x => "floating point `" ++ (if negative then "-" else "") ++ x.text ++ "`"
  | .string s => "string " ++ Quoted.encode s
  | .sequence => "sequence"
  | .map => "map"

def Mismatch.message : Mismatch → String
  | .invalidType found expected => s!"invalid type: {found.message}, expected {expected}"
  | .invalidValue found expected => s!"invalid value: {found.message}, expected {expected}"
  | .duplicateField name => "duplicate field `" ++ name ++ "`"

end BytecodeStore.Json
