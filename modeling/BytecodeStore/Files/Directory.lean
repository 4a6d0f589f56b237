/-! # Directories

A directory holds items under names, in the order in which the names came. An item is a file or a directory
again.
-/
namespace BytecodeStore

inductive Item where
  | file (content : Array UInt8)
  | directory (items : List (String × Item))

abbrev Directory := List (String × Item)

namespace Directory

def get? (name : String) : Directory → Option Item
  | [] => none
  | (n, item) :: rest => if name = n then some item else get? name rest

/-- Puts an item in the place of what lies under the name, or after all others. -/
def put (name : String) (item : Item) : Directory → Directory
  | [] => [(name, item)]
  | (n, old) :: rest => if name = n then (n, item) :: rest else (n, old) :: put name item rest

theorem get?_put (name : String) (item : Item) (d : Directory) (other : String) :
    (d.put name item).get? other = if other = name then some item else d.get? other := by
  fun_induction Directory.put name item d with
  | case1 => rfl
  | case2 => grind [get?]
  | case3 => grind [get?]

end Directory

end BytecodeStore
