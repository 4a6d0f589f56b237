import BytecodeStore.Files.Workspace

/-! # Hosts

A host is what a run reads from and writes to. A machine is a host that is a value: a workspace, the bytes on
its standard input, and what has been shown so far, on standard error line by line.
-/
namespace BytecodeStore

class Host (m : Type → Type) where
  readFile : (path : String) → m (Except FileError (Array UInt8))
  readStdin : m (Except FileError (Array UInt8))
  writeText : (path text : String) → m (Except WriteError Unit)
  /-- Shows a text on standard output. -/
  print : String → m Unit
  /-- Shows a text on standard error, and ends its last line. -/
  report : String → m Unit

structure Machine where
  workspace : Workspace
  stdin : Array UInt8 := #[]
  stdout : String := ""
  stderr : List String := []

namespace Machine

def print (w : Machine) (text : String) : Machine := { w with stdout := w.stdout ++ text }

/-- The lines of a text. A carriage return before the end of a line belongs to that end. -/
def linesOf (text : String) : List String :=
  (text.toList.splitOn '\n').map fun line =>
    String.ofList (if line.getLast? = some '\r' then line.dropLast else line)

def report (w : Machine) (text : String) : Machine := { w with stderr := w.stderr ++ linesOf text }

def writeText (w : Machine) (path text : String) : Except WriteError Unit × Machine :=
  let (result, workspace) := w.workspace.writeText (.ofString path) text
  (result, { w with workspace := workspace })

instance : Host (StateM Machine) where
  readFile path := fun w => (w.workspace.read (.ofString path), w)
  readStdin := fun w => (.ok w.stdin, w)
  writeText path text := fun w => w.writeText path text
  print text := fun w => ((), w.print text)
  report text := fun w => ((), w.report text)

end Machine

end BytecodeStore
