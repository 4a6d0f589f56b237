import BytecodeStore.Command.Run

/-! # The command

The process as a host, and the entry point.
-/
namespace BytecodeStore.Console

def fileError : IO.Error → FileError
  | .noFileOrDirectory _ _ _ => .notFound
  | .alreadyExists _ _ _ => .alreadyExists
  | .inappropriateType _ code _ => if code = 20 then .notDirectory else .isDirectory
  | e => .other (toString e)

def attempt {α : Type} (action : IO α) : IO (Except FileError α) := do
  match ← action.toBaseIO with
  | .ok a => return .ok a
  | .error e => return .error (fileError e)

partial def readAll (stream : IO.FS.Stream) (sofar : ByteArray) : IO ByteArray := do
  let part ← stream.read 65536
  if part.isEmpty then return sofar else readAll stream (sofar ++ part)

def makeDirectoriesAround (path : Path) : IO Unit :=
  match path.parent? with
  | none => pure ()
  | some parent => if parent.isEmpty then pure () else IO.FS.createDirAll parent.toString

instance : Host IO where
  readFile path := attempt do return (← IO.FS.readBinFile path).data
  readStdin := attempt do return (← readAll (← IO.getStdin) .empty).data
  writeText path text := do
    match ← attempt (makeDirectoriesAround (.ofString path)) with
    | .error e => return .error (.directory e)
    | .ok () =>
      match ← attempt (IO.FS.writeFile path text) with
      | .error e => return .error (.create e)
      | .ok () => return .ok ()
  print text := IO.print text
  report text := IO.eprintln text

end BytecodeStore.Console

def main (words : List String) : IO UInt32 := do
  let env : BytecodeStore.Environment := { filter := ← IO.getEnv "RUST_LOG" }
  let exit ← BytecodeStore.Run.command env words
  return exit.code
