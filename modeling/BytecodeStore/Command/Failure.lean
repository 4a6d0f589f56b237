import BytecodeStore.Bytecode.Decode
import BytecodeStore.Bytecode.Load
import BytecodeStore.Files.Workspace

/-! # Why a run fails

A failure is reported as a chain: what was being done, from the outside in, and last the cause.
-/
namespace BytecodeStore

inductive Failure where
  | noInput
  | sharedStdin
  | sharedOutput
  | unreadableStdin (cause : FileError)
  | unreadable (name : String) (cause : FileError)
  | notLoaded (name : String) (cause : LoadError)
  | noDemo (cause : GrowthError)
  | invalid (name : String) (cause : DecodeError)
  | notWritten (path : String) (cause : WriteError)
deriving DecidableEq, Repr

namespace Failure

def chain : Failure → List String
  | .noInput => ["aucune entrée. Exemple: poke-disasm a.bin (ou --demo)"]
  | .sharedStdin => ["'-' (stdin) doit être l’unique entrée"]
  | .sharedOutput => ["--emit n’accepte qu’une seule entrée"]
  | .unreadableStdin cause => ["lecture stdin", cause.message]
  | .unreadable name cause => [s!"lecture échouée: {name}", cause.message]
  | .notLoaded name cause => s!"chargement échoué: {name}" :: cause.chain
  | .noDemo cause => [cause.message]
  | .invalid name cause => [s!"chunk invalide: {name}", cause.message]
  | .notWritten _ (.directory cause) => [cause.message]
  | .notWritten path (.create cause) => [s!"création {path}", cause.message]

def message (f : Failure) : String := ": ".intercalate f.chain

end Failure

end BytecodeStore
