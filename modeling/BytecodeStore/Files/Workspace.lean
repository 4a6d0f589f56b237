import BytecodeStore.Files.Error
import BytecodeStore.Files.Path
import BytecodeStore.Files.Tree

/-! # Workspaces

A workspace is a directory tree with one directory to work in, from which relative paths start. Reading changes
nothing. Writing a text makes the directories around it first; a write that fails changes the content of no file,
but the directories that were made stay.
-/
namespace BytecodeStore

structure Workspace where
  tree : Tree
  home : Location
  home_directory : tree.entry home = some .directory

/-- The longest path, in bytes, that is looked up. -/
def maxPathBytes : Nat := 4095

/-- The longest name, in bytes, that a directory holds. -/
def maxNameBytes : Nat := 255

/-- Why a text was not written: no directory for it, or no file. -/
inductive WriteError where
  | directory (cause : FileError)
  | create (cause : FileError)
deriving DecidableEq, Repr

/-- The directory that pieces of a path lead to. -/
def Tree.Spot.walk {t : Tree} (here : t.Spot) : List String → Except FileError t.Spot
  | [] => .ok here
  | piece :: rest =>
    if Path.isIdle piece then here.walk rest
    else if piece = ".." then here.around.walk rest
    else if piece.utf8ByteSize > maxNameBytes then .error .nameTooLong
    else
      match found : here.get? piece with
      | none => .error .notFound
      | some (.file _) => .error .notDirectory
      | some (.directory _) => (here.into piece found).walk rest

namespace Workspace

/-- The workspace with a node put into its tree. -/
def put (w : Workspace) (s : w.tree.Spot) (name : String) (node : Node)
    (free : w.tree.entry (name :: s.location) ≠ some .directory) : Workspace where
  tree := w.tree.put s name node
  home := w.home
  home_directory := by
    rw [Tree.entry_put node free]
    split
    · rename_i h
      exact absurd (h ▸ w.home_directory) free
    · exact w.home_directory

/-- The tree with nothing but a directory to work in, and those around it. -/
def bare : (home : Location) → Workspace
  | [] => ⟨.empty, [], rfl⟩
  | name :: around =>
    let outer := bare around
    let here := outer.tree.spot outer.home outer.home_directory
    if h : outer.tree.entry (name :: here.1.location) = some .directory then ⟨outer.tree, _, h⟩
    else ⟨outer.tree.put here.1 name .directory, name :: here.1.location, by rw [Tree.entry_put _ h, if_pos rfl]⟩

def start (w : Workspace) (p : Path) : w.tree.Spot :=
  if p.absolute then .root w.tree else (w.tree.spot w.home w.home_directory).1

/-- Paths that are refused before anything is looked up. -/
def screen (p : Path) : Except FileError Unit :=
  if p.pieces.any (·.contains '\x00') then .error .nulByte
  else if p.isEmpty then .error .notFound
  else if p.toString.utf8ByteSize > maxPathBytes then .error .nameTooLong
  else .ok ()

/-- The directory that pieces of a path lead to. -/
def walk (w : Workspace) (p : Path) (pieces : List String) : Except FileError w.tree.Spot := (w.start p).walk pieces

def checkName (name : String) : Except FileError Unit :=
  if name.utf8ByteSize > maxNameBytes then .error .nameTooLong else .ok ()

def read (w : Workspace) (p : Path) : Except FileError (Array UInt8) := do
  screen p
  match p.ending with
  | .place pieces =>
    let _ ← w.walk p pieces
    .error .isDirectory
  | .named directory name slash =>
    let around ← w.walk p directory
    checkName name
    match around.get? name with
    | none => .error .notFound
    | some (.directory _) => .error .isDirectory
    | some (.file content) => if slash then .error .notDirectory else .ok content

def isDirectory (w : Workspace) (p : Path) : Bool :=
  match screen p with
  | .error _ => false
  | .ok () =>
    match w.walk p p.pieces with
    | .error _ => false
    | .ok _ => true

def makeDirectory (w : Workspace) (p : Path) : Except FileError Workspace := do
  screen p
  match p.ending with
  | .place pieces =>
    let _ ← w.walk p pieces
    .error .alreadyExists
  | .named directory name _ =>
    let around ← w.walk p directory
    checkName name
    match h : around.get? name with
    | some _ => .error .alreadyExists
    | none => .ok (w.put around name .directory (by simp [around.entry_cons_location, h]))

/-- Makes a directory and those around it, as far as they are missing. -/
def makeDirectories (w : Workspace) (p : Path) : Except FileError Unit × Workspace :=
  if p.isEmpty then (.ok (), w)
  else
    match w.makeDirectory p with
    | .ok made => (.ok (), made)
    | .error .notFound =>
      match h : p.parent? with
      | none => (.error .notFound, w)
      | some parent =>
        have := Path.length_parent?_lt h
        match makeDirectories w parent with
        | (.error e, after) => (.error e, after)
        | (.ok (), after) =>
          match after.makeDirectory p with
          | .ok made => (.ok (), made)
          | .error e => if after.isDirectory p then (.ok (), after) else (.error e, after)
    | .error e => if w.isDirectory p then (.ok (), w) else (.error e, w)
termination_by p.pieces.length

/-- Makes the directories that a path names before its last step. -/
def makeDirectoriesAround (w : Workspace) (p : Path) : Except FileError Unit × Workspace :=
  match p.parent? with
  | none => (.ok (), w)
  | some parent => w.makeDirectories parent

/-- Makes or empties a file and fills it. -/
def writeFile (w : Workspace) (p : Path) (content : Array UInt8) : Except FileError Workspace := do
  screen p
  match p.ending with
  | .place pieces =>
    let _ ← w.walk p pieces
    .error .isDirectory
  | .named directory name slash =>
    let around ← w.walk p directory
    if slash then .error .isDirectory
    else
      checkName name
      match h : around.get? name with
      | some (.directory _) => .error .isDirectory
      | some (.file _) => .ok (w.put around name (.file content) (by simp [around.entry_cons_location, h, Item.node]))
      | none => .ok (w.put around name (.file content) (by simp [around.entry_cons_location, h]))

/-- Writes a text to a file, and makes the directories around it where they are missing. -/
def writeText (w : Workspace) (p : Path) (text : String) : Except WriteError Unit × Workspace :=
  match w.makeDirectoriesAround p with
  | (.error e, after) => (.error (.directory e), after)
  | (.ok (), after) =>
    match after.writeFile p text.toUTF8.data with
    | .error e => (.error (.create e), after)
    | .ok written => (.ok (), written)

end Workspace

end BytecodeStore
