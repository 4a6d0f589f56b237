import BytecodeStore.Files.Workspace
import BytecodeStore.Proofs.Results

/-! # Writing files

Where a path leads is settled by the entries of a tree, and stays while directories are only added. Making directories
adds directories and nothing else. So a text that is written is read back under the same path, and no other file
changes; a text that cannot be written leaves all files as they are.
-/
namespace BytecodeStore

namespace Tree
variable {t t' : Tree}

/-- Where pieces of a path lead, from location to location. -/
def reach (t : Tree) : Location → List String → Except FileError Location
  | here, [] => .ok here
  | here, piece :: rest =>
    if Path.isIdle piece then t.reach here rest
    else if piece = ".." then t.reach here.tail rest
    else if piece.utf8ByteSize > maxNameBytes then .error .nameTooLong
    else
      match t.entry (piece :: here) with
      | none => .error .notFound
      | some (.file _) => .error .notDirectory
      | some .directory => t.reach (piece :: here) rest

theorem Spot.map_walk (s : t.Spot) (pieces : List String) :
    (s.walk pieces).map Spot.location = t.reach s.location pieces := by
  induction pieces generalizing s with
  | nil => rfl
  | cons piece rest ih =>
    rw [Spot.walk, reach]
    split
    · exact ih s
    split
    · rw [ih, Spot.location_around]
    split
    · rfl
    rw [s.entry_cons_location]
    split
    · rename_i found
      rw [found]
      rfl
    · rename_i found
      rw [found]
      rfl
    · rename_i found
      have entry : (s.get? piece).map Item.node = some .directory := by
        rw [found]
        rfl
      rw [ih, entry]
      rfl

theorem reach_mono (grown : ∀ l, t.entry l = some .directory → t'.entry l = some .directory) {here there : Location}
    {pieces : List String} (h : t.reach here pieces = .ok there) : t'.reach here pieces = .ok there := by
  induction pieces generalizing here with
  | nil => exact h
  | cons piece rest ih =>
    rw [reach] at h ⊢
    split at h
    · rw [if_pos ‹_›]
      exact ih h
    rw [if_neg ‹_›]
    split at h
    · rw [if_pos ‹_›]
      exact ih h
    rw [if_neg ‹_›]
    split at h
    · cases h
    rw [if_neg ‹_›]
    split at h
    · cases h
    · cases h
    · rename_i found
      rw [grown _ found]
      exact ih h

end Tree

namespace Workspace
variable {w v u : Workspace} {p : Path} {content : Array UInt8}

theorem screen_piece {name : String} (clean : '\x00' ∉ name.toList) (short : name.utf8ByteSize ≤ maxPathBytes) :
    screen ⟨false, [name]⟩ = .ok () := by
  simp [screen, Path.isEmpty, Path.toString, clean, Nat.not_lt_of_le short]

/-- Where a path begins. -/
def origin (w : Workspace) (p : Path) : Location := if p.absolute then [] else w.home

theorem location_start (w : Workspace) (p : Path) : (w.start p).location = w.origin p := by
  unfold start origin
  split
  · rfl
  · exact (w.tree.spot w.home w.home_directory).2

theorem map_walk (w : Workspace) (p : Path) (pieces : List String) :
    (w.walk p pieces).map Tree.Spot.location = w.tree.reach (w.origin p) pieces := by
  rw [walk, Tree.Spot.map_walk, location_start]

theorem reach_of_walk {pieces : List String} {s : w.tree.Spot} (h : w.walk p pieces = .ok s) :
    w.tree.reach (w.origin p) pieces = .ok s.location := by
  rw [← map_walk, h]
  rfl

theorem walk_of_reach {pieces : List String} {l : Location} (h : w.tree.reach (w.origin p) pieces = .ok l) :
    ∃ s, w.walk p pieces = .ok s ∧ s.location = l := by
  rw [← map_walk] at h
  cases found : w.walk p pieces with
  | error e =>
    rw [found] at h
    cases h
  | ok s =>
    rw [found] at h
    exact ⟨s, rfl, Except.ok.inj h⟩

/-- The location of the file that a path names. -/
def place? (w : Workspace) (p : Path) : Option Location :=
  match p.ending with
  | .place _ => none
  | .named directory name _ =>
    match w.tree.reach (w.origin p) directory with
    | .error _ => none
    | .ok around => some (name :: around)

/-! ## Making directories -/

/-- A workspace that has some more directories, each where nothing was. -/
structure Extends (w v : Workspace) : Prop where
  home_eq : v.home = w.home
  entry_eq : ∀ l, v.tree.entry l = w.tree.entry l ∨ (w.tree.entry l = none ∧ v.tree.entry l = some .directory)

theorem Extends.refl (w : Workspace) : Extends w w := ⟨rfl, fun _ => .inl rfl⟩

theorem Extends.trans (h : Extends w v) (h' : Extends v u) : Extends w u := by
  refine ⟨h'.home_eq.trans h.home_eq, fun l => ?_⟩
  rcases h'.entry_eq l with same | ⟨nothing, made⟩
  · rw [same]
    exact h.entry_eq l
  · rcases h.entry_eq l with same | ⟨_, made'⟩
    · exact .inr ⟨same.symm.trans nothing, made⟩
    · rw [nothing] at made'
      cases made'

theorem Extends.file_iff (h : Extends w v) (l : Location) (c : Array UInt8) :
    v.tree.entry l = some (.file c) ↔ w.tree.entry l = some (.file c) := by
  rcases h.entry_eq l with same | ⟨nothing, made⟩
  · rw [same]
  · rw [nothing, made]
    exact ⟨nofun, nofun⟩

theorem extends_put {s : w.tree.Spot} {name : String} (nothing : w.tree.entry (name :: s.location) = none)
    (free : w.tree.entry (name :: s.location) ≠ some .directory) : Extends w (w.put s name .directory free) := by
  refine ⟨rfl, fun l => ?_⟩
  rw [put, Tree.entry_put _ free]
  split
  · rename_i here
    exact .inr ⟨here ▸ nothing, rfl⟩
  · exact .inl rfl

theorem extends_makeDirectory (h : w.makeDirectory p = .ok v) : Extends w v := by
  unfold makeDirectory at h
  obtain ⟨_, _, h⟩ := ok_of_bind h
  split at h
  · obtain ⟨_, _, h⟩ := ok_of_bind h
    cases h
  · obtain ⟨around, _, h⟩ := ok_of_bind h
    obtain ⟨_, _, h⟩ := ok_of_bind h
    split at h
    · cases h
    · rename_i nothing
      cases h
      refine extends_put ?_ _
      rw [around.entry_cons_location, nothing]
      rfl

/-- Along the directories that are made, from the outermost one on. -/
theorem extends_makeDirectories (w : Workspace) (p : Path) : Extends w (w.makeDirectories p).2 := by
  fun_induction makeDirectories w p with
  | case1 => exact .refl w
  | case2 _ _ made h => exact extends_makeDirectory h
  | case3 => exact .refl w
  | case4 _ _ _ _ _ _ _ _ above ih | case6 _ _ _ _ _ _ _ above _ _ _ ih | case7 _ _ _ _ _ _ _ above _ _ _ ih =>
    rw [above] at ih
    exact ih
  | case5 _ _ _ _ _ _ _ above made h ih =>
    rw [above] at ih
    exact ih.trans (extends_makeDirectory h)
  | case8 => exact .refl w
  | case9 => exact .refl w

theorem extends_makeDirectoriesAround (w : Workspace) (p : Path) : Extends w (w.makeDirectoriesAround p).2 := by
  unfold makeDirectoriesAround
  split
  · exact .refl w
  · exact extends_makeDirectories w _

/-! ## Writing a file -/

/-- A workspace in which the file that a path names has a content, and in which no other entry changed. -/
structure Filled (w v : Workspace) (p : Path) (content : Array UInt8) (l : Location) : Prop where
  home_eq : v.home = w.home
  place_eq : v.place? p = some l
  free : w.tree.entry l ≠ some .directory
  entry_eq : ∀ other, v.tree.entry other = if other = l then some (.file content) else w.tree.entry other
  read_eq : v.read p = .ok content

/-- A file is put only where no directory is, so the way to it does not change. -/
theorem filled_put {directory : List String} {name : String} {s : w.tree.Spot} (screened : screen p = .ok ())
    (ending : p.ending = .named directory name false) (reached : w.walk p directory = .ok s)
    (named : checkName name = .ok ()) (free : w.tree.entry (name :: s.location) ≠ some .directory) :
    Filled w (w.put s name (.file content) free) p content (name :: s.location) := by
  let v := w.put s name (.file content) free
  have entry (other : Location) :
      v.tree.entry other = if other = name :: s.location then some (.file content) else w.tree.entry other :=
    Tree.entry_put _ free other
  have kept (l : Location) (h : w.tree.entry l = some .directory) : v.tree.entry l = some .directory := by
    rw [entry]
    split
    · rename_i here
      exact absurd (here ▸ h) free
    · exact h
  have way : v.tree.reach (v.origin p) directory = .ok s.location := Tree.reach_mono kept (reach_of_walk reached)
  refine ⟨rfl, ?_, free, entry, ?_⟩
  · unfold place?
    rw [ending]
    dsimp only
    rw [way]
  · obtain ⟨s', walked, same⟩ := walk_of_reach way
    have there : (s'.get? name).map Item.node = some (.file content) := by
      rw [← s'.entry_cons_location, same, entry, if_pos rfl]
    cases found : s'.get? name with
    | none =>
      rw [found] at there
      cases there
    | some item =>
      rw [found] at there
      cases item with
      | directory d => cases there
      | file c =>
        cases there
        change v.read p = _
        unfold read
        rw [screened, ending]
        simp only [walked, named, found, bind, Except.bind]
        rfl

theorem filled_of_writeFile (h : w.writeFile p content = .ok v) : ∃ l, Filled w v p content l := by
  unfold writeFile at h
  obtain ⟨⟨⟩, screened, h⟩ := ok_of_bind h
  split at h
  · obtain ⟨_, _, h⟩ := ok_of_bind h
    cases h
  · rename_i directory name slash ending
    obtain ⟨around, reached, h⟩ := ok_of_bind h
    cases slash with
    | true => cases h
    | false =>
      obtain ⟨⟨⟩, named, h⟩ := ok_of_bind h
      split at h
      · cases h
      · cases h
        exact ⟨_, filled_put screened ending reached named _⟩
      · cases h
        exact ⟨_, filled_put screened ending reached named _⟩

/-! ## Writing a text -/

/-- Two workspaces hold the same files with the same content. -/
def SameFiles (w v : Workspace) : Prop := ∀ l c, v.tree.entry l = some (.file c) ↔ w.tree.entry l = some (.file c)

/-- In `v` the path names a file with this content, and all other files are those of `w`. -/
structure Written (w v : Workspace) (p : Path) (content : Array UInt8) : Prop where
  read_eq : v.read p = .ok content
  only : ∃ l, v.place? p = some l ∧ v.tree.entry l = some (.file content) ∧
    ∀ other, other ≠ l → ∀ c, v.tree.entry other = some (.file c) ↔ w.tree.entry other = some (.file c)

theorem Filled.written {l : Location} (h : Filled v u p content l) (before : Extends w v) : Written w u p content := by
  refine ⟨h.read_eq, l, h.place_eq, by rw [h.entry_eq, if_pos rfl], fun other hne c => ?_⟩
  rw [h.entry_eq, if_neg hne]
  exact before.file_iff other c

/-- A text is written, or no file is different from before. -/
theorem writeText_cases (w : Workspace) (p : Path) (text : String) :
    (∃ v, w.writeText p text = (.ok (), v) ∧ Written w v p text.toUTF8.data) ∨
      ∃ e v, w.writeText p text = (.error e, v) ∧ SameFiles w v := by
  have before := extends_makeDirectoriesAround w p
  unfold writeText
  rcases made : w.makeDirectoriesAround p with ⟨e | _, after⟩ <;> rw [made] at before <;> dsimp only at before ⊢
  · exact .inr ⟨_, after, rfl, before.file_iff⟩
  · cases h : after.writeFile p text.toUTF8.data with
    | error e => exact .inr ⟨_, after, rfl, before.file_iff⟩
    | ok v =>
      obtain ⟨l, filled⟩ := filled_of_writeFile h
      exact .inl ⟨v, rfl, filled.written before⟩

end Workspace

end BytecodeStore
