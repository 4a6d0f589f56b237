import BytecodeStore.Proofs.Files.Writing
import Mathlib.Data.Nat.Notation

/-! # Making the directories of a path

A directory that is made lies where a prefix of the path leads, and afterwards the path leads to a directory. Making the
directories of a path once more changes nothing, whether it succeeded or stopped on the way.
-/
namespace BytecodeStore

/-! ## Parts of paths -/

namespace Path
variable {p q : Path} {pieces directory : List String} {name : String} {slash : Bool} {drop : String → Bool}

theorem dropLastWhile_append {front trailing : List String} (h : ∀ piece ∈ trailing, drop piece = true) :
    dropLastWhile drop (front ++ trailing) = dropLastWhile drop front := by
  rw [dropLastWhile, List.reverse_append, List.dropWhile_append_of_pos (by simpa using h), dropLastWhile]

theorem exists_append_dropLastWhile (drop : String → Bool) (pieces : List String) :
    ∃ trailing, pieces = dropLastWhile drop pieces ++ trailing ∧ ∀ piece ∈ trailing, drop piece = true := by
  refine ⟨(pieces.reverse.takeWhile drop).reverse, ?_, fun piece h => ?_⟩
  · rw [dropLastWhile, ← List.reverse_append, List.takeWhile_append_dropWhile, List.reverse_reverse]
  · exact List.all_eq_true.mp List.all_takeWhile piece (List.mem_reverse.mp h)

theorem prefix_dropLastWhile (drop : String → Bool) (pieces : List String) : dropLastWhile drop pieces <+: pieces := by
  obtain ⟨trailing, parts, -⟩ := exists_append_dropLastWhile drop pieces
  exact ⟨trailing, parts.symm⟩

theorem of_getLast?_dropLastWhile {last : String} (h : (dropLastWhile drop pieces).getLast? = some last) :
    drop last = false := by
  rw [dropLastWhile, List.getLast?_reverse] at h
  have first := List.head?_dropWhile_not drop pieces.reverse
  rwa [h] at first

theorem steps_prefix (p : Path) : p.steps <+: p.pieces := by
  unfold steps
  split
  · exact prefix_dropLastWhile _ _
  split
  · exact List.nil_prefix
  · rename_i first rest parts
    rw [parts]
    exact List.cons_prefix_cons.mpr ⟨rfl, prefix_dropLastWhile _ _⟩

/-- What is idle at the end of a path names no step, unless it is its beginning. -/
theorem length_steps_of_append {front trailing : List String} (parts : p.pieces = front ++ trailing) (h : front ≠ [])
    (idle : ∀ piece ∈ trailing, isIdle piece = true) : p.steps.length ≤ front.length := by
  unfold steps
  rw [parts]
  split
  · rw [dropLastWhile_append idle]
    exact length_dropLastWhile_le _ _
  · obtain ⟨first, rest, rfl⟩ := List.exists_cons_of_ne_nil h
    rw [List.cons_append]
    dsimp only
    rw [dropLastWhile_append idle]
    exact Nat.succ_le_succ (length_dropLastWhile_le _ _)

/-- What the parent of a path is. -/
structure Above (q p : Path) : Prop where
  absolute_eq : q.absolute = p.absolute
  prefix_pieces : q.pieces <+: p.pieces
  length_lt : q.pieces.length < p.steps.length

theorem above_of_parent? (h : p.parent? = some q) : Above q p := by
  unfold parent? at h
  split at h
  · cases h
  rename_i some
  cases h
  have front := steps_prefix ⟨p.absolute, p.steps.dropLast⟩
  refine ⟨rfl, front.trans ((List.dropLast_prefix _).trans p.steps_prefix), Nat.lt_of_le_of_lt front.length_le ?_⟩
  rw [List.length_dropLast]
  have : p.steps.length ≠ 0 := fun none => some (List.isEmpty_iff.mpr (List.eq_nil_of_length_eq_zero none))
  omega

theorem ending_place (h : p.ending = .place pieces) :
    ∃ trailing, p.pieces = pieces ++ trailing ∧ ∀ piece ∈ trailing, piece = "" := by
  obtain ⟨trailing, parts, blank⟩ := exists_append_dropLastWhile (· == "") p.pieces
  refine ⟨trailing, ?_, fun piece h => beq_iff_eq.mp (blank piece h)⟩
  unfold ending at h
  dsimp only at h
  split at h
  · rename_i none
    cases h
    rw [List.getLast?_eq_none_iff.mp none] at parts
    exact parts
  · split at h
    · cases h
      exact parts
    · cases h

/-- A path that ends at a name, with slashes behind it. -/
structure EndsAt (p : Path) (directory : List String) (name : String) : Prop where
  parts : ∃ trailing, p.pieces = directory ++ name :: trailing ∧ ∀ piece ∈ trailing, piece = ""
  step : isIdle name = false
  down : name ≠ ".."

theorem endsAt_of_ending (h : p.ending = .named directory name slash) : EndsAt p directory name := by
  obtain ⟨trailing, parts, blank⟩ := exists_append_dropLastWhile (· == "") p.pieces
  unfold ending at h
  dsimp only at h
  split at h
  · cases h
  rename_i last found
  have step := of_getLast?_dropLastWhile found
  split at h
  · cases h
  rename_i plain
  cases h
  obtain ⟨front, whole⟩ := List.getLast?_eq_some_iff.mp found
  rw [whole] at parts ⊢
  refine ⟨⟨trailing, ?_, fun piece h => beq_iff_eq.mp (blank piece h)⟩, ?_, fun up => plain (.inr up)⟩
  · rw [parts, List.dropLast_concat, List.append_assoc, List.singleton_append]
  · simp only [isIdle, step, Bool.false_or, beq_eq_false_iff_ne]
    exact fun dot => plain (.inl dot)

/-- The parent of a path that ends at a name does not reach as far as the name. -/
theorem EndsAt.prefix_above (h : EndsAt p directory name) (above : Above q p) : q.pieces <+: directory := by
  obtain ⟨trailing, parts, blank⟩ := h.parts
  have whole : p.pieces = (directory ++ [name]) ++ trailing := by simp [parts]
  have steps := length_steps_of_append whole (by simp) fun piece h => by simp [isIdle, blank piece h]
  have short := above.length_lt
  have front : directory <+: p.pieces := parts ▸ List.prefix_append directory (name :: trailing)
  refine List.prefix_of_prefix_length_le above.prefix_pieces front ?_
  rw [List.length_append, List.length_singleton] at steps
  omega

theorem utf8ByteSize_intercalate_le {front pieces : List String} (h : front <+: pieces) :
    ("/".intercalate front).utf8ByteSize ≤ ("/".intercalate pieces).utf8ByteSize := by
  obtain ⟨rest, rfl⟩ := h
  by_cases none : front = []
  · simp [none]
  by_cases all : rest = []
  · simp [all]
  rw [String.intercalate_append_of_ne_nil none all, String.utf8ByteSize_append, String.utf8ByteSize_append]
  omega

end Path

namespace Tree
variable {t : Tree}

theorem reach_append (here : Location) (front rest : List String) :
    t.reach here (front ++ rest) = t.reach here front >>= fun there => t.reach there rest := by
  induction front generalizing here with
  | nil => rfl
  | cons piece front ih =>
    simp only [List.cons_append, reach]
    split
    · exact ih here
    split
    · exact ih here.tail
    split
    · rfl
    split
    · rfl
    · rfl
    · exact ih (piece :: here)

/-- A way that goes on does not fail before. -/
theorem exists_reach_of_prefix {here there : Location} {front pieces : List String} (h : front <+: pieces)
    (way : t.reach here pieces = .ok there) : ∃ between, t.reach here front = .ok between := by
  obtain ⟨rest, rfl⟩ := h
  rw [reach_append] at way
  obtain ⟨between, before, -⟩ := ok_of_bind way
  exact ⟨between, before⟩

theorem reach_blank (here : Location) {trailing : List String} (blank : ∀ piece ∈ trailing, piece = "") :
    t.reach here trailing = .ok here := by
  induction trailing with
  | nil => rfl
  | cons piece rest ih =>
    rw [List.forall_mem_cons] at blank
    rw [reach, if_pos (by simp [Path.isIdle, blank.1])]
    exact ih blank.2

theorem reach_endsAt_iff {p : Path} {directory : List String} {name : String} (h : Path.EndsAt p directory name)
    {here l : Location} :
    t.reach here p.pieces = .ok l ↔ ∃ around, t.reach here directory = .ok around ∧ name.utf8ByteSize ≤ maxNameBytes ∧
      t.entry (name :: around) = some .directory ∧ l = name :: around := by
  obtain ⟨trailing, parts, blank⟩ := h.parts
  have idle : ¬ Path.isIdle name = true := by simp [h.step]
  rw [parts, reach_append]
  constructor
  · intro way
    obtain ⟨around, before, way⟩ := ok_of_bind way
    rw [reach, if_neg idle, if_neg h.down] at way
    split at way
    · cases way
    rename_i short
    split at way
    · cases way
    · cases way
    · rename_i found
      rw [reach_blank _ blank] at way
      cases way
      exact ⟨around, before, Nat.le_of_not_lt short, found, rfl⟩
  · rintro ⟨around, before, short, found, rfl⟩
    rw [bind_of_ok before, reach, if_neg idle, if_neg h.down, if_neg (Nat.not_lt.mpr short), found]
    exact reach_blank _ blank

end Tree

namespace Workspace
variable {w v u : Workspace} {p q : Path} {name : String}

theorem origin_of_above (above : Path.Above q p) : w.origin q = w.origin p := by
  rw [origin, above.absolute_eq, origin]

theorem origin_of_home (home : u.home = v.home) (p : Path) : u.origin p = v.origin p := by
  rw [origin, home, origin]

/-! ## Directories that there are -/

theorem screen_eq_ok_iff :
    screen p = .ok () ↔ (∀ piece ∈ p.pieces, piece.contains '\x00' = false) ∧ p.isEmpty = false ∧
      p.toString.utf8ByteSize ≤ maxPathBytes := by
  unfold screen
  split
  · rename_i nul
    simp only [reduceCtorEq, false_iff]
    rintro ⟨clean, -⟩
    obtain ⟨piece, mem, nul⟩ := List.any_eq_true.mp nul
    rw [clean piece mem] at nul
    cases nul
  rename_i clean
  have clean : ∀ piece ∈ p.pieces, piece.contains '\x00' = false := by simpa using clean
  split
  · rename_i empty
    simp [empty]
  rename_i given
  split
  · rename_i long
    simp only [reduceCtorEq, false_iff]
    omega
  · rename_i short
    exact iff_of_true rfl ⟨clean, Bool.eq_false_iff.mpr given, Nat.le_of_not_lt short⟩

theorem screen_of_above (above : Path.Above q p) (given : q.isEmpty = false) (h : screen p = .ok ()) :
    screen q = .ok () := by
  obtain ⟨clean, -, short⟩ := screen_eq_ok_iff.mp h
  refine screen_eq_ok_iff.mpr ⟨fun piece mem => clean piece (above.prefix_pieces.subset mem), given, ?_⟩
  have size := Path.utf8ByteSize_intercalate_le above.prefix_pieces
  rw [Path.toString, String.utf8ByteSize_append] at short ⊢
  rw [above.absolute_eq]
  omega

theorem isDirectory_iff :
    w.isDirectory p = true ↔ screen p = .ok () ∧ ∃ l, w.tree.reach (w.origin p) p.pieces = .ok l := by
  unfold isDirectory
  constructor
  · intro h
    split at h
    · cases h
    rename_i screened
    split at h
    · cases h
    · rename_i found
      exact ⟨screened, _, reach_of_walk found⟩
  · rintro ⟨screened, l, way⟩
    obtain ⟨s, found, -⟩ := walk_of_reach way
    rw [screened, found]

theorem isDirectory_of_above (above : Path.Above q p) (given : q.isEmpty = false) (h : w.isDirectory p = true) :
    w.isDirectory q = true := by
  obtain ⟨screened, l, way⟩ := isDirectory_iff.mp h
  rw [isDirectory_iff, origin_of_above above]
  exact ⟨screen_of_above above given screened, Tree.exists_reach_of_prefix above.prefix_pieces way⟩

theorem Extends.directory (h : Extends w v) (l : Location) (found : w.tree.entry l = some .directory) :
    v.tree.entry l = some .directory := by
  rcases h.entry_eq l with same | ⟨nothing, -⟩
  · exact same.trans found
  · rw [nothing] at found
    cases found

/-! ## One directory -/

theorem checkName_eq_ok_iff : checkName name = .ok () ↔ name.utf8ByteSize ≤ maxNameBytes := by
  unfold checkName
  split <;> simp <;> omega

theorem makeDirectory_of_isDirectory (h : w.isDirectory p = true) : w.makeDirectory p = .error .alreadyExists := by
  obtain ⟨screened, l, way⟩ := isDirectory_iff.mp h
  rw [makeDirectory, bind_of_ok screened]
  split
  · rename_i pieces ending
    obtain ⟨trailing, parts, -⟩ := Path.ending_place ending
    obtain ⟨between, before⟩ := Tree.exists_reach_of_prefix ⟨trailing, parts.symm⟩ way
    obtain ⟨s, walked, -⟩ := walk_of_reach before
    rw [bind_of_ok walked]
  · rename_i directory name slash ending
    obtain ⟨around, before, short, found, rfl⟩ := (Tree.reach_endsAt_iff (Path.endsAt_of_ending ending)).mp way
    obtain ⟨s, walked, rfl⟩ := walk_of_reach before
    rw [bind_of_ok walked, bind_of_ok (checkName_eq_ok_iff.mpr short)]
    split
    · rfl
    · rename_i none
      rw [s.entry_cons_location, none] at found
      cases found

/-- A directory was made where the path leads, in a directory that there was. -/
structure Made (w v : Workspace) (p : Path) (l : Location) : Prop where
  home_eq : v.home = w.home
  nothing : w.tree.entry l = none
  entry_eq : ∀ other, v.tree.entry other = if other = l then some .directory else w.tree.entry other
  screened : screen p = .ok ()
  reach_eq : v.tree.reach (v.origin p) p.pieces = .ok l
  above : ∀ q, Path.Above q p → ∃ l', w.tree.reach (w.origin p) q.pieces = .ok l'

theorem exists_made_of_makeDirectory (h : w.makeDirectory p = .ok v) : ∃ l, Made w v p l := by
  have grown := extends_makeDirectory h
  unfold makeDirectory at h
  obtain ⟨⟨⟩, screened, h⟩ := ok_of_bind h
  split at h
  · obtain ⟨_, _, h⟩ := ok_of_bind h
    cases h
  rename_i directory name slash ending
  have ends := Path.endsAt_of_ending ending
  obtain ⟨around, walked, h⟩ := ok_of_bind h
  obtain ⟨⟨⟩, named, h⟩ := ok_of_bind h
  split at h
  · cases h
  rename_i none
  cases h
  have nothing : w.tree.entry (name :: around.location) = Option.none := by
    rw [around.entry_cons_location, none]
    rfl
  have free : w.tree.entry (name :: around.location) ≠ some .directory := by simp [nothing]
  have entry (other : Location) := Tree.entry_put .directory free other
  have before := reach_of_walk walked
  refine ⟨name :: around.location, rfl, nothing, entry, screened, ?_, fun q above => ?_⟩
  · refine (Tree.reach_endsAt_iff ends).mpr ⟨around.location, ?_, checkName_eq_ok_iff.mp named, ?_, rfl⟩
    · exact Tree.reach_mono grown.directory before
    · exact (entry _).trans (if_pos rfl)
  · exact Tree.exists_reach_of_prefix (ends.prefix_above above) before

theorem Made.isDirectory {l : Location} (h : Made w v p l) : v.isDirectory p = true :=
  isDirectory_iff.mpr ⟨h.screened, l, h.reach_eq⟩

/-- A directory is made only in one that there is. -/
theorem Made.isDirectory_above {l : Location} (h : Made w v p l) (above : Path.Above q p) (given : q.isEmpty = false) :
    w.isDirectory q = true := by
  rw [isDirectory_iff, origin_of_above above]
  exact ⟨screen_of_above above given h.screened, h.above q above⟩

/-! ## All directories of a path -/

/-- At most a directory is new at the location, and the first pieces of the path lead there, less than `n` of them. -/
def Grown (w v : Workspace) (p : Path) (n : ℕ) (l : Location) : Prop :=
  v.tree.entry l = w.tree.entry l ∨ (w.tree.entry l = none ∧ v.tree.entry l = some .directory ∧
    ∃ k < n, v.tree.reach (v.origin p) (p.pieces.take k) = .ok l)

theorem Grown.trans {n m : ℕ} {l : Location} (h : Grown w v p n l) (h' : Grown v u p m l) (home : u.home = v.home)
    (kept : ∀ l, v.tree.entry l = some .directory → u.tree.entry l = some .directory) (le : n ≤ m) :
    Grown w u p m l := by
  rcases h with same | ⟨nothing, made, k, lt, way⟩
  · rcases h' with same' | ⟨nothing, made⟩
    · exact .inl (same'.trans same)
    · exact .inr ⟨same.symm.trans nothing, made⟩
  · refine .inr ⟨nothing, kept l made, k, by omega, ?_⟩
    rw [origin_of_home home]
    exact Tree.reach_mono kept way

theorem Grown.directory {n : ℕ} {l : Location} (h : Grown w v p n l) (there : w.tree.entry l = some .directory) :
    v.tree.entry l = some .directory := by
  rcases h with same | ⟨-, made, -⟩
  · exact same.trans there
  · exact made

theorem Grown.of_above {l : Location} (above : Path.Above q p) (h : Grown w v q (q.pieces.length + 1) l) :
    Grown w v p (q.pieces.length + 1) l := by
  refine h.imp_right fun ⟨nothing, made, k, lt, way⟩ => ⟨nothing, made, k, lt, ?_⟩
  obtain ⟨rest, parts⟩ := above.prefix_pieces
  rw [← parts, List.take_append_of_le_length (by omega), ← origin_of_above above]
  exact way

theorem Made.grown {l : Location} (h : Made w v p l) (other : Location) : Grown w v p (p.pieces.length + 1) other := by
  by_cases here : other = l
  · subst here
    refine .inr ⟨h.nothing, (h.entry_eq other).trans (if_pos rfl), p.pieces.length, Nat.lt_succ_self _, ?_⟩
    rw [List.take_length]
    exact h.reach_eq
  · exact .inl ((h.entry_eq other).trans (if_neg here))

theorem grown_makeDirectories (w : Workspace) (p : Path) (l : Location) :
    Grown w (w.makeDirectories p).2 p (p.pieces.length + 1) l := by
  fun_induction makeDirectories w p with
  | case1 => exact .inl rfl
  | case2 _ _ made h =>
    obtain ⟨_, made⟩ := exists_made_of_makeDirectory h
    exact made.grown l
  | case3 => exact .inl rfl
  | case4 _ _ _ _ parent short _ _ made ih | case6 _ _ _ _ parent short _ made _ _ _ ih
  | case7 _ _ _ _ parent short _ made _ _ _ ih =>
    rw [made] at ih
    exact (ih.of_above (Path.above_of_parent? parent)).trans (.inl rfl) rfl (fun _ there => there) (by omega)
  | case5 _ _ _ _ parent short _ above _ h ih =>
    rw [above] at ih
    obtain ⟨_, made⟩ := exists_made_of_makeDirectory h
    have grown := extends_makeDirectory h
    exact (ih.of_above (Path.above_of_parent? parent)).trans (made.grown l) grown.home_eq grown.directory (by omega)
  | case8 => exact .inl rfl
  | case9 => exact .inl rfl

/-- Making directories succeeds if and only if the path leads to one afterwards. -/
theorem makeDirectories_ok_iff (w : Workspace) (p : Path) :
    (w.makeDirectories p).1 = .ok () ↔ p.isEmpty = true ∨ (w.makeDirectories p).2.isDirectory p = true := by
  fun_induction makeDirectories w p with
  | case1 _ empty => exact iff_of_true rfl (.inl empty)
  | case2 _ _ _ h | case5 _ _ _ _ _ _ _ _ _ h =>
    obtain ⟨_, made⟩ := exists_made_of_makeDirectory h
    exact iff_of_true rfl (.inr made.isDirectory)
  | case3 _ given absent =>
    refine iff_of_false (by simp) (not_or.mpr ⟨given, fun there => ?_⟩)
    rw [makeDirectory_of_isDirectory there] at absent
    cases absent
  | case4 _ given _ _ parent _ _ _ above ih =>
    rw [above] at ih
    obtain ⟨some, missing⟩ := not_or.mp fun there => by cases ih.mpr there
    refine iff_of_false (by simp) (not_or.mpr ⟨given, fun there => missing ?_⟩)
    exact isDirectory_of_above (Path.above_of_parent? parent) (Bool.eq_false_iff.mpr some) there
  | case6 _ _ _ _ _ _ _ _ _ _ there => exact iff_of_true rfl (.inr there)
  | case7 _ given _ _ _ _ _ _ _ _ missing => exact iff_of_false (by simp) (not_or.mpr ⟨given, missing⟩)
  | case8 _ _ _ _ _ there => exact iff_of_true rfl (.inr there)
  | case9 _ given _ _ _ missing => exact iff_of_false (by simp) (not_or.mpr ⟨given, missing⟩)

/-! ## Once more -/

/-- Nothing is made if neither the directory nor one around it can be made. -/
theorem makeDirectories_of_blocked (blocked : ∀ made, v.makeDirectory p ≠ .ok made)
    (above : v.makeDirectory p = .error .notFound → ∀ q, p.parent? = some q → (v.makeDirectories q).2 = v) :
    (v.makeDirectories p).2 = v := by
  rw [makeDirectories]
  split
  · rfl
  split
  · rename_i made h
    exact absurd h (blocked made)
  · rename_i absent
    split
    · rfl
    rename_i q parent
    have same := above absent q parent
    split
    · rename_i e after h
      rw [h] at same
      exact same
    · rename_i after h
      rw [h] at same
      cases same
      split
      · rename_i made h
        exact absurd h (blocked made)
      · split <;> rfl
  · split <;> rfl

theorem makeDirectories_of_isDirectory (h : v.isDirectory p = true) : v.makeDirectories p = (.ok (), v) := by
  have there := makeDirectory_of_isDirectory h
  obtain ⟨-, given, -⟩ := screen_eq_ok_iff.mp (isDirectory_iff.mp h).1
  rw [makeDirectories, if_neg (Bool.eq_false_iff.mp given)]
  split
  · rename_i made h
    rw [h] at there
    cases there
  · rename_i absent
    rw [absent] at there
    cases there
  · rw [if_pos h]

/-- Making the directories of a path once more changes nothing. -/
theorem makeDirectories_again (w : Workspace) (p : Path) :
    ((w.makeDirectories p).2.makeDirectories p).2 = (w.makeDirectories p).2 := by
  fun_induction makeDirectories w p with
  | case1 _ empty => rw [makeDirectories, if_pos empty]
  | case2 _ _ _ h | case5 _ _ _ _ _ _ _ _ _ h =>
    obtain ⟨_, made⟩ := exists_made_of_makeDirectory h
    rw [makeDirectories_of_isDirectory made.isDirectory]
  | case6 _ _ _ _ _ _ _ _ _ _ there => rw [makeDirectories_of_isDirectory there]
  | case8 _ _ _ _ _ there => rw [makeDirectories_of_isDirectory there]
  | case3 _ _ absent none =>
    refine makeDirectories_of_blocked (fun made h => by cases absent.symm.trans h) fun _ q parent => ?_
    cases none.symm.trans parent
  | case4 p _ _ q parent _ e after failed ih =>
    have outcome := makeDirectories_ok_iff w q
    rw [failed] at ih outcome
    obtain ⟨given, missing⟩ := not_or.mp fun there => by cases outcome.mpr there
    -- The parent is still missing, so the directory cannot be made in it either.
    refine makeDirectories_of_blocked (fun made h => ?_) fun _ q' parent' => ?_
    · obtain ⟨_, made⟩ := exists_made_of_makeDirectory h
      exact missing (made.isDirectory_above (Path.above_of_parent? parent) (Bool.eq_false_iff.mpr given))
    · obtain rfl := Option.some.inj (parent.symm.trans parent')
      exact ih
  | case7 p _ _ q parent _ after above e h _ ih =>
    rw [above] at ih
    refine makeDirectories_of_blocked (fun made h' => by cases h.symm.trans h') fun _ q' parent' => ?_
    obtain rfl := Option.some.inj (parent.symm.trans parent')
    exact ih
  | case9 _ _ _ other h =>
    refine makeDirectories_of_blocked (fun made h' => by cases h.symm.trans h') fun absent => ?_
    exact absurd (Except.error.inj (h.symm.trans absent)) other

end Workspace

end BytecodeStore
