import BytecodeStore.Proofs.Command.Output
import BytecodeStore.Proofs.Files.Directories

/-! # Writing all or nothing

A text that is written is read back, and besides its file only directories on the way to it are new. A text that is
not written leaves no more than such directories behind. Writing the text once more gives the same tree, entry by entry
and in the same order, since what is there already is put in its own place.
-/
namespace BytecodeStore

/-! ## Putting what is there -/

theorem Directory.put_of_get? {d : Directory} {name : String} {item : Item} (h : d.get? name = some item) :
    d.put name item = d := by
  fun_induction Directory.put name item d with
  | case1 => cases h
  | case2 rest old =>
    rw [Directory.get?, if_pos rfl] at h
    cases h
    rfl
  | case3 n old rest other ih =>
    rw [Directory.get?, if_neg other] at h
    rw [ih h]

theorem Trail.replace_self {top d : Directory} (trail : Trail top d) : trail.replace d = top := by
  induction trail with
  | here => rfl
  | into above name found ih => rw [replace, Directory.put_of_get? found, ih]

namespace Workspace
variable {w v u : Workspace} {p q : Path} {content : Array UInt8}

theorem put_of_get? {s : w.tree.Spot} {name : String} {node : Node} (h : s.get? name = some (.ofNode node))
    (free : w.tree.entry (name :: s.location) ≠ some .directory) : w.put s name node free = w := by
  have tree : w.tree.put s name node = w.tree := by
    rw [Tree.put, Directory.put_of_get? h, Trail.replace_self]
  cases w
  simp only [put, mk.injEq, and_true]
  exact tree

/-- A content that is read can be written, and then everything is as it was. -/
theorem writeFile_of_read (h : v.read p = .ok content) : v.writeFile p content = .ok v := by
  unfold read at h
  obtain ⟨⟨⟩, screened, h⟩ := ok_of_bind h
  rw [writeFile, bind_of_ok screened]
  split at h
  · obtain ⟨_, _, h⟩ := ok_of_bind h
    cases h
  · rename_i directory name slash ending
    obtain ⟨around, walked, h⟩ := ok_of_bind h
    obtain ⟨⟨⟩, named, h⟩ := ok_of_bind h
    rw [bind_of_ok walked]
    split at h
    · cases h
    · cases h
    rename_i there
    split at h
    · cases h
    rename_i plain
    cases h
    rw [if_neg plain, bind_of_ok named]
    split
    · rename_i found
      cases there.symm.trans found
    · exact congrArg Except.ok (put_of_get? there _)
    · rename_i found
      cases there.symm.trans found

/-! ## Around a file -/

theorem isDirectory_mono (home : u.home = w.home)
    (kept : ∀ l, w.tree.entry l = some .directory → u.tree.entry l = some .directory) (h : w.isDirectory p = true) :
    u.isDirectory p = true := by
  obtain ⟨screened, l, way⟩ := isDirectory_iff.mp h
  rw [isDirectory_iff, origin_of_home home]
  exact ⟨screened, l, Tree.reach_mono kept way⟩

theorem grown_makeDirectoriesAround (w : Workspace) (p : Path) (l : Location) :
    Grown w (w.makeDirectoriesAround p).2 p p.pieces.length l := by
  unfold makeDirectoriesAround
  split
  · exact .inl rfl
  · rename_i q parent
    have above := Path.above_of_parent? parent
    have short := above.length_lt
    have steps := p.length_steps_le
    exact ((grown_makeDirectories w q l).of_above above).trans (.inl rfl) rfl (fun _ there => there) (by omega)

/-- The directories around a file that are there once are not made again. -/
theorem makeDirectoriesAround_of_ok (h : w.makeDirectoriesAround p = (.ok (), v)) (home : u.home = v.home)
    (kept : ∀ l, v.tree.entry l = some .directory → u.tree.entry l = some .directory) :
    u.makeDirectoriesAround p = (.ok (), u) := by
  unfold makeDirectoriesAround at h ⊢
  split
  · rfl
  · rename_i q parent
    rw [parent] at h
    dsimp only at h
    have outcome := makeDirectories_ok_iff w q
    rw [h] at outcome
    rcases outcome.mp rfl with empty | there
    · rw [makeDirectories, if_pos empty]
    · exact makeDirectories_of_isDirectory (isDirectory_mono home kept there)

/-- What stopped the making of directories stops it again. -/
theorem makeDirectoriesAround_of_error {e : FileError} (h : w.makeDirectoriesAround p = (.error e, v)) :
    ∃ e', v.makeDirectoriesAround p = (.error e', v) := by
  unfold makeDirectoriesAround at h ⊢
  split at h
  · cases h
  · rename_i q parent
    have outcome := makeDirectories_ok_iff w q
    have same := makeDirectories_again w q
    have outcome' := makeDirectories_ok_iff v q
    rw [h] at outcome same
    rw [same] at outcome'
    rcases again : v.makeDirectories q with ⟨e' | _, after⟩
    · rw [again] at same
      cases same
      exact ⟨e', rfl⟩
    · rw [again] at outcome'
      cases outcome.mpr (outcome'.mp rfl)

/-! ## Writing a text -/

theorem Filled.kept {l : Location} (h : Filled v u p content l) (other : Location)
    (there : v.tree.entry other = some .directory) : u.tree.entry other = some .directory := by
  rw [h.entry_eq, if_neg]
  · exact there
  · rintro rfl
    exact h.free there

/-- After a text was written, or was not, the same write changes nothing. -/
theorem writeText_again (w : Workspace) (p : Path) (text : String) :
    ((w.writeText p text).2.writeText p text).2 = (w.writeText p text).2 := by
  rcases made : w.makeDirectoriesAround p with ⟨e | _, after⟩
  · obtain ⟨e', again⟩ := makeDirectoriesAround_of_error made
    simp only [writeText, made, again]
  · cases h : after.writeFile p text.toUTF8.data with
    | error e =>
      have again := makeDirectoriesAround_of_ok made rfl fun _ there => there
      simp only [writeText, made, h, again]
    | ok v =>
      obtain ⟨l, filled⟩ := filled_of_writeFile h
      have again := makeDirectoriesAround_of_ok made filled.home_eq filled.kept
      simp only [writeText, made, h, again, writeFile_of_read filled.read_eq]

/-- A text is in its file, or no file is different; in both cases directories on the way may be new. -/
theorem writeText_grown (w : Workspace) (p : Path) (text : String) :
    (∃ v l, w.writeText p text = (.ok (), v) ∧ v.read p = .ok text.toUTF8.data ∧ v.place? p = some l ∧
      v.tree.entry l = some (.file text.toUTF8.data) ∧ w.tree.entry l ≠ some .directory ∧
      ∀ other, other ≠ l → Grown w v p p.pieces.length other) ∨
    ∃ e v, w.writeText p text = (.error e, v) ∧ ∀ l, Grown w v p p.pieces.length l := by
  have grown := grown_makeDirectoriesAround w p
  have before := extends_makeDirectoriesAround w p
  unfold writeText
  rcases made : w.makeDirectoriesAround p with ⟨e | _, after⟩ <;> rw [made] at grown before
  all_goals dsimp only at grown before ⊢
  · exact .inr ⟨_, after, rfl, grown⟩
  · cases h : after.writeFile p text.toUTF8.data with
    | error e => exact .inr ⟨_, after, rfl, grown⟩
    | ok v =>
      obtain ⟨l, filled⟩ := filled_of_writeFile h
      have found : v.tree.entry l = some (.file text.toUTF8.data) := (filled.entry_eq l).trans (if_pos rfl)
      refine .inl ⟨v, l, rfl, filled.read_eq, filled.place_eq, found, ?_, fun other elsewhere => ?_⟩
      · exact fun there => filled.free (before.directory l there)
      · refine (grown other).trans (.inl ?_) filled.home_eq filled.kept (Nat.le_refl _)
        rw [filled.entry_eq, if_neg elsewhere]

end Workspace

namespace Machine

theorem writeText_eq (w : Machine) (path text : String) :
    w.writeText path text =
      ((w.workspace.writeText (.ofString path) text).1,
        { w with workspace := (w.workspace.writeText (.ofString path) text).2 }) := rfl

theorem perform_readInput_file {w : Machine} {path : String} {content : Array UInt8} (o : Options) (file : path ≠ "-")
    (h : w.workspace.read (.ofString path) = .ok content) :
    w.perform (Run.readInput o path) = (.ok (content, path), w) := by
  rw [Run.perform_readInput, Source.bytes, if_neg file, h]
  simp [Source.name, file]

/-- A text is written to its file or to none, and at most directories on the way to the file are new. -/
theorem writeText_all_or_nothing {w v : Machine} {result : Except WriteError Unit} {path text : String} (o : Options)
    (file : path ≠ "-") (h : w.writeText path text = (result, v)) :
    (result = .ok () →
      v.perform (Run.readInput o path) = (.ok (text.toUTF8.data, path), v) ∧
      ∃ l, v.workspace.place? (.ofString path) = some l ∧ v.workspace.tree.entry l = some (.file text.toUTF8.data) ∧
        ∀ other, other ≠ l →
          Workspace.Grown w.workspace v.workspace (.ofString path) (Path.ofString path).pieces.length other) ∧
    (∀ e, result = .error e → ∀ l,
      Workspace.Grown w.workspace v.workspace (.ofString path) (Path.ofString path).pieces.length l) ∧
    (∀ l, w.workspace.tree.entry l = some .directory → v.workspace.tree.entry l = some .directory) ∧
    v = { w with workspace := v.workspace } ∧ (v.writeText path text).2 = v := by
  rw [writeText_eq, Prod.mk.injEq] at h
  obtain ⟨rfl, rfl⟩ := h
  have again := w.workspace.writeText_again (.ofString path) text
  rcases w.workspace.writeText_grown (.ofString path) text with
    ⟨after, l, wrote, read, place, found, free, grown⟩ | ⟨e, after, wrote, grown⟩
  · rw [wrote] at again ⊢
    dsimp only at again ⊢
    refine ⟨fun _ => ⟨perform_readInput_file o file read, l, place, found, grown⟩, nofun, fun d there => ?_, rfl, ?_⟩
    · by_cases here : d = l
      · exact absurd (here ▸ there) free
      · exact (grown d here).directory there
    · rw [writeText_eq]
      dsimp only
      rw [again]
  · rw [wrote] at again ⊢
    dsimp only at again ⊢
    refine ⟨nofun, fun _ _ => grown, fun d => (grown d).directory, rfl, ?_⟩
    rw [writeText_eq]
    dsimp only
    rw [again]

/-- One file is written into a directory that is made for it, and one is refused since a file is in the way. -/
theorem new_directory_and_file_in_the_way :
    let w : Machine := { workspace := ⟨⟨[("b", .file #[7])]⟩, [], rfl⟩ }
    let v := (w.writeText "d/a" "x").2
    (v.perform (Run.readInput {} "d/a") = (.ok ("x".toUTF8.data, "d/a"), v) ∧
      v.workspace.tree.entry ["b"] = some (.file #[7]) ∧ v.workspace.tree.entry [] = some .directory ∧
      (v.writeText "d/a" "x").2 = v) ∧
    (w.writeText "b/a" "x").1 = .error (.directory .alreadyExists) ∧
      (w.writeText "b/a" "x").2.workspace.tree.entry ["b"] = some (.file #[7]) := by
  intro w v
  have file : w.workspace.tree.entry ["b"] = some (.file #[7]) := rfl
  have written : (w.writeText "d/a" "x").1 = .ok () := by
    have parts : Path.ofString "d/a" = ⟨false, ["d", "a"]⟩ := rfl
    have screened : Workspace.screen (.ofString "d/a") = .ok () := by
      rw [parts]
      exact Workspace.screen_eq_ok_iff.mpr ⟨by simp, rfl, by decide⟩
    have around : w.workspace.makeDirectoriesAround (.ofString "d/a") =
        (.ok (), w.workspace.put (.root _) "d" .directory (by decide)) := by
      change w.workspace.makeDirectories ⟨false, ["d"]⟩ = _
      rw [Workspace.makeDirectories, Workspace.makeDirectory, Workspace.screen_piece (by decide) (by decide)]
      rfl
    rw [writeText_eq, Workspace.writeText, around]
    dsimp only
    rw [Workspace.writeFile, screened]
    rfl
  have refused : (w.writeText "b/a" "x").1 = .error (.directory .alreadyExists) := by
    have screened : Workspace.screen ⟨false, ["b"]⟩ = .ok () := Workspace.screen_piece (by decide) (by decide)
    have missing : w.workspace.isDirectory ⟨false, ["b"]⟩ = false := by
      rw [Workspace.isDirectory, screened]
      rfl
    have around : w.workspace.makeDirectoriesAround (.ofString "b/a") = (.error .alreadyExists, w.workspace) := by
      change w.workspace.makeDirectories ⟨false, ["b"]⟩ = _
      have made : w.workspace.makeDirectory ⟨false, ["b"]⟩ = .error .alreadyExists := by
        rw [Workspace.makeDirectory, screened]
        rfl
      rw [Workspace.makeDirectories, made]
      dsimp only
      rw [missing]
      rfl
    rw [writeText_eq, Workspace.writeText, around]
  have stays {n : ℕ} {u : Machine} {p : Path} (grown : Workspace.Grown w.workspace u.workspace p n ["b"]) :
      u.workspace.tree.entry ["b"] = some (.file #[7]) := by
    rcases grown with same | ⟨nothing, -⟩
    · exact same.trans file
    · cases file.symm.trans nothing
  obtain ⟨done, -, kept, -, again⟩ :=
    @writeText_all_or_nothing w v (w.writeText "d/a" "x").1 "d/a" "x" {} (by decide) rfl
  obtain ⟨-, failed, -⟩ :=
    @writeText_all_or_nothing w (w.writeText "b/a" "x").2 (w.writeText "b/a" "x").1 "b/a" "x" {} (by decide) rfl
  obtain ⟨read, l, place, -, grown⟩ := done written
  refine ⟨⟨read, stays (grown ["b"] ?_), kept [] rfl, again⟩, refused, stays (failed _ refused ["b"])⟩
  rintro rfl
  have ending : (Path.ofString "d/a").ending = .named ["d"] "a" false := rfl
  rw [Workspace.place?, ending] at place
  dsimp only at place
  split at place
  · cases place
  · exact absurd (List.cons.inj (Option.some.inj place)).1 (by decide)

end Machine

end BytecodeStore
