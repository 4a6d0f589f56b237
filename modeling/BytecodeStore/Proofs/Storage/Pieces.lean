import BytecodeStore.Proofs.Storage.Run

/-! # Appends in pieces

Elements can be appended at once or cut into pieces, each of them pushed or appended in bulk. The ascent of the rule is
the same, but the pieces also reserve the capacities on the way, and only the last one is reserved by the whole. Where
an allocator that grants a capacity grants all smaller ones, the cut is of no consequence.
-/
namespace BytecodeStore

/-- What an allocator grants it also grants in part. -/
def Allocator.DownwardClosed (m : Allocator) : Prop :=
  ∀ width less more, less ≤ more → m.accepts width more = true → m.accepts width less = true

theorem Allocator.DownwardClosed.grants {m : Allocator} (hm : m.DownwardClosed) {width : ℕ} {less more : UInt64}
    (h : less ≤ more) (granted : m.grants width more = true) : m.grants width less = true := by
  unfold Allocator.grants at granted ⊢
  rcases (Bool.or_eq_true _ _).mp granted with hz | accepted
  · rw [hz, Bool.true_or]
  · rw [hm width less more h accepted, Bool.or_true]

theorem Allocator.addressSpace_downwardClosed : Allocator.addressSpace.DownwardClosed := by
  intro width less more h accepted
  have bound : width * less.toNat ≤ width * more.toNat := Nat.mul_le_mul_left width (UInt64.le_iff_toNat_le.mp h)
  exact decide_eq_true (Nat.lt_of_le_of_lt bound (of_decide_eq_true accepted))

inductive Piece (σ α : Type) where
  | one (a : α)
  | block (s : σ)

def Piece.toList {σ α : Type} [Block σ α] : Piece σ α → List α
  | .one a => [a]
  | .block s => Block.toList s

namespace Buffer
variable {σ ρ α : Type} [Block σ α] [GrowthRule ρ]
variable {m : Allocator} {b c d : Buffer σ ρ} {xs ys : List α} {growths growths' : Array Growth} {piece : Piece σ α}

def appendPiece (m : Allocator) (b : Buffer σ ρ) : Piece σ α → Outcome (Buffer σ ρ)
  | .one a => b.push m a
  | .block s => b.extend m s

/-- Appends pieces in order and stops at the first that fails, with what that one leaves. -/
def appendPieces (m : Allocator) (b : Buffer σ ρ) : List (Piece σ α) → Except (Abandoned (Buffer σ ρ)) (Buffer σ ρ)
  | [] => .ok b
  | piece :: rest =>
    match b.appendPiece m piece with
    | .error f => .error f
    | .ok (c, _) => appendPieces m c rest

theorem ends_appendPiece (m : Allocator) (b : Buffer σ ρ) (piece : Piece σ α) :
    Ends m b piece.toList (b.appendPiece m piece) := by
  cases piece with
  | one a => exact ends_push m b a
  | block s => exact ends_extend m b s

theorem appended_nil_iff : b.Appended m [] c growths ↔ c = b ∧ growths = #[] := by
  have nothing : b.Appended m [] b #[] :=
    ⟨(List.append_nil _).symm, rfl, capacityFor_of_le b.rule b.count_le_capacity,
      fun larger => absurd larger (UInt64.lt_irrefl _), (if_neg (UInt64.lt_irrefl _)).symm⟩
  constructor
  · intro h
    exact h.unique nothing
  · rintro ⟨rfl, rfl⟩
    exact nothing

/-- The answer to the whole requirement goes on from the answer to its first part. -/
theorem capacityFor_append_bind (b : Buffer σ ρ) (xs ys : List α) :
    (capacityFor b.rule b.capacity (b.count + xs.length)).bind
        (capacityFor b.rule · (b.count + (xs ++ ys).length)) =
      capacityFor b.rule b.capacity (b.count + (xs ++ ys).length) := by
  apply capacityFor_bind
  rw [List.length_append]
  omega

theorem Appended.reached_append (h : b.Appended m xs c growths) :
    capacityFor b.rule b.capacity (b.count + (xs ++ ys).length) =
      capacityFor c.rule c.capacity (c.count + ys.length) := by
  rw [← capacityFor_append_bind, h.reached, Option.bind_some, h.rule_eq, h.count_eq, List.length_append,
    Nat.add_assoc]

theorem Appended.trans (h : b.Appended m xs c growths) (h' : c.Appended m ys d growths') :
    ∃ growths, b.Appended m (xs ++ ys) d growths := by
  refine ⟨_, ?_, h'.rule_eq.trans h.rule_eq, h.reached_append.trans h'.reached, ?_, rfl⟩
  · rw [h'.toList_eq, h.toList_eq, List.append_assoc]
  · intro larger
    by_cases last : c.capacity < d.capacity
    · exact h'.granted last
    · have same : c.capacity = d.capacity := UInt64.le_antisymm h'.capacity_le (UInt64.not_lt.mp last)
      rw [← same] at larger ⊢
      exact h.granted larger

theorem Appended.rest (h : b.Appended m (xs ++ ys) d growths) (h' : b.Appended m xs c growths') :
    ∃ growths, c.Appended m ys d growths := by
  refine ⟨_, ?_, h.rule_eq.trans h'.rule_eq.symm, h'.reached_append.symm.trans h.reached, ?_, rfl⟩
  · rw [h.toList_eq, h'.toList_eq, List.append_assoc]
  · intro larger
    exact h.granted (UInt64.lt_of_le_of_lt h'.capacity_le larger)

/-- A first part is not refused what is granted for the whole. -/
theorem Appended.not_refused_part (hm : m.DownwardClosed) {e : GrowthError}
    (h : b.Appended m (xs ++ ys) d growths) : ¬ b.Refused m xs.length e := by
  intro hr
  have way := (capacityFor_append_bind b xs ys).trans h.reached
  rcases refused_iff.mp hr with ⟨hn, _⟩ | ⟨next, hs, larger, denied, _⟩
  · rw [hn, Option.bind_none] at way
    cases way
  · rw [hs, Option.bind_some] at way
    have beyond := (capacityFor_bounds b.rule way).2
    have granted := hm.grants beyond (h.granted (UInt64.lt_of_lt_of_le larger beyond))
    rw [denied] at granted
    cases granted

theorem appendPieces_eq_ok_iff (hm : m.DownwardClosed) {pieces : List (Piece σ α)} :
    b.appendPieces m pieces = .ok c ↔ ∃ growths, b.Appended m (pieces.flatMap Piece.toList) c growths := by
  induction pieces generalizing b with
  | nil =>
    rw [appendPieces, List.flatMap_nil, Except.ok.injEq]
    simp only [appended_nil_iff, exists_and_left, exists_eq, and_true, eq_comm]
  | cons piece rest ih =>
    rw [appendPieces, List.flatMap_cons]
    have ends := ends_appendPiece m b piece
    cases outcome : b.appendPiece m piece with
    | error f =>
      refine ⟨nofun, ?_⟩
      rintro ⟨growths, h⟩
      exact absurd (ends.eq_error_iff.mp outcome).2 (h.not_refused_part hm)
    | ok first =>
      have h := ends.eq_ok_iff.mp outcome
      refine ih.trans ⟨?_, ?_⟩
      · rintro ⟨_, h'⟩
        exact h.trans h'
      · rintro ⟨_, h'⟩
        exact h'.rest h

/-- An append in pieces succeeds exactly when the append at once does, and leaves the same buffer. -/
theorem appendPieces_eq_ok_iff_extend (hm : m.DownwardClosed) (b : Buffer σ ρ) {pieces : List (Piece σ α)} {s : σ}
    (hs : pieces.flatMap Piece.toList = Block.toList s) (c : Buffer σ ρ) :
    b.appendPieces m pieces = .ok c ↔ ∃ growths, b.extend m s = .ok (c, growths) := by
  rw [appendPieces_eq_ok_iff hm, hs]
  exact exists_congr fun growths => extend_eq_ok_iff.symm

/-- Three pushes, of which the first and the third raise the capacity, and a block that fits. -/
theorem four_bytes_in_pieces_eq_at_once :
    Allocator.addressSpace.DownwardClosed ∧
      ([.one 1, .one 2, .one 3, .block #[4]] : List (Piece (Array UInt8) UInt8)).flatMap Piece.toList = [1, 2, 3, 4] ∧
      ∃ growths, (withRule ⟨2, 2⟩ : Buffer (Array UInt8) Doubling).extend .addressSpace #[1, 2, 3, 4] =
        .ok (⟨#[1, 2, 3, 4], 4, ⟨2, 2⟩, by decide⟩, growths) := by
  have hm := Allocator.addressSpace_downwardClosed
  have cut : ([.one 1, .one 2, .one 3, .block #[4]] : List (Piece (Array UInt8) UInt8)).flatMap Piece.toList =
      Block.toList (#[1, 2, 3, 4] : Array UInt8) := rfl
  exact ⟨hm, cut, (appendPieces_eq_ok_iff_extend hm _ cut _).mp rfl⟩

end Buffer

end BytecodeStore
