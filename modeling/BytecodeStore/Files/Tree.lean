import BytecodeStore.Files.Directory

/-! # Directory trees

A location is the list of names that lead to an item, the innermost first, so that its tail is the directory
around it. What a tree says of a location is its entry: a directory, a file with its content, or nothing.
Whatever exists lies in a directory, and the root is one. Putting a file or an empty directory where no directory
is changes the entry there and no other.

A trail is the way down to a directory and keeps the directories passed, so that a step up or down it and the
change of the whole tree at its end look up no name twice.
-/
namespace BytecodeStore

inductive Node where
  | directory
  | file (content : Array UInt8)
deriving DecidableEq, Repr

abbrev Location := List String

/-! ## Items by location -/

namespace Item

def node : Item → Node
  | .file content => .file content
  | .directory _ => .directory

/-- The item of a node, a directory being empty. -/
def ofNode : Node → Item
  | .file content => .file content
  | .directory => .directory []

theorem node_ofNode (n : Node) : (ofNode n).node = n := by cases n <;> rfl

/-- What lies in an item under a name. Nothing lies in a file. -/
def get? (name : String) : Item → Option Item
  | .file _ => none
  | .directory d => Directory.get? name d

/-- What lies below an item at a location. -/
def below? (top : Item) : Location → Option Item
  | [] => some top
  | name :: around => (top.below? around).bind (get? name)

def entry (top : Item) (l : Location) : Option Node := (top.below? l).map node

theorem entry_nil (top : Item) : top.entry [] = some top.node := rfl

/-- Whatever exists lies in a directory. -/
theorem entry_around {top : Item} {name : String} {around : Location} (h : top.entry (name :: around) ≠ none) :
    top.entry around = some .directory := by
  unfold entry at h ⊢
  rw [below?] at h
  rcases found : top.below? around with _ | (content | d)
  · simp [found] at h
  · simp [found, get?] at h
  · rfl

theorem below?_append (top : Item) (l : List String) (name : String) :
    top.below? (l ++ [name]) = (top.get? name).bind (·.below? l) := by
  induction l with
  | nil => cases h : top.get? name <;> simp [below?, h]
  | cons first rest ih => simp [below?, ih, Option.bind_assoc]

theorem entry_append (top : Item) (l : List String) (name : String) :
    top.entry (l ++ [name]) = (top.get? name).bind (·.entry l) := by
  simp only [entry, below?_append]
  cases top.get? name <;> rfl

/-- If an item differs from what a name had at one location, so does the directory with that item put in. -/
theorem entry_put {outer : Directory} {name : String} {item : Item} {node : Node} (target : Location)
    (changed : ∀ l, item.entry l = if l = target then some node else (outer.get? name).bind (·.entry l))
    (l : Location) :
    (Item.directory (outer.put name item)).entry l =
      if l = target ++ [name] then some node else (Item.directory outer).entry l := by
  rcases l.eq_nil_or_concat with rfl | ⟨front, last, rfl⟩
  · simp [entry_nil, Item.node]
  · simp only [List.concat_eq_append, entry_append, get?, Directory.get?_put]
    by_cases h : last = name
    · subst h
      simp [changed]
    · simp [h]

end Item

/-! ## Trails -/

/-- The way from a directory down to one below it. -/
inductive Trail (top : Directory) : Directory → Type where
  | here : Trail top top
  | into {outer inner : Directory} (above : Trail top outer) (name : String)
      (found : outer.get? name = some (.directory inner)) : Trail top inner

namespace Trail

def location {top d : Directory} : Trail top d → Location
  | .here => []
  | .into above name _ => name :: above.location

theorem below?_location {top d : Directory} (trail : Trail top d) :
    (Item.directory top).below? trail.location = some (.directory d) := by
  induction trail with
  | here => rfl
  | into above name found ih => simp [location, Item.below?, Item.get?, ih, found]

/-- The top with another directory at the end of the trail. -/
def replace {top d : Directory} : Trail top d → Directory → Directory
  | .here, new => new
  | @into _ outer _ above name _, new => above.replace (outer.put name (.directory new))

theorem entry_replace {top d : Directory} (trail : Trail top d) {new : Directory} {node : Node} (target : Location)
    (changed : ∀ l, (Item.directory new).entry l =
      if l = target then some node else (Item.directory d).entry l) (l : Location) :
    (Item.directory (trail.replace new)).entry l =
      if l = target ++ trail.location then some node else (Item.directory top).entry l := by
  induction trail generalizing new target with
  | here => simpa [location, replace] using changed l
  | into above name found ih =>
    rw [replace, ih _ (Item.entry_put target (by simpa [found] using changed)), location]
    simp

end Trail

/-! ## Trees -/

structure Tree where
  top : Directory

/-- A directory of a tree, with the trail to it. -/
structure Tree.Spot (t : Tree) where
  items : Directory
  trail : Trail t.top items

namespace Tree

def empty : Tree := ⟨[]⟩

def entry (t : Tree) (l : Location) : Option Node := (Item.directory t.top).entry l

theorem entry_around {t : Tree} {name : String} {around : Location} (h : t.entry (name :: around) ≠ none) :
    t.entry around = some .directory := Item.entry_around h

namespace Spot
variable {t : Tree}

def root (t : Tree) : t.Spot := ⟨t.top, .here⟩

def location (s : t.Spot) : Location := s.trail.location

def around : t.Spot → t.Spot
  | ⟨_, .here⟩ => root t
  | ⟨_, .into above _ _⟩ => ⟨_, above⟩

def get? (s : t.Spot) (name : String) : Option Item := s.items.get? name

def into {d : Directory} (s : t.Spot) (name : String) (found : s.get? name = some (.directory d)) : t.Spot :=
  ⟨d, s.trail.into name found⟩

theorem location_around (s : t.Spot) : s.around.location = s.location.tail := by
  obtain ⟨_, trail⟩ := s
  cases trail <;> rfl

theorem location_into {d : Directory} (s : t.Spot) (name : String) (found : s.get? name = some (.directory d)) :
    (s.into name found).location = name :: s.location := rfl

theorem entry_cons_location (s : t.Spot) (name : String) :
    t.entry (name :: s.location) = (s.get? name).map Item.node := by
  rw [entry, Item.entry, location, Item.below?, s.trail.below?_location]
  rfl

end Spot

def spot (t : Tree) : (l : Location) → t.entry l = some .directory → { s : t.Spot // s.location = l }
  | [], _ => ⟨.root t, rfl⟩
  | name :: around, h =>
    let outer := t.spot around (entry_around (show t.entry (name :: around) ≠ none by simp [h]))
    have inside : (outer.1.get? name).map Item.node = some .directory := by
      rw [← outer.1.entry_cons_location, outer.2]
      exact h
    match found : outer.1.get? name with
    | some (.directory _) => ⟨outer.1.into name found, by rw [Spot.location_into, outer.2]⟩
    | some (.file _) => by simp [found, Item.node] at inside
    | none => by simp [found] at inside

/-- Puts a node under a name in a directory. What lies there already goes. -/
def put (t : Tree) (s : t.Spot) (name : String) (node : Node) : Tree :=
  ⟨s.trail.replace (s.items.put name (.ofNode node))⟩

theorem entry_put {t : Tree} {s : t.Spot} {name : String} (node : Node)
    (free : t.entry (name :: s.location) ≠ some .directory) (l : Location) :
    (t.put s name node).entry l = if l = name :: s.location then some node else t.entry l := by
  rw [s.entry_cons_location] at free
  refine s.trail.entry_replace [name] (Item.entry_put [] fun l => ?_) l
  rcases l.eq_nil_or_concat with rfl | ⟨front, last, rfl⟩
  · simp [Item.entry_nil, Item.node_ofNode]
  · have old : (s.items.get? name).bind (·.entry (front ++ [last])) = none := by
      simp only [Item.entry_append]
      rcases h : s.items.get? name with _ | (content | d)
      · rfl
      · rfl
      · simp [Spot.get?, h, Item.node] at free
    rw [List.concat_eq_append, old]
    cases node <;> simp [Item.entry_append, Item.ofNode, Item.get?, Directory.get?]

end Tree

end BytecodeStore
