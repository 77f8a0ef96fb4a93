import GameShelf.Selector
import GameShelf.SortOrder

namespace GameShelf

/-- The members in no particular order. -/
structure Picks where
  members : List String
  nodup : members.Nodup

namespace Picks

def empty : Picks := ⟨[], List.nodup_nil⟩

def names (p : Picks) : List String := p.members.mergeSort fun a b => (nameCompare a b).isLE

def count (p : Picks) : Nat := p.members.length

def isEmpty (p : Picks) : Bool := p.members.isEmpty

def contains (p : Picks) (name : String) : Bool := p.members.any (foldEq · name)

def insert (p : Picks) (name : String) : Picks :=
  if h : name ∈ p.members then p
  else ⟨name :: p.members, List.nodup_cons.mpr ⟨h, p.nodup⟩⟩

def insertAll (p : Picks) (names : List String) : Picks := names.foldl insert p

def eraseAll (p : Picks) (names : List String) : Picks :=
  ⟨p.members.filter fun name => !names.contains name, p.nodup.filter _⟩

def add (p : Picks) (selector : String) (candidates : List String) :
    Except SelectorError Picks := do
  let (s, text) ← readSelector .add selector
  return p.insertAll (← s.pick text candidates)

def remove (p : Picks) (selector : String) : Except SelectorError Picks := do
  let (s, text) ← readSelector .remove selector
  return p.eraseAll (← s.pick text p.names)

def savedText (p : Picks) : String := String.join (p.names.map (· ++ "\n"))

theorem mem_names (p : Picks) (name : String) : name ∈ p.names ↔ name ∈ p.members :=
  List.mem_mergeSort

theorem length_names (p : Picks) : p.names.length = p.count :=
  List.length_mergeSort _

theorem mem_insert (p : Picks) (name other : String) :
    other ∈ (p.insert name).members ↔ other = name ∨ other ∈ p.members := by
  by_cases h : name ∈ p.members
  · simp only [insert, h, dif_pos]
    exact ⟨Or.inr, fun hm => hm.elim (fun he => he ▸ h) id⟩
  · simp [insert, h]

theorem mem_insertAll (p : Picks) (names : List String) (other : String) :
    other ∈ (p.insertAll names).members ↔ other ∈ names ∨ other ∈ p.members := by
  induction names generalizing p with
  | nil => simp [insertAll]
  | cons name names ih =>
    rw [show p.insertAll (name :: names) = (p.insert name).insertAll names from rfl, ih,
      mem_insert, List.mem_cons, or_left_comm, or_assoc]

theorem mem_eraseAll (p : Picks) (names : List String) (other : String) :
    other ∈ (p.eraseAll names).members ↔ other ∈ p.members ∧ other ∉ names := by
  simp [eraseAll]

end Picks
end GameShelf
