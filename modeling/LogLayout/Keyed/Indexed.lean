import Std.Data.ExtHashMap
import LogLayout.Keyed

/- Mappings that do not search for a key. The entries stand in the order in which their keys first
   came, and an index tells at which place the entry of a key stands. The two are kept apart, so an
   index that is out of step may give a place behind the last entry, which is a fault. -/
namespace LogLayout

structure Indexed (α : Type) where
  entries : Array (String × α)
  places : Std.ExtHashMap String Nat

namespace Indexed

/-- A place that the index gave, and how many entries there are. -/
structure Fault where
  place : Nat
  size : Nat
  deriving DecidableEq, Repr

variable {α : Type}

def empty : Indexed α := ⟨#[], ∅⟩

def placeOf (m : Indexed α) (key : String) : Option Nat := m.places[key]?

def entryAt (m : Indexed α) (place : Nat) : Except Fault (String × α) :=
  match m.entries[place]? with
  | some entry => .ok entry
  | none => .error ⟨place, m.entries.size⟩

def get? (m : Indexed α) (key : String) : Except Fault (Option α) :=
  match m.placeOf key with
  | some place => (m.entryAt place).map fun entry => some entry.2
  | none => .ok none

def append (m : Indexed α) (key : String) (value : α) : Indexed α :=
  ⟨m.entries.push (key, value), m.places.insert key m.entries.size⟩

def insert (m : Indexed α) (key : String) (value : α) : Except Fault (Indexed α × Option α) :=
  match m.placeOf key with
  | some place => (m.entryAt place).map fun entry =>
      ({ m with entries := m.entries.setIfInBounds place (entry.1, value) }, some entry.2)
  | none => .ok (m.append key value, none)

inductive Change (α : Type) where
  | insert (key : String) (value : α)
  | clear

def change (m : Indexed α) : Change α → Except Fault (Indexed α × Option α)
  | .insert key value => m.insert key value
  | .clear => .ok (empty, none)

def run (m : Indexed α) (changes : List (Change α)) : Except Fault (Indexed α) :=
  changes.foldlM (fun held c => (held.change c).map Prod.fst) m

def ofList (entries : List (String × α)) : Except Fault (Indexed α) :=
  empty.run (entries.map fun entry => .insert entry.1 entry.2)

/-- Equality of mappings looks at the entries in their order and at nothing else. -/
def same (alike : α → α → Bool) (m other : Indexed α) : Bool :=
  m.entries.isEqv other.entries fun a b => a.1 == b.1 && alike a.2 b.2

end Indexed

end LogLayout
