import LogLayout.Json.Escape

/- Escape tables in two parts: a row of slots for the ASCII characters, which are found by their
   codes, and an ascending mapping for the others. A code for which there is no slot is a fault. -/
namespace LogLayout.Json

namespace EscapeTable

inductive Change where
  | set (c : Char) (replacement : String)
  | unset (c : Char)
  deriving DecidableEq, Repr

def change (t : EscapeTable) : Change → EscapeTable
  | .set c replacement => t.set c replacement
  | .unset c => t.unset c

def run (t : EscapeTable) (changes : List Change) : EscapeTable := changes.foldl change t

end EscapeTable

structure SlotTable where
  slots : Array (Option String)
  beyond : EscapeTable
  deriving DecidableEq, Repr

namespace SlotTable

open EscapeTable (Change)

structure Fault where
  code : Nat
  size : Nat
  deriving DecidableEq, Repr

def asciiCount : Nat := 128

def slotOf? (c : Char) : Option Nat := if c.toNat < asciiCount then some c.toNat else none

def slotAt (t : SlotTable) (code : Nat) : Except Fault (Option String) :=
  match t.slots[code]? with
  | some held => .ok held
  | none => .error ⟨code, t.slots.size⟩

def empty : SlotTable := ⟨Array.replicate asciiCount none, .empty⟩

def get? (t : SlotTable) (c : Char) : Except Fault (Option String) :=
  match slotOf? c with
  | some code => t.slotAt code
  | none => .ok (t.beyond.get? c)

def writeSlot (t : SlotTable) (code : Nat) (held : Option String) : Except Fault SlotTable :=
  (t.slotAt code).map fun _ => { t with slots := t.slots.setIfInBounds code held }

def set (t : SlotTable) (c : Char) (replacement : String) : Except Fault SlotTable :=
  match slotOf? c with
  | some code => t.writeSlot code (some replacement)
  | none => .ok { t with beyond := t.beyond.set c replacement }

def unset (t : SlotTable) (c : Char) : Except Fault SlotTable :=
  match slotOf? c with
  | some code => t.writeSlot code none
  | none => .ok { t with beyond := t.beyond.unset c }

def change (t : SlotTable) : Change → Except Fault SlotTable
  | .set c replacement => t.set c replacement
  | .unset c => t.unset c

def run (t : SlotTable) (changes : List Change) : Except Fault SlotTable := changes.foldlM change t

def standardChanges : List Change :=
  let controls := (List.range 32).map Char.ofNat ++ ['"', '\\']
  controls.map (fun c => .set c (String.ofList (minimalEscape c))) ++
    ['<', '>', '&'].map (fun c => .set c (String.ofList (unicodeEscape c)))

inductive Start where
  | empty
  | standard
  deriving DecidableEq, Repr

def reach (changes : List Change) : Start → Except Fault SlotTable
  | .empty => SlotTable.empty.run changes
  | .standard => do
    let standard ← SlotTable.empty.run standardChanges
    standard.run changes

def Start.table : Start → EscapeTable
  | .empty => .empty
  | .standard => .standard

end SlotTable

end LogLayout.Json
