import LogLayout.Keyed
import LogLayout.Number.Binary64

/- JSON values. An object keeps its entries in order; the operations on it never make a key
   appear twice. Two values are alike when they agree in structure and order, two binary
   numbers being compared as numbers. -/
namespace LogLayout

inductive Json where
  | null
  | text (s : String)
  | int (n : Int)
  | float (x : Number.Binary64)
  | bool (b : Bool)
  | object (entries : List (String × Json))
  | array (items : List Json)

namespace Json

def isNull : Json → Bool
  | .null => true
  | _ => false

def entries? : Json → Option (List (String × Json))
  | .object entries => some entries
  | _ => none

mutual
def alike : Json → Json → Bool
  | .null, .null => true
  | .text a, .text b => a == b
  | .int a, .int b => a == b
  | .float a, .float b => a.sameNumber b
  | .bool a, .bool b => a == b
  | .object as, .object bs => alikeEntries as bs
  | .array as, .array bs => alikeItems as bs
  | _, _ => false

def alikeEntries : List (String × Json) → List (String × Json) → Bool
  | [], [] => true
  | (k, a) :: as, (l, b) :: bs => k == l && alike a b && alikeEntries as bs
  | _, _ => false

def alikeItems : List Json → List Json → Bool
  | [], [] => true
  | a :: as, b :: bs => alike a b && alikeItems as bs
  | _, _ => false
end

end Json

end LogLayout
