/- Binary numbers of 64 bits: a sign, eleven bits of scale and fifty-two of fraction. A number is
   read off its bits, and a ratio is rounded to the nearest number there is, a half going to the
   even one of its neighbours. -/
namespace LogLayout.Number

/-- The positive number mantissa * 2^exponent. It is narrow when the gap to the number below is
    half the gap to the number above, as at the powers of two. -/
structure Dyadic where
  mantissa : Nat
  exponent : Int
  narrow : Bool
  deriving DecidableEq, Repr

inductive Magnitude where
  | notANumber | infinite | zero
  | positive (d : Dyadic)
  deriving DecidableEq, Repr

structure Binary64 where
  bits : UInt64
  deriving DecidableEq, Repr

def roundedQuotient (num den : Nat) : Nat :=
  let twice := 2 * (num % den)
  if twice < den ∨ (twice = den ∧ num / den % 2 = 0) then num / den else num / den + 1

def inUnits (num den : Nat) (e : Int) : Nat × Nat :=
  (num * Nat.pow 2 (-e).toNat, den * Nat.pow 2 e.toNat)

def lastPlace (num den : Nat) : Int :=
  let least := max ((Nat.log2 num : Int) - Nat.log2 den - 53) (-1074)
  let units := inUnits num den least
  if units.1 / units.2 < Nat.pow 2 53 then least else least + 1

namespace Binary64

def infinity : Nat := 2047 * Nat.pow 2 52

/-- The fields follow on from one another, so a fraction that rounds up to the next power of two
    carries into the scale, and from the greatest number on to infinity. -/
def ofRatio (num den : Nat) : Binary64 :=
  if num = 0 then ⟨0⟩
  else
    let e := lastPlace num den
    let units := inUnits num den e
    let size := (e + 1074).toNat * Nat.pow 2 52 + roundedQuotient units.1 units.2
    ⟨(min size infinity).toUInt64⟩

def isNegative (x : Binary64) : Bool := x.bits.toNat / Nat.pow 2 63 % 2 == 1

def magnitude (x : Binary64) : Magnitude :=
  let fraction : Nat := x.bits.toNat % Nat.pow 2 52
  let scale : Nat := x.bits.toNat / Nat.pow 2 52 % 2048
  if scale = 2047 then (if fraction = 0 then .infinite else .notANumber)
  else if scale = 0 then (if fraction = 0 then .zero else .positive ⟨fraction, -1074, false⟩)
  else .positive ⟨Nat.pow 2 52 + fraction, (scale : Int) - 1075, fraction == 0 && scale != 1⟩

def isFinite (x : Binary64) : Bool :=
  match x.magnitude with
  | .zero | .positive _ => true
  | _ => false

/-- Equality as numbers: the two zeros are equal, and what is no number equals nothing. -/
def sameNumber (x y : Binary64) : Bool :=
  match x.magnitude, y.magnitude with
  | .notANumber, _ => false
  | .zero, .zero => true
  | _, _ => x == y

def size (x : Binary64) : Nat × Nat :=
  match x.magnitude with
  | .positive d => (d.mantissa * Nat.pow 2 d.exponent.toNat, Nat.pow 2 (-d.exponent).toNat)
  | _ => (0, 1)

def addSizes (x y : Binary64) : Binary64 :=
  ofRatio (x.size.1 * y.size.2 + y.size.1 * x.size.2) (x.size.2 * y.size.2)

def negate (x : Binary64) : Binary64 := ⟨x.bits ^^^ 0x8000000000000000⟩

def ofSingle (word : UInt32) : Binary64 :=
  let fraction : Nat := word.toNat % Nat.pow 2 23
  let scale : Nat := word.toNat / Nat.pow 2 23 % 256
  let size : Nat :=
    if scale = 0 then (ofRatio fraction (Nat.pow 2 149)).bits.toNat
    else (if scale = 255 then 2047 else scale + 896) * Nat.pow 2 52 + fraction * Nat.pow 2 29
  ⟨(word.toNat / Nat.pow 2 31 * Nat.pow 2 63 + size).toUInt64⟩

end Binary64

end LogLayout.Number
