import LogLayout.Number.Binary64

/- The shortest decimal that reads back as a given binary number. A number m * 2^q owns the
   reals that round to it; of the decimals with the fewest significant digits in that interval
   the nearest is taken, so only the two neighbours on each decimal grid have to be tried. -/
namespace LogLayout.Number

structure Digits where
  digits : Nat
  exponent : Int
  deriving DecidableEq, Repr

inductive Tie where
  | even | up
  deriving DecidableEq, Repr

/-- A quarter of the unit in the last place, as the ratio of the two factors, on the grid of
    multiples of 10^e: a quarter is quarterUnit / gridStep of one step. -/
def Dyadic.quarterUnit (d : Dyadic) (e : Int) : Nat :=
  Nat.pow 2 (d.exponent - 2).toNat * Nat.pow 10 (-e).toNat

def Dyadic.gridStep (d : Dyadic) (e : Int) : Nat :=
  Nat.pow 2 (2 - d.exponent).toNat * Nat.pow 10 e.toNat

/-- Whether k * 10^e rounds to the number; the ends belong to it when its mantissa is even. -/
def Dyadic.owns (d : Dyadic) (e : Int) (k : Nat) : Bool :=
  let low := (4 * d.mantissa - (if d.narrow then 1 else 2)) * d.quarterUnit e
  let high := (4 * d.mantissa + 2) * d.quarterUnit e
  let point := k * d.gridStep e
  if d.mantissa % 2 = 0 then low ≤ point && point ≤ high else low < point && point < high

def decimalLength (n : Nat) : Nat := (Nat.toDigits 10 n).length

def Dyadic.leadingExponent (d : Dyadic) : Int :=
  let num := d.mantissa * Nat.pow 2 d.exponent.toNat
  let den := Nat.pow 2 (-d.exponent).toNat
  if den ≤ num then (decimalLength (num / den) : Int) - 1
  else -(decimalLength ((den + num - 1) / num - 1) : Int)

def Dyadic.neighbours (d : Dyadic) (tie : Tie) (e : Int) : List Nat :=
  let value := 4 * d.mantissa * d.quarterUnit e
  let below := value / d.gridStep e
  let middle := (2 * below + 1) * d.gridStep e
  let lowerFirst :=
    if 2 * value = middle then tie == .even && below % 2 == 0 else 2 * value < middle
  if lowerFirst then [below, below + 1] else [below + 1, below]

def Dyadic.nearest? (d : Dyadic) (tie : Tie) (e : Int) : Option Digits :=
  ((d.neighbours tie e).find? (d.owns e)).map fun k => ⟨k, e⟩

/-- The next power of ten lies on the coarsest grid as ten steps and is written with one digit. -/
def Digits.carried (r : Digits) : Digits :=
  if r.digits % 10 = 0 then ⟨r.digits / 10, r.exponent + 1⟩ else r

/-- Seventeen digits always suffice, so the last alternative is never reached. -/
def Dyadic.shortest (d : Dyadic) (tie : Tie) : Digits :=
  let top := d.leadingExponent
  let found := (List.range 17).findSome? fun (more : Nat) => d.nearest? tie (top - more)
  (found.getD ⟨0, 0⟩).carried

theorem nearest_is_owned (d : Dyadic) (tie : Tie) (e : Int) (r : Digits)
    (found : d.nearest? tie e = some r) : d.owns r.exponent r.digits = true := by
  obtain ⟨k, hk, rfl⟩ := Option.map_eq_some_iff.mp found
  exact List.find?_some hk

end LogLayout.Number
