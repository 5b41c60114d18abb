import LogLayout.Number.Shortest

/- How the digits of a binary number are laid out as text. The digits are the shortest ones that
   read back; a style fixes where positional writing ends and how whole numbers look. -/
namespace LogLayout.Number

structure Style where
  tie : Tie
  positional : Int → Bool
  wholeSuffix : String

/-- A JSON number: positional from 10^-5 to below 10^16, and a whole number keeps one decimal. -/
def jsonNumber : Style := ⟨.even, fun e => -5 ≤ e && e ≤ 15, ".0"⟩

/-- Plain text: always positional, a whole number has no point, a half goes up. -/
def plain : Style := ⟨.up, fun _ => true, ""⟩

def zeros (n : Nat) : List Char := List.replicate n '0'

def positionalText (suffix : List Char) (ds : List Char) (point : Int) : List Char :=
  if point ≤ 0 then '0' :: '.' :: (zeros (-point).toNat ++ ds)
  else if (ds.length : Int) ≤ point then ds ++ zeros (point.toNat - ds.length) ++ suffix
  else ds.take point.toNat ++ '.' :: ds.drop point.toNat

def scientificText (ds : List Char) (e : Int) : List Char :=
  let mantissa := match ds with
    | [] => ['0']
    | [d] => [d]
    | d :: rest => d :: '.' :: rest
  mantissa ++ 'e' :: (if e < 0 then '-' else '+') :: Nat.toDigits 10 e.natAbs

def Style.layout (s : Style) (r : Digits) : List Char :=
  let ds := Nat.toDigits 10 r.digits
  let point := (ds.length : Int) + r.exponent
  if s.positional (point - 1) then positionalText s.wholeSuffix.toList ds point
  else scientificText ds (point - 1)

def Style.render (s : Style) (x : Binary64) : String :=
  let sign := if x.isNegative then ['-'] else []
  match x.magnitude with
  | .notANumber => "NaN"
  | .infinite => String.ofList (sign ++ ['i', 'n', 'f'])
  | .zero => String.ofList (sign ++ '0' :: s.wholeSuffix.toList)
  | .positive d => String.ofList (sign ++ s.layout (d.shortest s.tie))

end LogLayout.Number
