/- UTF-8 read from arbitrary bytes. Reading yields one entry per character and one empty
   entry per ill-formed piece, a piece being the longest run of bytes that still begins some
   well-formed sequence (or a single byte when none does). -/
namespace LogLayout.Text.Utf8

/-- A sequence that has begun: the bits so far, how many bytes follow, and the bounds of the
    next. -/
structure Pending where
  bits : Nat
  missing : Nat
  lowest : Nat
  highest : Nat
  deriving DecidableEq, Repr

inductive Lead where
  | whole (c : Char)
  | opens (p : Pending)
  | invalid
  deriving DecidableEq, Repr

/-- The bounds on the second byte rule out overlong forms, surrogates and values past U+10FFFF. -/
def lead (b : Nat) : Lead :=
  if b < 0x80 then .whole (Char.ofNat b)
  else if b < 0xC2 then .invalid
  else if b < 0xE0 then .opens ⟨b - 0xC0, 1, 0x80, 0xBF⟩
  else if b = 0xE0 then .opens ⟨0, 2, 0xA0, 0xBF⟩
  else if b = 0xED then .opens ⟨0xD, 2, 0x80, 0x9F⟩
  else if b < 0xF0 then .opens ⟨b - 0xE0, 2, 0x80, 0xBF⟩
  else if b = 0xF0 then .opens ⟨0, 3, 0x90, 0xBF⟩
  else if b < 0xF4 then .opens ⟨b - 0xF0, 3, 0x80, 0xBF⟩
  else if b = 0xF4 then .opens ⟨4, 3, 0x80, 0x8F⟩
  else .invalid

def Pending.accepts (p : Pending) (b : Nat) : Bool := p.lowest ≤ b && b ≤ p.highest

def Pending.push (p : Pending) (b : Nat) : Lead :=
  let bits := p.bits * 64 + (b - 0x80)
  if p.missing ≤ 1 then .whole (Char.ofNat bits) else .opens ⟨bits, p.missing - 1, 0x80, 0xBF⟩

def Lead.entries : Lead → List (Option Char)
  | .whole c => [some c]
  | .opens _ => []
  | .invalid => [none]

def Lead.pending : Lead → Option Pending
  | .opens p => some p
  | _ => none

def step (pending : Option Pending) (b : Nat) : List (Option Char) × Option Pending :=
  match pending with
  | none => ((lead b).entries, (lead b).pending)
  | some p =>
    if p.accepts b then ((p.push b).entries, (p.push b).pending)
    else (none :: (lead b).entries, (lead b).pending)

def scanFrom (pending : Option Pending) : List UInt8 → List (Option Char)
  | [] => if pending.isSome then [none] else []
  | b :: bs => (step pending b.toNat).1 ++ scanFrom (step pending b.toNat).2 bs

def scan (bytes : List UInt8) : List (Option Char) := scanFrom none bytes

/-- Each ill-formed piece becomes one replacement character. -/
def decodeLossy (bytes : List UInt8) : List Char :=
  (scan bytes).map fun entry => entry.getD ('\uFFFD')

def decode? (bytes : List UInt8) : Option (List Char) := (scan bytes).mapM id

def width (cs : List Char) : Nat := cs.foldr (fun c n => c.utf8Size + n) 0

end LogLayout.Text.Utf8
