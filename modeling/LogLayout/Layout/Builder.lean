import LogLayout.Conversion.Builtin
import LogLayout.Layout.Basic

/- Building layouts from pieces: arrangement texts and ready arrangements, applied in order to an
   empty list of members. A strict build refuses a text that cannot be read; a lenient one reports
   it and leaves it out. Without any piece the default preset is used. -/
namespace LogLayout

inductive Piece where
  | spec (text : String)
  | arrangement (a : Arrangement)

structure Builder where
  pieces : List Piece
  conversions : Registry
  engine : Template.Engine
  factories : Factories
  /-- Presets of its own; without them those that all layouts share are used. -/
  presets : Option PresetTable
  normalizer : Normalizer
  table : Json.EscapeTable

def Piece.read (factories : Factories) : Piece → Except SpecError Arrangement
  | .spec text => Spec.parse factories text
  | .arrangement a => .ok a

namespace Builder

/-- Built-in conversions and templates, no factories, shared presets. -/
def start (env : Environment) : Builder where
  pieces := []
  conversions := Conversion.builtins env
  engine := Template.compile
  factories := []
  presets := none
  normalizer := {}
  table := .standard

def addPiece (b : Builder) (piece : Piece) : Builder := { b with pieces := b.pieces ++ [piece] }

def addSpec (b : Builder) (text : String) : Builder := b.addPiece (.spec text)

def addArrangement (b : Builder) (a : Arrangement) : Builder := b.addPiece (.arrangement a)

def addMember (b : Builder) (m : Member) : Builder := b.addArrangement (.member m)

def context (b : Builder) (shared : PresetTable) : Context :=
  ⟨b.conversions, b.engine, b.factories, b.presets.getD shared⟩

def readPieces (b : Builder) : List (Except SpecError Arrangement) :=
  b.pieces.map (Piece.read b.factories)

/-- Nothing when groups of members open one another without end. -/
def assemble (b : Builder) (shared : PresetTable) (arrangements : List Arrangement) :
    Option (Prepared Layout) :=
  let ctx := b.context shared
  let whole : Arrangement :=
    if b.pieces.isEmpty then .preset none else .composite none arrangements
  let expansion := whole.expand ctx
  (prepareAll (Member.prepare ctx) (expansion.run [])).map fun p =>
    ⟨⟨p.result, b.normalizer, b.table⟩, expansion.notices ++ p.notices⟩

def ignored : Except SpecError Arrangement → Option Notice
  | .ok _ => none
  | .error e => some (.ignoredPiece e)

def build (b : Builder) (shared : PresetTable) : Option (Prepared Layout) :=
  (b.assemble shared (b.readPieces.filterMap Except.toOption)).map fun p =>
    { p with notices := b.readPieces.filterMap ignored ++ p.notices }

def buildStrict (b : Builder) (shared : PresetTable) :
    Except SpecError (Option (Prepared Layout)) :=
  (b.pieces.mapM (Piece.read b.factories)).map (b.assemble shared)

end Builder

end LogLayout
