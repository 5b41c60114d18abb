import LogLayout.Notice

/- What an arrangement does to a list of members: it expands into a sequence of edits, which is
   then carried out. Deferred texts and presets are expanded where they stand, down to a fixed
   depth of nesting; what lies deeper is reported and contributes nothing. -/
namespace LogLayout

inductive Edit where
  | add (m : Member)
  | drop (pattern : NamePattern)
  | clear

def Edit.run (members : List Member) : Edit → List Member
  | .add m => members ++ [m]
  | .drop pattern => members.filter fun m => !pattern.accepts m.name
  | .clear => []

structure Expansion where
  edits : List Edit
  notices : List Notice

namespace Expansion

def nothing : Expansion := ⟨[], []⟩

def edit (e : Edit) : Expansion := ⟨[e], []⟩

def notice (n : Notice) : Expansion := ⟨[], [n]⟩

def andThen (a b : Expansion) : Expansion := ⟨a.edits ++ b.edits, a.notices ++ b.notices⟩

def run (x : Expansion) (members : List Member) : List Member := x.edits.foldl Edit.run members

@[simp] theorem then_nothing (x : Expansion) : x.andThen .nothing = x := by
  simp [andThen, nothing]

theorem then_assoc (x y z : Expansion) : (x.andThen y).andThen z = x.andThen (y.andThen z) := by
  simp [andThen]

theorem run_then (x y : Expansion) (members : List Member) :
    (x.andThen y).run members = y.run (x.run members) := by
  simp [andThen, run]

end Expansion

def presetExpansion (ctx : Context) (text : String → Expansion) (key : Option String) :
    Expansion :=
  let (chosen, notice) := ctx.presets.choose key
  Expansion.andThen ⟨[], notice.toList.map .preset⟩
    (match chosen with
    | some (_, spec) => text spec
    | none => .nothing)

mutual
def Arrangement.expandWith (ctx : Context) (text : String → Expansion) : Arrangement → Expansion
  | .identity => .nothing
  | .deferred spec => text spec
  | .preset key => presetExpansion ctx text key
  | .removal none => .edit .clear
  | .removal (some pattern) => .edit (.drop pattern)
  | .composite none children => expandAll ctx text children
  | .composite (some spec) children => (text spec).andThen (expandAll ctx text children)
  | .member m => .edit (.add m)

def expandAll (ctx : Context) (text : String → Expansion) : List Arrangement → Expansion
  | [] => .nothing
  | a :: rest => (a.expandWith ctx text).andThen (expandAll ctx text rest)
end

/-- The expansion of a text; the number counts the levels of nesting still allowed. -/
def expandText (ctx : Context) : Nat → String → Expansion
  | 0, spec => .notice (.tooNested spec)
  | levels + 1, spec =>
    match Spec.parseNested ctx.factories spec with
    | .ok a => a.expandWith ctx (expandText ctx levels)
    | .error e => .notice (.ignoredText spec e)

namespace Arrangement

def expand (ctx : Context) (a : Arrangement) : Expansion :=
  a.expandWith ctx (expandText ctx maxNesting)

def apply (ctx : Context) (a : Arrangement) (members : List Member) : List Member :=
  (a.expand ctx).run members

def members (ctx : Context) (a : Arrangement) : List Member := a.apply ctx []

end Arrangement

end LogLayout
