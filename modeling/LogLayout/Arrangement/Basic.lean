import LogLayout.NamePattern.Basic

/- Members are the named outputs of a layout and say where their values come from; arrangements
   are the rules that edit an ordered list of members. -/
namespace LogLayout

mutual
inductive Member where
  | mk (name : String) (source : Source)

inductive Source where
  /-- The event property of the member's name, or the name itself. -/
  | bare
  | literal (value : String)
  | conversion (name : String) (option : Option String)
  | template (text : String)
  | group (arrangement : Arrangement)
  | nested (inner : Member)

inductive Arrangement where
  | identity
  | deferred (spec : String)
  | preset (key : Option String)
  /-- Drops the members whose names match, or all of them. -/
  | removal (pattern : Option NamePattern)
  | composite (spec : Option String) (children : List Arrangement)
  | member (m : Member)
end

def Member.name : Member → String
  | .mk "" (.nested inner) => inner.name
  | .mk name _ => name

def Member.source : Member → Source
  | .mk _ source => source

def sameOption (same : α → β → Bool) : Option α → Option β → Bool
  | none, none => true
  | some a, some b => same a b
  | _, _ => false

def NamePattern.same (p q : NamePattern) : Bool := p.text == q.text

mutual
def Member.same : Member → Member → Bool
  | .mk n s, .mk m t => n == m && s.same t

def Source.same : Source → Source → Bool
  | .bare, .bare => true
  | .literal v, .literal w => v == w
  | .conversion n o, .conversion m p => n == m && o == p
  | .template t, .template u => t == u
  | .group a, .group b => a.same b
  | .nested m, .nested n => m.same n
  | _, _ => false

/-- Equality of arrangements, removal patterns being compared by their texts. -/
def Arrangement.same : Arrangement → Arrangement → Bool
  | .identity, .identity => true
  | .deferred s, .deferred t => s == t
  | .preset k, .preset l => k == l
  | .removal p, .removal q => sameOption NamePattern.same p q
  | .composite s as, .composite t bs => s == t && sameAll as bs
  | .member m, .member n => m.same n
  | _, _ => false

def sameAll : List Arrangement → List Arrangement → Bool
  | [], [] => true
  | a :: as, b :: bs => a.same b && sameAll as bs
  | _, _ => false
end

def Arrangement.ofList : List Arrangement → Arrangement
  | [] => .identity
  | [a] => a
  | as => .composite none as

theorem unnamed_nested_name (inner : Member) :
    (Member.mk "" (.nested inner)).name = inner.name := by
  simp [Member.name]

end LogLayout
