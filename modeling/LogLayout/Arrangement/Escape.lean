import LogLayout.Text.Utf8

/- Backslash escapes in arrangement text: a backslash takes away the special meaning of the
   character after it, and only the special characters may follow one. -/
namespace LogLayout.Spec

def escapable : List Char := ['\\', ';', '=', ':', '!', '%', '|', '(', ')']

def operators : List Char := ['!', '=', ':', '|', '%']

def isOperator (c : Char) : Bool := operators.contains c

def escapeChar (c : Char) : List Char := if escapable.contains c then ['\\', c] else [c]

def escape (cs : List Char) : List Char := cs.flatMap escapeChar

/-- Gives the text with its escapes resolved, or the byte offset of the first faulty backslash.
    Characters that stand bare may be exchanged for others. -/
def unescapeFrom (bare : Char → Char) (offset : Nat) : List Char → Except Nat (List Char)
  | [] => .ok []
  | ['\\'] => .error offset
  | '\\' :: c :: rest =>
    if escapable.contains c then (unescapeFrom bare (offset + 1 + c.utf8Size) rest).map (c :: ·)
    else .error offset
  | c :: rest => (unescapeFrom bare (offset + c.utf8Size) rest).map (bare c :: ·)

/-- Bare parentheses stand for the braces of template arguments. -/
def braced (c : Char) : Char := if c = '(' then '\x7b' else if c = ')' then '\x7d' else c

def extendFirst (cs : List Char) : List (List Char) → List (List Char)
  | [] => [cs]
  | piece :: rest => (cs ++ piece) :: rest

/-- The pieces between bare semicolons, with their escapes as they are. -/
def pieces : List Char → List (List Char)
  | [] => [[]]
  | ['\\'] => [['\\']]
  | '\\' :: c :: rest => extendFirst ['\\', c] (pieces rest)
  | c :: rest => if c = ';' then [] :: pieces rest else extendFirst [c] (pieces rest)

structure Found where
  head : List Char
  char : Char
  rest : List Char
  deriving DecidableEq, Repr

def findBare (kind : Char → Bool) : List Char → Option Found
  | [] => none
  | ['\\'] => none
  | '\\' :: c :: rest => (findBare kind rest).map fun f => { f with head := '\\' :: c :: f.head }
  | c :: rest =>
    if kind c then some ⟨[], c, rest⟩
    else (findBare kind rest).map fun f => { f with head := c :: f.head }

/-- Takes one backslash from each escaped semicolon, for text one level further in. -/
def innerText : List Char → List Char
  | [] => []
  | ['\\'] => ['\\']
  | '\\' :: c :: rest => if c = ';' then ';' :: innerText rest else '\\' :: c :: innerText rest
  | c :: rest => c :: innerText rest

theorem inner_text_not_longer (cs : List Char) : (innerText cs).length ≤ cs.length := by
  fun_induction innerText cs with
  | case1 => simp
  | case2 => simp
  | case3 rest ih => simp only [List.length_cons]; omega
  | case4 c rest _ ih => simp only [List.length_cons]; omega
  | case5 c rest _ _ ih => simp only [List.length_cons]; omega

end LogLayout.Spec
