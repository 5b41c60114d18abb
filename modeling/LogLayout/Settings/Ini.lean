import LogLayout.Text.Blank

/- Configuration text made of named sections and of entries, a key and a value with an equals
   sign or a colon between them. A value ends with its line; a backslash joins a line to the next
   one, and any other backslash stays as it is. Comments take whole lines and are not indented. What
   is indented under earlier lines is a heading, a blank line or the key of an entry. -/
namespace LogLayout.Ini

inductive Item where
  | heading (name : String)
  | entry (key value : String)
  deriving DecidableEq, Repr

inductive IniError where
  | unterminated
  | missingKey
  | inlineComment
  deriving DecidableEq, Repr

def IniError.message : IniError → String
  | .unterminated => "text ends in a key or a section name"
  | .missingKey => "missing key"
  | .inlineComment => "comment after the start of a line"

def isIndent (c : Char) : Bool := c == ' ' || c == '\t'

def isLineEnd (c : Char) : Bool := c == '\n' || c == '\r'

/-- Skips blanks up to a solid character or an indented line. Also tells whether what follows
    stands at the start of a line, given whether the text does. -/
def skipBlank (fresh : Bool) : List Char → Bool × List Char
  | [] => (fresh, [])
  | c :: rest =>
    if isLineEnd c then
      if rest.head?.any isIndent then (c == '\n', rest) else skipBlank (c == '\n') rest
    else if Text.isBlank c then skipBlank false rest
    else (fresh, c :: rest)

def readUntil (stop : Char → Bool) : List Char → List Char × List Char
  | [] => ([], [])
  | ['\\'] => (['\\'], [])
  | '\\' :: c :: rest =>
    let (text, after) := readUntil stop rest
    if c = '\n' then (text, after) else ('\\' :: c :: text, after)
  | c :: rest =>
    if stop c then ([], c :: rest)
    else
      let (text, after) := readUntil stop rest
      (c :: text, after)

def isSeparator (c : Char) : Bool := c == '=' || c == ':'

def trimmed (cs : List Char) : String := String.ofList (Text.trim cs)

def skipLine (cs : List Char) : List Char := (cs.dropWhile (· ≠ '\n')).tail

theorem skip_blank_shorter (fresh : Bool) (cs : List Char) :
    (skipBlank fresh cs).2.length ≤ cs.length := by
  induction cs generalizing fresh with
  | nil => simp [skipBlank]
  | cons c rest ih =>
    unfold skipBlank
    repeat' split
    · exact Nat.le_succ _
    · exact Nat.le_succ_of_le (ih _)
    · exact Nat.le_succ_of_le (ih _)
    · exact Nat.le_refl _

theorem read_until_shorter (stop : Char → Bool) (cs : List Char) :
    (readUntil stop cs).2.length ≤ cs.length := by
  fun_induction readUntil stop cs <;> simp_all <;> omega

theorem skip_line_shorter (cs : List Char) : (skipLine cs).length ≤ cs.length := by
  have := (List.dropWhile_suffix (l := cs) (· ≠ '\n')).length_le
  simp only [skipLine, List.length_tail]
  omega

/-- What has been read, if it is an item, and the text after it with whether that stands at the
    start of a line. -/
structure Taken where
  item : Option Item
  fresh : Bool
  rest : List Char

def Taken.settled (item : Option Item) (fresh : Bool) (rest : List Char) : Taken :=
  ⟨item, (skipBlank fresh rest).1, (skipBlank fresh rest).2⟩

/-- An entry whose key begins the text; none if the text ends in the key. -/
def readEntry (cs : List Char) : Option (Except IniError Taken) :=
  match readUntil isSeparator cs with
  | (_, []) => none
  | (key, _ :: after) =>
    if trimmed key = "" then some (.error .missingKey)
    else
      let (value, after) := readUntil isLineEnd after
      some (.ok (.settled (some (.entry (trimmed key) (trimmed value))) false after))

/-- What follows the blanks at the start of an indented line. A key that is not ended is passed
    over, and so is a blank line, but not the blanks after it. -/
def readIndented (cs : List Char) : Except IniError Taken :=
  match cs with
  | [] => .ok ⟨none, false, []⟩
  | c :: rest =>
    if isLineEnd c then .ok ⟨none, c == '\n', rest⟩
    else if c = '[' then .ok ⟨none, false, c :: rest⟩
    else (readEntry (c :: rest)).getD (.ok ⟨none, false, []⟩)

def readItem (fresh : Bool) (c : Char) (rest : List Char) : Except IniError Taken :=
  if c = ';' ∨ c = '#' then
    if fresh then .ok (.settled none true (skipLine rest)) else .error .inlineComment
  else if c = '[' then
    match readUntil (· == ']') rest with
    | (_, []) => .error .unterminated
    | (name, _ :: after) => .ok (.settled (some (.heading (trimmed name))) false after)
  else if isSeparator c then .error .missingKey
  else if isLineEnd c then .ok (.settled none (c == '\n') rest)
  else if isIndent c then readIndented (rest.dropWhile isIndent)
  else (readEntry (c :: rest)).getD (.error .unterminated)

theorem settled_shorter (item : Option Item) (fresh : Bool) (rest : List Char) :
    (Taken.settled item fresh rest).rest.length ≤ rest.length := skip_blank_shorter fresh rest

theorem read_entry_shorter {cs : List Char} {taken : Taken}
    (read : readEntry cs = some (.ok taken)) : taken.rest.length < cs.length := by
  unfold readEntry at read
  have key := read_until_shorter isSeparator cs
  split at read
  · cases read
  · rename_i after found
    rw [found] at key
    simp only [List.length_cons] at key
    split at read
    · cases read
    · have value := read_until_shorter isLineEnd after
      simp only [Option.some.injEq, Except.ok.injEq] at read
      subst read
      exact Nat.lt_of_le_of_lt (Nat.le_trans (settled_shorter _ _ _) value) key

theorem read_indented_shorter {cs : List Char} {taken : Taken}
    (read : readIndented cs = .ok taken) : taken.rest.length ≤ cs.length := by
  unfold readIndented at read
  split at read
  · cases read; exact Nat.le_refl _
  · rename_i c rest
    split at read
    · cases read; exact Nat.le_succ _
    · split at read
      · cases read; exact Nat.le_refl _
      · cases entry : readEntry (c :: rest) with
        | none =>
          rw [entry] at read
          cases read
          exact Nat.zero_le _
        | some result =>
          rw [entry] at read
          exact Nat.le_of_lt (read_entry_shorter (entry.trans (congrArg some read)))

theorem read_item_shorter {fresh : Bool} {c : Char} {rest : List Char} {taken : Taken}
    (read : readItem fresh c rest = .ok taken) : taken.rest.length ≤ rest.length := by
  unfold readItem at read
  split at read
  · split at read
    · cases read
      exact Nat.le_trans (settled_shorter none true _) (skip_line_shorter rest)
    · cases read
  · split at read
    · have name := read_until_shorter (· == ']') rest
      split at read
      · cases read
      · rename_i found
        rw [found] at name
        simp only [List.length_cons] at name
        cases read
        exact Nat.le_trans (settled_shorter _ false _) (by omega)
    · split at read
      · cases read
      · split at read
        · cases read
          exact settled_shorter none _ rest
        · split at read
          · exact Nat.le_trans (read_indented_shorter read)
              (List.dropWhile_suffix (l := rest) isIndent).length_le
          · cases entry : readEntry (c :: rest) with
            | none =>
              rw [entry] at read
              cases read
            | some result =>
              rw [entry] at read
              exact Nat.le_of_lt_succ (read_entry_shorter (entry.trans (congrArg some read)))

def readFrom (fresh : Bool) (cs : List Char) : Except IniError (List Item) :=
  match cs with
  | [] => .ok []
  | c :: rest =>
    match _ : readItem fresh c rest with
    | .error e => .error e
    | .ok taken => (readFrom taken.fresh taken.rest).map (taken.item.toList ++ ·)
termination_by cs.length
decreasing_by exact Nat.lt_succ_of_le (read_item_shorter ‹_›)

def read (text : String) : Except IniError (List Item) := readFrom true text.toList

def entries : List Item → List (String × String)
  | .entry key value :: rest => (key, value) :: entries rest
  | _ => []

/-- The entries of the first section of the name. -/
def sectionEntries? (name : String) : List Item → Option (List (String × String))
  | [] => none
  | item :: rest => if item = .heading name then some (entries rest) else sectionEntries? name rest

end LogLayout.Ini
