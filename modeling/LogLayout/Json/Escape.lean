import LogLayout.Keyed

/- Which characters of a string are replaced when it is written as JSON. A table gives
   replacements of one's own; whatever it leaves open is escaped where JSON demands it or where
   the character is not printable ASCII. -/
namespace LogLayout.Json

def hexDigits (width n : Nat) : List Char :=
  let digits := Nat.toDigits 16 n
  List.replicate (width - digits.length) '0' ++ digits

def unitEscape (unit : Nat) : List Char := '\\' :: 'u' :: hexDigits 4 unit

def utf16 (c : Char) : List Nat :=
  if c.toNat < 0x10000 then [c.toNat]
  else [0xD800 + (c.toNat - 0x10000) / 0x400, 0xDC00 + (c.toNat - 0x10000) % 0x400]

def unicodeEscape (c : Char) : List Char := (utf16 c).flatMap unitEscape

def mandatoryEscape? (c : Char) : Option (List Char) :=
  if c = '"' then some ['\\', '"']
  else if c = '\\' then some ['\\', '\\']
  else if c.toNat = 8 then some ['\\', 'b']
  else if c.toNat = 9 then some ['\\', 't']
  else if c.toNat = 10 then some ['\\', 'n']
  else if c.toNat = 12 then some ['\\', 'f']
  else if c.toNat = 13 then some ['\\', 'r']
  else if c.toNat < 32 then some (unicodeEscape c)
  else none

def isPrintableAscii (c : Char) : Bool := 32 ≤ c.toNat && c.toNat ≤ 126

def minimalEscape (c : Char) : List Char := (mandatoryEscape? c).getD [c]

def insertEntry (c : Char) (replacement : String) : List (Char × String) → List (Char × String)
  | [] => [(c, replacement)]
  | (d, text) :: rest =>
    if d = c then (d, replacement) :: rest
    else if c.toNat < d.toNat then (c, replacement) :: (d, text) :: rest
    else (d, text) :: insertEntry c replacement rest

def lookupEntry (c : Char) : List (Char × String) → Option String
  | [] => none
  | (d, text) :: rest => if d = c then some text else lookupEntry c rest

/-- The entries under their characters as texts of one letter. -/
def named (entries : List (Char × String)) : List (String × String) :=
  entries.map fun entry => (String.singleton entry.1, entry.2)

theorem named_insert (c : Char) (replacement : String) (entries : List (Char × String)) :
    named (insertEntry c replacement entries) =
      Keyed.insertSorted (String.singleton c) replacement (named entries) := by
  induction entries with
  | nil => rfl
  | cons entry rest ih =>
    obtain ⟨held, text⟩ := entry
    have order : Keyed.precedes [c] [held] = decide (c.toNat < held.toNat) := by
      simp [Keyed.precedes]
    simp only [named, List.map_cons] at ih ⊢
    by_cases same : held = c
    · simp [insertEntry, Keyed.insertSorted, same]
    · by_cases front : c.toNat < held.toNat <;>
        simp [insertEntry, Keyed.insertSorted, same, order, front, ih]

def Ascending (entries : List (Char × String)) : Prop := entries.Pairwise fun a b => a.1 < b.1

theorem ascending_named {entries : List (Char × String)} :
    Keyed.Ascending (named entries) ↔ Ascending entries := by
  have order (c d : Char) : String.singleton c < String.singleton d ↔ c < d := by
    rw [String.lt_iff, String.toList_singleton, String.toList_singleton, List.cons_lt_cons_iff]
    simp
  unfold Keyed.Ascending named Ascending
  rw [List.pairwise_map]
  simp only [order]

theorem insert_entry_ascending {entries : List (Char × String)} (ascending : Ascending entries)
    (c : Char) (replacement : String) : Ascending (insertEntry c replacement entries) := by
  rw [← ascending_named, named_insert]
  exact Keyed.insert_sorted_ascending (ascending_named.mpr ascending) ..

structure EscapeTable where
  entries : List (Char × String)
  ascending : Ascending entries
  deriving DecidableEq, Repr

namespace EscapeTable

def empty : EscapeTable := ⟨[], .nil⟩

def get? (t : EscapeTable) (c : Char) : Option String := lookupEntry c t.entries

def set (t : EscapeTable) (c : Char) (replacement : String) : EscapeTable :=
  ⟨insertEntry c replacement t.entries, insert_entry_ascending t.ascending c replacement⟩

def unset (t : EscapeTable) (c : Char) : EscapeTable :=
  ⟨t.entries.filter fun entry => entry.1 ≠ c, t.ascending.filter _⟩

/-- The escapes of JSON and, for use inside markup, the unit escapes of less-than, greater-than
    and ampersand. -/
def standard : EscapeTable :=
  let controls := (List.range 32).map Char.ofNat ++ ['"', '\\']
  let plain := controls.foldl (fun t c => t.set c (String.ofList (minimalEscape c))) empty
  ['<', '>', '&'].foldl (fun t c => t.set c (String.ofList (unicodeEscape c))) plain

def escape (t : EscapeTable) (c : Char) : List Char :=
  match t.get? c with
  | some replacement => replacement.toList
  | none =>
    match mandatoryEscape? c with
    | some text => text
    | none => if isPrintableAscii c then [c] else unicodeEscape c

end EscapeTable

@[simp] theorem lookup_insert (c d : Char) (replacement : String) (entries : List (Char × String)) :
    lookupEntry d (insertEntry c replacement entries) =
      if c = d then some replacement else lookupEntry d entries := by
  induction entries with
  | nil => simp [insertEntry, lookupEntry]
  | cons entry rest ih =>
    obtain ⟨held, text⟩ := entry
    by_cases same : held = c
    · by_cases eq : c = d <;> simp_all [insertEntry, lookupEntry]
    · rw [insertEntry, if_neg same]
      split
      · simp [lookupEntry]
      · by_cases eq : held = d <;> by_cases eq' : c = d <;> simp_all [lookupEntry]

@[simp] theorem lookup_filter (c d : Char) (entries : List (Char × String)) :
    lookupEntry d (entries.filter fun entry => entry.1 ≠ c) =
      if c = d then none else lookupEntry d entries := by
  induction entries with
  | nil => simp [lookupEntry]
  | cons entry rest ih =>
    obtain ⟨held, text⟩ := entry
    by_cases same : held = c
    · by_cases eq : c = d <;> simp_all [List.filter, lookupEntry]
    · by_cases eq : held = d <;> by_cases eq' : c = d <;> simp_all [List.filter, lookupEntry]

end LogLayout.Json
