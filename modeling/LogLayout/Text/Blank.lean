/- Blank characters are those with the Unicode property White_Space. Trimming takes
   them from both ends of a text and from nowhere else. -/
namespace LogLayout.Text

def isBlank (c : Char) : Bool :=
  (9 ≤ c.toNat && c.toNat ≤ 13) || c.toNat == 0x20 || c.toNat == 0x85 || c.toNat == 0xA0 ||
  c.toNat == 0x1680 || (0x2000 ≤ c.toNat && c.toNat ≤ 0x200A) || c.toNat == 0x2028 ||
  c.toNat == 0x2029 || c.toNat == 0x202F || c.toNat == 0x205F || c.toNat == 0x3000

def trimStart (cs : List Char) : List Char := cs.dropWhile isBlank

def trimEnd : List Char → List Char
  | [] => []
  | c :: cs =>
    match trimEnd cs with
    | [] => if isBlank c then [] else [c]
    | rest => c :: rest

def trim (cs : List Char) : List Char := trimEnd (trimStart cs)

theorem trim_end_not_longer (cs : List Char) : (trimEnd cs).length ≤ cs.length := by
  induction cs with
  | nil => simp [trimEnd]
  | cons c cs ih =>
    rw [trimEnd]
    split
    · split <;> simp
    · simpa using ih

theorem trim_not_longer (cs : List Char) : (trim cs).length ≤ cs.length :=
  Nat.le_trans (trim_end_not_longer _) (List.dropWhile_suffix isBlank).length_le

theorem trim_end_behind (front : List Char) (c : Char) (solid : isBlank c = false)
    (back : List Char) : trimEnd (front ++ c :: back) = front ++ c :: trimEnd back := by
  induction front with
  | nil =>
    rw [List.nil_append, trimEnd]
    split
    · rename_i empty
      rw [empty, if_neg (by simp [solid])]
      rfl
    · rfl
  | cons d front ih =>
    rw [List.cons_append, trimEnd, ih]
    split
    · rename_i empty
      simp at empty
    · rfl

theorem trim_end_of_solid (c : Char) (solid : isBlank c = false) (cs : List Char) :
    trimEnd (cs ++ [c]) = cs ++ [c] :=
  trim_end_behind cs c solid []

theorem trim_end_of_blank (c : Char) (blank : isBlank c = true) (cs : List Char) :
    trimEnd (cs ++ [c]) = trimEnd cs := by
  induction cs with
  | nil => simp [trimEnd, blank]
  | cons d ds ih => rw [List.cons_append, trimEnd, trimEnd, ih]

theorem trim_of_blank (c : Char) (blank : isBlank c = true) (cs : List Char) :
    trim (cs ++ [c]) = trim cs := by
  rw [trim, trimStart, List.dropWhile_append]
  split
  · rename_i empty
    rw [trim, trimStart, List.isEmpty_iff.mp empty]
    simp [blank]
  · rw [trim_end_of_blank c blank]
    rfl

def Solid (cs : List Char) : Prop :=
  (∀ c ∈ cs.head?, isBlank c = false) ∧ ∀ c ∈ cs.getLast?, isBlank c = false

theorem trim_start_of_solid (cs : List Char) (first : ∀ c ∈ cs.head?, isBlank c = false) :
    trimStart cs = cs := by
  cases cs with
  | nil => rfl
  | cons c cs => simp [trimStart, first c rfl]

theorem trim_of_solid (cs : List Char) (solid : Solid cs) : trim cs = cs := by
  obtain ⟨first, last⟩ := solid
  rw [trim, trim_start_of_solid cs first]
  rcases List.eq_nil_or_concat cs with rfl | ⟨front, c, rfl⟩
  · rfl
  · rw [List.concat_eq_append] at last ⊢
    exact trim_end_of_solid c (last c (by simp)) front

theorem trim_end_cuts (cs : List Char) :
    ∃ back, cs = trimEnd cs ++ back ∧ ∀ c ∈ back, isBlank c = true := by
  induction cs with
  | nil => exact ⟨[], rfl, by simp⟩
  | cons c cs ih =>
    obtain ⟨back, split, blank⟩ := ih
    rw [trimEnd]
    split
    · rename_i empty
      rw [empty, List.nil_append] at split
      split
      · rename_i here
        refine ⟨c :: cs, rfl, ?_⟩
        intro d member
        rcases List.mem_cons.mp member with same | later
        · rw [same]
          exact here
        · rw [split] at later
          exact blank d later
      · exact ⟨back, by rw [split]; rfl, blank⟩
    · exact ⟨back, by rw [List.cons_append, ← split], blank⟩

theorem trim_end_ignored (view : List Char → α)
    (same : ∀ cs c, isBlank c = true → view (cs ++ [c]) = view cs) (cs : List Char) :
    view (trimEnd cs) = view cs := by
  obtain ⟨back, split, blank⟩ := trim_end_cuts cs
  have behind (text : List Char) : view (text ++ back) = view text := by
    clear split
    induction back generalizing text with
    | nil => rw [List.append_nil]
    | cons c back ih =>
      have rest := ih (fun d member => blank d (List.mem_cons_of_mem _ member)) (text ++ [c])
      rw [List.append_assoc, List.singleton_append] at rest
      rw [rest]
      exact same text c (blank c (List.mem_cons_self ..))
  have whole := behind (trimEnd cs)
  rw [← split] at whole
  exact whole.symm

theorem trim_start_ignored (view : List Char → α)
    (same : ∀ cs c, isBlank c = true → view (c :: cs) = view cs) (cs : List Char) :
    view (trimStart cs) = view cs := by
  induction cs with
  | nil => rfl
  | cons c cs ih =>
    cases here : isBlank c with
    | false => rw [trimStart, List.dropWhile_cons_of_neg (by simp [here])]
    | true =>
      rw [trimStart, List.dropWhile_cons_of_pos here, same cs c here]
      exact ih

theorem trim_subset (cs : List Char) : trim cs ⊆ cs := by
  intro c member
  obtain ⟨back, split, _⟩ := trim_end_cuts (trimStart cs)
  apply (List.dropWhile_suffix isBlank).subset
  rw [trimStart] at split
  rw [split]
  exact List.mem_append_left _ member

theorem trim_end_head (cs : List Char) : ∀ c ∈ (trimEnd cs).head?, c ∈ cs.head? := by
  intro c first
  obtain ⟨back, split, _⟩ := trim_end_cuts cs
  rw [split, List.head?_append, Option.mem_def.mp first]
  rfl

theorem trim_end_last (cs : List Char) : ∀ c ∈ (trimEnd cs).getLast?, isBlank c = false := by
  induction cs with
  | nil => simp [trimEnd]
  | cons c cs ih =>
    rw [trimEnd]
    split
    · split
      · simp
      · rename_i solid
        simpa using solid
    · rename_i present
      rw [List.getLast?_cons]
      intro d last
      have kept : d ∈ (trimEnd cs).getLast? := by
        cases shown : (trimEnd cs).getLast? with
        | none => exact absurd (List.getLast?_eq_none_iff.mp shown) present
        | some e => simpa [shown] using last
      exact ih d kept

theorem trim_solid (cs : List Char) : Solid (trim cs) := by
  refine ⟨?_, trim_end_last _⟩
  intro c first
  have started := trim_end_head _ c first
  have solid := List.head?_dropWhile_not isBlank cs
  unfold trimStart at started
  rw [Option.mem_def.mp started] at solid
  simpa using solid

theorem head_solid {cs : List Char} {c : Char} (first : cs.head? = some c)
    (solid : isBlank c = false) : ∀ d ∈ cs.head?, isBlank d = false := by
  intro d held
  rw [first] at held
  rw [← Option.some.inj held]
  exact solid

theorem last_around (front back : List Char) (mark : Char) (solid : isBlank mark = false)
    (last : ∀ c ∈ back.getLast?, isBlank c = false) :
    ∀ c ∈ (front ++ mark :: back).getLast?, isBlank c = false := by
  intro c found
  rw [List.getLast?_append, List.getLast?_cons] at found
  cases shown : back.getLast? with
  | none =>
    rw [shown] at found
    obtain rfl : mark = c := by simpa using found
    exact solid
  | some d =>
    rw [shown] at found last
    exact last c (by simpa using found)

theorem solid_around (front back : List Char) (mark : Char) (solid : isBlank mark = false)
    (first : ∀ c ∈ front.head?, isBlank c = false)
    (last : ∀ c ∈ back.getLast?, isBlank c = false) : Solid (front ++ mark :: back) := by
  refine ⟨?_, last_around front back mark solid last⟩
  cases front with
  | nil => simpa using solid
  | cons d rest => simpa using first

theorem blank_of_trim (cs : List Char) (empty : trim cs = []) : ∀ c ∈ cs, isBlank c = true := by
  have solid := List.head?_dropWhile_not isBlank cs
  unfold trim at empty
  cases shown : trimStart cs with
  | nil =>
    have whole := List.takeWhile_append_dropWhile (p := isBlank) (l := cs)
    unfold trimStart at shown
    rw [shown, List.append_nil] at whole
    rw [← whole]
    exact List.all_eq_true.mp List.all_takeWhile
  | cons d ds =>
    unfold trimStart at shown
    rw [shown] at solid
    have kept := trim_end_behind [] d (by simpa using solid) ds
    rw [trimStart, shown] at empty
    rw [List.nil_append, empty] at kept
    cases kept

end LogLayout.Text
