import LogLayout.Proofs.Outcome
import LogLayout.Template

/- The grammar of templates. A template is written as a row of pieces: ordinary characters, doubled
   percent signs and directives, whose digits, names and options reach as far as they can. What is
   so written, with known names and permitted widths, is read as its pieces; in any other text the
   leftmost directive with a fault is reported. -/
namespace LogLayout.Template

/-- The run holds characters of the kind only, and the text behind it does not go on with one. -/
structure Run (kind : Char → Bool) (run behind : List Char) : Prop where
  inside : ∀ c ∈ run, kind c = true
  boundary : ∀ c ∈ behind.head?, kind c = false

instance (kind : Char → Bool) (run behind : List Char) : Decidable (Run kind run behind) :=
  decidable_of_iff (run.all kind = true ∧ behind.head?.all (fun c => !kind c) = true) <| by
    rw [List.all_eq_true, Option.all_eq_true]
    simp only [Bool.not_eq_true']
    exact ⟨fun longest => ⟨longest.1, longest.2⟩, fun longest => ⟨longest.1, longest.2⟩⟩

section

variable {kind : Char → Bool} {run behind : List Char}

theorem Run.taken (longest : Run kind run behind) : (run ++ behind).takeWhile kind = run := by
  rw [List.takeWhile_append_of_pos longest.inside]
  cases behind with
  | nil => simp
  | cons c rest => simp [longest.boundary c rfl]

theorem Run.dropped (longest : Run kind run behind) : (run ++ behind).dropWhile kind = behind := by
  rw [List.dropWhile_append_of_pos longest.inside]
  cases behind with
  | nil => rfl
  | cons c rest => simp [longest.boundary c rfl]

theorem run_of_span (kind : Char → Bool) (cs : List Char) :
    Run kind (cs.takeWhile kind) (cs.dropWhile kind) where
  inside := List.all_eq_true.mp List.all_takeWhile
  boundary := by
    intro c first
    have stops := List.head?_dropWhile_not kind cs
    rw [first] at stops
    exact stops

theorem Run.extended (longest : Run kind run behind) (filled : behind ≠ []) (more : List Char) :
    Run kind run (behind ++ more) where
  inside := longest.inside
  boundary := by
    cases behind with
    | nil => exact absurd rfl filled
    | cons c rest => exact longest.boundary

end

structure Directive where
  alignLeft : Bool
  digits : List Char
  name : List Char
  option : Option (List Char)
  deriving DecidableEq, Repr

def sign (alignLeft : Bool) : List Char := if alignLeft then ['-'] else []

def FieldHead.written (h : FieldHead) : List Char := sign h.alignLeft ++ h.digits ++ h.name

/-- The head is read off the text with every part as long as it can be. -/
structure FieldHead.Munches (h : FieldHead) (cs : List Char) : Prop where
  whole : cs = h.written ++ h.rest
  sign : h.alignLeft = false → cs.head? ≠ some '-'
  digits : Run Char.isDigit h.digits (h.name ++ h.rest)
  name : Run isNameChar h.name h.rest

namespace Directive

def optionText (d : Directive) : List Char :=
  d.option.elim [] fun option => '\x7b' :: (option ++ ['\x7d'])

def body (d : Directive) : List Char := sign d.alignLeft ++ d.digits ++ d.name ++ d.optionText

def width (d : Directive) : Nat := Nat.ofDigitChars 10 d.digits 0

def field (d : Directive) : Field :=
  ⟨d.alignLeft, d.width, String.ofList d.name, d.option.map String.ofList⟩

/-- The directive can be written in front of the text: its digits, its name and its option are
    regular and end where it ends. -/
structure Stands (d : Directive) (behind : List Char) : Prop where
  named : d.name ≠ []
  digits : Run Char.isDigit d.digits d.name
  name : Run isNameChar d.name (d.optionText ++ behind)
  closed : ∀ option ∈ d.option, '\x7d' ∉ option
  unopened : d.option = none → behind.head? ≠ some '\x7b'

instance (d : Directive) (behind : List Char) : Decidable (d.Stands behind) :=
  decidable_of_iff (d.name ≠ [] ∧ Run Char.isDigit d.digits d.name ∧
      Run isNameChar d.name (d.optionText ++ behind) ∧ (∀ option ∈ d.option, '\x7d' ∉ option) ∧
      (d.option = none → behind.head? ≠ some '\x7b'))
    ⟨fun held => ⟨held.1, held.2.1, held.2.2.1, held.2.2.2.1, held.2.2.2.2⟩,
      fun held => ⟨held.named, held.digits, held.name, held.closed, held.unopened⟩⟩

structure Sound (known : String → Bool) (d : Directive) : Prop where
  fits : d.width ≤ maxWidth
  known : known (String.ofList d.name) = true

end Directive

inductive Piece where
  | char (c : Char)
  | percent
  | directive (d : Directive)
  deriving DecidableEq, Repr

namespace Piece

def text : Piece → List Char
  | .char c => [c]
  | .percent => ['%', '%']
  | .directive d => '%' :: d.body

def segment : Piece → Segment
  | .char c => .char c
  | .percent => .char '%'
  | .directive d => .field d.field

def Stands : Piece → List Char → Prop
  | .char c, _ => c ≠ '%'
  | .percent, _ => True
  | .directive d, behind => d.Stands behind

instance : (p : Piece) → (behind : List Char) → Decidable (p.Stands behind)
  | .char c, _ => inferInstanceAs (Decidable (c ≠ '%'))
  | .percent, _ => inferInstanceAs (Decidable True)
  | .directive d, behind => inferInstanceAs (Decidable (d.Stands behind))

def Sound (known : String → Bool) : Piece → Prop
  | .directive d => d.Sound known
  | _ => True

end Piece

def written (pieces : List Piece) : List Char := pieces.flatMap Piece.text

@[simp] theorem written_cons (p : Piece) (rest : List Piece) :
    written (p :: rest) = p.text ++ written rest := List.flatMap_cons

theorem written_append (front back : List Piece) :
    written (front ++ back) = written front ++ written back := List.flatMap_append

def Stand : List Piece → List Char → Prop
  | [], _ => True
  | p :: rest, behind => p.Stands (written rest ++ behind) ∧ Stand rest behind

instance stand_decidable :
    (pieces : List Piece) → (behind : List Char) → Decidable (Stand pieces behind)
  | [], _ => inferInstanceAs (Decidable True)
  | p :: rest, behind =>
    have := stand_decidable rest behind
    inferInstanceAs (Decidable (p.Stands (written rest ++ behind) ∧ Stand rest behind))

structure Form (template : String) (pieces : List Piece) : Prop where
  stand : Stand pieces []
  whole : template.toList = written pieces

/-- What is wrong with a directive whose percent sign stands at the offset, in bytes, in front of
    the text. A fault counts only without the ones above it. -/
inductive Faulty (known : String → Bool) (offset : Nat) (cs : List Char) : TemplateError → Prop
  | wide {h : FieldHead} (munches : h.Munches cs) (exceeds : maxWidth < h.width) :
      Faulty known offset cs (.invalidWidth offset)
  | nameless {h : FieldHead} (munches : h.Munches cs) (fits : h.width ≤ maxWidth)
      (nameless : h.name = []) : Faulty known offset cs (.danglingPercent offset)
  | unclosed {h : FieldHead} {inside : List Char} (munches : h.Munches cs)
      (fits : h.width ≤ maxWidth) (named : h.name ≠ []) (opened : h.rest = '\x7b' :: inside)
      (unclosed : '\x7d' ∉ inside) :
      Faulty known offset cs (.unterminatedOption (offset + Text.Utf8.width ('%' :: h.written)))
  | unknown {d : Directive} {behind : List Char} (stands : d.Stands behind)
      (whole : cs = d.body ++ behind) (fits : d.width ≤ maxWidth)
      (unknown : known (String.ofList d.name) = false) :
      Faulty known offset cs (.unknownConversion (String.ofList d.name))

/-- Behind pieces without a fault stands a directive with this one. -/
def FirstFault (known : String → Bool) (offset : Nat) (cs : List Char) (error : TemplateError) :
    Prop :=
  ∃ pieces back, cs = written pieces ++ '%' :: back ∧ Stand pieces ('%' :: back) ∧
    (∀ p ∈ pieces, p.Sound known) ∧ back.head? ≠ some '%' ∧
    Faulty known (offset + Text.Utf8.width (written pieces)) back error

theorem width_append (front back : List Char) :
    Text.Utf8.width (front ++ back) = Text.Utf8.width front + Text.Utf8.width back := by
  induction front with
  | nil => simp [Text.Utf8.width]
  | cons c rest ih =>
    simp only [Text.Utf8.width, List.cons_append, List.foldr_cons] at ih ⊢
    omega

theorem digit_is_name_char {c : Char} (digit : c.isDigit = true) : isNameChar c = true := by
  simp [isNameChar, Char.isAlphanum, digit]

theorem single_byte {c : Char} (part : isNameChar c = true) : c.utf8Size = 1 := by
  rw [Char.utf8Size_eq_one_iff]
  rcases Bool.or_eq_true_iff.mp part with letter_or_digit | underscore
  · rcases Bool.or_eq_true_iff.mp letter_or_digit with letter | digit
    · rcases Bool.or_eq_true_iff.mp letter with upper | lower
      · have last := (of_decide_eq_true upper).2
        exact UInt32.le_trans last (by decide)
      · have last := of_decide_eq_true (Bool.and_eq_true_iff.mp lower).2
        exact UInt32.le_trans last (by decide)
    · have last := of_decide_eq_true (Bool.and_eq_true_iff.mp digit).2
      exact UInt32.le_trans last (by decide)
  · rw [eq_of_beq underscore]
    decide

theorem width_of_name (cs : List Char) (parts : ∀ c ∈ cs, isNameChar c = true ∨ c = '-') :
    Text.Utf8.width cs = cs.length := by
  induction cs with
  | nil => rfl
  | cons c rest ih =>
    have single : c.utf8Size = 1 := by
      rcases parts c (List.mem_cons_self ..) with part | rfl
      · exact single_byte part
      · decide
    have others := ih fun d held => parts d (List.mem_cons_of_mem _ held)
    simp only [Text.Utf8.width, List.foldr_cons, List.length_cons] at others ⊢
    omega

section

variable {cs : List Char} {h : FieldHead}

theorem read_head_munches (cs : List Char) : (readHead cs).Munches cs := by
  let after := if (readHead cs).alignLeft then cs.tail else cs
  have signed : cs = sign (readHead cs).alignLeft ++ after := by
    cases cs with
    | nil => rfl
    | cons c rest =>
      by_cases minus : c = '-'
      · subst minus
        rfl
      · have plain : (readHead (c :: rest)).alignLeft = false := by simp [readHead, minus]
        simp [after, plain, sign]
  have digits : after = (readHead cs).digits ++ after.dropWhile Char.isDigit :=
    List.takeWhile_append_dropWhile.symm
  have name : after.dropWhile Char.isDigit = (readHead cs).name ++ (readHead cs).rest :=
    List.takeWhile_append_dropWhile.symm
  refine ⟨?_, ?_, ?_, run_of_span isNameChar _⟩
  · rw [FieldHead.written, List.append_assoc, List.append_assoc, ← name, ← digits, ← signed]
  · intro plain
    simpa [readHead] using plain
  · rw [← name]
    exact run_of_span Char.isDigit after

theorem read_head_of_munches (munches : h.Munches cs) : readHead cs = h := by
  obtain ⟨alignLeft, digits, name, rest⟩ := h
  obtain ⟨whole, plain, digitsRun, nameRun⟩ := munches
  simp only [FieldHead.written, List.append_assoc] at whole digitsRun nameRun plain
  have aligned : (cs.head? == some '-') = alignLeft := by
    cases alignLeft with
    | false => simpa using plain rfl
    | true =>
      rw [whole]
      rfl
  have after : (if alignLeft then cs.tail else cs) = digits ++ (name ++ rest) := by
    cases alignLeft with
    | false =>
      rw [whole]
      rfl
    | true =>
      rw [whole]
      rfl
  simp only [readHead, aligned, after, digitsRun.taken, digitsRun.dropped, nameRun.taken,
    nameRun.dropped]

theorem width_of_head (munches : h.Munches cs) :
    Text.Utf8.width ('%' :: h.written) = 1 + (cs.length - h.rest.length) := by
  have parts : ∀ c ∈ h.written, isNameChar c = true ∨ c = '-' := by
    intro c held
    simp only [FieldHead.written, List.mem_append, sign] at held
    rcases held with (minus | digit) | part
    · split at minus
      · exact Or.inr (List.mem_singleton.mp minus)
      · cases minus
    · exact Or.inl (digit_is_name_char (munches.digits.inside c digit))
    · exact Or.inl (munches.name.inside c part)
  have wide := width_of_name h.written parts
  have whole := congrArg List.length munches.whole
  rw [List.length_append] at whole
  have percent : ('%' : Char).utf8Size = 1 := by decide
  simp only [Text.Utf8.width, List.foldr_cons] at wide ⊢
  omega

end

section

variable {cs rest option inside : List Char}

theorem option_run (cs : List Char) :
    cs.dropWhile (· ≠ '\x7d') = [] ∨ ∃ rest, cs = cs.takeWhile (· ≠ '\x7d') ++ '\x7d' :: rest ∧
      cs.dropWhile (· ≠ '\x7d') = '\x7d' :: rest := by
  have longest := run_of_span (· ≠ '\x7d') cs
  cases dropped : cs.dropWhile (· ≠ '\x7d') with
  | nil => exact Or.inl rfl
  | cons c rest =>
    rw [dropped] at longest
    obtain rfl : c = '\x7d' := by simpa using longest.boundary c rfl
    refine Or.inr ⟨rest, ?_, rfl⟩
    rw [← dropped]
    exact List.takeWhile_append_dropWhile.symm

theorem free_of_brace (cs : List Char) : '\x7d' ∉ cs.takeWhile (· ≠ '\x7d') := by
  intro held
  simpa using (run_of_span (· ≠ '\x7d') cs).inside _ held

theorem read_closed_option (free : '\x7d' ∉ option) :
    readOption ('\x7b' :: (option ++ '\x7d' :: rest)) = some (some option, rest) := by
  have longest : Run (· ≠ '\x7d') option ('\x7d' :: rest) := by
    constructor
    · intro c held
      have other : c ≠ '\x7d' := by
        rintro rfl
        exact free held
      simpa using other
    · simp
  simp only [readOption, longest.dropped, longest.taken]

theorem read_no_option (unopened : cs.head? ≠ some '\x7b') : readOption cs = some (none, cs) := by
  cases cs with
  | nil => rfl
  | cons c rest =>
    have other : c ≠ '\x7b' := by simpa using unopened
    rw [readOption]
    rintro tail ⟨⟩
    exact other rfl

theorem read_open_option (unclosed : '\x7d' ∉ inside) : readOption ('\x7b' :: inside) = none := by
  rcases option_run inside with none_left | ⟨rest, whole, _⟩
  · simp only [readOption, none_left]
  · rw [whole] at unclosed
    simp at unclosed

theorem option_cases (cs : List Char) :
    (∃ inside, cs = '\x7b' :: inside ∧ '\x7d' ∉ inside) ∨ ∃ option behind,
      cs = (option.elim [] fun text => '\x7b' :: (text ++ ['\x7d'])) ++ behind ∧
        (∀ text ∈ option, '\x7d' ∉ text) ∧ (option = none → behind.head? ≠ some '\x7b') := by
  by_cases opened : cs.head? = some '\x7b'
  · obtain ⟨inside, rfl⟩ : ∃ inside, cs = '\x7b' :: inside := by
      cases cs with
      | nil => cases opened
      | cons c rest => exact ⟨rest, by simpa using opened⟩
    by_cases closed : '\x7d' ∈ inside
    · rcases option_run inside with none_left | ⟨rest, whole, _⟩
      · have all := List.takeWhile_append_dropWhile (p := (· ≠ '\x7d')) (l := inside)
        rw [none_left, List.append_nil] at all
        rw [← all] at closed
        exact absurd closed (free_of_brace inside)
      · refine Or.inr ⟨some (inside.takeWhile (· ≠ '\x7d')), rest, ?_, ?_, by simp⟩
        · rw [Option.elim, List.cons_append, List.append_assoc]
          exact congrArg _ whole
        · rintro _ ⟨⟩
          exact free_of_brace inside
    · exact Or.inl ⟨inside, rfl, closed⟩
  · exact Or.inr ⟨none, cs, rfl, by simp, fun _ => opened⟩

end

section

variable {known : String → Bool} {offset : Nat} {cs behind : List Char} {d : Directive}

theorem Directive.Stands.led (stands : d.Stands behind) :
    ∃ c rest, d.body ++ behind = sign d.alignLeft ++ c :: rest ∧ isNameChar c = true := by
  obtain ⟨c, rest, led⟩ := List.exists_cons_of_ne_nil
    (List.append_ne_nil_of_right_ne_nil d.digits stands.named)
  refine ⟨c, rest ++ (d.optionText ++ behind), ?_, ?_⟩
  · rw [← List.cons_append, ← led]
    simp [body]
  · have held : c ∈ d.digits ++ d.name := by simp [led]
    rcases List.mem_append.mp held with digit | part
    · exact digit_is_name_char (stands.digits.inside c digit)
    · exact stands.name.inside c part

theorem Directive.Stands.munches (stands : d.Stands behind) :
    (FieldHead.mk d.alignLeft d.digits d.name (d.optionText ++ behind)).Munches
      (d.body ++ behind) := by
  refine ⟨?_, ?_, stands.digits.extended stands.named _, stands.name⟩
  · simp [Directive.body, FieldHead.written]
  · intro (plain : d.alignLeft = false) minus
    obtain ⟨c, rest, led, part⟩ := stands.led
    obtain rfl : c = '-' := by simpa [led, plain, sign] using minus
    cases part

theorem read_option_text (stands : d.Stands behind) :
    readOption (d.optionText ++ behind) = some (d.option, behind) := by
  unfold Directive.optionText
  cases given : d.option with
  | none => exact read_no_option (stands.unopened given)
  | some option =>
    simp only [Option.elim, List.cons_append, List.append_assoc, List.nil_append]
    exact read_closed_option (stands.closed option given)

theorem read_head_of_directive (stands : d.Stands behind) :
    readHead (d.body ++ behind) = ⟨d.alignLeft, d.digits, d.name, d.optionText ++ behind⟩ :=
  read_head_of_munches stands.munches

theorem read_directive (stands : d.Stands behind) (fits : d.width ≤ maxWidth) :
    readField known offset (d.body ++ behind) =
      if known (String.ofList d.name) then .ok (d.field, behind)
      else .error (.unknownConversion (String.ofList d.name)) := by
  have narrow : ¬ maxWidth < Nat.ofDigitChars 10 d.digits 0 := Nat.not_lt.mpr fits
  simp [readField, read_head_of_directive stands, FieldHead.width, narrow, stands.named,
    read_option_text stands, Directive.field, Directive.width]

theorem read_faulty {error : TemplateError} (faulty : Faulty known offset cs error) :
    readField known offset cs = .error error := by
  cases faulty with
  | wide munches exceeds =>
    simp [readField, read_head_of_munches munches, exceeds]
  | nameless munches fits nameless =>
    simp [readField, read_head_of_munches munches, Nat.not_lt.mpr fits, nameless]
  | unclosed munches fits named opened unclosed =>
    have place := width_of_head munches
    simp [readField, read_head_of_munches munches, Nat.not_lt.mpr fits, named, opened,
      read_open_option unclosed, place]
    omega
  | unknown stands whole fits unknown =>
    rw [whole, read_directive stands fits, unknown]
    rfl

theorem sound_or_faulty (known : String → Bool) (offset : Nat) (cs : List Char) :
    (∃ (d : Directive) (behind : List Char), cs = d.body ++ behind ∧ d.Stands behind ∧
      d.Sound known) ∨ ∃ error, Faulty known offset cs error := by
  obtain ⟨⟨alignLeft, digits, name, rest⟩, munches⟩ : ∃ h : FieldHead, h.Munches cs :=
    ⟨readHead cs, read_head_munches cs⟩
  by_cases fits : maxWidth < Nat.ofDigitChars 10 digits 0
  · exact Or.inr ⟨_, .wide munches fits⟩
  by_cases named : name = []
  · exact Or.inr ⟨_, .nameless munches (Nat.le_of_not_lt fits) named⟩
  rcases option_cases rest with
    ⟨inside, opened, unclosed⟩ | ⟨option, behind, given, closed, unopened⟩
  · exact Or.inr ⟨_, .unclosed munches (Nat.le_of_not_lt fits) named opened unclosed⟩
  obtain ⟨whole, _, digitsRun, nameRun⟩ := munches
  let d : Directive := ⟨alignLeft, digits, name, option⟩
  have stands : d.Stands behind := by
    refine ⟨named, ⟨digitsRun.inside, ?_⟩, ?_, closed, unopened⟩
    · obtain ⟨c, more, filled⟩ := List.exists_cons_of_ne_nil named
      simpa [d, filled] using digitsRun.boundary
    · exact given ▸ nameRun
  have same : cs = d.body ++ behind := by
    simp only [Directive.body, FieldHead.written, List.append_assoc] at whole ⊢
    rw [whole, given]
    rfl
  cases held : known (String.ofList d.name) with
  | true => exact Or.inl ⟨d, behind, same, stands, Nat.le_of_not_lt fits, held⟩
  | false => exact Or.inr ⟨_, .unknown stands same (Nat.le_of_not_lt fits) held⟩

end

section

variable {known : String → Bool} {offset : Nat} {cs behind : List Char} {pieces : List Piece}
  {error : TemplateError}

theorem single_percent {d : Directive} (stands : d.Stands behind) :
    (d.body ++ behind).head? ≠ some '%' := by
  obtain ⟨c, rest, led, part⟩ := stands.led
  intro doubled
  rw [led] at doubled
  cases aligned : d.alignLeft with
  | true => simp [aligned, sign] at doubled
  | false =>
    obtain rfl : c = '%' := by simpa [aligned, sign] using doubled
    cases part

theorem read_piece {p : Piece} (stands : p.Stands behind) (sound : p.Sound known) :
    readFrom known offset (p.text ++ behind) =
      (readFrom known (offset + Text.Utf8.width p.text) behind).map (p.segment :: ·) := by
  cases p with
  | char c =>
    have plain : c ≠ '%' := stands
    rw [Piece.text, List.singleton_append, readFrom]
    · rfl
    · rintro rest rfl
      exact absurd rfl plain
    · exact plain
  | percent =>
    rw [Piece.text, List.cons_append, List.singleton_append, readFrom]
    rfl
  | directive d =>
    have read : readField known offset (d.body ++ behind) = .ok (d.field, behind) := by
      rw [read_directive stands sound.fits, if_pos sound.known]
    rw [Piece.text, List.cons_append, readFrom]
    · split
      · rename_i failed
        rw [read] at failed
        cases failed
      · rename_i field rest done
        rw [read] at done
        cases done
        rw [width_append, Nat.add_sub_cancel]
        have percent : Text.Utf8.width ('%' :: d.body) = 1 + Text.Utf8.width d.body := rfl
        rw [percent, Nat.add_assoc]
        rfl
    · intro rest doubled
      apply single_percent stands
      rw [doubled]
      rfl

theorem read_pieces (stand : Stand pieces behind) (sound : ∀ p ∈ pieces, p.Sound known) :
    readFrom known offset (written pieces ++ behind) =
      (readFrom known (offset + Text.Utf8.width (written pieces)) behind).map
        (pieces.map Piece.segment ++ ·) := by
  induction pieces generalizing offset with
  | nil =>
    change readFrom known offset behind = (readFrom known offset behind).map id
    cases readFrom known offset behind <;> rfl
  | cons p rest ih =>
    obtain ⟨stands, others⟩ := stand
    obtain ⟨first, later⟩ := List.forall_mem_cons.mp sound
    rw [written_cons, List.append_assoc, read_piece stands first,
      ih others later, width_append, Nat.add_assoc]
    generalize readFrom known (offset + _) behind = left
    cases left <;> rfl

theorem read_form {template : String} (form : Form template pieces)
    (sound : ∀ p ∈ pieces, p.Sound known) :
    read known template = .ok (pieces.map Piece.segment) := by
  have all : readFrom known 0 (written pieces ++ []) = _ := read_pieces form.stand sound
  rw [List.append_nil, ← form.whole, readFrom] at all
  simpa [read, Except.map] using all

theorem read_first_fault (fault : FirstFault known offset cs error) :
    readFrom known offset cs = .error error := by
  obtain ⟨pieces, back, rfl, stand, sound, single, faulty⟩ := fault
  rw [read_pieces stand sound, readFrom]
  · split
    · rename_i failed
      rw [read_faulty faulty] at failed
      cases failed
      rfl
    · rename_i done
      rw [read_faulty faulty] at done
      cases done
  · rintro rest rfl
    exact single rfl

example : read (fun _ => true) "é%-07p\x7bx%" = .error (.unterminatedOption 7) := by cbv

theorem fault_behind {p : Piece} (stands : p.Stands behind) (sound : p.Sound known)
    (fault : FirstFault known (offset + Text.Utf8.width p.text) behind error) :
    FirstFault known offset (p.text ++ behind) error := by
  obtain ⟨pieces, back, rfl, stand, others, single, faulty⟩ := fault
  have each := List.forall_mem_cons.mpr ⟨sound, others⟩
  refine ⟨p :: pieces, back, ?_, ⟨stands, stand⟩, each, single, ?_⟩
  · simp
  · rw [written_cons, width_append, ← Nat.add_assoc]
    exact faulty

theorem directive_unique {d e : Directive} {after : List Char} (stands : d.Stands behind)
    (other : e.Stands after) (same : d.body ++ behind = e.body ++ after) :
    d = e ∧ behind = after := by
  have heads := read_head_of_directive stands
  rw [same, read_head_of_directive other] at heads
  obtain ⟨aligned, digits, name, rest⟩ := FieldHead.mk.inj heads
  have options := read_option_text stands
  rw [← rest, read_option_text other] at options
  obtain ⟨option, left⟩ := Prod.mk.inj (Option.some.inj options)
  cases d
  cases e
  cases aligned
  cases digits
  cases name
  cases option
  exact ⟨rfl, left.symm⟩

theorem piece_unique {p q : Piece} {after : List Char} (stands : p.Stands behind)
    (other : q.Stands after) (same : p.text ++ behind = q.text ++ after) :
    p = q ∧ behind = after := by
  cases p with
  | char c =>
    have plain : c ≠ '%' := stands
    cases q with
    | char d =>
      obtain ⟨rfl, left⟩ := List.cons.inj same
      exact ⟨rfl, left⟩
    | percent => exact absurd (List.cons.inj same).1 plain
    | directive d => exact absurd (List.cons.inj same).1 plain
  | percent =>
    cases q with
    | char d => exact absurd (List.cons.inj same).1.symm other
    | percent => exact ⟨rfl, (List.cons.inj (List.cons.inj same).2).2⟩
    | directive d =>
      have led : '%' :: behind = d.body ++ after := (List.cons.inj same).2
      exact absurd (congrArg List.head? led).symm (single_percent other)
  | directive d =>
    cases q with
    | char e => exact absurd (List.cons.inj same).1.symm other
    | percent =>
      have led : d.body ++ behind = '%' :: after := (List.cons.inj same).2
      exact absurd (congrArg List.head? led) (single_percent stands)
    | directive e =>
      obtain ⟨rfl, left⟩ := directive_unique stands other (List.cons.inj same).2
      exact ⟨rfl, left⟩

theorem text_filled (p : Piece) : p.text ≠ [] := by cases p <;> simp [Piece.text]

theorem written_unique {others : List Piece} (stand : Stand pieces []) (stand' : Stand others [])
    (same : written pieces = written others) : pieces = others := by
  induction pieces generalizing others with
  | nil =>
    cases others with
    | nil => rfl
    | cons q rest =>
      rw [written_cons] at same
      exact absurd (List.append_eq_nil_iff.mp same.symm).1 (text_filled q)
  | cons p rest ih =>
    cases others with
    | nil =>
      rw [written_cons] at same
      exact absurd (List.append_eq_nil_iff.mp same).1 (text_filled p)
    | cons q more =>
      obtain ⟨stands, behind⟩ := stand
      obtain ⟨stands', behind'⟩ := stand'
      rw [List.append_nil] at stands stands'
      obtain ⟨rfl, left⟩ := piece_unique stands stands' same
      rw [ih behind behind' left]

theorem first_piece (known : String → Bool) (offset : Nat) (c : Char) (rest : List Char) :
    (∃ p behind, c :: rest = Piece.text p ++ behind ∧ p.Stands behind ∧ p.Sound known) ∨
      ∃ error, FirstFault known offset (c :: rest) error := by
  by_cases percent : c = '%'
  · subst percent
    by_cases doubled : rest.head? = some '%'
    · obtain ⟨behind, rfl⟩ : ∃ behind, rest = '%' :: behind := by
        cases rest with
        | nil => cases doubled
        | cons d behind => exact ⟨behind, by simpa using doubled⟩
      exact Or.inl ⟨.percent, behind, rfl, trivial, trivial⟩
    · rcases sound_or_faulty known offset rest with
        ⟨d, behind, rfl, stands, sound⟩ | ⟨error, faulty⟩
      · exact Or.inl ⟨.directive d, behind, rfl, stands, sound⟩
      · exact Or.inr ⟨error, [], rest, rfl, trivial, by simp, doubled, faulty⟩
  · exact Or.inl ⟨.char c, rest, rfl, percent, trivial⟩

/-- Every text is written in pieces without a fault, or has a first fault. -/
theorem written_or_faulty (known : String → Bool) (offset : Nat) (cs : List Char) :
    (∃ pieces, cs = written pieces ∧ Stand pieces [] ∧ ∀ p ∈ pieces, p.Sound known) ∨
      ∃ error, FirstFault known offset cs error := by
  induction size : cs.length using Nat.strongRecOn generalizing offset cs with
  | ind n ih =>
    cases cs with
    | nil => exact Or.inl ⟨[], rfl, trivial, by simp⟩
    | cons c rest =>
      rcases first_piece known offset c rest with ⟨p, behind, whole, stands, sound⟩ | fault
      · have shorter : behind.length < n := by
          have filled := List.length_pos_iff.mpr (text_filled p)
          rw [← size, whole, List.length_append]
          omega
        rw [whole]
        rcases ih _ shorter (offset + Text.Utf8.width p.text) behind rfl with
          ⟨pieces, rfl, stand, others⟩ | ⟨error, fault⟩
        · have each := List.forall_mem_cons.mpr ⟨sound, others⟩
          refine Or.inl ⟨p :: pieces, rfl, ⟨?_, stand⟩, each⟩
          rwa [List.append_nil]
        · exact Or.inr ⟨error, fault_behind stands sound fault⟩
      · exact Or.inr fault

end

end LogLayout.Template
