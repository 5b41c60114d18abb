import Mathlib.Algebra.Group.Nat.Defs
import Mathlib.Data.List.Forall2
import LogLayout.Proofs.Outcome
import LogLayout.Settings.Apply

/- What a section of settings comes to. An entry is read by the factories alone, which no entry
   changes, so that every entry is judged as it would be on its own and the first one at fault is
   the one reported. Pieces add up in their order, and of each other setting the last entry counts;
   nothing else about the order of the entries makes a difference. -/
namespace LogLayout.Settings

inductive Setting where
  | piece (p : Piece)
  | flatten (on : Bool)
  | typeKey (key : String)
  | stringKey (key : String)
  | maxDepth (depth : Nat)

namespace Setting

def set (b : Builder) : Setting → Builder
  | .piece p => b.addPiece p
  | .flatten on => { b with normalizer := { b.normalizer with flatten := on } }
  | .typeKey key => { b with normalizer := { b.normalizer with typeKey := some key } }
  | .stringKey key => { b with normalizer := { b.normalizer with stringKey := some key } }
  | .maxDepth depth => { b with normalizer := { b.normalizer with maxDepth := depth } }

def piece? : Setting → Option Piece
  | .piece p => some p
  | _ => none

def flatten? : Setting → Option Bool
  | .flatten on => some on
  | _ => none

def typeKey? : Setting → Option (Option String)
  | .typeKey key => some (some key)
  | _ => none

def stringKey? : Setting → Option (Option String)
  | .stringKey key => some (some key)
  | _ => none

def maxDepth? : Setting → Option Nat
  | .maxDepth depth => some depth
  | _ => none

theorem set_factories (b : Builder) (s : Setting) : (s.set b).factories = b.factories := by
  cases s <;> rfl

end Setting

def bare (value : String) : String := Ini.trimmed value.toList

/-- One of the words for on or off, whatever the case of its letters. -/
def SwitchWord (on : Bool) (word : String) : Prop :=
  String.ofList (word.toList.map Char.toLower) ∈
    if on then ["true", "yes", "on", "1"] else ["false", "no", "off", "0"]

/-- Decimal digits, maybe behind a plus sign, of a number of 64 bits. -/
def DepthText (depth : Nat) (text : String) : Prop :=
  ∃ digits, (text.toList = digits ∨ text.toList = '+' :: digits) ∧ digits ≠ [] ∧
    (∀ c ∈ digits, c.isDigit = true) ∧ Nat.ofDigitChars 10 digits 0 = depth ∧ depth < 2 ^ 64

inductive Means (factories : Factories) : String × String → Setting → Prop
  | arrangement (value : String) : Means factories ("arrangement", value) (.piece (.spec (bare value)))
  | member {value : String} {m : Member}
      (read : Spec.parse factories (bare value) = .ok (.member m)) :
      Means factories ("member", value) (.piece (.arrangement (.member m)))
  | flatten {value : String} {on : Bool} (word : SwitchWord on (bare value)) :
      Means factories ("flatten", value) (.flatten on)
  | typeKey (value : String) : Means factories ("type_key", value) (.typeKey (bare value))
  | stringKey (value : String) : Means factories ("string_key", value) (.stringKey (bare value))
  | maxDepth {value : String} {depth : Nat} (text : DepthText depth (bare value)) :
      Means factories ("max_depth", value) (.maxDepth depth)

def knownKeys : List String :=
  ["arrangement", "member", "flatten", "type_key", "string_key", "max_depth"]

inductive Refused (factories : Factories) : String × String → SettingsError → Prop
  | unknown {key : String} (value : String) (unknown : key ∉ knownKeys) :
      Refused factories (key, value) (.unknownKey key)
  | unreadable {value : String} {e : SpecError}
      (refused : Spec.parse factories (bare value) = .error e) :
      Refused factories ("member", value) (.spec e)
  | several {value : String} {a : Arrangement} (read : Spec.parse factories (bare value) = .ok a)
      (other : ∀ m, a ≠ .member m) :
      Refused factories ("member", value) (.invalidValue "member" (bare value))
  | flatten {value : String} (wrong : ∀ on, ¬SwitchWord on (bare value)) :
      Refused factories ("flatten", value) (.invalidValue "flatten" (bare value))
  | maxDepth {value : String} (wrong : ∀ depth, ¬DepthText depth (bare value)) :
      Refused factories ("max_depth", value) (.invalidValue "max_depth" (bare value))

theorem read_switch_iff (word : String) (on : Bool) :
    readSwitch? word = some on ↔ SwitchWord on word := by
  unfold readSwitch? SwitchWord
  generalize String.ofList (word.toList.map Char.toLower) = lower
  split
  case h_9 off_words =>
    cases on <;> simp_all
  all_goals cases on <;> simp

example : readSwitch? "Yes" = some true ∧ readSwitch? "maybe" = none := by decide +kernel

def unsigned : List Char → List Char
  | '+' :: rest => rest
  | cs => cs

theorem unsigned_iff {cs digits : List Char} (decimal : ∀ c ∈ digits, c.isDigit = true) :
    (cs = digits ∨ cs = '+' :: digits) ↔ unsigned cs = digits := by
  unfold unsigned
  split
  · rename_i rest
    constructor
    · rintro (rfl | same)
      · have sign := decimal '+' (List.mem_cons_self ..)
        cases sign
      · exact (List.cons.inj same).2
    · rintro rfl
      exact .inr rfl
  · rename_i other
    constructor
    · rintro (same | signed)
      · exact same
      · exact absurd signed (other digits)
    · exact .inl

theorem read_depth_iff (text : String) (depth : Nat) :
    readDepth? text = some depth ↔ DepthText depth text := by
  have read : readDepth? text =
      let digits := unsigned text.toList
      if !digits.isEmpty && digits.all Char.isDigit && Nat.ofDigitChars 10 digits 0 ≤ greatestDepth
      then some (Nat.ofDigitChars 10 digits 0) else none := rfl
  have limit : greatestDepth + 1 = 2 ^ 64 := by decide
  rw [read]
  constructor
  · intro found
    simp only [Option.ite_none_right_eq_some, Bool.and_eq_true, Bool.not_eq_true',
      List.isEmpty_eq_false_iff, List.all_eq_true, decide_eq_true_eq, Option.some.injEq] at found
    obtain ⟨⟨⟨some_digit, decimal⟩, small⟩, value⟩ := found
    exact ⟨_, (unsigned_iff decimal).mpr rfl, some_digit, decimal, value, by omega⟩
  · rintro ⟨digits, written, some_digit, decimal, value, small⟩
    rw [(unsigned_iff decimal).mp written]
    simp only [Option.ite_none_right_eq_some, Bool.and_eq_true, Bool.not_eq_true',
      List.isEmpty_eq_false_iff, List.all_eq_true, decide_eq_true_eq, Option.some.injEq]
    exact ⟨⟨⟨some_digit, decimal⟩, by omega⟩, value⟩

example : readDepth? "+4" = some 4 ∧ readDepth? "18446744073709551616" = none := by decide +kernel

def readEntry (factories : Factories) (entry : String × String) : Except SettingsError Setting :=
  let value := bare entry.2
  match entry.1 with
  | "arrangement" => .ok (.piece (.spec value))
  | "member" => (readMember factories entry.1 value).map fun m => .piece (.arrangement (.member m))
  | "flatten" => match readSwitch? value with
    | some on => .ok (.flatten on)
    | none => .error (.invalidValue entry.1 value)
  | "type_key" => .ok (.typeKey value)
  | "string_key" => .ok (.stringKey value)
  | "max_depth" => match readDepth? value with
    | some depth => .ok (.maxDepth depth)
    | none => .error (.invalidValue entry.1 value)
  | _ => .error (.unknownKey entry.1)

theorem apply_entry (b : Builder) (entry : String × String) :
    applyEntry b entry.1 (bare entry.2) = (readEntry b.factories entry).map (Setting.set b) := by
  obtain ⟨key, value⟩ := entry
  unfold applyEntry
  dsimp only
  split
  · rfl
  · cases read : readMember b.factories "member" (bare value) <;> simp only [readEntry, read] <;> rfl
  · cases read : readSwitch? (bare value) <;> simp only [readEntry, read] <;> rfl
  · rfl
  · rfl
  · cases read : readDepth? (bare value) <;> simp only [readEntry, read] <;> rfl
  · have unknown : readEntry b.factories (key, value) = .error (.unknownKey key) := by
      simp [readEntry, *]
    rw [unknown]
    rfl

theorem read_entry_ok_iff (factories : Factories) (entry : String × String) (s : Setting) :
    readEntry factories entry = .ok s ↔ Means factories entry s := by
  obtain ⟨key, value⟩ := entry
  constructor
  · intro read
    unfold readEntry at read
    dsimp only at read
    split at read
    · cases read
      exact .arrangement value
    · obtain ⟨m, one, rfl⟩ := ok_of_map read
      unfold readMember at one
      split at one
      · rename_i read
        cases one
        exact .member read
      · cases one
      · cases one
    · split at read
      · cases read
        exact .flatten ((read_switch_iff _ _).mp ‹_›)
      · cases read
    · cases read
      exact .typeKey value
    · cases read
      exact .stringKey value
    · split at read
      · cases read
        exact .maxDepth ((read_depth_iff _ _).mp ‹_›)
      · cases read
    · cases read
  · intro means
    cases means with
    | arrangement => rfl
    | member read => simp [readEntry, readMember, read, Except.map]
    | flatten word => simp [readEntry, (read_switch_iff _ _).mpr word]
    | typeKey => rfl
    | stringKey => rfl
    | maxDepth text => simp [readEntry, (read_depth_iff _ _).mpr text]

theorem read_member_error_iff {factories : Factories} {key value : String} {e : SettingsError} :
    readMember factories key value = .error e ↔
      (∃ a, Spec.parse factories value = .ok a ∧ (∀ m, a ≠ .member m) ∧ e = .invalidValue key value) ∨
      ∃ unread, Spec.parse factories value = .error unread ∧ e = .spec unread := by
  unfold readMember
  split
  · rename_i m read
    simp [read]
  · rename_i a other read
    simp only [read, Except.ok.injEq, exists_eq_left', reduceCtorEq, false_and, exists_false, or_false,
      Except.error.injEq]
    exact ⟨fun same => ⟨other, same.symm⟩, fun same => same.2.symm⟩
  · rename_i unread read
    simp [read, eq_comm]

section

variable {factories : Factories} {value : String} {e : SettingsError}

theorem read_unknown {key : String} (unknown : key ∉ knownKeys) :
    readEntry factories (key, value) = .error (.unknownKey key) := by
  unfold readEntry
  dsimp only
  split
  case h_7 => rfl
  all_goals exact absurd (by decide) unknown

theorem member_refused (failed : readEntry factories ("member", value) = .error e) :
    Refused factories ("member", value) e := by
  simp only [readEntry, map_error_iff] at failed
  rcases read_member_error_iff.mp failed with ⟨a, read, other, rfl⟩ | ⟨unread, refused, rfl⟩
  · exact .several read other
  · exact .unreadable refused

theorem flatten_refused (failed : readEntry factories ("flatten", value) = .error e) :
    Refused factories ("flatten", value) e := by
  simp only [readEntry] at failed
  split at failed
  · cases failed
  · rename_i unread
    cases failed
    exact .flatten ((none_iff_of_some_iff (read_switch_iff _)).mp unread)

theorem max_depth_refused (failed : readEntry factories ("max_depth", value) = .error e) :
    Refused factories ("max_depth", value) e := by
  simp only [readEntry] at failed
  split at failed
  · cases failed
  · rename_i unread
    cases failed
    exact .maxDepth ((none_iff_of_some_iff (read_depth_iff _)).mp unread)

theorem refused_of_read_entry {key : String} (failed : readEntry factories (key, value) = .error e) :
    Refused factories (key, value) e := by
  by_cases known : key ∈ knownKeys
  · simp only [knownKeys, List.mem_cons, List.not_mem_nil, or_false] at known
    rcases known with rfl | rfl | rfl | rfl | rfl | rfl
    · cases failed
    · exact member_refused failed
    · exact flatten_refused failed
    · cases failed
    · cases failed
    · exact max_depth_refused failed
  · rw [read_unknown known] at failed
    cases failed
    exact .unknown value known

end

theorem read_entry_of_refused {factories : Factories} {entry : String × String} {e : SettingsError}
    (refused : Refused factories entry e) : readEntry factories entry = .error e := by
  cases refused with
  | unknown value unknown => exact read_unknown unknown
  | unreadable failed =>
    simp only [readEntry, map_error_iff]
    exact read_member_error_iff.mpr (Or.inr ⟨_, failed, rfl⟩)
  | several read other =>
    simp only [readEntry, map_error_iff]
    exact read_member_error_iff.mpr (Or.inl ⟨_, read, other, rfl⟩)
  | flatten wrong =>
    have unread := (none_iff_of_some_iff (read_switch_iff _)).mpr wrong
    simp only [readEntry, unread]
  | maxDepth wrong =>
    have unread := (none_iff_of_some_iff (read_depth_iff _)).mpr wrong
    simp only [readEntry, unread]

theorem read_entry_error_iff (factories : Factories) (entry : String × String) (e : SettingsError) :
    readEntry factories entry = .error e ↔ Refused factories entry e :=
  ⟨refused_of_read_entry, read_entry_of_refused⟩

theorem apply_entries (b : Builder) (entries : List (String × String)) :
    applyEntries b entries =
      (entries.mapM (readEntry b.factories)).map fun settings => settings.foldl Setting.set b := by
  induction entries generalizing b with
  | nil => rfl
  | cons entry rest ih =>
    have step : applyEntries b (entry :: rest) =
        applyEntry b entry.1 (bare entry.2) >>= fun b => applyEntries b rest := rfl
    rw [step, apply_entry, List.mapM_cons]
    cases readEntry b.factories entry with
    | error e => rfl
    | ok s =>
      have next : applyEntries (s.set b) rest = _ := ih (s.set b)
      rw [Setting.set_factories] at next
      cases others : rest.mapM (readEntry b.factories) <;> rw [others] at next <;> exact next

def latest (of : Setting → Option α) (before : α) (settings : List Setting) : α :=
  (settings.filterMap of).foldl (fun _ now => now) before

theorem set_all (b : Builder) (settings : List Setting) : settings.foldl Setting.set b =
    { b with
      pieces := b.pieces ++ settings.filterMap Setting.piece?
      normalizer :=
        { flatten := latest Setting.flatten? b.normalizer.flatten settings
          typeKey := latest Setting.typeKey? b.normalizer.typeKey settings
          stringKey := latest Setting.stringKey? b.normalizer.stringKey settings
          maxDepth := latest Setting.maxDepth? b.normalizer.maxDepth settings } } := by
  induction settings generalizing b with
  | nil => simp [latest]
  | cons s rest ih =>
    rw [List.foldl_cons, ih]
    cases s with
    | piece p =>
      simp only [Setting.set, Builder.addPiece, List.append_assoc]
      rfl
    | _ => rfl

def Valid (factories : Factories) (entry : String × String) : Prop := ∃ s, Means factories entry s

def FirstRefused (factories : Factories) (entries : List (String × String))
    (e : SettingsError) : Prop :=
  ∃ before entry after, entries = before ++ entry :: after ∧
    (∀ earlier ∈ before, Valid factories earlier) ∧ Refused factories entry e

def isPieceKey (key : String) : Bool := key == "arrangement" || key == "member"

def settingKeys : List String := ["flatten", "type_key", "string_key", "max_depth"]

/-- What the last entry of a key says holds, and what was before when there is no such entry. -/
def LastCounts (key : String) (entries : List (String × String)) (tells : String → α → Prop)
    (before now : α) : Prop :=
  match Keyed.last? key entries with
  | some value => tells (bare value) now
  | none => now = before

structure Loaded (b : Builder) (entries : List (String × String)) (loaded : Builder) : Prop where
  pieces : ∃ added, loaded.pieces = b.pieces ++ added ∧
    List.Forall₂ (fun entry piece => Means b.factories entry (.piece piece))
      (entries.filter fun entry => isPieceKey entry.1) added
  flatten : LastCounts "flatten" entries (fun word on => SwitchWord on word)
    b.normalizer.flatten loaded.normalizer.flatten
  typeKey : LastCounts "type_key" entries (fun text key => key = some text)
    b.normalizer.typeKey loaded.normalizer.typeKey
  stringKey : LastCounts "string_key" entries (fun text key => key = some text)
    b.normalizer.stringKey loaded.normalizer.stringKey
  maxDepth : LastCounts "max_depth" entries (fun text depth => DepthText depth text)
    b.normalizer.maxDepth loaded.normalizer.maxDepth
  others : loaded = { b with pieces := loaded.pieces, normalizer := loaded.normalizer }

/-- The same entries in another order, but those of pieces among themselves and those of each
    setting among themselves in the same one. -/
structure Rearranged (entries other : List (String × String)) : Prop where
  perm : other.Perm entries
  pieces : (other.filter fun entry => isPieceKey entry.1) =
    entries.filter fun entry => isPieceKey entry.1
  settings : ∀ key ∈ settingKeys, (other.filter fun entry => entry.1 == key) =
    entries.filter fun entry => entry.1 == key

section

variable {factories : Factories} {entries : List (String × String)} {settings : List Setting}

theorem valid_iff (entry : String × String) :
    Valid factories entry ↔ ∃ s, readEntry factories entry = .ok s :=
  exists_congr fun s => (read_entry_ok_iff factories entry s).symm

theorem means_of_read (read : entries.mapM (readEntry factories) = .ok settings) :
    List.Forall₂ (Means factories) entries settings := by
  have results := results_of_map_m read
  clear read
  induction entries generalizing settings with
  | nil =>
    cases settings with
    | nil => exact .nil
    | cons s rest => cases results
  | cons entry rest ih =>
    cases settings with
    | nil => cases results
    | cons s others =>
      obtain ⟨first, later⟩ := List.cons.inj results
      exact .cons ((read_entry_ok_iff factories entry s).mp first) (ih later)

theorem pieces_asked (means : List.Forall₂ (Means factories) entries settings) :
    List.Forall₂ (fun entry piece => Means factories entry (.piece piece))
      (entries.filter fun entry => isPieceKey entry.1) (settings.filterMap Setting.piece?) := by
  induction means with
  | nil => exact .nil
  | cons first _ ih =>
    have own := first
    cases first with
    | arrangement => exact .cons own ih
    | member read => exact .cons own ih
    | _ => exact ih

/-- Settings of this sort are asked for by the entries of this key and by no others. -/
def AskedBy (factories : Factories) (key : String) (of : Setting → Option α)
    (tells : String → α → Prop) : Prop :=
  ∀ k value s, Means factories (k, value) s →
    (k = key ∧ ∃ now, of s = some now ∧ tells (bare value) now) ∨ (k ≠ key ∧ of s = none)

theorem flatten_asked : AskedBy factories "flatten" Setting.flatten?
    fun word on => SwitchWord on word := by
  intro k value s means
  cases means with
  | flatten word => exact .inl ⟨rfl, _, rfl, word⟩
  | _ => exact .inr ⟨by decide, rfl⟩

theorem type_key_asked : AskedBy factories "type_key" Setting.typeKey?
    fun text key => key = some text := by
  intro k value s means
  cases means with
  | typeKey => exact .inl ⟨rfl, _, rfl, rfl⟩
  | _ => exact .inr ⟨by decide, rfl⟩

theorem string_key_asked : AskedBy factories "string_key" Setting.stringKey?
    fun text key => key = some text := by
  intro k value s means
  cases means with
  | stringKey => exact .inl ⟨rfl, _, rfl, rfl⟩
  | _ => exact .inr ⟨by decide, rfl⟩

theorem max_depth_asked : AskedBy factories "max_depth" Setting.maxDepth?
    fun text depth => DepthText depth text := by
  intro k value s means
  cases means with
  | maxDepth text => exact .inl ⟨rfl, _, rfl, text⟩
  | _ => exact .inr ⟨by decide, rfl⟩

theorem last_counts {of : Setting → Option α} {key : String} {tells : String → α → Prop}
    (asked : AskedBy factories key of tells)
    (means : List.Forall₂ (Means factories) entries settings) (before : α) :
    LastCounts key entries tells before (latest of before settings) := by
  induction means generalizing before with
  | nil => rfl
  | @cons entry s rest others first _ ih =>
    obtain ⟨k, value⟩ := entry
    unfold LastCounts at ih ⊢
    have split : Keyed.last? key ((k, value) :: rest) =
        (Keyed.last? key rest).or (Keyed.get? key [(k, value)]) :=
      Keyed.last_append key [(k, value)] rest
    have step : latest of before (s :: others) = latest of ((of s).getD before) others := by
      cases known : of s <;> simp [latest, known]
    have later := ih ((of s).getD before)
    rw [split, step]
    cases found : Keyed.last? key rest with
    | some last =>
      rw [found] at later
      exact later
    | none =>
      rw [found] at later
      simp only at later
      rw [later]
      rcases asked k value s first with ⟨same, now, known, said⟩ | ⟨apart, nothing⟩
      · simpa [Keyed.get?, same, known] using said
      · simp [Keyed.get?, apart, nothing]

theorem asked_of_kind {of : Setting → Option α} (kind : String → Bool)
    (only : ∀ k value s, Means factories (k, value) s → kind k = false → of s = none)
    (means : List.Forall₂ (Means factories) entries settings) :
    settings.filterMap of = (entries.filter fun entry => kind entry.1).filterMap
      fun entry => (readEntry factories entry).toOption.bind of := by
  induction means with
  | nil => rfl
  | @cons entry s rest others first _ ih =>
    have read : (readEntry factories entry).toOption.bind of = of s := by
      rw [(read_entry_ok_iff factories entry s).mpr first]
      rfl
    cases own : kind entry.1 with
    | true => rw [List.filter_cons, if_pos own, List.filterMap_cons, List.filterMap_cons, read, ih]
    | false =>
      have nothing : of s = none := only _ _ s first own
      rw [List.filter_cons, if_neg (by simp [own]), List.filterMap_cons_none nothing, ih]

theorem asked_again {of : Setting → Option α} {key : String} {tells : String → α → Prop}
    (asked : AskedBy factories key of tells) {other : List (String × String)}
    {again : List Setting} (means : List.Forall₂ (Means factories) entries settings)
    (meansAgain : List.Forall₂ (Means factories) other again)
    (same : (other.filter fun entry => entry.1 == key) =
      entries.filter fun entry => entry.1 == key) :
    again.filterMap of = settings.filterMap of := by
  have only (k value : String) (s : Setting) (means : Means factories (k, value) s)
      (apart : (k == key) = false) : of s = none := by
    rcases asked k value s means with ⟨same, _⟩ | ⟨_, nothing⟩
    · simp [same] at apart
    · exact nothing
  rw [asked_of_kind (· == key) only means, asked_of_kind (· == key) only meansAgain, same]

theorem pieces_only (k value : String) (s : Setting) (means : Means factories (k, value) s)
    (apart : isPieceKey k = false) : s.piece? = none := by
  cases means with
  | arrangement => cases apart
  | member => cases apart
  | _ => rfl

end

section

variable {b loaded : Builder} {entries : List (String × String)}

theorem loads_iff : (∃ loaded, applyEntries b entries = .ok loaded) ↔
    ∀ entry ∈ entries, Valid b.factories entry := by
  rw [apply_entries]
  constructor
  · rintro ⟨loaded, done⟩ entry member
    obtain ⟨settings, read, _⟩ := ok_of_map done
    have results : entries.map (readEntry b.factories) = settings.map .ok := results_of_map_m read
    have result : readEntry b.factories entry ∈ settings.map .ok :=
      results ▸ List.mem_map_of_mem member
    obtain ⟨s, _, same⟩ := List.mem_map.mp result
    exact (valid_iff entry).mpr ⟨s, same.symm⟩
  · intro valid
    cases read : entries.mapM (readEntry b.factories) with
    | ok settings => exact ⟨_, rfl⟩
    | error e =>
      obtain ⟨before, entry, after, rfl, _, refused⟩ := map_m_error_iff.mp read
      obtain ⟨s, known⟩ := (valid_iff entry).mp (valid entry (by simp))
      rw [refused] at known
      cases known

theorem refused_iff (e : SettingsError) :
    applyEntries b entries = .error e ↔ FirstRefused b.factories entries e := by
  rw [apply_entries, map_error_iff, map_m_error_iff]
  constructor
  · rintro ⟨before, entry, after, split, passed, refused⟩
    exact ⟨before, entry, after, split, fun x held => (valid_iff x).mpr (passed x held),
      (read_entry_error_iff _ entry e).mp refused⟩
  · rintro ⟨before, entry, after, split, passed, refused⟩
    exact ⟨before, entry, after, split, fun x held => (valid_iff x).mp (passed x held),
      (read_entry_error_iff _ entry e).mpr refused⟩

theorem loaded_of_ok (done : applyEntries b entries = .ok loaded) : Loaded b entries loaded := by
  rw [apply_entries] at done
  obtain ⟨settings, read, rfl⟩ := ok_of_map done
  have means := means_of_read read
  rw [set_all]
  exact ⟨⟨_, rfl, pieces_asked means⟩, last_counts flatten_asked means _,
    last_counts type_key_asked means _, last_counts string_key_asked means _,
    last_counts max_depth_asked means _, rfl⟩

theorem rearranged_loads {other : List (String × String)} (order : Rearranged entries other)
    (done : applyEntries b entries = .ok loaded) : applyEntries b other = .ok loaded := by
  have valid := loads_iff.mp ⟨loaded, done⟩
  obtain ⟨again, doneAgain⟩ : ∃ again, applyEntries b other = .ok again :=
    loads_iff.mpr fun entry member => valid entry (order.perm.mem_iff.mp member)
  rw [doneAgain]
  rw [apply_entries] at done doneAgain
  obtain ⟨settings, read, rfl⟩ := ok_of_map done
  obtain ⟨others, readAgain, rfl⟩ := ok_of_map doneAgain
  have means := means_of_read read
  have meansAgain := means_of_read readAgain
  have pieces : others.filterMap Setting.piece? = settings.filterMap Setting.piece? := by
    rw [asked_of_kind isPieceKey pieces_only means, asked_of_kind isPieceKey pieces_only meansAgain,
      order.pieces]
  have flatten := asked_again flatten_asked means meansAgain (order.settings _ (by decide))
  have typeKey := asked_again type_key_asked means meansAgain (order.settings _ (by decide))
  have stringKey := asked_again string_key_asked means meansAgain (order.settings _ (by decide))
  have maxDepth := asked_again max_depth_asked means meansAgain (order.settings _ (by decide))
  rw [set_all, set_all]
  unfold latest
  rw [pieces, flatten, typeKey, stringKey, maxDepth]

end

/-- Loading settings. The entries of the section are taken in their order, and this goes well if and
    only if every one of them is valid by itself, given the factories that the builder starts with;
    otherwise the first one that is not is reported. The pieces follow those that were there, of each
    other setting the last entry counts, and nothing else changes. Entries may be rearranged as long
    as those of pieces and those of each setting keep their order: the builder is the same, and so is
    every layout that is built with it. -/
theorem sections_load_by_entries (b : Builder) :
    (∀ text items entries, Ini.read text = .ok items →
      Ini.sectionEntries? settingsSection items = some entries →
      applyText b text = applyEntries b entries) ∧
    ∀ entries,
      ((∃ loaded, applyEntries b entries = .ok loaded) ↔
        ∀ entry ∈ entries, Valid b.factories entry) ∧
      (∀ e, applyEntries b entries = .error e ↔ FirstRefused b.factories entries e) ∧
      ∀ loaded, applyEntries b entries = .ok loaded →
        Loaded b entries loaded ∧
        ∀ other, Rearranged entries other → applyEntries b other = .ok loaded := by
  refine ⟨?_, fun entries => ⟨loads_iff, refused_iff, fun loaded done => ?_⟩⟩
  · intro text items entries read found
    simp only [applyText, read, found, Except.mapError, bind, Except.bind]
  · exact ⟨loaded_of_ok done, fun other order => rearranged_loads order done⟩

def fresh : Builder := .start ⟨[], "app", .utc⟩

def layered : List (String × String) :=
  [("arrangement", "level"), ("flatten", "Yes"), ("member", "Host:hostname "), ("flatten", "off"),
    ("max_depth", "+4")]

def gathered : List (String × String) :=
  [("max_depth", "+4"), ("flatten", "Yes"), ("flatten", "off"), ("arrangement", "level"),
    ("member", "Host:hostname ")]

theorem gathered_section_loads_alike : ∃ loaded, applyEntries fresh layered = .ok loaded ∧
    loaded.normalizer = ⟨false, none, none, 4⟩ ∧ applyEntries fresh gathered = .ok loaded := by
  obtain ⟨_, section_loads⟩ := sections_load_by_entries fresh
  obtain ⟨_, _, loads⟩ := section_loads layered
  have order : Rearranged layered gathered := by
    refine ⟨?_, by decide, by decide⟩
    rw [← List.isPerm_iff]
    decide
  obtain ⟨loaded, done, settings⟩ : ∃ loaded, applyEntries fresh layered = .ok loaded ∧
      loaded.normalizer = ⟨false, none, none, 4⟩ := ⟨_, rfl, rfl⟩
  obtain ⟨_, rearranged⟩ := loads loaded done
  exact ⟨loaded, done, settings, rearranged gathered order⟩

end LogLayout.Settings
