import Mathlib.Data.String.Basic
import LogLayout.Json.Encode
import LogLayout.Json.Runs
import LogLayout.Proofs.Outcome

/- Strings written run by run are the strings written character by character. The run that is pending
   begins where the last write ended and has only characters that stay as they are, so each slice
   falls on characters and the writes cover a fragment without gap or overlap. -/
namespace LogLayout.Json

open String (Pos.Raw)

def Stands (s : String) (first last : Pos.Raw) (text : String) : Prop :=
  ∃ before after, s = before ++ text ++ after ∧ first = before.rawEndPos ∧
    last = (before ++ text).rawEndPos

/-- Writes that follow one another from one place to another: runs that are copied and characters
    that are replaced. -/
inductive Tiles (t : EscapeTable) (s : String) : Pos.Raw → Pos.Raw → List Write → Prop where
  | done (stop : Pos.Raw) : Tiles t s stop stop []
  | copied {start stop : Pos.Raw} {w : Write} {rest : List Write} (first : w.first = start)
      (stands : Stands s w.first w.last w.text)
      (plain : ∀ c ∈ w.text.toList, t.replacement? c = none)
      (tail : Tiles t s w.last stop rest) : Tiles t s start stop (w :: rest)
  | replaced {start stop : Pos.Raw} {w : Write} {rest : List Write} {c : Char}
      (first : w.first = start) (stands : Stands s w.first w.last (String.singleton c))
      (given : t.replacement? c = some w.text)
      (tail : Tiles t s w.last stop rest) : Tiles t s start stop (w :: rest)

theorem slice_of_stands {s text : String} {first last : Pos.Raw}
    (stands : Stands s first last text) : slice s first last = .ok text := by
  obtain ⟨before, after, rfl, rfl, rfl⟩ := stands
  have ordered : before.rawEndPos ≤ (before ++ text).rawEndPos := by
    simp [Pos.Raw.le_iff]
  have begins : before.rawEndPos.isValid (before ++ text ++ after) = true :=
    Pos.Raw.isValid_eq_true_iff.mpr (Pos.Raw.isValid_iff_exists_append.mpr
      ⟨before, text ++ after, String.append_assoc, rfl⟩)
  have ends : (before ++ text).rawEndPos.isValid (before ++ text ++ after) = true :=
    Pos.Raw.isValid_eq_true_iff.mpr (Pos.Raw.isValid_iff_exists_append.mpr
      ⟨before ++ text, after, rfl, rfl⟩)
  have between := String.extract_of_valid before.toList text.toList after.toList
  rw [slice, if_pos ⟨ordered, begins, ends⟩]
  rw [String.ofList_append, String.ofList_append, String.ofList_toList, String.ofList_toList,
    String.ofList_toList, String.utf8Len_toList, String.utf8Len_toList,
    ← String.utf8ByteSize_append] at between
  exact congrArg Except.ok between

def EscapeTable.inFragment (t : EscapeTable) (c : Char) : List Char :=
  (t.replacement? c).elim [c] String.toList

theorem plain_in_fragment {t : EscapeTable} {cs : List Char}
    (plain : ∀ c ∈ cs, t.replacement? c = none) : cs.flatMap t.inFragment = cs := by
  induction cs with
  | nil => rfl
  | cons c cs ih =>
    obtain ⟨first, others⟩ := List.forall_mem_cons.mp plain
    rw [List.flatMap_cons, ih others, EscapeTable.inFragment, first]
    rfl

/-- The writes go on from where the run that is pending begins, behind what has been shown, to the end
    of the fragment. -/
structure Finishes (t : EscapeTable) (fragment shown run : String) (rest : List Char)
    (writes : List Write) : Prop where
  ran : t.writeRuns fragment (places (shown ++ run).rawEndPos rest) shown.rawEndPos = .ok writes
  tiles : Tiles t fragment shown.rawEndPos fragment.rawEndPos writes
  output : writes.flatMap (·.text.toList) = (run.toList ++ rest).flatMap t.inFragment

section

variable {t : EscapeTable} {shown run : String} {c : Char} {cs : List Char} {writes : List Write}

theorem finishes_at_end (plain : ∀ c ∈ run.toList, t.replacement? c = none) :
    Finishes t (shown ++ run) shown run []
      [⟨shown.rawEndPos, (shown ++ run).rawEndPos, run⟩] := by
  have stands : Stands (shown ++ run) shown.rawEndPos (shown ++ run).rawEndPos run :=
    ⟨shown, "", by simp, rfl, rfl⟩
  refine ⟨?_, .copied rfl stands plain (.done _), ?_⟩
  · rw [places, EscapeTable.writeRuns, slice_of_stands stands]
    rfl
  · simp [plain_in_fragment plain]

theorem place_behind (s : String) (c : Char) :
    s.rawEndPos + c = (s ++ String.singleton c).rawEndPos := by
  simp

theorem finishes_with_kept {fragment : String} (given : t.replacement? c = none)
    (later : Finishes t fragment shown (run ++ String.singleton c) cs writes) :
    Finishes t fragment shown run (c :: cs) writes := by
  refine ⟨?_, later.tiles, ?_⟩
  · rw [places, place_behind, String.append_assoc, EscapeTable.writeRuns, given]
    exact later.ran
  · simpa using later.output

theorem finishes_with_replaced {text : String}
    (plain : ∀ c ∈ run.toList, t.replacement? c = none) (given : t.replacement? c = some text)
    (later : Finishes t (shown ++ run ++ String.ofList (c :: cs)) (shown ++ run ++ String.singleton c)
      "" cs writes) :
    Finishes t (shown ++ run ++ String.ofList (c :: cs)) shown run (c :: cs)
      (⟨shown.rawEndPos, (shown ++ run).rawEndPos, run⟩ ::
        ⟨(shown ++ run).rawEndPos, (shown ++ run ++ String.singleton c).rawEndPos, text⟩ ::
          writes) := by
  obtain ⟨ran, tiles, output⟩ := later
  have copied : Stands (shown ++ run ++ String.ofList (c :: cs)) shown.rawEndPos
      (shown ++ run).rawEndPos run := ⟨shown, String.ofList (c :: cs), rfl, rfl, rfl⟩
  have replaced : Stands (shown ++ run ++ String.ofList (c :: cs)) (shown ++ run).rawEndPos
      (shown ++ run ++ String.singleton c).rawEndPos (String.singleton c) :=
    ⟨shown ++ run, String.ofList cs, by rw [String.ofList_cons, ← String.append_assoc], rfl, rfl⟩
  refine ⟨?_, .copied rfl copied plain (.replaced rfl replaced given tiles), ?_⟩
  · rw [String.append_empty] at ran
    rw [places, EscapeTable.writeRuns, given, slice_of_stands copied, place_behind, ran]
    rfl
  · simp [output, plain_in_fragment plain, EscapeTable.inFragment, given]

end

theorem write_runs (t : EscapeTable) (fragment shown run : String) (rest : List Char)
    (whole : fragment = shown ++ run ++ String.ofList rest)
    (plain : ∀ c ∈ run.toList, t.replacement? c = none) :
    ∃ writes, Finishes t fragment shown run rest writes := by
  induction rest generalizing shown run with
  | nil =>
    obtain rfl : fragment = shown ++ run := by simpa using whole
    exact ⟨_, finishes_at_end plain⟩
  | cons c cs ih =>
    have further : fragment = shown ++ run ++ String.singleton c ++ String.ofList cs := by
      rw [whole, String.ofList_cons, ← String.append_assoc]
    cases given : t.replacement? c with
    | none =>
      -- the character joins the run, and the place where the run begins stays
      have plain' : ∀ d ∈ (run ++ String.singleton c).toList, t.replacement? d = none := by
        simp only [String.toList_append, String.toList_singleton, List.forall_mem_append]
        exact ⟨plain, List.forall_mem_singleton.mpr given⟩
      have grown : shown ++ run ++ String.singleton c = shown ++ (run ++ String.singleton c) :=
        String.append_assoc
      obtain ⟨writes, later⟩ := ih shown (run ++ String.singleton c) (grown ▸ further) plain'
      exact ⟨writes, finishes_with_kept given later⟩
    | some text =>
      -- the run ends before the character, and nothing is pending behind it
      obtain ⟨writes, later⟩ := ih (shown ++ run ++ String.singleton c) ""
        (by rw [String.append_empty]; exact further) (by simp)
      subst whole
      exact ⟨_, finishes_with_replaced plain given later⟩

theorem fragment_tiles (t : EscapeTable) (fragment : String) :
    ∃ writes, t.writeFragment fragment = .ok writes ∧
      Tiles t fragment 0 fragment.rawEndPos writes ∧
      writes.flatMap (·.text.toList) = fragment.toList.flatMap t.inFragment := by
  have whole : fragment = "" ++ "" ++ String.ofList fragment.toList := by simp
  obtain ⟨writes, ran, tiles, output⟩ := write_runs t fragment "" "" fragment.toList whole (by simp)
  exact ⟨writes, ran, tiles, output⟩

theorem escape_in_fragment {c : Char} (t : EscapeTable) (free : mandatoryEscape? c = none) :
    t.inFragment c = t.escape c := by
  rw [EscapeTable.inFragment, EscapeTable.replacement?, EscapeTable.escape, free]
  cases t.get? c with
  | some replacement => rfl
  | none =>
    cases isPrintableAscii c with
    | true => rfl
    | false => simp

namespace Serializer

def Proper (z : Serializer) : Call → Prop
  | .fragment run => ∀ c ∈ run.toList, mandatoryEscape? c = none
  | .escape e => mandatoryEscape? e.char = some (z.compact e).toList

/-- What is known of a serializer of compact JSON. -/
structure Documented (z : Serializer) : Prop where
  whole : ∀ s, (z.calls s).flatMap Call.chars = s.toList
  proper : ∀ s, ∀ call ∈ z.calls s, z.Proper call

theorem call_written {z : Serializer} {call : Call} (t : EscapeTable) (proper : z.Proper call) :
    z.writeCall t call = .ok (String.ofList (call.chars.flatMap t.escape)) := by
  cases call with
  | fragment run =>
    obtain ⟨writes, ran, -, output⟩ := fragment_tiles t run
    have translated : run.toList.flatMap t.inFragment = run.toList.flatMap t.escape :=
      List.flatMap_congr fun c member => escape_in_fragment t (proper c member)
    rw [writeCall, ran, Call.chars, ← translated, ← output]
    refine congrArg Except.ok (String.toList_injective ?_)
    simp [String.toList_join, List.flatMap_map]
  | escape e =>
    have mandatory : mandatoryEscape? e.char = some (z.compact e).toList := proper
    rw [writeCall, Call.chars, List.flatMap_singleton, EscapeTable.escape, mandatory]
    cases t.get? e.char <;> simp

end Serializer

namespace CharEscape

def ofChar? (c : Char) : Option CharEscape :=
  if c = '"' then some .quote
  else if c = '\\' then some .reverseSolidus
  else if c.toNat = 8 then some .backspace
  else if c.toNat = 9 then some .tab
  else if c.toNat = 10 then some .lineFeed
  else if c.toNat = 12 then some .formFeed
  else if c.toNat = 13 then some .carriageReturn
  else if c.toNat < 32 then some (.asciiControl (UInt8.ofNat c.toNat))
  else none

def short : CharEscape → String
  | .quote => "\\\""
  | .reverseSolidus => "\\\\"
  | .solidus => "\\/"
  | .backspace => "\\b"
  | .formFeed => "\\f"
  | .lineFeed => "\\n"
  | .carriageReturn => "\\r"
  | .tab => "\\t"
  | .asciiControl byte => String.ofList (unitEscape byte.toNat)

def Mandatory (c : Char) : Prop :=
  mandatoryEscape? c = (ofChar? c).map (fun e => e.short.toList) ∧
    ∀ e ∈ ofChar? c, e.char = c

theorem controls_mandatory : ∀ code < 32, Mandatory (Char.ofNat code) := by
  unfold Mandatory
  decide +kernel

theorem chars_mandatory (c : Char) : Mandatory c := by
  by_cases control : c.toNat < 32
  · have law := controls_mandatory c.toNat control
    rwa [Char.ofNat_toNat] at law
  · by_cases quote : c = '"'
    · subst quote
      exact ⟨by decide, by decide⟩
    · by_cases backslash : c = '\\'
      · subst backslash
        exact ⟨by decide, by decide⟩
      · have above (code : Nat) (low : code < 32) : c.toNat ≠ code := by omega
        simp [Mandatory, mandatoryEscape?, ofChar?, quote, backslash, control, above]

end CharEscape

namespace Serializer

def pending (run : List Char) : List Call :=
  if run = [] then [] else [.fragment (String.ofList run)]

def cut (run : List Char) : List Char → List Call
  | [] => pending run
  | c :: cs =>
    match CharEscape.ofChar? c with
    | some e => pending run ++ .escape e :: cut [] cs
    | none => cut (run ++ [c]) cs

def greedy : Serializer where
  calls s := cut [] s.toList
  compact := CharEscape.short

theorem pending_chars (run : List Char) : (pending run).flatMap Call.chars = run := by
  unfold pending
  split
  · rename_i nothing
    exact nothing.symm
  · simp [Call.chars]

theorem cut_chars (run cs : List Char) : (cut run cs).flatMap Call.chars = run ++ cs := by
  induction cs generalizing run with
  | nil => rw [cut, pending_chars, List.append_nil]
  | cons c cs ih =>
    have law := CharEscape.chars_mandatory c
    rw [cut]
    cases found : CharEscape.ofChar? c with
    | none => simp [ih]
    | some e => simp [ih, pending_chars, Call.chars, law.2 e found]

theorem pending_proper {run : List Char} (free : ∀ c ∈ run, mandatoryEscape? c = none) :
    ∀ call ∈ pending run, greedy.Proper call := by
  unfold pending
  split
  · simp
  · simpa [Proper] using free

theorem cut_proper {run : List Char} (cs : List Char)
    (free : ∀ c ∈ run, mandatoryEscape? c = none) :
    ∀ call ∈ cut run cs, greedy.Proper call := by
  induction cs generalizing run with
  | nil => exact pending_proper free
  | cons c cs ih =>
    have law := CharEscape.chars_mandatory c
    rw [cut]
    cases found : CharEscape.ofChar? c with
    | none =>
      refine ih (List.forall_mem_append.mpr ⟨free, List.forall_mem_singleton.mpr ?_⟩)
      rw [law.1, found]
      rfl
    | some e =>
      refine List.forall_mem_append.mpr ⟨pending_proper free, List.forall_mem_cons.mpr ⟨?_, ?_⟩⟩
      · have same := law.2 e found
        rw [Proper, same, law.1, found]
        rfl
      · exact ih (by simp)

theorem greedy_documented : greedy.Documented where
  whole s := cut_chars [] s.toList
  proper s := cut_proper s.toList (by simp)

/-- A string is written as its characters are, whatever runs and fragments it is cut into, and every
    slice that is taken falls on characters. -/
theorem strings_written_by_characters (z : Serializer) (documented : z.Documented)
    (t : EscapeTable) (s : String) :
    z.writeString t s = .ok (encode t (.text s)) ∧
      encode t (.text s) = String.ofList (quoted t.escape s) ∧
      ∀ fragment, ∃ writes, t.writeFragment fragment = .ok writes ∧
        Tiles t fragment 0 fragment.rawEndPos writes := by
  refine ⟨?_, rfl, ?_⟩
  · have calls : (z.calls s).mapM (z.writeCall t) =
        .ok ((z.calls s).map fun call => String.ofList (call.chars.flatMap t.escape)) := by
      refine map_m_ok ?_
      rw [List.map_map]
      exact List.map_congr_left fun call member => call_written t (documented.proper s call member)
    rw [writeString, calls]
    refine congrArg Except.ok (String.toList_injective ?_)
    simp [encode, write, quoted, String.toList_join, List.flatMap_map, ← documented.whole s,
      List.flatMap_assoc]
  · intro fragment
    obtain ⟨writes, ran, tiles, -⟩ := fragment_tiles t fragment
    exact ⟨writes, ran, tiles⟩

/-- Accents, a surrogate pair and replacements of one's own among runs and mandatory escapes. -/
theorem mixed_string_written :
    greedy.Documented ∧
      greedy.writeString
          (((EscapeTable.standard.set 'é' "e").set '/' "\\/").set '\n' "~") "<caf\u00e9/>\n\t\"😀ü" =
        .ok "\"\\u003ccafe\\/\\u003e~\\t\\\"\\ud83d\\ude00\\u00fc\"" := by
  refine ⟨greedy_documented, ?_⟩
  rw [(strings_written_by_characters greedy greedy_documented _ _).1]
  decide +kernel

end Serializer

end LogLayout.Json
