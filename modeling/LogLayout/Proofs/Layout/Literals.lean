import LogLayout.Layout.Builder
import LogLayout.Proofs.Arrangement.FlatText
import LogLayout.Proofs.Layout.Lines

/- Layouts made of literals, from their text to the lines they write. The text is read as literal
   members, these become slots in the same order, and each event is written as one object of the
   literal texts. -/
namespace LogLayout

def literalSpec (pairs : List (String × String)) : String :=
  String.ofList (Spec.joined (pairs.map fun p => Spec.escaped p.1 ++ '=' :: Spec.escaped p.2))

def literalMember (p : String × String) : Member := .mk p.1 (.literal p.2)

def literalSlot (p : String × String) : Slot := .literal p.1 p.2

/-- Names that do not begin and values that do not end with a blank. -/
def Unpadded (pairs : List (String × String)) : Prop :=
  ∀ p ∈ pairs, (∀ c ∈ p.1.toList.head?, Text.isBlank c = false) ∧
    ∀ c ∈ p.2.toList.getLast?, Text.isBlank c = false

theorem parse_literal_spec (factories : Factories) (pairs : List (String × String))
    (unpadded : Unpadded pairs) :
    Spec.parse factories (literalSpec pairs) =
      .ok (.ofList (pairs.map fun p => .member (literalMember p))) := by
  have items : (pairs.map fun p => Spec.Item.literal p.1 p.2).map Spec.Item.text =
      pairs.map fun p => Spec.escaped p.1 ++ '=' :: Spec.escaped p.2 := by
    rw [List.map_map]
    rfl
  have admissible : ∀ item ∈ pairs.map fun p => Spec.Item.literal p.1 p.2,
      item.Admissible factories := by
    intro item member
    obtain ⟨p, _, rfl⟩ := List.mem_map.mp member
    exact trivial
  have solid : ∀ item ∈ pairs.map fun p => Spec.Item.literal p.1 p.2, Text.Solid item.text := by
    intro item member
    obtain ⟨p, inside, rfl⟩ := List.mem_map.mp member
    obtain ⟨front, back⟩ := unpadded p inside
    exact Text.solid_around _ _ '=' (by decide) (Spec.escaped_head p.1 front)
      (Spec.escaped_last p.2 back)
  obtain ⟨nested, read⟩ := Spec.parse_flat factories _ admissible solid
  rw [Spec.flatText, items] at read
  rw [literalSpec, read, List.mapM_map]
  have each : pairs.map (fun p => Spec.parseSegment factories nested
      (Spec.Item.literal p.1 p.2).text) =
      (pairs.map fun p => Arrangement.member (literalMember p)).map .ok := by
    rw [List.map_map]
    apply List.map_congr_left
    intro p _
    exact Spec.parse_literal factories nested p.1 p.2
  exact congrArg (Except.map Arrangement.ofList) (map_m_ok each)

theorem expand_members (ctx : Context) (members : List Member) :
    (Arrangement.ofList (members.map .member)).expand ctx = ⟨members.map .add, []⟩ := by
  have all (text : String → Expansion) : expandAll ctx text (members.map .member) =
      ⟨members.map .add, []⟩ := by
    induction members with
    | nil => rfl
    | cons m members ih =>
      rw [List.map_cons, expandAll, ih]
      rfl
  rcases members with _ | ⟨one, _ | ⟨two, others⟩⟩
  · rfl
  · rfl
  · exact all _

theorem run_additions (members held : List Member) :
    (members.map Edit.add).foldl Edit.run held = held ++ members := by
  induction members generalizing held with
  | nil => simp
  | cons m members ih => simp [Edit.run, ih]

theorem prepare_literals (ctx : Context) (pairs : List (String × String)) :
    prepareAll (Member.prepare ctx) (pairs.map literalMember) = some ⟨pairs.map literalSlot, []⟩ := by
  induction pairs with
  | nil => rfl
  | cons p pairs ih =>
    have one : (literalMember p).prepare ctx = some ⟨literalSlot p, []⟩ := by
      simp [Member.prepare, literalMember, Member.prepareWith, Member.name, literalSlot]
    rw [List.map_cons, prepareAll, one, ih]
    rfl

theorem build_literals (b : Builder) (shared : PresetTable) (fresh : b.pieces = [])
    (pairs : List (String × String)) (unpadded : Unpadded pairs) :
    (b.addSpec (literalSpec pairs)).buildStrict shared =
      .ok (some ⟨⟨pairs.map literalSlot, b.normalizer, b.table⟩, []⟩) := by
  have pieces : (b.addSpec (literalSpec pairs)).pieces = [.spec (literalSpec pairs)] := by
    simp [Builder.addSpec, Builder.addPiece, fresh]
  have read : Piece.read (b.addSpec (literalSpec pairs)).factories (.spec (literalSpec pairs)) =
      .ok (.ofList ((pairs.map literalMember).map .member)) := by
    rw [List.map_map]
    exact parse_literal_spec _ pairs unpadded
  have whole (ctx : Context) (a : Arrangement) :
      (Arrangement.composite none [a]).expand ctx = (a.expand ctx).andThen .nothing := rfl
  have members (ctx : Context) : ((Arrangement.composite none
      [.ofList ((pairs.map literalMember).map .member)]).expand ctx) =
        ⟨(pairs.map literalMember).map .add, []⟩ := by
    rw [whole, expand_members]
    simp [Expansion.andThen, Expansion.nothing]
  rw [Builder.buildStrict, pieces, List.mapM_cons, read]
  simp only [List.mapM_nil, bind, Except.bind, pure, Except.pure, Except.map, Builder.assemble,
    pieces, List.isEmpty_cons, Bool.false_eq_true, if_false, members, Expansion.run, run_additions,
    List.nil_append, prepare_literals]
  rfl

theorem read_literal (e : Event) (path : List Nat) (p : String × String)
    (free : e.property? p.1 = none) :
    (literalSlot p).read e path = ⟨some (.text p.2), []⟩ := by
  simp [literalSlot, Slot.read, propertyNamed, free]

theorem normalize_text_into (n : Normalizer) (key text : String) (out : List (String × Json)) :
    n.normalizeInto key (.text text) out = .ok (Keyed.insert key (.text text) out) := by
  have nested : n.nested (.text text) = .ok (.text text) := rfl
  rw [Normalizer.normalizeInto, nested]
  by_cases flat : n.flatten = true <;> simp [Except.map, Normalizer.store, flat, Json.flattenInto]

theorem collect_literals (n : Normalizer) (e : Event) (i : Nat) (out : List (String × Json))
    (pairs : List (String × String)) (free : ∀ p ∈ pairs, e.property? p.1 = none) :
    collect n e i out (pairs.map literalSlot) =
      ⟨.ok (Keyed.insertAll out (pairs.map fun p => (p.1, .text p.2))), []⟩ := by
  induction pairs generalizing i out with
  | nil => rfl
  | cons p pairs ih =>
    have first := read_literal e [i] p (free p (by simp))
    have others := ih (i + 1) (Keyed.insert p.1 (.text p.2) out)
      fun q member => free q (by simp [member])
    have name : (literalSlot p).name = p.1 := rfl
    rw [List.map_cons, collect, first, name]
    simp only [Option.elim, normalize_text_into, others, List.map_cons, List.append_nil]
    rfl

def literalEntries (pairs : List (String × String)) : List (String × Json) :=
  Keyed.ofList (pairs.map fun p => (p.1, .text p.2))

theorem literal_keys (pairs : List (String × String)) :
    Keyed.keys (literalEntries pairs) = (pairs.map Prod.fst).eraseDups := by
  have names : Keyed.keys (pairs.map fun p => (p.1, Json.text p.2)) = pairs.map Prod.fst := by
    simp [Keyed.keys]
  rw [literalEntries, Keyed.keys_of_list, names]

theorem literal_get (pairs : List (String × String)) (name : String) :
    Keyed.get? name (literalEntries pairs) = (Keyed.get? name pairs.reverse).map Json.text := by
  rw [literalEntries, Keyed.get_of_list, Keyed.last?, ← List.map_reverse, Keyed.get_map]

def Listed (pairs : List (String × String)) : Prop :=
  2 ≤ pairs.length ∨ ∃ p, pairs = [p] ∧ p.1 ≠ ""

theorem literal_document (n : Normalizer) (table : Json.EscapeTable) (e : Event)
    (pairs : List (String × String)) (listed : Listed pairs)
    (free : ∀ p ∈ pairs, e.property? p.1 = none) :
    (Layout.mk (pairs.map literalSlot) n table).document e =
      ⟨.ok (.object (literalEntries pairs)), []⟩ := by
  have collected := collect_literals n e 0 [] pairs free
  rcases pairs with _ | ⟨one, _ | ⟨two, others⟩⟩
  · rcases listed with more | ⟨p, single, _⟩
    · simp at more
    · cases single
  · have named : one.1 ≠ "" := by
      rcases listed with more | ⟨p, single, filled⟩
      · simp at more
      · cases single
        exact filled
    have name : (literalSlot one).name = one.1 := rfl
    simp only [List.map_cons, List.map_nil] at collected
    simp only [Layout.document, List.map_cons, List.map_nil, collected, name, if_neg named]
    rfl
  · simp only [List.map_cons] at collected
    simp only [Layout.document, List.map_cons, collected]
    rfl

/-- What a layout made of literals writes is read back as the object of the distinct names, each
    with its last value, whatever the normaliser and however characters are escaped. -/
theorem literals_read_back (b : Builder) (shared : PresetTable) (fresh : b.pieces = [])
    (sound : b.table.Sound) (pairs : List (String × String)) (unpadded : Unpadded pairs)
    (listed : Listed pairs) :
    ∃ layout, (b.addSpec (literalSpec pairs)).buildStrict shared = .ok (some ⟨layout, []⟩) ∧
      ∀ e : Event, (∀ p ∈ pairs, e.property? p.1 = none) →
        ∃ line entries, layout.format e = ⟨.ok line, []⟩ ∧
          Json.decode line = some (.object entries) ∧
          Keyed.keys entries = (pairs.map Prod.fst).eraseDups ∧
          ∀ name, Keyed.get? name entries = (Keyed.get? name pairs.reverse).map Json.text := by
  refine ⟨_, build_literals b shared fresh pairs unpadded, ?_⟩
  intro e free
  have slots : pairs.map literalSlot ≠ [] := by
    rintro none
    rcases listed with more | ⟨p, single, _⟩
    · simp [List.map_eq_nil_iff.mp none] at more
    · simp [single] at none
  have document := literal_document b.normalizer b.table e pairs listed free
  have format := Layout.format_of_document _ e slots _ _ document
  obtain ⟨value, same, decoded⟩ := Layout.line_read_back ⟨pairs.map literalSlot, b.normalizer,
    b.table⟩ sound e _ slots (congrArg Reading.result format)
  rw [document] at same
  cases same
  exact ⟨_, _, format, decoded, literal_keys pairs, literal_get pairs⟩

def separatorPairs : List (String × String) :=
  [("a=b", "1;2"), ("", "\\"), ("a=b", " \x01\"")]

def quietEvent : Event :=
  Event.bare ⟨[], "app", .utc⟩ "m" [("a", .text "x")] ⟨0, 0⟩ "INFO" "core" "main"

theorem separators_read_back :
    ∃ layout, ((Builder.start ⟨[], "app", .utc⟩).addSpec
        "a\\=b=1\\;2;=\\\\;a\\=b= \x01\"").buildStrict .standard = .ok (some ⟨layout, []⟩) ∧
      ∃ line entries, layout.format quietEvent = ⟨.ok line, []⟩ ∧
        Json.decode line = some (.object entries) ∧ Keyed.keys entries = ["a=b", ""] ∧
        Keyed.get? "a=b" entries = some (.text " \x01\"") := by
  have unpadded : Unpadded separatorPairs := by
    simp [Unpadded, separatorPairs]
    decide
  have absent : ∀ p ∈ separatorPairs, quietEvent.property? p.1 = none := by
    simp only [separatorPairs, List.forall_mem_cons]
    exact ⟨rfl, rfl, rfl, by simp⟩
  obtain ⟨layout, built, formats⟩ := literals_read_back (Builder.start ⟨[], "app", .utc⟩) .standard
    rfl Json.standard_table_sound separatorPairs unpadded (Or.inl (by decide))
  obtain ⟨line, entries, format, decoded, keys, get⟩ := formats quietEvent absent
  exact ⟨layout, built, line, entries, format, decoded, keys, get "a=b"⟩

end LogLayout
