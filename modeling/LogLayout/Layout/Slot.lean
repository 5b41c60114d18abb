import LogLayout.Arrangement.Expand

/- Slots: members that have been made ready for reading. What a member needs from the context is
   looked up once, and reading a slot off an event needs the event alone. -/
namespace LogLayout

inductive Slot where
  | bare (name : String)
  | literal (name value : String)
  | getter (name : String) (get : Getter)
  | group (name : String) (slots : List Slot)
  | nested (name : String) (inner : Slot)

def Slot.name : Slot → String
  | .bare name | .literal name _ | .getter name _ | .group name _ | .nested name _ => name

structure Prepared (α : Type) where
  result : α
  notices : List Notice

def prepareConversion (ctx : Context) (member name : String) (option : Option String) :
    Prepared Slot :=
  match ctx.conversions.get? name with
  | some conversion => ⟨.getter member (conversion.bind option), []⟩
  | none => ⟨.getter member (propertyGetter name), [.unknownConversion name]⟩

/-- A template that cannot be compiled is kept as plain text. -/
def prepareTemplate (ctx : Context) (member template : String) : Prepared Slot :=
  match ctx.engine template ctx.conversions with
  | .ok get => ⟨.getter member get, []⟩
  | .error e => ⟨.literal member template, [.brokenTemplate template member e]⟩

/-- Makes a member ready, given how groups are; nothing when that does not come to an end. -/
def Member.prepareWith (ctx : Context) (group : Arrangement → Option (Prepared (List Slot))) :
    Member → Option (Prepared Slot)
  | .mk name source =>
    let effective := (Member.mk name source).name
    match source with
    | .bare => some ⟨.bare effective, []⟩
    | .literal value => some ⟨.literal effective value, []⟩
    | .conversion conversion option => some (prepareConversion ctx effective conversion option)
    | .template text => some (prepareTemplate ctx effective text)
    | .group arrangement =>
      (group arrangement).map fun inner => ⟨.group effective inner.result, inner.notices⟩
    | .nested inner =>
      (inner.prepareWith ctx group).map fun p => ⟨.nested effective p.result, p.notices⟩

def prepareAll (prepare : Member → Option (Prepared Slot)) :
    List Member → Option (Prepared (List Slot))
  | [] => some ⟨[], []⟩
  | m :: rest => do
    let first ← prepare m
    let others ← prepareAll prepare rest
    pure ⟨first.result :: others.result, first.notices ++ others.notices⟩

theorem prepare_all_cons {prepare : Member → Option (Prepared Slot)} {m : Member}
    {rest : List Member} {p : Prepared (List Slot)}
    (done : prepareAll prepare (m :: rest) = some p) :
    ∃ first others, prepare m = some first ∧ prepareAll prepare rest = some others ∧
      p = ⟨first.result :: others.result, first.notices ++ others.notices⟩ := by
  obtain ⟨first, made, behind⟩ := Option.bind_eq_some_iff.mp done
  obtain ⟨others, prepared, same⟩ := Option.bind_eq_some_iff.mp behind
  exact ⟨first, others, made, prepared, (Option.some.inj same).symm⟩

def prepareGroup (ctx : Context) : Nat → Arrangement → Option (Prepared (List Slot))
  | 0, _ => none
  | depth + 1, arrangement =>
    let expansion := arrangement.expand ctx
    (prepareAll (Member.prepareWith ctx (prepareGroup ctx depth)) (expansion.run [])).map fun p =>
      ⟨p.result, expansion.notices ++ p.notices⟩

/-- Groups that open further groups of themselves never come to an end; this many are opened
    before giving up. -/
def maxGroups : Nat := 4096

def Member.prepare (ctx : Context) (m : Member) : Option (Prepared Slot) :=
  m.prepareWith ctx (prepareGroup ctx maxGroups)

structure Failure where
  path : List Nat
  member : String
  error : ReadError
  deriving DecidableEq, Repr

structure SlotReading where
  value : Option Datum
  failures : List Failure

/-- Values of a group in order; the mapping of an unnamed slot is spliced in. -/
def groupEntries (name : String) : Option Datum → List (String × Datum)
  | none => []
  | some (.map inner) => if name = "" then inner else [(name, .map inner)]
  | some value => [(name, value)]

def groupValue (entries : List (String × Datum)) : Option Datum :=
  if entries.isEmpty then none else some (.map entries)

def present (value : Option Datum) : Option Datum := value.filter fun d => !d.isNull

def propertyNamed (e : Event) (name : String) : Option Datum :=
  if name = "" then none else e.property? name

def nameText (name : String) : Option Datum := if name = "" then none else some (.text name)

mutual
def Slot.read (e : Event) (path : List Nat) : Slot → SlotReading
  | .bare name => ⟨propertyNamed e name <|> nameText name, []⟩
  | .literal name value => ⟨propertyNamed e name <|> some (.text value), []⟩
  | .getter name get =>
    match get e with
    | .ok value => ⟨present value <|> propertyNamed e name, []⟩
    | .error failure => ⟨propertyNamed e name, [⟨path, name, failure⟩]⟩
  | .group name slots =>
    let inner := readSlots e path 0 slots
    ⟨groupValue inner.1 <|> propertyNamed e name, inner.2⟩
  | .nested name inner =>
    let reading := inner.read e path
    ⟨present reading.value <|> propertyNamed e name, reading.failures⟩

def readSlots (e : Event) (path : List Nat) (i : Nat) :
    List Slot → List (String × Datum) × List Failure
  | [] => ([], [])
  | slot :: rest =>
    let reading := slot.read e (path ++ [i])
    let others := readSlots e path (i + 1) rest
    (groupEntries slot.name reading.value ++ others.1, reading.failures ++ others.2)
end

def Slot.value (e : Event) (slot : Slot) : Option Datum := (slot.read e []).value

/- Paths tell where a failure occurred and are of no account for values. -/
mutual
theorem value_anywhere (e : Event) (p q : List Nat) :
    (slot : Slot) → (slot.read e p).value = (slot.read e q).value
  | .bare name => by simp only [Slot.read]
  | .literal name value => by simp only [Slot.read]
  | .getter name get => by
    simp only [Slot.read]
    cases get e <;> rfl
  | .group name slots => by simp only [Slot.read, entries_anywhere e p q 0 0 slots]
  | .nested name inner => by simp only [Slot.read, value_anywhere e p q inner]

theorem entries_anywhere (e : Event) (p q : List Nat) (i j : Nat) :
    (slots : List Slot) → (readSlots e p i slots).1 = (readSlots e q j slots).1
  | [] => rfl
  | slot :: rest => by
    simp only [readSlots, value_anywhere e (p ++ [i]) (q ++ [j]) slot,
      entries_anywhere e p q (i + 1) (j + 1) rest]
end

end LogLayout
