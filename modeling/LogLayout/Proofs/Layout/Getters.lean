import LogLayout.Proofs.Layout.Building
import LogLayout.Proofs.Layout.Groups

/- The getters that a layout reads. They come from the members that the pieces make up, from the
   members of the groups among these and so on inwards, and what fails in a reading is one of
   them. -/
namespace LogLayout

mutual
def Slot.getters : Slot → List Getter
  | .bare _ | .literal _ _ => []
  | .getter _ get => [get]
  | .group _ slots => gettersOf slots
  | .nested _ inner => inner.getters

def gettersOf : List Slot → List Getter
  | [] => []
  | slot :: rest => slot.getters ++ gettersOf rest
end

section

variable (e : Event) {error : ReadError}

mutual
theorem failure_of_getter (path : List Nat) : (slot : Slot) →
    ((∃ failure ∈ (slot.read e path).failures, failure.error = error) ↔
      ∃ get ∈ slot.getters, get e = .error error)
  | .bare name => by simp [Slot.read, Slot.getters]
  | .literal name value => by simp [Slot.read, Slot.getters]
  | .getter name get => by
    simp only [Slot.read, Slot.getters, List.mem_singleton, exists_eq_left]
    cases get e with
    | ok value => simp
    | error failure => simp
  | .group name slots => by
    simp only [Slot.read, Slot.getters]
    exact failure_of_some_getter path 0 slots
  | .nested name inner => by
    simp only [Slot.read, Slot.getters]
    exact failure_of_getter path inner

theorem failure_of_some_getter (path : List Nat) (i : Nat) : (slots : List Slot) →
    ((∃ failure ∈ (readSlots e path i slots).2, failure.error = error) ↔
      ∃ get ∈ gettersOf slots, get e = .error error)
  | [] => by simp [readSlots, gettersOf]
  | slot :: rest => by
    simp only [readSlots, gettersOf, List.mem_append, or_and_right, exists_or]
    rw [failure_of_getter (path ++ [i]) slot, failure_of_some_getter path (i + 1) rest]
end

end

def Member.getter? (ctx : Context) : Member → Option Getter
  | .mk _ (.conversion name option) =>
    match ctx.conversions.get? name with
    | some conversion => some (conversion.bind option)
    | none => some (propertyGetter name)
  | .mk _ (.template text) => (ctx.engine text ctx.conversions).toOption
  | .mk _ (.nested inner) => inner.getter? ctx
  | _ => none

/-- The members that are read when the listed ones are: these, and those of the groups that they
    open. -/
inductive InUse (ctx : Context) : List Member → Member → Prop
  | listed {members : List Member} {m : Member} (held : m ∈ members) : InUse ctx members m
  | inside {members : List Member} {m n : Member} {a : Arrangement} (held : m ∈ members)
      (opened : m.group? = some a) (used : InUse ctx (a.members ctx) n) : InUse ctx members n

section

variable {ctx : Context} {get : Getter}

theorem getters_of_member (group : Arrangement → Option (Prepared (List Slot))) :
    (m : Member) → (p : Prepared Slot) → m.prepareWith ctx group = some p →
      (get ∈ p.result.getters ↔ m.getter? ctx = some get ∨
        ∃ a q, m.group? = some a ∧ group a = some q ∧ get ∈ gettersOf q.result)
  | .mk name .bare, p, done => by
    obtain rfl := Option.some.inj done
    simp [Slot.getters, Member.getter?, Member.group?]
  | .mk name (.literal value), p, done => by
    obtain rfl := Option.some.inj done
    simp [Slot.getters, Member.getter?, Member.group?]
  | .mk name (.conversion conversion option), p, done => by
    obtain rfl := Option.some.inj done
    unfold prepareConversion
    cases found : ctx.conversions.get? conversion with
    | none => simp [Slot.getters, Member.getter?, Member.group?, found, eq_comm]
    | some held => simp [Slot.getters, Member.getter?, Member.group?, found, eq_comm]
  | .mk name (.template text), p, done => by
    obtain rfl := Option.some.inj done
    unfold prepareTemplate
    cases compiled : ctx.engine text ctx.conversions with
    | error e => simp [Slot.getters, Member.getter?, Member.group?, compiled, Except.toOption]
    | ok held =>
      simp [Slot.getters, Member.getter?, Member.group?, compiled, Except.toOption, eq_comm]
  | .mk name (.group a), p, done => by
    simp only [Member.prepareWith] at done
    obtain ⟨q, made, rfl⟩ := Option.map_eq_some_iff.mp done
    simp [Slot.getters, Member.getter?, Member.group?, made]
  | .mk name (.nested inner), p, done => by
    simp only [Member.prepareWith] at done
    obtain ⟨held, made, rfl⟩ := Option.map_eq_some_iff.mp done
    simp only [Slot.getters, Member.getter?, Member.group?]
    exact getters_of_member group inner held made

theorem getters_of_members {prepare : Member → Option (Prepared Slot)} {members : List Member}
    {q : Prepared (List Slot)} (done : prepareAll prepare members = some q) :
    get ∈ gettersOf q.result ↔
      ∃ m ∈ members, ∃ p, prepare m = some p ∧ get ∈ p.result.getters := by
  induction members generalizing q with
  | nil =>
    obtain rfl := Option.some.inj done
    simp [gettersOf]
  | cons m rest ih =>
    obtain ⟨first, others, made, prepared, rfl⟩ := prepare_all_cons done
    simp [gettersOf, ih prepared, made]

theorem group_members {depth : Nat} {a : Arrangement} {q : Prepared (List Slot)}
    (done : prepareGroup ctx depth a = some q) :
    ∃ fewer all, depth = fewer + 1 ∧ all.result = q.result ∧
      prepareAll (Member.prepareWith ctx (prepareGroup ctx fewer)) (a.members ctx) = some all := by
  cases depth with
  | zero => cases done
  | succ fewer =>
    rw [prepareGroup] at done
    obtain ⟨all, prepared, rfl⟩ := Option.map_eq_some_iff.mp done
    exact ⟨fewer, all, rfl, rfl, prepared⟩

/- The member that a getter comes from is found by induction on the depth, the getter of a member in
   use by induction on the groups that lead to it. -/

theorem in_use_of_getter (depth : Nat) {members : List Member} {q : Prepared (List Slot)}
    (done : prepareAll (Member.prepareWith ctx (prepareGroup ctx depth)) members = some q)
    (shown : get ∈ gettersOf q.result) :
    ∃ m, InUse ctx members m ∧ m.getter? ctx = some get := by
  induction depth using Nat.strongRecOn generalizing members q with
  | ind depth ih =>
    obtain ⟨m, held, p, made, within⟩ := (getters_of_members done).mp shown
    rcases (getters_of_member _ m p made).mp within with own | ⟨a, inner, opened, group, deeper⟩
    · exact ⟨m, .listed held, own⟩
    · obtain ⟨fewer, all, rfl, same, prepared⟩ := group_members group
      rw [← same] at deeper
      obtain ⟨n, used, own⟩ := ih fewer (Nat.lt_succ_self fewer) prepared deeper
      exact ⟨n, .inside held opened used, own⟩

theorem getter_of_in_use {depth : Nat} {members : List Member} {q : Prepared (List Slot)}
    (done : prepareAll (Member.prepareWith ctx (prepareGroup ctx depth)) members = some q)
    {m : Member} (used : InUse ctx members m) (own : m.getter? ctx = some get) :
    get ∈ gettersOf q.result := by
  have complete := (prepare_all_done _ members).mp (by rw [done]; rfl)
  rw [getters_of_members done]
  induction used generalizing depth q with
  | @listed members m held =>
    obtain ⟨p, made⟩ := Option.isSome_iff_exists.mp (complete m held)
    exact ⟨m, held, p, made, (getters_of_member _ m p made).mpr (Or.inl own)⟩
  | @inside members m n a held opened used ih =>
    obtain ⟨p, made⟩ := Option.isSome_iff_exists.mp (complete m held)
    have ready := (prepare_with_done ctx _ m).mp (complete m held) a opened
    obtain ⟨inner, group⟩ := Option.isSome_iff_exists.mp ready
    obtain ⟨fewer, all, rfl, same, prepared⟩ := group_members group
    have whole := (prepare_all_done _ (a.members ctx)).mp (by rw [prepared]; rfl)
    have deeper := (getters_of_members prepared).mpr (ih prepared own whole)
    rw [same] at deeper
    exact ⟨m, held, p, made, (getters_of_member _ m p made).mpr
      (Or.inr ⟨a, inner, opened, group, deeper⟩)⟩

end

namespace Builder

variable (b : Builder) (shared : PresetTable)

def members : List Member :=
  if b.pieces = [] then (Arrangement.preset none).members (b.context shared)
  else b.readable.foldl (fun held a => a.apply (b.context shared) held) []

theorem slots_of_members {p : Prepared Layout} (done : b.buildStrict shared = .ok (some p)) :
    ∃ said, prepareAll (Member.prepare (b.context shared)) (b.members shared) =
      some ⟨p.result.slots, said⟩ := by
  have built := b.build_of_strict shared done
  have ready {members : List Member} {said : List Notice}
      (made : b.ready shared members said = some p) :
      ∃ said, prepareAll (Member.prepare (b.context shared)) members =
        some ⟨p.result.slots, said⟩ := by
    obtain ⟨q, prepared, rfl⟩ := Option.map_eq_some_iff.mp made
    exact ⟨q.notices, prepared⟩
  unfold members
  split
  · rename_i bare
    rw [b.build_of_nothing shared bare] at built
    exact ready built
  · rename_i configured
    rw [b.build_of_pieces shared configured] at built
    exact ready built

/-- A reading of a strictly built layout fails as the getters of its members in use do. -/
theorem failures_in_use {p : Prepared Layout} (done : b.buildStrict shared = .ok (some p))
    (e : Event) (error : ReadError) :
    (∃ failure ∈ (readSlots e [] 0 p.result.slots).2, failure.error = error) ↔
      ∃ m get, InUse (b.context shared) (b.members shared) m ∧
        m.getter? (b.context shared) = some get ∧ get e = .error error := by
  obtain ⟨said, prepared⟩ := b.slots_of_members shared done
  rw [failure_of_some_getter]
  constructor
  · intro failed
    obtain ⟨get, shown, refused⟩ := failed
    obtain ⟨m, used, own⟩ := in_use_of_getter maxGroups prepared shown
    exact ⟨m, get, used, own, refused⟩
  · intro failed
    obtain ⟨m, get, used, own, refused⟩ := failed
    exact ⟨get, getter_of_in_use prepared used own, refused⟩

end Builder

end LogLayout
