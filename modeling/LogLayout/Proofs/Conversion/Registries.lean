import LogLayout.Conversion.Builtin
import LogLayout.Conversion.Update
import LogLayout.Proofs.Keyed.Ascending

/- Registries after any history. Registering overrides and merging does not, so a name goes to the
   last conversion that was registered under it; otherwise to the one that it had at first, and only
   then to what was merged, the earliest first. -/
namespace LogLayout.Registry

def Update.registers (name : String) : Update → Option Conversion
  | .register given conversion => if given = name then some conversion else none
  | .merge _ => none

def Update.offers (name : String) : Update → Option Conversion
  | .register _ _ => none
  | .merge other => other.get? name

def lastRegistered (name : String) (history : List Update) : Option Conversion :=
  history.reverse.findSome? (Update.registers name)

def firstOffered (name : String) (history : List Update) : Option Conversion :=
  history.findSome? (Update.offers name)

theorem get_empty (name : String) : empty.get? name = none := rfl

theorem get_add_missing (r : Registry) (name other : String) (conversion : Conversion) :
    (r.addMissing name conversion).get? other =
      (r.get? other).or (if name = other then some conversion else none) := by
  unfold addMissing contains
  by_cases same : name = other
  · subst same
    cases held : r.get? name with
    | none => simp [get_register]
    | some old => simp [held]
  · cases r.get? name <;> simp [get_register, same]

theorem get_merge (r other : Registry) (name : String) :
    (r.merge other).get? name = (r.get? name).or (other.get? name) := by
  have offered : other.get? name = Keyed.get? name other.entries := rfl
  rw [merge, offered]
  generalize other.entries = entries
  induction entries generalizing r with
  | nil => simp [Keyed.get?]
  | cons entry rest ih =>
    obtain ⟨given, conversion⟩ := entry
    rw [List.foldl_cons, ih, get_add_missing, Option.or_assoc]
    by_cases same : given = name <;> simp [Keyed.get?, same]

theorem get_update (r : Registry) (u : Update) (name : String) :
    (r.update u).get? name = (u.registers name).or ((r.get? name).or (u.offers name)) := by
  cases u with
  | register given conversion =>
    rw [update, get_register, Update.registers, Update.offers, Option.or_none]
    split <;> rfl
  | merge other => exact get_merge r other name

theorem get_run (r : Registry) (history : List Update) (name : String) :
    (r.run history).get? name =
      (lastRegistered name history).or ((r.get? name).or (firstOffered name history)) := by
  induction history generalizing r with
  | nil => simp [run, lastRegistered, firstOffered]
  | cons u rest ih =>
    have last : lastRegistered name (u :: rest) =
        (lastRegistered name rest).or (u.registers name) := by
      simp [lastRegistered, List.findSome?_append]
    have first : firstOffered name (u :: rest) = (u.offers name).or (firstOffered name rest) := by
      unfold firstOffered
      rw [List.findSome?_cons]
      cases u.offers name <;> rfl
    calc (r.run (u :: rest)).get? name
        = (lastRegistered name rest).or
            (((r.update u).get? name).or (firstOffered name rest)) := ih (r.update u)
      _ = _ := by rw [get_update, last, first]; simp only [Option.or_assoc]

theorem eq_of_same_conversions {r other : Registry} (same : ∀ name, r.get? name = other.get? name) :
    r = other := by
  have entries := Keyed.eq_of_same_lookups r.ascending other.ascending same
  cases r
  cases other
  cases entries
  rfl

theorem merge_assoc (r a b : Registry) : (r.merge a).merge b = r.merge (a.merge b) := by
  refine eq_of_same_conversions fun name => ?_
  rw [get_merge, get_merge, get_merge, get_merge, Option.or_assoc]

theorem merge_twice (r a : Registry) : (r.merge a).merge a = r.merge a := by
  refine eq_of_same_conversions fun name => ?_
  rw [get_merge, get_merge, Option.or_assoc, Option.or_self]

theorem merge_self (r : Registry) : r.merge r = r := by
  refine eq_of_same_conversions fun name => ?_
  rw [get_merge, Option.or_self]

theorem merge_comm_iff (r a b : Registry) : (r.merge a).merge b = (r.merge b).merge a ↔
    ∀ name, r.get? name = none → ∀ c d, a.get? name = some c → b.get? name = some d → c = d := by
  constructor
  · intro same name free c d first second
    have both := congrArg (fun merged => merged.get? name) same
    simpa [get_merge, free, first, second] using both
  · intro agree
    refine eq_of_same_conversions fun name => ?_
    simp only [get_merge]
    cases free : r.get? name with
    | some held => rfl
    | none =>
      cases first : a.get? name with
      | none => simp
      | some c =>
        cases second : b.get? name with
        | none => rfl
        | some d => simp [agree name free c d first second]

theorem run_of_context (ctx : Context) (history : List Update) :
    ctx.run history = { ctx with conversions := ctx.conversions.run history } := by
  induction history generalizing ctx with
  | nil => rfl
  | cons u rest ih => exact ih (ctx.update u)

/-- Whatever is registered and merged, into a registry or through a context: a name has the conversion
    that was registered for it last, otherwise its first one, otherwise that of the first registry
    that was merged and has the name. So no merge takes a conversion away or changes it; merges may
    be grouped and repeated, and two of them may be exchanged if and only if the registries agree on
    the names that are still free. -/
theorem overrides_never_lost (r : Registry) :
    (∀ history name, (r.run history).get? name =
        (lastRegistered name history).or ((r.get? name).or (firstOffered name history))) ∧
      (∀ ctx history, Context.run ctx history =
        { ctx with conversions := ctx.conversions.run history }) ∧
      (∀ history other name, name ∈ (r.run history).names →
        (r.run (history ++ [.merge other])).get? name = (r.run history).get? name) ∧
      (∀ a b, (r.merge a).merge b = r.merge (a.merge b)) ∧
      (∀ a, (r.merge a).merge a = r.merge a) ∧ r.merge r = r ∧
      ∀ a b, (r.merge a).merge b = (r.merge b).merge a ↔
        ∀ name, r.get? name = none →
          ∀ c d, a.get? name = some c → b.get? name = some d → c = d := by
  refine ⟨get_run r, run_of_context, ?_, merge_assoc r, merge_twice r, merge_self r,
    merge_comm_iff r⟩
  intro history other name held
  obtain ⟨conversion, found⟩ := (Keyed.mem_keys_iff name _).mp held
  have kept : (r.run history).get? name = some conversion := found
  have last : r.run (history ++ [.merge other]) = (r.run history).merge other := List.foldl_append ..
  rw [last, kept]
  exact merge_keeps _ other name conversion kept

def saying (text : String) : Conversion := .always fun _ => some (.text text)

def known : Registry := empty.register "level" (saying "known")

def ours : Registry := (empty.register "level" (saying "ours")).register "tenant" (saying "ours")

def theirs : Registry := empty.register "tenant" (saying "theirs")

def levelAgain : Registry := empty.register "level" (saying "again")

theorem level_overridden_tenant_merged :
    (known.run [.merge ours]).get? "level" = known.get? "level" ∧
      (known.run [.merge ours, .register "level" (saying "own"), .merge theirs]).get? "level" =
        some (saying "own") ∧
      (known.run [.merge ours, .register "level" (saying "own"), .merge theirs]).get? "tenant" =
        some (saying "ours") ∧
      (known.merge ours).merge levelAgain = (known.merge levelAgain).merge ours := by
  obtain ⟨gets, _, kept, _, _, _, exchanged⟩ := overrides_never_lost known
  refine ⟨kept [] ours "level" (by decide), ?_, ?_, (exchanged ours levelAgain).mpr ?_⟩
  · rw [gets]
    rfl
  · rw [gets]
    rfl
  · intro name free c d _ second
    have bound : "level" ≠ name := by
      rintro rfl
      cases free
    simp [levelAgain, get_register, bound, get_empty] at second

end LogLayout.Registry
