import Mathlib.Data.List.Chain
import Mathlib.Logic.Relation
import LogLayout.Conversion.Builtin
import LogLayout.Layout.Slot
import LogLayout.Proofs.Arrangement.Nesting

/- Making groups ready. Each group is an application of its own, in which texts are nested as deep
   as allowed again; so what ends the preparation of a member is not the bound on nesting, but that
   groups do not open one another forever. -/
namespace LogLayout

def Member.group? : Member → Option Arrangement
  | .mk _ (.group a) => some a
  | .mk _ (.nested inner) => inner.group?
  | _ => none

/-- Among the members of the outer group is one that opens the inner group. -/
def Opens (ctx : Context) (inner outer : Arrangement) : Prop :=
  ∃ m ∈ outer.members ctx, m.group? = some inner

theorem prepare_with_done (ctx : Context) (group : Arrangement → Option (Prepared (List Slot))) :
    (m : Member) →
      ((m.prepareWith ctx group).isSome = true ↔ ∀ a, m.group? = some a → (group a).isSome = true)
  | .mk name .bare => by simp [Member.prepareWith, Member.group?]
  | .mk name (.literal value) => by simp [Member.prepareWith, Member.group?]
  | .mk name (.conversion conversion option) => by simp [Member.prepareWith, Member.group?]
  | .mk name (.template text) => by simp [Member.prepareWith, Member.group?]
  | .mk name (.group a) => by simp [Member.prepareWith, Member.group?]
  | .mk name (.nested inner) => by
    simp [Member.prepareWith, Member.group?, prepare_with_done ctx group inner]

theorem prepare_all_done (prepare : Member → Option (Prepared Slot)) (members : List Member) :
    (prepareAll prepare members).isSome = true ↔ ∀ m ∈ members, (prepare m).isSome = true := by
  induction members with
  | nil => simp [prepareAll]
  | cons m rest ih =>
    rw [List.forall_mem_cons, ← ih, prepareAll]
    cases prepare m with
    | none => simp
    | some first => cases prepareAll prepare rest <;> simp

theorem prepare_group_done (ctx : Context) (depth : Nat) (a : Arrangement) :
    (prepareGroup ctx (depth + 1) a).isSome = true ↔
      ∀ b, Opens ctx b a → (prepareGroup ctx depth b).isSome = true := by
  rw [prepareGroup]
  simp only [Option.isSome_map]
  rw [prepare_all_done]
  simp only [prepare_with_done]
  constructor
  · rintro done b ⟨m, member, opened⟩
    exact done m member b opened
  · intro done m member b opened
    exact done b ⟨m, member, opened⟩

theorem prepare_group_deeper (ctx : Context) {depth more : Nat} (enough : depth ≤ more)
    (a : Arrangement) (done : (prepareGroup ctx depth a).isSome = true) :
    (prepareGroup ctx more a).isSome = true := by
  induction depth generalizing a more with
  | zero => simp [prepareGroup] at done
  | succ depth ih =>
    cases more with
    | zero => exact absurd enough (Nat.not_succ_le_zero _)
    | succ more =>
      rw [prepare_group_done] at done ⊢
      intro b opened
      exact ih (Nat.le_of_succ_le_succ enough) b (done b opened)

theorem common_depth (ctx : Context) (members : List Member)
    (each : ∀ m ∈ members, ∀ b, m.group? = some b →
      ∃ depth, (prepareGroup ctx depth b).isSome = true) :
    ∃ depth, ∀ m ∈ members, ∀ b, m.group? = some b → (prepareGroup ctx depth b).isSome = true := by
  induction members with
  | nil => exact ⟨0, by simp⟩
  | cons m rest ih =>
    obtain ⟨later, others⟩ := ih fun other member => each other (List.mem_cons_of_mem _ member)
    obtain ⟨first, one⟩ : ∃ depth, ∀ b, m.group? = some b →
        (prepareGroup ctx depth b).isSome = true := by
      cases opened : m.group? with
      | none => exact ⟨0, by simp⟩
      | some a =>
        obtain ⟨depth, done⟩ := each m (List.mem_cons_self ..) a opened
        exact ⟨depth, by simpa using done⟩
    refine ⟨max first later, ?_⟩
    intro other member b opened
    rcases List.mem_cons.mp member with rfl | held
    · exact prepare_group_deeper ctx (Nat.le_max_left ..) b (one b opened)
    · exact prepare_group_deeper ctx (Nat.le_max_right ..) b (others other held b opened)

/-- A group is made ready if and only if the groups in it do not open one another forever. -/
theorem group_ends_iff (ctx : Context) (a : Arrangement) :
    (∃ depth, (prepareGroup ctx depth a).isSome = true) ↔ Acc (Opens ctx) a := by
  constructor
  · rintro ⟨depth, done⟩
    induction depth generalizing a with
    | zero => simp [prepareGroup] at done
    | succ depth ih =>
      rw [prepare_group_done] at done
      exact Acc.intro a fun b opened => ih b (done b opened)
  · intro accessible
    induction accessible with
    | intro a _ ih =>
      obtain ⟨depth, done⟩ := common_depth ctx (a.members ctx)
        fun m member b opened => ih b ⟨m, member, opened⟩
      refine ⟨depth + 1, (prepare_group_done ctx depth a).mpr ?_⟩
      rintro b ⟨m, member, opened⟩
      exact done m member b opened

theorem member_ends_iff (ctx : Context) (m : Member) :
    (∃ depth, (m.prepareWith ctx (prepareGroup ctx depth)).isSome = true) ↔
      ∀ a, m.group? = some a → Acc (Opens ctx) a := by
  simp only [prepare_with_done]
  cases m.group? with
  | none => simp
  | some a => simpa using group_ends_iff ctx a

theorem prepare_with_keeps (ctx : Context) (group : Arrangement → Option (Prepared (List Slot)))
    {a : Arrangement} {q : Prepared (List Slot)} (made : group a = some q) :
    (m : Member) → (p : Prepared Slot) → m.group? = some a → m.prepareWith ctx group = some p →
      q.notices = p.notices
  | .mk name (.group b), p, opened, done => by
    obtain rfl : b = a := by simpa [Member.group?] using opened
    obtain rfl : _ = p := by simpa [Member.prepareWith, made] using done
    rfl
  | .mk name (.nested inner), p, opened, done => by
    rw [Member.group?] at opened
    simp only [Member.prepareWith] at done
    obtain ⟨held, prepared, rfl⟩ := Option.map_eq_some_iff.mp done
    exact prepare_with_keeps ctx group made inner held opened prepared

theorem prepare_all_keeps (prepare : Member → Option (Prepared Slot)) (members : List Member)
    (p : Prepared (List Slot)) (done : prepareAll prepare members = some p) :
    ∀ m ∈ members, ∃ q, prepare m = some q ∧ q.notices ⊆ p.notices := by
  induction members generalizing p with
  | nil => simp
  | cons first rest ih =>
    obtain ⟨q, r, made, others, rfl⟩ := prepare_all_cons done
    intro m member
    rcases List.mem_cons.mp member with rfl | later
    · exact ⟨q, made, List.subset_append_left ..⟩
    · obtain ⟨held, prepared, kept⟩ := ih r others m later
      exact ⟨held, prepared, List.subset_append_of_subset_right _ kept⟩

theorem group_reports_all (ctx : Context) (depth : Nat) (a b : Arrangement)
    (p : Prepared (List Slot)) (done : prepareGroup ctx depth a = some p)
    (inside : Relation.ReflTransGen (Opens ctx) b a) : (b.expand ctx).notices ⊆ p.notices := by
  induction depth generalizing a p with
  | zero => cases done
  | succ depth ih =>
    rw [prepareGroup] at done
    obtain ⟨all, prepared, rfl⟩ := Option.map_eq_some_iff.mp done
    rcases inside.cases_tail with same | ⟨c, deeper, m, member, opened⟩
    · subst same
      exact List.subset_append_left ..
    · obtain ⟨slot, made, kept⟩ := prepare_all_keeps _ _ _ prepared m member
      have complete := (prepare_with_done ctx _ m).mp (by rw [made]; rfl) c opened
      obtain ⟨q, group⟩ := Option.isSome_iff_exists.mp complete
      have reported := ih c q group deeper
      rw [prepare_with_keeps ctx _ group m slot opened made] at reported
      exact List.subset_append_of_subset_right _ (List.Subset.trans reported kept)

/-- Nesting is bounded in each application, that of a group being one of its own: what is applied
    comes from texts nested within the bound, and those one level further in are reported, with a
    group also those of the groups in it. A member is made ready if and only if the groups it opens
    do not open one another forever. -/
theorem nesting_bounded_in_each_group (ctx : Context) :
    (∀ (a : Arrangement) (e : Edit), e ∈ (a.expand ctx).edits ↔
      ∃ path c, Nests ctx a path c ∧ path.length ≤ maxNesting ∧ e ∈ (c.own ctx).edits) ∧
    (∀ (a : Arrangement) (spec : String), .tooNested spec ∈ (a.expand ctx).notices ↔
      ∃ path c, Nests ctx a path c ∧ path.length = maxNesting ∧ spec ∈ c.texts ctx) ∧
    (∀ depth a b p, prepareGroup ctx depth a = some p → Relation.ReflTransGen (Opens ctx) b a →
      (b.expand ctx).notices ⊆ p.notices) ∧
    ∀ m : Member, (∃ depth, (m.prepareWith ctx (prepareGroup ctx depth)).isSome = true) ↔
      ∀ a, m.group? = some a → Acc (Opens ctx) a :=
  ⟨mem_edits_iff ctx, too_nested_iff ctx, group_reports_all ctx, member_ends_iff ctx⟩

def contextOf (presets : PresetTable) : Context :=
  ⟨Conversion.builtins ⟨[], "app", .utc⟩, Template.compile, [], presets⟩

theorem missing_preset_reported_outside :
    ∃ p, prepareGroup (contextOf .empty) 2 (.member (.mk "g" (.group (.preset (some "A"))))) =
        some p ∧ .preset (.none "A") ∈ p.notices := by
  have opened : Opens (contextOf .empty) (.preset (some "A"))
      (.member (.mk "g" (.group (.preset (some "A"))))) := ⟨_, List.mem_singleton_self _, rfl⟩
  have reported : .preset (.none "A") ∈
      ((Arrangement.preset (some "A")).expand (contextOf .empty)).notices :=
    List.mem_singleton_self _
  obtain ⟨_, _, kept, _⟩ := nesting_bounded_in_each_group (contextOf .empty)
  exact ⟨_, rfl, kept 2 _ _ _ rfl (.single opened) reported⟩

def Leads (ctx : Context) (name : String) (key next : Option String) : Prop :=
  ∃ used spec, ctx.presets.choose key = (some (used, spec), none) ∧
    Spec.parseNested ctx.factories spec = .ok (.member (.mk name (.group (.preset next))))

def groupsAround (name : String) (slots : List Slot) : Nat → List Slot
  | 0 => slots
  | n + 1 => [.group name (groupsAround name slots n)]

section

variable {ctx : Context} {name : String}

theorem preset_adds {key : Option String} {used spec : String} {m : Member}
    (chosen : ctx.presets.choose key = (some (used, spec), none))
    (read : Spec.parseNested ctx.factories spec = .ok (.member m)) :
    (Arrangement.preset key).expand ctx = ⟨[.add m], []⟩ := by
  have text : expandText ctx maxNesting spec = .edit (.add m) := by
    rw [maxNesting, expandText, read]
    simp only [Arrangement.expandWith]
  simp [Arrangement.expand, Arrangement.expandWith, presetExpansion, chosen, text,
    Expansion.andThen, Expansion.edit]

theorem lead_followed {key next : Option String} (leads : Leads ctx name key next) (depth : Nat) :
    prepareGroup ctx (depth + 1) (.preset key) =
      (prepareGroup ctx depth (.preset next)).map fun p =>
        ⟨[.group name p.result], p.notices⟩ := by
  obtain ⟨used, spec, chosen, read⟩ := leads
  rw [prepareGroup, preset_adds chosen read]
  cases inner : prepareGroup ctx depth (.preset next) with
  | none => simp [Expansion.run, Edit.run, prepareAll, Member.prepareWith, inner]
  | some p => simp [Expansion.run, Edit.run, prepareAll, Member.prepareWith, inner, Member.name]

theorem chain_followed (key : Option String) (keys : List (Option String))
    (chain : List.IsChain (Leads ctx name) (key :: keys)) (depth : Nat) :
    prepareGroup ctx (depth + keys.length) (.preset key) =
      (prepareGroup ctx depth (.preset ((key :: keys).getLast (List.cons_ne_nil _ _)))).map fun p =>
        ⟨groupsAround name p.result keys.length, p.notices⟩ := by
  induction keys generalizing key with
  | nil => simp [groupsAround]
  | cons next rest ih =>
    rw [List.isChain_cons_cons] at chain
    obtain ⟨leads, further⟩ := chain
    rw [List.length_cons, ← Nat.add_assoc, lead_followed leads, ih next further]
    simp [groupsAround, Function.comp_def]

theorem loop_never_ends {key : Option String} (leads : Leads ctx name key key) (depth : Nat) :
    prepareGroup ctx depth (.preset key) = none := by
  induction depth with
  | zero => rfl
  | succ depth ih => rw [lead_followed leads, ih, Option.map_none]

end

def loopContext : Context := contextOf (PresetTable.empty.insert "DEFAULT" "g=DEFAULT!")

/-- Seventeen presets, each but the last a group of the next one. -/
def chainContext : Context := contextOf
  { defaultKey := "DEFAULT"
    entries := [("DEFAULT", "g=DEFAULT!P1"), ("P1", "g=DEFAULT!P2"), ("P2", "g=DEFAULT!P3"),
      ("P3", "g=DEFAULT!P4"), ("P4", "g=DEFAULT!P5"), ("P5", "g=DEFAULT!P6"),
      ("P6", "g=DEFAULT!P7"), ("P7", "g=DEFAULT!P8"), ("P8", "g=DEFAULT!P9"),
      ("P9", "g=DEFAULT!P10"), ("P10", "g=DEFAULT!P11"), ("P11", "g=DEFAULT!P12"),
      ("P12", "g=DEFAULT!P13"), ("P13", "g=DEFAULT!P14"), ("P14", "g=DEFAULT!P15"),
      ("P15", "g=DEFAULT!P16"), ("P16", "level")] }

theorem chain_links : List.IsChain (Leads chainContext "g") [none, some "P1", some "P2", some "P3",
    some "P4", some "P5", some "P6", some "P7", some "P8", some "P9", some "P10", some "P11",
    some "P12", some "P13", some "P14", some "P15", some "P16"] := by
  simp only [List.isChain_cons_cons, List.isChain_singleton, and_true]
  refine ⟨?_, ?_, ?_, ?_, ?_, ?_, ?_, ?_, ?_, ?_, ?_, ?_, ?_, ?_, ?_, ?_⟩ <;>
    exact ⟨_, _, rfl, rfl⟩

theorem end_of_chain : (prepareGroup chainContext 1 (.preset (some "P16"))) =
    some ⟨[.getter "level" ((Conversion.always fun e => some (.text e.level)).bind none)], []⟩ := by
  have last : (Arrangement.preset (some "P16")).expand chainContext =
      ⟨[.add (.mk "level" (.conversion "level" none))], []⟩ := preset_adds rfl rfl
  have held : chainContext.conversions.get? "level" =
      some (Conversion.always fun e => some (.text e.level)) := by
    simp [chainContext, contextOf, Conversion.builtins, Conversion.builtinNames,
      Registry.get_register]
  rw [prepareGroup, last]
  simp [Expansion.run, Edit.run, prepareAll, Member.prepareWith, Member.name, prepareConversion,
    held]

/-- What the bound on nesting does not prevent: a preset that is a group of itself is followed
    forever, and through groups seventeen presets are expanded one inside the other. -/
theorem nesting_unbounded_through_groups :
    (∀ depth, prepareGroup loopContext depth (.preset none) = none) ∧
    ∃ get, prepareGroup chainContext 17 (.preset none) =
      some ⟨groupsAround "g" [.getter "level" get] 16, []⟩ := by
  constructor
  · exact loop_never_ends ⟨_, _, rfl, rfl⟩
  · have followed := chain_followed _ _ chain_links 1
    simp only [List.getLast_cons_cons, List.getLast_singleton, end_of_chain,
      Option.map_some] at followed
    exact ⟨_, followed⟩

end LogLayout
