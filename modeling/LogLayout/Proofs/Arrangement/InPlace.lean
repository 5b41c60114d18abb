import LogLayout.Arrangement.Expand

/- Arrangements carried out on a list while they are read: every step sees the members that the
   steps before it have left and what has been reported so far. Each step filters by name, appends
   or reports, so the whole does no more; and it comes to the same as expanding first. Which names
   a pattern accepts is left open throughout. -/
namespace LogLayout

structure Workbench where
  members : List Member
  notices : List Notice

namespace Workbench

def say (w : Workbench) (notices : List Notice) : Workbench :=
  { w with notices := w.notices ++ notices }

def restrict (w : Workbench) (keep : String → Bool) : Workbench :=
  { w with members := w.members.filter fun m => keep m.name }

def append (w : Workbench) (members : List Member) : Workbench :=
  { w with members := w.members ++ members }

@[simp] theorem restrict_nothing (w : Workbench) : (w.restrict fun _ => true) = w := by
  have same : (w.members.filter fun _ => true) = w.members :=
    List.filter_eq_self.mpr fun _ _ => rfl
  simp only [restrict, same]

end Workbench

section

variable (accepts : NamePattern → String → Bool) (ctx : Context)

def carryPreset (text : String → Workbench → Workbench) (key : Option String) (w : Workbench) :
    Workbench :=
  let (chosen, notice) := ctx.presets.choose key
  let told := w.say (notice.toList.map .preset)
  match chosen with
  | some (_, spec) => text spec told
  | none => told

mutual
def Arrangement.carryWith (text : String → Workbench → Workbench) :
    Arrangement → Workbench → Workbench
  | .identity, w => w
  | .deferred spec, w => text spec w
  | .preset key, w => carryPreset ctx text key w
  | .removal none, w => { w with members := [] }
  | .removal (some pattern), w => w.restrict fun name => !accepts pattern name
  | .composite none children, w => carryAll text children w
  | .composite (some spec) children, w => carryAll text children (text spec w)
  | .member m, w => w.append [m]

def carryAll (text : String → Workbench → Workbench) : List Arrangement → Workbench → Workbench
  | [], w => w
  | a :: rest, w => carryAll text rest (a.carryWith text w)
end

def carryText : Nat → String → Workbench → Workbench
  | 0, spec, w => w.say [.tooNested spec]
  | levels + 1, spec, w =>
    match Spec.parseNested ctx.factories spec with
    | .ok a => a.carryWith accepts ctx (carryText levels) w
    | .error e => w.say [.ignoredText spec e]

def Arrangement.carryOut (a : Arrangement) (w : Workbench) : Workbench :=
  a.carryWith accepts ctx (carryText accepts ctx maxNesting) w

end

/-- The step keeps the members whose names satisfy a fixed predicate, puts fixed members behind
    them and reports fixed notices, whatever it is given. -/
def Framed (f : Workbench → Workbench) : Prop :=
  ∃ (keep : String → Bool) (added : List Member) (said : List Notice),
    ∀ w, f w = ((w.restrict keep).append added).say said

theorem framed_id : Framed fun w => w := by
  refine ⟨fun _ => true, [], [], ?_⟩
  intro w
  simp [Workbench.say, Workbench.append]

theorem framed_say (notices : List Notice) : Framed fun w => w.say notices := by
  refine ⟨fun _ => true, [], notices, ?_⟩
  intro w
  simp [Workbench.say, Workbench.append]

theorem framed_append (members : List Member) : Framed fun w => w.append members := by
  refine ⟨fun _ => true, members, [], ?_⟩
  intro w
  simp [Workbench.say, Workbench.append]

theorem framed_restrict (keep : String → Bool) : Framed fun w => w.restrict keep := by
  refine ⟨keep, [], [], ?_⟩
  intro w
  simp [Workbench.say, Workbench.append, Workbench.restrict]

theorem framed_clear : Framed fun w => { w with members := [] } := by
  refine ⟨fun _ => false, [], [], ?_⟩
  intro w
  simp [Workbench.say, Workbench.append, Workbench.restrict]

theorem framed_then {f g : Workbench → Workbench} (first : Framed f) (second : Framed g) :
    Framed fun w => g (f w) := by
  obtain ⟨keep, added, said, f_is⟩ := first
  obtain ⟨keep', added', said', g_is⟩ := second
  refine ⟨fun name => keep name && keep' name, (added.filter fun m => keep' m.name) ++ added',
    said ++ said', ?_⟩
  intro w
  change g (f w) = _
  rw [f_is, g_is]
  simp [Workbench.say, Workbench.append, Workbench.restrict, List.filter_filter, Bool.and_comm]

theorem framed_preset {ctx : Context} {text : String → Workbench → Workbench}
    (texts : ∀ spec, Framed (text spec)) (key : Option String) :
    Framed (carryPreset ctx text key) := by
  unfold carryPreset
  rcases ctx.presets.choose key with ⟨_ | ⟨used, spec⟩, notice⟩
  · exact framed_say _
  · exact framed_then (framed_say _) (texts spec)

section

variable {accepts : NamePattern → String → Bool} {ctx : Context}
  {text : String → Workbench → Workbench}

mutual
theorem framed_arrangement (texts : ∀ spec, Framed (text spec)) :
    (a : Arrangement) → Framed (a.carryWith accepts ctx text)
  | .identity => by simpa only [Arrangement.carryWith] using framed_id
  | .deferred spec => by simpa only [Arrangement.carryWith] using texts spec
  | .preset key => by simpa only [Arrangement.carryWith] using framed_preset texts key
  | .removal none => by simpa only [Arrangement.carryWith] using framed_clear
  | .removal (some pattern) => by
    simpa only [Arrangement.carryWith] using framed_restrict fun name => !accepts pattern name
  | .composite none children => by
    simpa only [Arrangement.carryWith] using framed_all texts children
  | .composite (some spec) children => by
    simpa only [Arrangement.carryWith] using framed_then (texts spec) (framed_all texts children)
  | .member m => by simpa only [Arrangement.carryWith] using framed_append [m]

theorem framed_all (texts : ∀ spec, Framed (text spec)) :
    (children : List Arrangement) → Framed (carryAll accepts ctx text children)
  | [] => by simpa only [carryAll] using framed_id
  | a :: rest => by
    simpa only [carryAll] using framed_then (framed_arrangement texts a) (framed_all texts rest)
end

end

theorem framed_text (accepts : NamePattern → String → Bool) (ctx : Context) (levels : Nat)
    (spec : String) : Framed (carryText accepts ctx levels spec) := by
  induction levels generalizing spec with
  | zero => exact framed_say _
  | succ levels ih =>
    cases read : Spec.parseNested ctx.factories spec with
    | ok a =>
      have carried : carryText accepts ctx (levels + 1) spec =
          a.carryWith accepts ctx (carryText accepts ctx levels) := by
        funext w
        simp only [carryText, read]
      rw [carried]
      exact framed_arrangement ih a
    | error e =>
      have refused : carryText accepts ctx (levels + 1) spec =
          fun w => w.say [.ignoredText spec e] := by
        funext w
        simp only [carryText, read]
      rw [refused]
      exact framed_say _

def Workbench.play (w : Workbench) (x : Expansion) : Workbench :=
  ⟨x.run w.members, w.notices ++ x.notices⟩

theorem play_and_then (w : Workbench) (x y : Expansion) :
    w.play (x.andThen y) = (w.play x).play y := by
  simp [Workbench.play, Expansion.andThen, Expansion.run]

section

variable {ctx : Context} {carried : String → Workbench → Workbench} {expanded : String → Expansion}

theorem carry_preset_plays (same : ∀ spec w, carried spec w = w.play (expanded spec))
    (key : Option String) (w : Workbench) :
    carryPreset ctx carried key w = w.play (presetExpansion ctx expanded key) := by
  unfold carryPreset presetExpansion
  rcases ctx.presets.choose key with ⟨_ | ⟨used, spec⟩, notice⟩
  · simp [Workbench.play, Workbench.say, Expansion.andThen, Expansion.nothing, Expansion.run]
  · simp only [same]
    rw [play_and_then]
    rfl

mutual
theorem carry_plays (same : ∀ spec w, carried spec w = w.play (expanded spec)) :
    (a : Arrangement) → (w : Workbench) →
      a.carryWith NamePattern.accepts ctx carried w = w.play (a.expandWith ctx expanded)
  | .identity, w => by
    simp [Arrangement.carryWith, Arrangement.expandWith, Workbench.play, Expansion.nothing,
      Expansion.run]
  | .deferred spec, w => by simp only [Arrangement.carryWith, Arrangement.expandWith, same]
  | .preset key, w => by
    simp only [Arrangement.carryWith, Arrangement.expandWith, carry_preset_plays same]
  | .removal none, w => by
    simp [Arrangement.carryWith, Arrangement.expandWith, Workbench.play, Expansion.edit,
      Expansion.run, Edit.run]
  | .removal (some pattern), w => by
    simp [Arrangement.carryWith, Arrangement.expandWith, Workbench.play, Expansion.edit,
      Expansion.run, Edit.run, Workbench.restrict]
  | .composite none children, w => by
    simp only [Arrangement.carryWith, Arrangement.expandWith, carry_all_plays same]
  | .composite (some spec) children, w => by
    simp only [Arrangement.carryWith, Arrangement.expandWith, carry_all_plays same, same,
      play_and_then]
  | .member m, w => by
    simp [Arrangement.carryWith, Arrangement.expandWith, Workbench.play, Expansion.edit,
      Expansion.run, Edit.run, Workbench.append]

theorem carry_all_plays (same : ∀ spec w, carried spec w = w.play (expanded spec)) :
    (children : List Arrangement) → (w : Workbench) →
      carryAll NamePattern.accepts ctx carried children w = w.play (expandAll ctx expanded children)
  | [], w => by
    simp [carryAll, expandAll, Workbench.play, Expansion.nothing, Expansion.run]
  | a :: rest, w => by
    simp only [carryAll, expandAll, carry_plays same a, carry_all_plays same rest, play_and_then]
end

end

theorem carry_text_plays (ctx : Context) (levels : Nat) (spec : String) (w : Workbench) :
    carryText NamePattern.accepts ctx levels spec w = w.play (expandText ctx levels spec) := by
  induction levels generalizing spec w with
  | zero => rfl
  | succ levels ih =>
    unfold carryText expandText
    cases Spec.parseNested ctx.factories spec with
    | ok a => exact carry_plays ih a w
    | error e => rfl

/-- Expanding first and carrying out step by step come to the same. -/
theorem carry_out_plays (ctx : Context) (a : Arrangement) (w : Workbench) :
    a.carryOut NamePattern.accepts ctx w =
      ⟨a.apply ctx w.members, w.notices ++ (a.expand ctx).notices⟩ :=
  carry_plays (carry_text_plays ctx maxNesting) a w

theorem carried_filters_then_appends (accepts : NamePattern → String → Bool) (ctx : Context)
    (a : Arrangement) :
    ∃ keep : String → Bool, ∀ held : List Member,
      a.carryOut accepts ctx ⟨held, []⟩ =
        ⟨(held.filter fun m => keep m.name) ++ (a.carryOut accepts ctx ⟨[], []⟩).members,
          (a.carryOut accepts ctx ⟨[], []⟩).notices⟩ := by
  obtain ⟨keep, added, said, framed⟩ := framed_arrangement (framed_text accepts ctx maxNesting) a
  refine ⟨keep, ?_⟩
  intro held
  have carried (w : Workbench) :
      a.carryOut accepts ctx w = ((w.restrict keep).append added).say said := framed w
  simp [carried, Workbench.say, Workbench.append, Workbench.restrict]

/-- An arrangement filters a list by name and appends what it makes of the empty list, whichever
    names the patterns accept. Carried out step by step it reports the same for every list. -/
theorem apply_filters_then_appends (ctx : Context) (a : Arrangement) :
    (∃ keep : String → Bool, ∀ held : List Member,
      a.apply ctx held = (held.filter fun m => keep m.name) ++ a.members ctx) ∧
    (∀ held : List Member, a.carryOut NamePattern.accepts ctx ⟨held, []⟩ =
      ⟨a.apply ctx held, (a.expand ctx).notices⟩) ∧
    ∀ accepts : NamePattern → String → Bool, ∃ keep : String → Bool, ∀ held : List Member,
      a.carryOut accepts ctx ⟨held, []⟩ =
        ⟨(held.filter fun m => keep m.name) ++ (a.carryOut accepts ctx ⟨[], []⟩).members,
          (a.carryOut accepts ctx ⟨[], []⟩).notices⟩ := by
  have plays (held : List Member) : a.carryOut NamePattern.accepts ctx ⟨held, []⟩ =
      ⟨a.apply ctx held, (a.expand ctx).notices⟩ := carry_out_plays ctx a ⟨held, []⟩
  refine ⟨?_, plays, fun accepts => carried_filters_then_appends accepts ctx a⟩
  obtain ⟨keep, carried⟩ := carried_filters_then_appends NamePattern.accepts ctx a
  refine ⟨keep, ?_⟩
  intro held
  have result := carried held
  rw [plays held, plays []] at result
  exact congrArg Workbench.members result

end LogLayout
