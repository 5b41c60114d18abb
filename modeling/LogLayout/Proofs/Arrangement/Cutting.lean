import Mathlib.Data.List.Sublists
import Mathlib.Logic.Function.Iterate
import LogLayout.Layout.Builder
import LogLayout.Proofs.Arrangement.Nesting

/- What the bound on nesting cuts off. Texts may be replaced by what they are read as, round after
   round and without a bound, until none is left. An application with a bound does as many rounds;
   the texts that are then left are the ones it reports, it does nothing for them, and for the rest
   it does what it would do without the bound. -/
namespace LogLayout

variable (ctx : Context)

def Arrangement.expandWithin (cap : Nat) (a : Arrangement) : Expansion :=
  a.expandWith ctx (expandText ctx cap)

mutual
/-- Replaces the texts in an arrangement; one in front of a sequence becomes the first in it, and a
    preset that there is no text for becomes nothing. -/
def Arrangement.replaceWith (text : String → Arrangement) : Arrangement → Arrangement
  | .identity => .identity
  | .deferred spec => text spec
  | .preset key => ((ctx.presets.choose key).1.map fun chosen => text chosen.2).getD .identity
  | .removal pattern => .removal pattern
  | .composite none children => .composite none (replaceAll text children)
  | .composite (some spec) children => .composite none (text spec :: replaceAll text children)
  | .member m => .member m

def replaceAll (text : String → Arrangement) : List Arrangement → List Arrangement
  | [] => []
  | a :: rest => a.replaceWith text :: replaceAll text rest
end

def readOrNothing (spec : String) : Arrangement :=
  match Spec.parseNested ctx.factories spec with
  | .ok a => a
  | .error _ => .identity

def Arrangement.replaceTexts (a : Arrangement) : Arrangement :=
  a.replaceWith ctx (readOrNothing ctx)

mutual
def Arrangement.plain : Arrangement → Bool
  | .deferred _ | .preset _ | .composite (some _) _ => false
  | .composite none children => allPlain children
  | _ => true

def allPlain : List Arrangement → Bool
  | [] => true
  | a :: rest => a.plain && allPlain rest
end

/-- Rounds of replacing, as many as it takes, lead to a plain arrangement. -/
def Arrangement.Unrolls (a b : Arrangement) : Prop :=
  ∃ rounds, (Arrangement.replaceTexts ctx)^[rounds] a = b ∧ b.plain = true

def Notice.isCut : Notice → Bool
  | .tooNested _ => true
  | _ => false

/-- Something to look at in expansions that reports on presets and on texts that cannot be read are
    no part of. -/
structure Aspect (view : Expansion → List α) : Prop where
  split : ∀ x y, view (x.andThen y) = view x ++ view y
  preset : ∀ notices : List PresetNotice, view ⟨[], notices.map .preset⟩ = []
  ignored : ∀ spec e, view (.notice (.ignoredText spec e)) = []

theorem aspect_edits : Aspect Expansion.edits where
  split := fun _ _ => rfl
  preset := fun _ => rfl
  ignored := fun _ _ => rfl

theorem aspect_cuts : Aspect fun x => x.notices.filter Notice.isCut where
  split := by
    intro x y
    exact List.filter_append ..
  preset := by
    intro notices
    simp [Notice.isCut]
  ignored := fun _ _ => rfl

section

variable {ctx} {view : Expansion → List α} (aspect : Aspect view)
include aspect

theorem Aspect.nothing : view .nothing = [] := aspect.preset []

theorem Aspect.of_preset (text : String → Expansion) (key : Option String) :
    view (presetExpansion ctx text key) =
      ((ctx.presets.choose key).1.map fun chosen => view (text chosen.2)).getD [] := by
  unfold presetExpansion
  rcases ctx.presets.choose key with ⟨_ | ⟨used, spec⟩, notice⟩
  · simp only [aspect.split, aspect.preset, aspect.nothing]
    rfl
  · simp only [aspect.split, aspect.preset]
    rfl

mutual
/-- Texts may be expanded where they stand, or replaced first. -/
theorem replaced_expansion {text inner : String → Expansion} {put : String → Arrangement}
    (same : ∀ spec, view (text spec) = view ((put spec).expandWith ctx inner)) :
    (a : Arrangement) →
      view (a.expandWith ctx text) = view ((a.replaceWith ctx put).expandWith ctx inner)
  | .identity => rfl
  | .deferred spec => by
    simp only [Arrangement.expandWith, Arrangement.replaceWith, same]
  | .preset key => by
    simp only [Arrangement.expandWith, Arrangement.replaceWith, aspect.of_preset]
    cases (ctx.presets.choose key).1 with
    | none => exact (aspect.nothing).symm
    | some chosen => exact same chosen.2
  | .removal pattern => by cases pattern <;> rfl
  | .composite none children => by
    simp only [Arrangement.expandWith, Arrangement.replaceWith]
    exact all_replaced_expansion same children
  | .composite (some spec) children => by
    simp only [Arrangement.expandWith, Arrangement.replaceWith, expandAll, aspect.split, same,
      all_replaced_expansion same children]
  | .member m => rfl

theorem all_replaced_expansion {text inner : String → Expansion} {put : String → Arrangement}
    (same : ∀ spec, view (text spec) = view ((put spec).expandWith ctx inner)) :
    (children : List Arrangement) →
      view (expandAll ctx text children) = view (expandAll ctx inner (replaceAll ctx put children))
  | [] => rfl
  | a :: rest => by
    simp only [expandAll, replaceAll, aspect.split, replaced_expansion same a,
      all_replaced_expansion same rest]
end

end

section

variable {view : Expansion → List α} (aspect : Aspect view)
include aspect

/-- A round of replacing takes the place of one level of nesting. -/
theorem round_for_level (cap : Nat) (a : Arrangement) :
    view (a.expandWithin ctx (cap + 1)) = view ((a.replaceTexts ctx).expandWithin ctx cap) := by
  apply replaced_expansion aspect
  intro spec
  unfold expandText readOrNothing
  cases Spec.parseNested ctx.factories spec with
  | ok b => rfl
  | error e => exact (aspect.ignored spec e).trans aspect.nothing.symm

theorem rounds_for_levels (rounds cap : Nat) (a : Arrangement) :
    view (a.expandWithin ctx (rounds + cap)) =
      view (((Arrangement.replaceTexts ctx)^[rounds] a).expandWithin ctx cap) := by
  induction rounds generalizing a with
  | zero => rw [Nat.zero_add, Function.iterate_zero_apply]
  | succ rounds ih =>
    rw [Function.iterate_succ_apply, ← ih, ← round_for_level ctx aspect]
    congr 2
    omega

end

section

variable {ctx} (text : String → Expansion)

mutual
theorem cuts_of_texts : (a : Arrangement) →
    (a.expandWith ctx text).notices.filter Notice.isCut =
      (a.texts ctx).flatMap fun spec => (text spec).notices.filter Notice.isCut
  | .identity => rfl
  | .deferred spec => by
    simp only [Arrangement.expandWith, Arrangement.texts, List.flatMap_singleton]
  | .preset key => by
    simp only [Arrangement.expandWith, Arrangement.texts]
    rw [aspect_cuts.of_preset text key]
    cases (ctx.presets.choose key).1 <;> simp
  | .removal pattern => by cases pattern <;> rfl
  | .composite none children => by
    simp only [Arrangement.expandWith, Arrangement.texts]
    exact cuts_of_all_texts children
  | .composite (some spec) children => by
    simp only [Arrangement.expandWith, Arrangement.texts, List.flatMap_cons, aspect_cuts.split,
      cuts_of_all_texts children]
  | .member m => rfl

theorem cuts_of_all_texts : (children : List Arrangement) →
    (expandAll ctx text children).notices.filter Notice.isCut =
      (textsOfAll ctx children).flatMap fun spec => (text spec).notices.filter Notice.isCut
  | [] => rfl
  | a :: rest => by
    simp only [expandAll, textsOfAll, List.flatMap_append, aspect_cuts.split, cuts_of_texts a,
      cuts_of_all_texts rest]
end

end

theorem cuts_without_levels (a : Arrangement) :
    (a.expandWithin ctx 0).notices.filter Notice.isCut = (a.texts ctx).map .tooNested := by
  have each (spec : String) :
      (expandText ctx 0 spec).notices.filter Notice.isCut = [.tooNested spec] := rfl
  rw [Arrangement.expandWithin, cuts_of_texts, List.map_eq_flatMap]
  simp only [each]

structure Compatible (related : Expansion → Expansion → Prop) : Prop where
  same : ∀ x, related x x
  next : ∀ {x x' y y'}, related x x' → related y y' → related (x.andThen y) (x'.andThen y')

section

variable {ctx} {related : Expansion → Expansion → Prop} (compatible : Compatible related)
  {text other : String → Expansion}
include compatible

theorem preset_related (key : Option String)
    (texts : ∀ spec ∈ (Arrangement.preset key).texts ctx, related (text spec) (other spec)) :
    related (presetExpansion ctx text key) (presetExpansion ctx other key) := by
  unfold Arrangement.texts at texts
  unfold presetExpansion
  generalize ctx.presets.choose key = choice at texts ⊢
  rcases choice with ⟨_ | ⟨used, spec⟩, notice⟩
  · exact compatible.same _
  · exact compatible.next (compatible.same _) (texts spec (List.mem_singleton_self spec))

mutual
theorem expansion_related : (a : Arrangement) →
    (∀ spec ∈ a.texts ctx, related (text spec) (other spec)) →
      related (a.expandWith ctx text) (a.expandWith ctx other)
  | .identity, _ => compatible.same _
  | .deferred spec, texts => by
    simp only [Arrangement.expandWith]
    exact texts spec (List.mem_singleton_self spec)
  | .preset key, texts => by
    simp only [Arrangement.expandWith]
    exact preset_related compatible key texts
  | .removal pattern, _ => by
    cases pattern
    · exact compatible.same _
    · exact compatible.same _
  | .composite none children, texts => by
    simp only [Arrangement.expandWith, Arrangement.texts] at texts ⊢
    exact all_related children texts
  | .composite (some spec) children, texts => by
    simp only [Arrangement.expandWith, Arrangement.texts, List.forall_mem_cons] at texts ⊢
    exact compatible.next texts.1 (all_related children texts.2)
  | .member m, _ => compatible.same _

theorem all_related : (children : List Arrangement) →
    (∀ spec ∈ textsOfAll ctx children, related (text spec) (other spec)) →
      related (expandAll ctx text children) (expandAll ctx other children)
  | [], _ => compatible.same _
  | a :: rest, texts => by
    simp only [expandAll, textsOfAll, List.forall_mem_append] at texts ⊢
    exact compatible.next (expansion_related a texts.1) (all_related rest texts.2)
end

end

theorem compatible_eq : Compatible Eq where
  same := fun _ => rfl
  next := by
    rintro x _ y _ rfl rfl
    rfl

theorem compatible_edits : Compatible fun x y => x.edits = y.edits where
  same := fun _ => rfl
  next := by
    intro x x' y y' first second
    exact congrArg₂ (· ++ ·) first second

/-- Whatever is done or reported, apart from what is cut off, is done or reported with more too. -/
def Extends (x y : Expansion) : Prop :=
  x.edits.Sublist y.edits ∧
    (x.notices.filter fun n => !n.isCut).Sublist (y.notices.filter fun n => !n.isCut)

theorem compatible_extends : Compatible Extends where
  same := fun x => ⟨List.Sublist.refl _, List.Sublist.refl _⟩
  next := by
    intro x x' y y' first second
    simp only [Extends, Expansion.andThen, List.filter_append]
    exact ⟨first.1.append second.1, first.2.append second.2⟩

theorem text_extended (cap more : Nat) (spec : String) :
    Extends (expandText ctx cap spec) (expandText ctx (cap + more) spec) := by
  induction cap generalizing spec with
  | zero => exact ⟨List.nil_sublist _, List.nil_sublist _⟩
  | succ cap ih =>
    rw [Nat.succ_add, expandText, expandText]
    cases Spec.parseNested ctx.factories spec with
    | ok b => exact expansion_related compatible_extends b fun inner _ => ih inner
    | error e => exact compatible_extends.same _

theorem level_without_cuts (cap : Nat) (a : Arrangement)
    (uncut : (a.expandWithin ctx cap).notices.filter Notice.isCut = []) :
    a.expandWithin ctx (cap + 1) = a.expandWithin ctx cap := by
  induction cap generalizing a with
  | zero =>
    rw [cuts_without_levels] at uncut
    apply expansion_related compatible_eq
    intro spec asked
    rw [List.map_eq_nil_iff.mp uncut] at asked
    cases asked
  | succ cap ih =>
    rw [Arrangement.expandWithin, cuts_of_texts, List.flatMap_eq_nil_iff] at uncut
    apply expansion_related compatible_eq
    intro spec asked
    have clear := uncut spec asked
    rw [expandText] at clear ⊢
    rw [expandText]
    cases read : Spec.parseNested ctx.factories spec with
    | ok b =>
      rw [read] at clear
      exact ih b clear
    | error e => rfl

theorem levels_without_cuts {cap more : Nat} (a : Arrangement)
    (uncut : (a.expandWithin ctx cap).notices.filter Notice.isCut = []) (larger : cap ≤ more) :
    a.expandWithin ctx more = a.expandWithin ctx cap := by
  induction larger with
  | refl => rfl
  | step _ ih => rw [level_without_cuts ctx _ a (ih ▸ uncut), ih]

mutual
theorem plain_without_texts (put : String → Arrangement) : (a : Arrangement) → a.texts ctx = [] →
    (a.replaceWith ctx put).plain = true
  | .identity, _ => rfl
  | .deferred spec, empty => by simp [Arrangement.texts] at empty
  | .preset key, empty => by
    simp only [Arrangement.texts, List.map_eq_nil_iff, Option.toList_eq_nil_iff] at empty
    simp [Arrangement.replaceWith, empty, Arrangement.plain]
  | .removal pattern, _ => rfl
  | .composite none children, empty => by
    simp only [Arrangement.texts] at empty
    simp only [Arrangement.replaceWith, Arrangement.plain]
    exact all_plain_without_texts put children empty
  | .composite (some spec) children, empty => by simp [Arrangement.texts] at empty
  | .member m, _ => rfl

theorem all_plain_without_texts (put : String → Arrangement) : (children : List Arrangement) →
    textsOfAll ctx children = [] → allPlain (replaceAll ctx put children) = true
  | [], _ => rfl
  | a :: rest, empty => by
    simp only [textsOfAll, List.append_eq_nil_iff] at empty
    simp only [replaceAll, allPlain, plain_without_texts put a empty.1,
      all_plain_without_texts put rest empty.2, Bool.and_self]
end

mutual
theorem replace_plain (put : String → Arrangement) : (a : Arrangement) → a.plain = true →
    a.replaceWith ctx put = a
  | .identity, _ => rfl
  | .deferred spec, plain => by simp [Arrangement.plain] at plain
  | .preset key, plain => by simp [Arrangement.plain] at plain
  | .removal pattern, _ => rfl
  | .composite none children, plain => by
    simp only [Arrangement.plain] at plain
    simp only [Arrangement.replaceWith, replace_all_plain put children plain]
  | .composite (some spec) children, plain => by simp [Arrangement.plain] at plain
  | .member m, _ => rfl

theorem replace_all_plain (put : String → Arrangement) : (children : List Arrangement) →
    allPlain children = true → replaceAll ctx put children = children
  | [], _ => rfl
  | a :: rest, plain => by
    simp only [allPlain, Bool.and_eq_true] at plain
    simp only [replaceAll, replace_plain put a plain.1, replace_all_plain put rest plain.2]
end

namespace Arrangement

/-- The arrangement with all texts replaced that an application may expand, and no others. -/
def outer (a : Arrangement) : Arrangement := (replaceTexts ctx)^[maxNesting] a

theorem rounds_of_plain (rounds : Nat) (b : Arrangement) (plain : b.plain = true) :
    (replaceTexts ctx)^[rounds] b = b :=
  Function.iterate_fixed (replace_plain ctx _ b plain) rounds

theorem unrolls_iff_later (rounds : Nat) (a b : Arrangement) :
    a.Unrolls ctx b ↔ ((replaceTexts ctx)^[rounds] a).Unrolls ctx b := by
  constructor
  · rintro ⟨n, rfl, plain⟩
    rcases Nat.le_total n rounds with fewer | more
    · obtain ⟨k, rfl⟩ := Nat.exists_eq_add_of_le' fewer
      have done := rounds_of_plain ctx k _ plain
      rw [← Function.iterate_add_apply] at done
      exact ⟨0, done, plain⟩
    · obtain ⟨k, rfl⟩ := Nat.exists_eq_add_of_le' more
      exact ⟨k, (Function.iterate_add_apply _ k rounds a).symm, plain⟩
  · rintro ⟨n, rfl, plain⟩
    exact ⟨n + rounds, Function.iterate_add_apply _ n rounds a, plain⟩

theorem unrolls_unique {a b c : Arrangement} (first : a.Unrolls ctx b) (second : a.Unrolls ctx c) :
    b = c := by
  obtain ⟨rounds, rfl, plain⟩ := first
  obtain ⟨further, rfl, _⟩ := (unrolls_iff_later ctx rounds a c).mp second
  exact (rounds_of_plain ctx further _ plain).symm

theorem cuts_are_left (a : Arrangement) :
    (a.expand ctx).notices.filter Notice.isCut = ((a.outer ctx).texts ctx).map .tooNested := by
  have replaced := rounds_for_levels ctx aspect_cuts maxNesting 0 a
  exact replaced.trans (cuts_without_levels ctx _)

theorem apply_outer (a : Arrangement) (held : List Member) :
    a.apply ctx held = ((a.outer ctx).own ctx).run held := by
  have replaced := rounds_for_levels ctx aspect_edits maxNesting 0 a
  have idle : ((a.outer ctx).expandWithin ctx 0).edits = ((a.outer ctx).own ctx).edits :=
    expansion_related compatible_edits _ fun _ _ => rfl
  exact congrArg (List.foldl Edit.run held) (replaced.trans idle)

theorem unrolls_without_cuts (a : Arrangement)
    (uncut : (a.expand ctx).notices.filter Notice.isCut = []) :
    a.Unrolls ctx ((replaceTexts ctx)^[maxNesting + 1] a) := by
  refine ⟨maxNesting + 1, rfl, ?_⟩
  rw [Function.iterate_succ_apply']
  apply plain_without_texts
  rw [cuts_are_left] at uncut
  exact List.map_eq_nil_iff.mp uncut

theorem apply_unrolled (a b : Arrangement)
    (uncut : (a.expand ctx).notices.filter Notice.isCut = []) (unrolls : a.Unrolls ctx b)
    (held : List Member) : a.apply ctx held = b.apply ctx held := by
  obtain ⟨rounds, rfl, _⟩ := unrolls
  have longer : a.expandWithin ctx (rounds + maxNesting) = a.expand ctx :=
    levels_without_cuts ctx a uncut (Nat.le_add_left ..)
  have replaced := rounds_for_levels ctx aspect_edits rounds maxNesting a
  rw [longer] at replaced
  exact congrArg (List.foldl Edit.run held) replaced

end Arrangement

/-- The bound on nesting is conservative. An application that reports no text as too deep does what
    the arrangement does when its texts are replaced without a bound, and no larger bound would make
    a difference. Otherwise it does what the texts within the bound lead to: nothing is done for the
    texts reported, and all else is done and reported with every larger bound, and without one. -/
theorem nesting_bound_is_conservative (ctx : Context) (a : Arrangement) :
    ((∀ spec, .tooNested spec ∉ (a.expand ctx).notices) →
      (∃! b, a.Unrolls ctx b) ∧
      (∀ b, a.Unrolls ctx b → ∀ held, a.apply ctx held = b.apply ctx held) ∧
      ∀ cap, maxNesting ≤ cap → a.expandWithin ctx cap = a.expand ctx) ∧
    (a.expand ctx).notices.filter Notice.isCut = ((a.outer ctx).texts ctx).map .tooNested ∧
    (∀ held, a.apply ctx held = ((a.outer ctx).own ctx).run held) ∧
    (∀ b, a.Unrolls ctx b ↔ (a.outer ctx).Unrolls ctx b) ∧
    ∀ more, (a.expandWithin ctx (maxNesting + more)).edits =
        ((a.outer ctx).expandWithin ctx more).edits ∧
      Extends (a.expand ctx) (a.expandWithin ctx (maxNesting + more)) := by
  refine ⟨?_, a.cuts_are_left ctx, a.apply_outer ctx, a.unrolls_iff_later ctx maxNesting, ?_⟩
  · intro within
    have uncut : (a.expand ctx).notices.filter Notice.isCut = [] := by
      rw [List.filter_eq_nil_iff]
      rintro n told cut
      cases n with
      | tooNested spec => exact within spec told
      | _ => cases cut
    refine ⟨⟨_, a.unrolls_without_cuts ctx uncut, ?_⟩, ?_, ?_⟩
    · intro c unrolls
      exact Arrangement.unrolls_unique ctx unrolls (a.unrolls_without_cuts ctx uncut)
    · intro b unrolls held
      exact a.apply_unrolled ctx b uncut unrolls held
    · intro cap larger
      exact levels_without_cuts ctx a uncut larger
  · intro more
    refine ⟨rounds_for_levels ctx aspect_edits maxNesting more a, ?_⟩
    exact expansion_related compatible_extends a fun spec _ => text_extended ctx maxNesting more spec

/-- A preset that removes what the preset around it has added, and one that cannot be read. -/
def layeredContext : Context := (Builder.start ⟨[], "app", .utc⟩).context
  ⟨[("DEFAULT", "a;DEFAULT!P;DEFAULT!Q"), ("P", "REMOVE!^a;b=1"), ("Q", "bad\\x")], "DEFAULT"⟩

theorem layered_preset_unrolls : ∃ b, (Arrangement.preset none).Unrolls layeredContext b ∧
    ∀ held, (Arrangement.preset none).apply layeredContext held = b.apply layeredContext held := by
  have notices : ((Arrangement.preset none).expand layeredContext).notices =
      [.ignoredText "bad\\x" (.invalidEscape "bad\\x" 3)] := by decide +kernel
  have within : ∀ spec, .tooNested spec ∉
      ((Arrangement.preset none).expand layeredContext).notices := by
    rw [notices]
    simp
  obtain ⟨unbounded, _⟩ := nesting_bound_is_conservative layeredContext (.preset none)
  obtain ⟨⟨b, unrolls, _⟩, same, _⟩ := unbounded within
  exact ⟨b, unrolls, same b unrolls⟩

/-- A preset that contains itself adds its member once for each level of nesting. -/
example :
    let ctx := { layeredContext with presets := ⟨[("DEFAULT", "a=1;DEFAULT!")], "DEFAULT"⟩ }
    ((Arrangement.preset none).expand ctx).edits.length = maxNesting ∧
      ((Arrangement.preset none).expand ctx).notices = [.tooNested "a=1;DEFAULT!"] := by
  decide +kernel

end LogLayout
