import LogLayout.Arrangement.Expand

/- How deep texts are expanded inside one another when an arrangement is applied. What is applied
   comes from texts on at most as many levels as allowed; each text one level further in is
   reported, and nothing comes of it. -/
namespace LogLayout

variable (ctx : Context)

mutual
/-- The texts that an arrangement asks for: deferred ones and those of presets. -/
def Arrangement.texts : Arrangement → List String
  | .deferred spec => [spec]
  | .preset key => (ctx.presets.choose key).1.toList.map Prod.snd
  | .composite none children => textsOfAll children
  | .composite (some spec) children => spec :: textsOfAll children
  | _ => []

def textsOfAll : List Arrangement → List String
  | [] => []
  | a :: rest => a.texts ++ textsOfAll rest
end

def Arrangement.own (a : Arrangement) : Expansion := a.expandWith ctx fun _ => .nothing

/-- Texts that are expanded one inside the other lead from an arrangement to another. -/
inductive Nests : Arrangement → List String → Arrangement → Prop
  | here {a : Arrangement} : Nests a [] a
  | inside {a b c : Arrangement} {spec : String} {path : List String} (asked : spec ∈ a.texts ctx)
      (read : Spec.parseNested ctx.factories spec = .ok b) (rest : Nests b path c) :
      Nests a (spec :: path) c

theorem nested_iff {ctx : Context} (deep : Nat → Prop) {p : Arrangement → Prop} {a : Arrangement} :
    (∃ path c, Nests ctx a path c ∧ deep path.length ∧ p c) ↔
      deep 0 ∧ p a ∨
      ∃ spec ∈ a.texts ctx, ∃ b, Spec.parseNested ctx.factories spec = .ok b ∧
        ∃ path c, Nests ctx b path c ∧ deep (path.length + 1) ∧ p c := by
  constructor
  · rintro ⟨_, c, nests, depth, holds⟩
    cases nests with
    | here => exact Or.inl ⟨depth, holds⟩
    | inside asked read rest => exact Or.inr ⟨_, asked, _, read, _, c, rest, depth, holds⟩
  · rintro (⟨depth, holds⟩ | ⟨spec, asked, b, read, path, c, rest, depth, holds⟩)
    · exact ⟨[], a, .here, depth, holds⟩
    · exact ⟨spec :: path, c, .inside asked read rest, depth, holds⟩

/-- Something that an expansion shows when one of its parts does. -/
structure Shown (P : Expansion → Prop) : Prop where
  split : ∀ x y, P (x.andThen y) ↔ P x ∨ P y
  nothing : ¬ P .nothing

theorem shown_edit (e : Edit) : Shown fun x => e ∈ x.edits where
  split := by
    intro x y
    simp [Expansion.andThen]
  nothing := by simp [Expansion.nothing]

theorem shown_notice (n : Notice) : Shown fun x => n ∈ x.notices where
  split := by
    intro x y
    simp [Expansion.andThen]
  nothing := by simp [Expansion.nothing]

section

variable {ctx} {P : Expansion → Prop} (shown : Shown P) (text : String → Expansion)
include shown

theorem preset_shows (key : Option String) :
    P (presetExpansion ctx text key) ↔
      P (presetExpansion ctx (fun _ => .nothing) key) ∨
        ∃ spec ∈ (Arrangement.preset key).texts ctx, P (text spec) := by
  unfold presetExpansion Arrangement.texts
  rcases ctx.presets.choose key with ⟨_ | ⟨used, spec⟩, notice⟩
  · simp
  · simp [shown.split]

mutual
theorem expansion_shows : (a : Arrangement) →
    (P (a.expandWith ctx text) ↔ P (a.own ctx) ∨ ∃ spec ∈ a.texts ctx, P (text spec))
  | .identity => by
    simp [Arrangement.own, Arrangement.expandWith, Arrangement.texts]
  | .deferred spec => by
    simp [Arrangement.own, Arrangement.expandWith, Arrangement.texts, shown.nothing]
  | .preset key => by
    simp only [Arrangement.own, Arrangement.expandWith]
    exact preset_shows shown text key
  | .removal none => by
    simp [Arrangement.own, Arrangement.expandWith, Arrangement.texts]
  | .removal (some pattern) => by
    simp [Arrangement.own, Arrangement.expandWith, Arrangement.texts]
  | .composite none children => by
    simp only [Arrangement.own, Arrangement.expandWith, Arrangement.texts]
    exact all_show children
  | .composite (some spec) children => by
    simp only [Arrangement.own, Arrangement.expandWith, Arrangement.texts, shown.split,
      shown.nothing, all_show children, List.mem_cons, exists_eq_or_imp, false_or]
    exact or_left_comm
  | .member m => by
    simp [Arrangement.own, Arrangement.expandWith, Arrangement.texts]

theorem all_show : (children : List Arrangement) →
    (P (expandAll ctx text children) ↔
      P (expandAll ctx (fun _ => .nothing) children) ∨
        ∃ spec ∈ textsOfAll ctx children, P (text spec))
  | [] => by simp [expandAll, textsOfAll]
  | a :: rest => by
    have first := expansion_shows a
    simp only [Arrangement.own] at first
    simp only [expandAll, textsOfAll, shown.split, first, all_show rest, List.mem_append,
      or_and_right, exists_or]
    exact or_or_or_comm
end

end

section

variable {ctx} {P : Expansion → Prop}

theorem text_shows (levels : Nat) (spec : String) :
    P (expandText ctx (levels + 1) spec) ↔
      (∃ b, Spec.parseNested ctx.factories spec = .ok b ∧
        P (b.expandWith ctx (expandText ctx levels))) ∨
      ∃ e, Spec.parseNested ctx.factories spec = .error e ∧ P (.notice (.ignoredText spec e)) := by
  rw [expandText]
  cases Spec.parseNested ctx.factories spec <;> simp

variable (shown : Shown P)
include shown

/-- With so many levels allowed, what shows belongs to an arrangement within them, or it is the
    report on a text: one that lies too deep, or one within them that cannot be read. -/
theorem expansion_to_levels (levels : Nat) (a : Arrangement) :
    P (a.expandWith ctx (expandText ctx levels)) ↔
      (∃ path c, Nests ctx a path c ∧ path.length ≤ levels ∧ P (c.own ctx)) ∨
      (∃ path c, Nests ctx a path c ∧ path.length = levels ∧
        ∃ spec ∈ c.texts ctx, P (.notice (.tooNested spec))) ∨
      ∃ path c, Nests ctx a path c ∧ path.length < levels ∧
        ∃ spec ∈ c.texts ctx, ∃ e, Spec.parseNested ctx.factories spec = .error e ∧
          P (.notice (.ignoredText spec e)) := by
  induction levels generalizing a with
  | zero =>
    rw [expansion_shows shown, nested_iff (· ≤ 0), nested_iff (· = 0), nested_iff (· < 0)]
    simp [expandText]
  | succ levels ih =>
    rw [expansion_shows shown, nested_iff (· ≤ levels + 1), nested_iff (· = levels + 1),
      nested_iff (· < levels + 1)]
    -- one level further in counts one less, and only then can a text lie too deep
    simp only [text_shows, ih, Nat.add_le_add_iff_right, Nat.add_right_cancel_iff,
      Nat.add_lt_add_iff_right, Nat.zero_le, Nat.zero_lt_succ, (Nat.succ_ne_zero levels).symm,
      true_and, false_and, false_or, and_or_left, exists_or]
    exact iff_of_eq (by ac_rfl)

end

theorem own_preset_notices (key : Option String) (n : Notice)
    (told : n ∈ (presetExpansion ctx (fun _ => .nothing) key).notices) :
    ∃ p, n = .preset p := by
  unfold presetExpansion at told
  generalize ctx.presets.choose key = choice at told
  rcases choice with ⟨_ | ⟨used, spec⟩, _ | p⟩
  · simp [Expansion.andThen, Expansion.nothing] at told
  · exact ⟨p, by simpa [Expansion.andThen, Expansion.nothing] using told⟩
  · simp [Expansion.andThen, Expansion.nothing] at told
  · exact ⟨p, by simpa [Expansion.andThen, Expansion.nothing] using told⟩

mutual
theorem own_notices (n : Notice) : (a : Arrangement) → n ∈ (a.own ctx).notices → ∃ p, n = .preset p
  | .identity, told => by simp [Arrangement.own, Arrangement.expandWith, Expansion.nothing] at told
  | .deferred spec, told => by
    simp [Arrangement.own, Arrangement.expandWith, Expansion.nothing] at told
  | .preset key, told => by
    simp only [Arrangement.own, Arrangement.expandWith] at told
    exact own_preset_notices ctx key n told
  | .removal none, told => by
    simp [Arrangement.own, Arrangement.expandWith, Expansion.edit] at told
  | .removal (some pattern), told => by
    simp [Arrangement.own, Arrangement.expandWith, Expansion.edit] at told
  | .composite none children, told => by
    simp only [Arrangement.own, Arrangement.expandWith] at told
    exact own_notices_of_all n children told
  | .composite (some spec) children, told => by
    simp only [Arrangement.own, Arrangement.expandWith, Expansion.andThen, Expansion.nothing,
      List.nil_append] at told
    exact own_notices_of_all n children told
  | .member m, told => by simp [Arrangement.own, Arrangement.expandWith, Expansion.edit] at told

theorem own_notices_of_all (n : Notice) : (children : List Arrangement) →
    n ∈ (expandAll ctx (fun _ => .nothing) children).notices → ∃ p, n = .preset p
  | [], told => by simp [expandAll, Expansion.nothing] at told
  | a :: rest, told => by
    simp only [expandAll, Expansion.andThen, List.mem_append] at told
    rcases told with first | later
    · exact own_notices n a (by simpa only [Arrangement.own] using first)
    · exact own_notices_of_all n rest later
end

theorem mem_edits_iff (a : Arrangement) (e : Edit) :
    e ∈ (a.expand ctx).edits ↔
      ∃ path c, Nests ctx a path c ∧ path.length ≤ maxNesting ∧ e ∈ (c.own ctx).edits := by
  have all := @expansion_to_levels ctx _ (shown_edit e) maxNesting a
  simpa [Expansion.notice, Arrangement.expand] using all

theorem too_nested_iff (a : Arrangement) (spec : String) :
    .tooNested spec ∈ (a.expand ctx).notices ↔
      ∃ path c, Nests ctx a path c ∧ path.length = maxNesting ∧ spec ∈ c.texts ctx := by
  have all := @expansion_to_levels ctx _ (shown_notice (.tooNested spec)) maxNesting a
  have own (c : Arrangement) : Notice.tooNested spec ∉ (c.own ctx).notices := by
    intro told
    obtain ⟨p, ⟨⟩⟩ := own_notices ctx _ c told
  simpa [Expansion.notice, Arrangement.expand, own] using all

end LogLayout
