import LogLayout.Layout.Builder
import LogLayout.Proofs.Arrangement.Scanning
import LogLayout.Proofs.Outcome

/- Two texts joined by a semicolon. As long as the first does not end in the middle of an escape,
   its segments are read as they are alone, then those of the second; and what stands in the two
   texts is carried out one after the other. How many levels of nesting a text may have by its
   length makes no difference, since no text is nested deeper than it is long. -/
namespace LogLayout

namespace Spec

def backslashesAtEnd (cs : List Char) : Nat := (cs.reverse.takeWhile (· == '\\')).length

/-- The last backslash of the text, if it ends in one, belongs to an escape that is complete. -/
def Closed (spec : String) : Prop := backslashesAtEnd spec.toList % 2 = 0

instance (spec : String) : Decidable (Closed spec) := inferInstanceAs (Decidable (_ = _))

theorem backslashes_behind (front rest : List Char) :
    backslashesAtEnd (front ++ rest) =
      if backslashesAtEnd rest = rest.length then rest.length + backslashesAtEnd front
      else backslashesAtEnd rest := by
  unfold backslashesAtEnd
  rw [List.reverse_append, List.takeWhile_append, List.length_reverse]
  split <;> simp

theorem backslashes_behind_pair (c : Char) (rest : List Char) :
    backslashesAtEnd ('\\' :: c :: rest) % 2 = backslashesAtEnd rest % 2 := by
  have pair : backslashesAtEnd ['\\', c] % 2 = 0 := by
    by_cases backslash : c = '\\' <;> simp [backslashesAtEnd, backslash]
  have split_off := backslashes_behind ['\\', c] rest
  rw [List.cons_append, List.cons_append, List.nil_append] at split_off
  rw [split_off]
  split
  · omega
  · rfl

theorem backslashes_behind_plain (c : Char) (rest : List Char) (plain : c ≠ '\\') :
    backslashesAtEnd (c :: rest) = backslashesAtEnd rest := by
  have none : backslashesAtEnd [c] = 0 := by simp [backslashesAtEnd, plain]
  have split_off := backslashes_behind [c] rest
  rw [List.cons_append, List.nil_append] at split_off
  rw [split_off]
  split
  · omega
  · rfl

theorem extend_first_behind (cs : List Char) (front back : List (List Char)) (present : front ≠ []) :
    extendFirst cs (front ++ back) = extendFirst cs front ++ back := by
  cases front with
  | nil => exact absurd rfl present
  | cons piece rest => rfl

theorem plain_of_no_escape {c : Char} {cs : List Char} (lone : c = '\\' → cs = [] → False)
    (pair : ∀ d ds, c = '\\' → cs = d :: ds → False) : c ≠ '\\' := by
  intro backslash
  cases cs with
  | nil => exact lone backslash rfl
  | cons d ds => exact pair d ds backslash rfl

theorem pieces_at_seam (cs rest : List Char) (closed : backslashesAtEnd cs % 2 = 0) :
    pieces (cs ++ ';' :: rest) = pieces cs ++ pieces rest := by
  have seam : pieces (';' :: rest) = [] :: pieces rest := by
    rw [pieces_plain ';' rest (by decide), if_pos rfl]
  fun_induction pieces cs with
  | case1 => exact seam
  | case2 => exact absurd closed (by decide)
  | case3 c cs ih =>
    rw [backslashes_behind_pair] at closed
    rw [List.cons_append, List.cons_append, pieces, ih closed,
      extend_first_behind _ _ _ (pieces_nonempty cs)]
  | case4 cs _ _ ih =>
    rw [backslashes_behind_plain ';' cs (by decide)] at closed
    rw [List.cons_append, pieces_plain ';' _ (by decide), if_pos rfl, ih closed]
    rfl
  | case5 c cs lone pair other ih =>
    have plain := plain_of_no_escape lone pair
    rw [backslashes_behind_plain c cs plain] at closed
    rw [List.cons_append, pieces_plain c _ plain, if_neg other, ih closed,
      extend_first_behind _ _ _ (pieces_nonempty cs)]

theorem segments_at_seam (cs rest : List Char) (closed : backslashesAtEnd cs % 2 = 0) :
    segments (cs ++ ';' :: rest) = segments cs ++ segments rest := by
  rw [segments, pieces_at_seam cs rest closed, List.map_append, List.filter_append]
  rfl

theorem extend_first_within {cs piece : List Char} {texts : List (List Char)} {bound : Nat}
    (member : piece ∈ extendFirst cs texts) (short : ∀ p ∈ texts, p.length ≤ bound) :
    piece.length ≤ cs.length + bound := by
  cases texts with
  | nil =>
    obtain rfl : piece = cs := List.mem_singleton.mp member
    omega
  | cons first others =>
    rcases List.mem_cons.mp member with rfl | later
    · have fits := short first (List.mem_cons_self ..)
      rw [List.length_append]
      omega
    · have fits := short piece (List.mem_cons_of_mem _ later)
      omega

theorem piece_within (cs : List Char) : ∀ piece ∈ pieces cs, piece.length ≤ cs.length := by
  fun_induction pieces cs with
  | case1 => simp
  | case2 => simp
  | case3 c cs ih =>
    intro piece member
    have fits := extend_first_within member ih
    simp only [List.length_cons, List.length_nil] at fits ⊢
    omega
  | case4 cs _ _ ih =>
    intro piece member
    rcases List.mem_cons.mp member with rfl | later
    · simp
    · have fits := ih piece later
      simp only [List.length_cons]
      omega
  | case5 c cs _ _ _ ih =>
    intro piece member
    have fits := extend_first_within member ih
    simp only [List.length_cons, List.length_nil] at fits ⊢
    omega

theorem segment_within {cs segment : List Char} (member : segment ∈ segments cs) :
    segment.length ≤ cs.length := by
  obtain ⟨trimmed, _⟩ := List.mem_filter.mp member
  obtain ⟨piece, held, rfl⟩ := List.mem_map.mp trimmed
  exact Nat.le_trans (Text.trim_not_longer piece) (piece_within cs piece held)

theorem find_rest_shorter {kind : Char → Bool} {cs : List Char} {f : Found}
    (found : findBare kind cs = some f) : f.rest.length < cs.length := by
  fun_induction findBare kind cs generalizing f with
  | case1 => cases found
  | case2 => cases found
  | case3 c cs ih =>
    obtain ⟨g, behind, rfl⟩ := Option.map_eq_some_iff.mp found
    have shorter := ih behind
    simp only [List.length_cons]
    omega
  | case4 c cs =>
    obtain rfl := Option.some.inj found
    simp
  | case5 c cs _ _ _ ih =>
    obtain ⟨g, behind, rfl⟩ := Option.map_eq_some_iff.mp found
    have shorter := ih behind
    simp only [List.length_cons]
    omega

section

variable (factories : Factories) {nested other : List Char → Except SpecError Arrangement}

/-- Of the texts inside, only shorter ones matter to a segment. -/
theorem segment_congr (segment : List Char)
    (same : ∀ cs, cs.length < segment.length → nested cs = other cs) :
    parseSegment factories nested segment = parseSegment factories other segment := by
  unfold parseSegment
  cases leadingWord? segment with
  | some word => rfl
  | none =>
    cases found : findBare isOperator segment with
    | none => rfl
    | some f =>
      obtain ⟨head, operator, rest⟩ := f
      have inner : nested (innerText rest) = other (innerText rest) := by
        apply same
        exact Nat.lt_of_le_of_lt (inner_text_not_longer rest) (find_rest_shorter found)
      have assigned : assignment nested segment head rest = assignment other segment head rest := by
        unfold assignment
        rw [inner]
      simp only [assigned]

theorem shorthand_congr (segment : List Char)
    (same : ∀ cs, cs.length < segment.length → nested cs = other cs) :
    parseSegment factories nested (shorthand segment) =
      parseSegment factories other (shorthand segment) := by
  unfold shorthand
  split
  · rfl
  · rfl
  · rfl
  · rfl
  · exact segment_congr factories segment same

end

theorem levels_enough (factories : Factories) {levels more : Nat} {cs : List Char}
    (few : cs.length < levels) (many : cs.length < more) :
    parseInner factories levels cs = parseInner factories more cs := by
  induction levels generalizing more cs with
  | zero => exact absurd few (Nat.not_lt_zero _)
  | succ levels ih =>
    cases more with
    | zero => exact absurd many (Nat.not_lt_zero _)
    | succ more =>
      rw [parseInner, parseInner]
      congr 1
      apply map_m_congr
      intro segment member
      have within := segment_within member
      apply segment_congr
      -- A text inside is shorter by a character at least, so a level less is still enough for it.
      intro inner shorter
      exact ih (by omega) (by omega)

def parts (factories : Factories) (levels : Nat) (cs : List Char) :
    Except SpecError (List Arrangement) :=
  (segments cs).mapM fun segment =>
    parseSegment factories (parseInner factories levels) (shorthand segment)

theorem parse_as_parts (factories : Factories) (spec : String) {levels : Nat}
    (enough : spec.toList.length ≤ levels) :
    parse factories spec = (parts factories levels spec.toList).map .ofList := by
  rw [parse, parts]
  congr 1
  apply map_m_congr
  intro segment member
  have within := segment_within member
  apply shorthand_congr
  intro inner shorter
  exact levels_enough factories (by omega) (by omega)

theorem parts_at_seam (factories : Factories) (levels : Nat) (cs rest : List Char)
    (closed : backslashesAtEnd cs % 2 = 0) :
    parts factories levels (cs ++ ';' :: rest) =
      (do let front ← parts factories levels cs
          let back ← parts factories levels rest
          pure (front ++ back)) := by
  rw [parts, segments_at_seam cs rest closed, List.mapM_append]
  rfl

end Spec

theorem expand_all_append (ctx : Context) (text : String → Expansion) (front back : List Arrangement) :
    expandAll ctx text (front ++ back) =
      (expandAll ctx text front).andThen (expandAll ctx text back) := by
  induction front with
  | nil => rfl
  | cons a rest ih => rw [List.cons_append, expandAll, expandAll, ih, Expansion.then_assoc]

theorem expand_of_list (ctx : Context) (as : List Arrangement) :
    (Arrangement.ofList as).expand ctx = expandAll ctx (expandText ctx maxNesting) as := by
  rcases as with _ | ⟨one, _ | ⟨two, others⟩⟩
  · rfl
  · rw [expandAll, expandAll, Expansion.then_nothing]
    rfl
  · rfl

theorem expand_in_sequence (ctx : Context) (front back : List Arrangement) :
    (Arrangement.ofList (front ++ back)).expand ctx =
      ((Arrangement.ofList front).expand ctx).andThen ((Arrangement.ofList back).expand ctx) := by
  simp only [expand_of_list, expand_all_append]

def joinedSpec (s t : String) : String := s ++ ";" ++ t

theorem parse_of_joined_spec (factories : Factories) (s t : String) (closed : Spec.Closed s) :
    (∃ e, Spec.parse factories s = .error e ∧ Spec.parse factories (joinedSpec s t) = .error e) ∨
    (∃ a e, Spec.parse factories s = .ok a ∧ Spec.parse factories t = .error e ∧
      Spec.parse factories (joinedSpec s t) = .error e) ∨
    ∃ a b c, Spec.parse factories s = .ok a ∧ Spec.parse factories t = .ok b ∧
      Spec.parse factories (joinedSpec s t) = .ok c ∧
      ∀ ctx, c.expand ctx = (a.expand ctx).andThen (b.expand ctx) := by
  have text : (joinedSpec s t).toList = s.toList ++ ';' :: t.toList := by
    simp [joinedSpec]
  have long : s.toList.length ≤ (joinedSpec s t).toList.length ∧
      t.toList.length ≤ (joinedSpec s t).toList.length := by
    rw [text, List.length_append, List.length_cons]
    omega
  rw [Spec.parse_as_parts factories s long.1, Spec.parse_as_parts factories t long.2,
    Spec.parse_as_parts factories (joinedSpec s t) (Nat.le_refl _)]
  generalize (joinedSpec s t).toList.length = levels
  rw [text, Spec.parts_at_seam factories levels _ _ closed]
  cases Spec.parts factories levels s.toList with
  | error e => exact Or.inl ⟨e, rfl, rfl⟩
  | ok front =>
    cases Spec.parts factories levels t.toList with
    | error e => exact Or.inr (Or.inl ⟨_, e, rfl, rfl, rfl⟩)
    | ok back =>
      refine Or.inr (Or.inr ⟨_, _, _, rfl, rfl, rfl, ?_⟩)
      intro ctx
      exact expand_in_sequence ctx front back

section

variable (b : Builder) (shared : PresetTable) (s t : String) (before after : List Piece)

def apartIn : Builder := { b with pieces := before ++ .spec s :: .spec t :: after }

def joinedIn : Builder := { b with pieces := before ++ .spec (joinedSpec s t) :: after }

theorem assemble_joined {x y z : Arrangement} (front back : List Arrangement)
    (same : ∀ ctx, z.expand ctx = (x.expand ctx).andThen (y.expand ctx)) :
    (apartIn b s t before after).assemble shared (front ++ x :: y :: back) =
      (joinedIn b s t before after).assemble shared (front ++ z :: back) := by
  have inside (ctx : Context) : expandAll ctx (expandText ctx maxNesting) (x :: y :: back) =
      expandAll ctx (expandText ctx maxNesting) (z :: back) := by
    have one := same ctx
    simp only [Arrangement.expand] at one
    simp only [expandAll, one, Expansion.then_assoc]
  have whole (ctx : Context) : (Arrangement.composite none (front ++ x :: y :: back)).expand ctx =
      (Arrangement.composite none (front ++ z :: back)).expand ctx := by
    simp only [Arrangement.expand, Arrangement.expandWith, expand_all_append, inside]
  have some_apart : (apartIn b s t before after).pieces.isEmpty = false := by simp [apartIn]
  have some_joined : (joinedIn b s t before after).pieces.isEmpty = false := by simp [joinedIn]
  have context : (apartIn b s t before after).context shared =
      (joinedIn b s t before after).context shared := rfl
  unfold Builder.assemble
  simp only [some_apart, some_joined, Bool.false_eq_true, if_false, context, whole]
  rfl

section

variable {b s t} {x y z : Arrangement} (first : Spec.parse b.factories s = .ok x)
  (second : Spec.parse b.factories t = .ok y)
  (joined : Spec.parse b.factories (joinedSpec s t) = .ok z)
  (same : ∀ ctx, z.expand ctx = (x.expand ctx).andThen (y.expand ctx))
include first second joined same

theorem lenient_build_joined :
    (apartIn b s t before after).build shared = (joinedIn b s t before after).build shared := by
  let read := Piece.read b.factories
  have apart : (apartIn b s t before after).readPieces =
      before.map read ++ .ok x :: .ok y :: after.map read := by
    rw [← first, ← second]
    simp [Builder.readPieces, apartIn, read, Piece.read]
  have as_one : (joinedIn b s t before after).readPieces =
      before.map read ++ .ok z :: after.map read := by
    rw [← joined]
    simp [Builder.readPieces, joinedIn, read, Piece.read]
  unfold Builder.build
  rw [apart, as_one, List.filterMap_append, List.filterMap_append, List.filterMap_append,
    List.filterMap_append]
  exact congrArg (Option.map _) (assemble_joined b shared s t before after _ _ same)

theorem strict_build_joined : (apartIn b s t before after).buildStrict shared =
    (joinedIn b s t before after).buildStrict shared := by
  let read := Piece.read b.factories
  have first_read : read (.spec s) = .ok x := first
  have second_read : read (.spec t) = .ok y := second
  have joined_read : read (.spec (joinedSpec s t)) = .ok z := joined
  change ((before ++ .spec s :: .spec t :: after).mapM read).map _ =
    ((before ++ .spec (joinedSpec s t) :: after).mapM read).map _
  rw [List.mapM_append, List.mapM_append]
  simp only [List.mapM_cons, first_read, second_read, joined_read]
  cases before.mapM read with
  | error e => rfl
  | ok front =>
    cases after.mapM read with
    | error e => rfl
    | ok back => exact congrArg Except.ok (assemble_joined b shared s t before after front back same)

end

theorem build_joined (closed : Spec.Closed s) {x y : Arrangement}
    (first : Spec.parse b.factories s = .ok x) (second : Spec.parse b.factories t = .ok y) :
    (apartIn b s t before after).build shared = (joinedIn b s t before after).build shared ∧
      (apartIn b s t before after).buildStrict shared =
        (joinedIn b s t before after).buildStrict shared := by
  rcases parse_of_joined_spec b.factories s t closed with
    ⟨e, refused, _⟩ | ⟨_, e, _, refused, _⟩ | ⟨x', y', z, first', second', joined, same⟩
  · rw [first] at refused
    cases refused
  · rw [second] at refused
    cases refused
  · obtain rfl := Except.ok.inj (first.symm.trans first')
    obtain rfl := Except.ok.inj (second.symm.trans second')
    exact ⟨lenient_build_joined shared before after first second joined same,
      strict_build_joined shared before after first second joined same⟩

end

/-- A text joined from two, of which the first is closed, is read if and only if both are, and is
    refused as the first of them that is refused. What comes of it is what the two do one after the
    other, with their reports; and a builder that is given it builds what it builds from the two. -/
theorem joined_text_runs_in_sequence (ctx : Context) (s t : String) (closed : Spec.Closed s) :
    ((∃ c, Spec.parse ctx.factories (joinedSpec s t) = .ok c) ↔
      (∃ a, Spec.parse ctx.factories s = .ok a) ∧ ∃ b, Spec.parse ctx.factories t = .ok b) ∧
    (∀ e, Spec.parse ctx.factories s = .error e →
      Spec.parse ctx.factories (joinedSpec s t) = .error e) ∧
    (∀ a e, Spec.parse ctx.factories s = .ok a → Spec.parse ctx.factories t = .error e →
      Spec.parse ctx.factories (joinedSpec s t) = .error e) ∧
    (∀ a b c, Spec.parse ctx.factories s = .ok a → Spec.parse ctx.factories t = .ok b →
      Spec.parse ctx.factories (joinedSpec s t) = .ok c →
        (∀ held, c.apply ctx held = b.apply ctx (a.apply ctx held)) ∧
        (c.expand ctx).notices = (a.expand ctx).notices ++ (b.expand ctx).notices) ∧
    ∀ (b : Builder) (shared : PresetTable) (before after : List Piece),
      (∃ x, Spec.parse b.factories s = .ok x) → (∃ y, Spec.parse b.factories t = .ok y) →
        (apartIn b s t before after).build shared = (joinedIn b s t before after).build shared ∧
        (apartIn b s t before after).buildStrict shared =
          (joinedIn b s t before after).buildStrict shared := by
  have builders (b : Builder) (shared : PresetTable) (before after : List Piece)
      (first : ∃ x, Spec.parse b.factories s = .ok x)
      (second : ∃ y, Spec.parse b.factories t = .ok y) :
      (apartIn b s t before after).build shared = (joinedIn b s t before after).build shared ∧
        (apartIn b s t before after).buildStrict shared =
          (joinedIn b s t before after).buildStrict shared := by
    obtain ⟨x, first⟩ := first
    obtain ⟨y, second⟩ := second
    exact build_joined b shared s t before after closed first second
  rcases parse_of_joined_spec ctx.factories s t closed with
    ⟨e, first, joined⟩ | ⟨a, e, first, second, joined⟩ | ⟨a, b, c, first, second, joined, same⟩
  · refine ⟨?_, ?_, ?_, ?_, builders⟩ <;> simp [first, joined]
  · refine ⟨?_, ?_, ?_, ?_, builders⟩ <;> simp [first, second, joined]
  · refine ⟨?_, ?_, ?_, ?_, builders⟩
    · simp [first, second, joined]
    · simp [first]
    · simp [second]
    · intro a' b' c' first' second' joined'
      obtain rfl := Except.ok.inj (first.symm.trans first')
      obtain rfl := Except.ok.inj (second.symm.trans second')
      obtain rfl := Except.ok.inj (joined.symm.trans joined')
      constructor
      · intro held
        simp only [Arrangement.apply, same, Expansion.run_then]
      · rw [same]
        rfl

def startContext : Context := (Builder.start ⟨[], "app", .utc⟩).context .standard

/-- The first text ends in an escaped backslash; the second removes what the first has added. -/
theorem escaped_backslash_before_seam : ∃ a b c,
    Spec.parse [] "nxlog;a=\\\\" = .ok a ∧ Spec.parse [] "REMOVE!^a" = .ok b ∧
      Spec.parse [] "nxlog;a=\\\\;REMOVE!^a" = .ok c ∧
      ∀ held, c.apply startContext held = b.apply startContext (a.apply startContext held) := by
  have closed : Spec.Closed "nxlog;a=\\\\" := by decide
  obtain ⟨read, _, _, applied, _⟩ := joined_text_runs_in_sequence startContext "nxlog;a=\\\\"
    "REMOVE!^a" closed
  obtain ⟨c, joined⟩ := read.mpr ⟨⟨_, rfl⟩, ⟨_, rfl⟩⟩
  exact ⟨_, _, c, rfl, rfl, joined, (applied _ _ c rfl rfl joined).1⟩

/-- Behind a lone backslash the semicolon is escaped, and the text is a nested one. -/
example : (Spec.parse [] "a=\\").isOk = false ∧ (Spec.parse [] "a=\\;b=c").isOk = true := by
  decide +kernel

end LogLayout
