import LogLayout.Exception
import LogLayout.Proofs.Normalize.Faithful
import LogLayout.Proofs.Normalize.Objects

/- Exceptions in normal form. An exception is a tree of texts and line numbers, so the depth limit
   admits it by the height of the tree and then keeps all of it. Everything is read back from the
   object that it becomes; what the object leaves out was empty. -/
namespace LogLayout

namespace Json

mutual
def height : Json → Nat
  | .object entries => heightEntries entries
  | .array items => heightItems items
  | _ => 0

def heightEntries : List (String × Json) → Nat
  | [] => 0
  | (_, value) :: rest => max (height value + 1) (heightEntries rest)

def heightItems : List Json → Nat
  | [] => 0
  | value :: rest => max (height value + 1) (heightItems rest)
end

theorem height_entries_lt_iff {entries : List (String × Json)} {allowed : Nat} :
    heightEntries entries < allowed + 1 ↔ ∀ entry ∈ entries, entry.2.height < allowed := by
  induction entries with
  | nil => simp [heightEntries]
  | cons entry rest ih =>
    rw [List.forall_mem_cons, ← ih, heightEntries]
    omega

theorem height_items_lt_iff {items : List Json} {allowed : Nat} :
    heightItems items < allowed + 1 ↔ ∀ item ∈ items, item.height < allowed := by
  induction items with
  | nil => simp [heightItems]
  | cons item rest ih =>
    rw [List.forall_mem_cons, ← ih, heightItems]
    omega

theorem height_entries_append (front back : List (String × Json)) :
    heightEntries (front ++ back) = max (heightEntries front) (heightEntries back) := by
  induction front with
  | nil => simp [heightEntries]
  | cons entry rest ih => rw [List.cons_append, heightEntries, heightEntries, ih, Nat.max_assoc]

theorem size_of_entry {key : String} {value : Json} {entries : List (String × Json)}
    (found : Keyed.get? key entries = some value) : sizeOf value < sizeOf entries := by
  induction entries with
  | nil => cases found
  | cons entry rest ih =>
    obtain ⟨name, first⟩ := entry
    unfold Keyed.get? at found
    split at found
    · cases found
      simp only [List.cons.sizeOf_spec, Prod.mk.sizeOf_spec]
      omega
    · have later := ih found
      simp only [List.cons.sizeOf_spec]
      omega

def text? : Json → Option String
  | .text s => some s
  | _ => none

def int? : Json → Option Int
  | .int n => some n
  | _ => none

end Json

namespace Datum

theorem tree_entries_append {front back : List (String × Datum)} {before after : List (String × Json)}
    (first : treeEntries? (asMapsEntries front) = some before)
    (second : treeEntries? (asMapsEntries back) = some after) :
    treeEntries? (asMapsEntries (front ++ back)) = some (before ++ after) := by
  rw [as_maps_entries] at first second ⊢
  rw [List.map_append]
  generalize front.map (fun entry => (entry.1, entry.2.asMaps)) = front at *
  induction front generalizing before with
  | nil =>
    cases first
    exact second
  | cons entry rest ih =>
    obtain ⟨tree, others, here, behind, rfl⟩ := tree_entries_cons first
    rw [List.cons_append, treeEntries?, here, ih behind]
    rfl

theorem tree_of_object (kind form : String) {fields : List (String × Datum)}
    {trees : List (String × Json)} (told : treeEntries? (asMapsEntries fields) = some trees)
    (distinct : (Keyed.keys trees).Nodup) :
    (object kind form fields).asMaps.tree? = some (.object trees) := by
  rw [tree_entries_keys _ trees told] at distinct
  rw [asMaps, tree?, if_pos distinct, told]
  rfl

end Datum

namespace Normalizer

open Datum

section

variable {below : Datum → Except NormalizeError Json} {failure : NormalizeError} {levels : Nat}

theorem entries_by_height (start trees : List (String × Json)) (entries : List (String × Datum))
    (each : ∀ part ∈ entries.map Prod.snd, ∀ tree, part.tree? = some tree →
      below part = if tree.height < levels then .ok tree else .error failure)
    (told : treeEntries? entries = some trees) : entriesWith below start entries =
      if ∀ entry ∈ trees, entry.2.height < levels then .ok (Keyed.insertAll start trees)
      else .error failure := by
  unfold entriesWith
  induction entries generalizing start trees with
  | nil =>
    cases told
    rfl
  | cons entry rest ih =>
    obtain ⟨tree, others, here, behind, rfl⟩ := tree_entries_cons told
    obtain ⟨first, later⟩ := List.forall_mem_cons.mp each
    rw [List.foldlM_cons, first tree here]
    simp only [List.forall_mem_cons]
    by_cases fits : tree.height < levels
    · simp only [fits, if_true, true_and]
      exact ih _ others later behind
    · simp only [fits, if_false, false_and]
      rfl

theorem items_by_height (trees : List Json) (items : List Datum)
    (each : ∀ part ∈ items, ∀ tree, part.tree? = some tree →
      below part = if tree.height < levels then .ok tree else .error failure)
    (told : treeItems? items = some trees) : items.mapM below =
      if ∀ tree ∈ trees, tree.height < levels then .ok trees else .error failure := by
  induction items generalizing trees with
  | nil =>
    cases told
    rfl
  | cons item rest ih =>
    obtain ⟨tree, others, here, behind, rfl⟩ := tree_items_cons told
    obtain ⟨first, later⟩ := List.forall_mem_cons.mp each
    rw [List.mapM_cons, first tree here, ih others later behind]
    simp only [List.forall_mem_cons]
    by_cases fits : tree.height < levels
    · simp only [fits, if_true, true_and]
      split <;> rfl
    · simp only [fits, if_false, false_and]
      rfl

end

/-- A plain tree takes as many levels as it is high: with fewer of them it is refused. -/
theorem levels_by_height (n : Normalizer) (allowed : Nat) (d : Datum) (tree : Json)
    (told : d.tree? = some tree) : n.levels allowed d =
      if tree.height < allowed then .ok tree else .error (.tooDeep n.maxDepth) := by
  induction allowed generalizing d tree with
  | zero => rfl
  | succ allowed ih =>
    cases d with
    | seq items =>
      obtain ⟨trees, inner, rfl⟩ := Option.map_eq_some_iff.mp told
      rw [levels, level, items_by_height trees items (fun part _ => ih part) inner, Json.height]
      simp only [Json.height_items_lt_iff]
      split <;> rfl
    | map entries =>
      unfold tree? at told
      split at told
      · rename_i distinct
        obtain ⟨trees, inner, rfl⟩ := Option.map_eq_some_iff.mp told
        have keys := tree_entries_keys entries trees inner
        have kept : Keyed.insertAll [] trees = trees := Keyed.of_list_distinct trees (keys ▸ distinct)
        rw [levels, level, entries_by_height [] trees entries (fun part _ => ih part) inner,
          Json.height, kept]
        simp only [Json.height_entries_lt_iff]
        split <;> rfl
      · cases told
    | null | text | bool | int | uint =>
      cases told
      rfl
    | moment | span | char | chars | byte | bytes | float | symbol | uuid | uri | stack | object
    | enclosing | shown | unshowable => cases told

def plain (limit : Nat) : Normalizer := { maxDepth := limit }

end Normalizer

namespace Frame

def json (f : Frame) : Json :=
  .object [("filename", .text f.file), ("lineno", .int f.line), ("function", .text f.function)]

def ofJson? : Json → Option Frame
  | .object entries => do
    let file ← (Keyed.get? "filename" entries).bind Json.text?
    let line ← (Keyed.get? "lineno" entries).bind Json.int?
    let function ← (Keyed.get? "function" entries).bind Json.text?
    pure ⟨file, line.toNat, function⟩
  | _ => none

theorem read_back (f : Frame) : ofJson? f.json = some f := by
  simp [ofJson?, json, Keyed.get?, Json.text?, Json.int?]

theorem height_json (f : Frame) : f.json.height = 1 := rfl

theorem datum_finite (f : Frame) : f.datum.finite = true := rfl

theorem tree_of_datum (f : Frame) : f.datum.asMaps.tree? = some f.json := by
  simp [datum, Datum.asMaps, Datum.asMapsEntries, Datum.tree?, Datum.treeEntries?, Keyed.keys, json]

end Frame

namespace Exception

/-- The levels that an exception takes below itself: one for its texts, three where it has frames,
    and one more than its cause. -/
def need : Exception → Nat
  | ⟨_, _, frames, none⟩ => if frames.isEmpty then 1 else 3
  | ⟨_, _, frames, some cause⟩ => max (if frames.isEmpty then 1 else 3) (1 + need cause)

def frameEntries (frames : List Frame) : List (String × Json) :=
  if frames.isEmpty then [] else [("frames", .array (frames.map Frame.json))]

def json : Exception → Json
  | ⟨kind, message, frames, none⟩ =>
    .object ([("type", .text kind), ("message", .text message)] ++ frameEntries frames)
  | ⟨kind, message, frames, some cause⟩ =>
    .object ([("type", .text kind), ("message", .text message)] ++ frameEntries frames ++
      [("cause", json cause)])

theorem json_object (e : Exception) : ∃ entries, e.json = .object entries := by
  match e with
  | ⟨_, _, _, none⟩ => exact ⟨_, rfl⟩
  | ⟨_, _, _, some _⟩ => exact ⟨_, rfl⟩

def framesOf? (entries : List (String × Json)) : Option (List Frame) :=
  match Keyed.get? "frames" entries with
  | none => some []
  | some (.array items) => items.mapM Frame.ofJson?
  | some _ => none

def ofJson? : Json → Option Exception
  | .object entries => do
    let kind ← (Keyed.get? "type" entries).bind Json.text?
    let message ← (Keyed.get? "message" entries).bind Json.text?
    let frames ← framesOf? entries
    match _ : Keyed.get? "cause" entries with
    | none => some ⟨kind, message, frames, none⟩
    | some inner => (ofJson? inner).map fun cause => ⟨kind, message, frames, some cause⟩
  | _ => none
termination_by value => sizeOf value
decreasing_by
  have smaller := Json.size_of_entry ‹Keyed.get? "cause" entries = some inner›
  simp only [Json.object.sizeOf_spec]
  omega

theorem frames_read_back (frames : List Frame) :
    (frames.map Frame.json).mapM Frame.ofJson? = some frames := by
  induction frames with
  | nil => rfl
  | cons f rest ih =>
    rw [List.map_cons, List.mapM_cons, Frame.read_back, ih]
    rfl

theorem read_object (kind message : String) (frames : List Frame) (behind : List (String × Json))
    (apart : Keyed.get? "frames" behind = none) :
    ofJson? (.object
        ([("type", .text kind), ("message", .text message)] ++ frameEntries frames ++ behind)) =
      match Keyed.get? "cause" behind with
      | none => some ⟨kind, message, frames, none⟩
      | some inner => (ofJson? inner).map fun cause => ⟨kind, message, frames, some cause⟩ := by
  generalize whole : [("type", Json.text kind), ("message", .text message)] ++
    frameEntries frames ++ behind = entries
  have named : (Keyed.get? "type" entries).bind Json.text? = some kind := by rw [← whole]; rfl
  have told : (Keyed.get? "message" entries).bind Json.text? = some message := by rw [← whole]; rfl
  have listed : framesOf? entries = some frames := by
    rw [← whole]
    cases frames with
    | nil => simp [framesOf?, frameEntries, Keyed.get?, apart]
    | cons f rest =>
      have read := frames_read_back (f :: rest)
      simpa [framesOf?, frameEntries, Keyed.get?] using read
  have cause : Keyed.get? "cause" entries = Keyed.get? "cause" behind := by
    rw [← whole]
    cases frames <;> simp [frameEntries, Keyed.get?]
  rw [ofJson?, named, told, listed, ← cause]
  simp only [Option.bind_eq_bind, Option.bind_some]
  split
  · rename_i absent
    rw [absent]
  · rename_i held
    rw [held]

theorem read_back (e : Exception) : ofJson? e.json = some e := by
  match e with
  | ⟨kind, message, frames, none⟩ =>
    have read := read_object kind message frames [] rfl
    rw [List.append_nil] at read
    exact read
  | ⟨kind, message, frames, some cause⟩ =>
    refine (read_object kind message frames [("cause", cause.json)] rfl).trans ?_
    simp [Keyed.get?, read_back cause]

theorem finite_fields (frames : List Frame) : Datum.finiteEntries (frameFields frames) = true := by
  have each : Datum.finiteItems (frames.map Frame.datum) = true := by
    rw [Datum.finite_items_iff]
    exact List.forall_mem_map.mpr fun f _ => f.datum_finite
  cases frames with
  | nil => rfl
  | cons f rest => exact Bool.and_eq_true_iff.mpr ⟨each, rfl⟩

theorem datum_finite (e : Exception) : e.datum.finite = true := by
  match e with
  | ⟨kind, message, frames, none⟩ => exact finite_fields frames
  | ⟨kind, message, frames, some cause⟩ =>
    have inner := datum_finite cause
    have listed := (Datum.finite_entries_iff _).mp (finite_fields frames)
    refine (Datum.finite_entries_iff _).mpr ?_
    simp only [List.map_append, List.forall_mem_append]
    exact ⟨⟨by simp [Datum.finite], listed⟩, by simpa using inner⟩

theorem tree_of_fields (frames : List Frame) :
    Datum.treeEntries? (Datum.asMapsEntries (frameFields frames)) = some (frameEntries frames) := by
  have items (fs : List Frame) :
      Datum.treeItems? (Datum.asMapsItems (fs.map Frame.datum)) = some (fs.map Frame.json) := by
    induction fs with
    | nil => rfl
    | cons f rest ih => simp [Datum.asMapsItems, Datum.treeItems?, Frame.tree_of_datum, ih]
  cases frames with
  | nil => rfl
  | cons f rest =>
    have listed : (Datum.seq ((f :: rest).map Frame.datum)).asMaps.tree? =
        some (.array ((f :: rest).map Frame.json)) := by
      rw [Datum.asMaps, Datum.tree?, items]
      rfl
    rw [frameFields, if_neg (by simp), Datum.asMapsEntries, Datum.treeEntries?, listed]
    rfl

theorem tree_of_datum (e : Exception) : e.datum.asMaps.tree? = some e.json := by
  match e with
  | ⟨kind, message, frames, none⟩ =>
    refine Datum.tree_of_object _ _ (Datum.tree_entries_append rfl (tree_of_fields frames)) ?_
    cases frames <;> simp [frameEntries, Keyed.keys]
  | ⟨kind, message, frames, some cause⟩ =>
    have inner : Datum.treeEntries? (Datum.asMapsEntries [("cause", cause.datum)]) =
        some [("cause", cause.json)] := by
      rw [Datum.asMapsEntries, Datum.treeEntries?, tree_of_datum cause]
      rfl
    refine Datum.tree_of_object _ _
      (Datum.tree_entries_append (Datum.tree_entries_append rfl (tree_of_fields frames)) inner) ?_
    cases frames <;> simp [frameEntries, Keyed.keys]

theorem height_of_frames (frames : List Frame) : Json.heightEntries (frameEntries frames) =
    if frames.isEmpty then 0 else 3 := by
  have items (fs : List Frame) : Json.heightItems (fs.map Frame.json) ≤ 2 := by
    induction fs with
    | nil => exact Nat.zero_le _
    | cons f rest ih =>
      rw [List.map_cons, Json.heightItems, Frame.height_json]
      omega
  cases frames with
  | nil => rfl
  | cons f rest =>
    have others := items rest
    simp only [frameEntries, List.isEmpty_cons, Bool.false_eq_true, if_false, List.map_cons,
      Json.heightEntries, Json.height, Json.heightItems, Frame.height_json]
    omega

theorem height_json (e : Exception) : e.json.height = e.need := by
  have texts (kind message : String) :
      Json.heightEntries [("type", .text kind), ("message", .text message)] = 1 := rfl
  match e with
  | ⟨kind, message, frames, none⟩ =>
    rw [json, need, Json.height, Json.height_entries_append, height_of_frames, texts]
    split <;> rfl
  | ⟨kind, message, frames, some cause⟩ =>
    have behind : Json.heightEntries [("cause", cause.json)] = 1 + cause.need := by
      rw [Json.heightEntries, height_json cause, Json.heightEntries]
      omega
    rw [json, need, Json.height, Json.height_entries_append, Json.height_entries_append,
      height_of_frames, texts, behind]
    split <;> rfl

theorem levels_of_exception (n : Normalizer) (untyped : n.typeKey = none)
    (unspelt : n.stringKey = none) (allowed : Nat) (e : Exception) : n.levels allowed e.datum =
      if e.need < allowed then .ok e.json else .error (.tooDeep n.maxDepth) := by
  rw [← n.levels_as_maps untyped unspelt allowed e.datum e.datum_finite,
    n.levels_by_height allowed _ e.json e.tree_of_datum, e.height_json]

theorem normalize_plain (limit : Nat) (e : Exception) :
    (Normalizer.plain limit).normalize e.datum =
      if e.need ≤ limit then .ok e.json else .error (.tooDeep limit) := by
  rw [Normalizer.normalize_structured _ rfl]
  refine (levels_of_exception _ rfl rfl _ e).trans ?_
  simp only [Normalizer.plain, Nat.lt_succ_iff]

theorem json_of_admitted {limit : Nat} {e : Exception} {value : Json}
    (done : (Normalizer.plain limit).normalize e.datum = .ok value) : value = e.json := by
  rw [normalize_plain] at done
  split at done
  · exact (Except.ok.inj done).symm
  · cases done

theorem admitted_iff (limit : Nat) (e : Exception) :
    (∃ value, (Normalizer.plain limit).normalize e.datum = .ok value) ↔ e.need ≤ limit := by
  rw [normalize_plain]
  split <;> simp_all

theorem refused_iff (limit : Nat) (e : Exception) (failure : NormalizeError) :
    (Normalizer.plain limit).normalize e.datum = .error failure ↔
      limit < e.need ∧ failure = .tooDeep limit := by
  rw [normalize_plain]
  split <;> simp_all [eq_comm]

theorem need_of_bare_chain (e : Exception) (bare : ∀ link ∈ e :: e.causes, link.frames = []) :
    e.need = e.causes.length + 1 := by
  obtain ⟨own, others⟩ := List.forall_mem_cons.mp bare
  match e with
  | ⟨kind, message, frames, none⟩ =>
    obtain rfl : frames = [] := own
    rfl
  | ⟨kind, message, frames, some cause⟩ =>
    obtain rfl : frames = [] := own
    have inner := need_of_bare_chain cause others
    rw [need, inner, causes, List.length_cons]
    simp only [List.isEmpty_nil, if_true]
    omega

/-- The depth limit admits an exception if and only if it needs no more levels than that; otherwise
    the limit is what the error names. On success the whole exception is read back from the object
    that it becomes, so no other exception becomes the same object, under any limit. Without frames
    the standard limit admits 63 causes. -/
theorem exceptions_kept_whole (limit : Nat) (e : Exception) :
    ((∃ value, (Normalizer.plain limit).normalize e.datum = .ok value) ↔ e.need ≤ limit) ∧
      (∀ failure, (Normalizer.plain limit).normalize e.datum = .error failure ↔
        limit < e.need ∧ failure = .tooDeep limit) ∧
      (∀ value, (Normalizer.plain limit).normalize e.datum = .ok value →
        (∃ entries, value = .object entries) ∧ ofJson? value = some e ∧
          ∀ other otherLimit,
            (Normalizer.plain otherLimit).normalize other.datum = .ok value → other = e) ∧
      ((∀ link ∈ e :: e.causes, link.frames = []) →
        ((∃ value, ({} : Normalizer).normalize e.datum = .ok value) ↔ e.causes.length ≤ 63) ∧
          (({} : Normalizer).normalize e.datum = .error (.tooDeep 64) ↔ 64 ≤ e.causes.length)) := by
  refine ⟨admitted_iff limit e, refused_iff limit e, ?_, ?_⟩
  · intro value done
    obtain rfl := json_of_admitted done
    refine ⟨e.json_object, e.read_back, ?_⟩
    intro other otherLimit again
    have same := congrArg ofJson? (json_of_admitted again)
    rw [read_back, read_back] at same
    exact (Option.some.inj same).symm
  · intro bare
    have needed := need_of_bare_chain e bare
    refine ⟨(admitted_iff 64 e).trans ?_, (refused_iff 64 e _).trans ?_⟩
    · omega
    · simp only [and_true]
      omega

def failedRead : Exception :=
  ⟨"ValueError", "", [⟨"app.rs", 7, "main"⟩], some ⟨"IoError", "eof", [], none⟩⟩

/-- Frames need three levels, and the 64th cause is one too many. -/
theorem failed_read_kept :
    (∃ value, (Normalizer.plain 3).normalize failedRead.datum = .ok value ∧
        ofJson? value = some failedRead) ∧
      (Normalizer.plain 2).normalize failedRead.datum = .error (.tooDeep 2) ∧
      ({} : Normalizer).normalize (ofError "E" "" (List.replicate 64 "")).datum =
        .error (.tooDeep 64) := by
  refine ⟨?_, ?_, ?_⟩
  · obtain ⟨admits, _, kept, _⟩ := exceptions_kept_whole 3 failedRead
    obtain ⟨value, done⟩ := admits.mpr (by decide)
    exact ⟨value, done, (kept value done).2.1⟩
  · exact ((exceptions_kept_whole 2 failedRead).2.1 _).mpr ⟨by decide, rfl⟩
  · obtain ⟨_, _, _, chains⟩ := exceptions_kept_whole 64 (ofError "E" "" (List.replicate 64 ""))
    exact (chains (by decide)).2.mpr (by decide)

end Exception

end LogLayout
