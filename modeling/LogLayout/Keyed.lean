/- Mappings from text keys kept as lists. An ordinary mapping keeps the order in which its keys
   first came; a sorted one keeps its keys in ascending order. Replacing never moves a key. -/
namespace LogLayout.Keyed

variable {α : Type}

def keys (entries : List (String × α)) : List String := entries.map Prod.fst

def get? (key : String) : List (String × α) → Option α
  | [] => none
  | (k, v) :: rest => if k = key then some v else get? key rest

def insert (key : String) (value : α) : List (String × α) → List (String × α)
  | [] => [(key, value)]
  | (k, v) :: rest => if k = key then (k, value) :: rest else (k, v) :: insert key value rest

def insertAll (into : List (String × α)) (entries : List (String × α)) : List (String × α) :=
  entries.foldl (fun held entry => insert entry.1 entry.2 held) into

def ofList (entries : List (String × α)) : List (String × α) := insertAll [] entries

def last? (key : String) (entries : List (String × α)) : Option α := get? key entries.reverse

def erase (key : String) : List (String × α) → List (String × α)
  | [] => []
  | (k, v) :: rest => if k = key then rest else (k, v) :: erase key rest

/-- Texts in the order of their code points, a text before those that go on from it. -/
def precedes : List Char → List Char → Bool
  | _, [] => false
  | [], _ :: _ => true
  | a :: as, b :: bs => a.toNat < b.toNat || (a == b && precedes as bs)

def insertSorted (key : String) (value : α) : List (String × α) → List (String × α)
  | [] => [(key, value)]
  | (k, v) :: rest =>
    if k = key then (k, value) :: rest
    else if precedes key.toList k.toList then (key, value) :: (k, v) :: rest
    else (k, v) :: insertSorted key value rest

@[simp] theorem get_insert (key k : String) (value : α) (entries : List (String × α)) :
    get? k (insert key value entries) = if key = k then some value else get? k entries := by
  induction entries with
  | nil => simp [insert, get?]
  | cons entry rest ih =>
    obtain ⟨held, v⟩ := entry
    by_cases same : held = key
    · by_cases eq : key = k <;> simp_all [insert, get?]
    · by_cases eq : held = k <;> by_cases eq' : key = k <;> simp_all [insert, get?]

theorem keys_insert (key : String) (value : α) (entries : List (String × α)) :
    keys (insert key value entries) =
      if key ∈ keys entries then keys entries else keys entries ++ [key] := by
  induction entries with
  | nil => simp [insert, keys]
  | cons entry rest ih =>
    obtain ⟨held, v⟩ := entry
    by_cases same : held = key
    · simp [insert, keys, same]
    · have other : ¬key = held := fun h => same h.symm
      by_cases present : key ∈ keys rest <;> simp_all [insert, keys]

theorem get_append (key : String) (front back : List (String × α)) :
    get? key (front ++ back) = (get? key front).or (get? key back) := by
  induction front with
  | nil => simp [get?]
  | cons entry rest ih =>
    obtain ⟨held, v⟩ := entry
    by_cases same : held = key <;> simp [get?, same, ih]

theorem get_map (key : String) (f : α → β) (entries : List (String × α)) :
    get? key (entries.map fun entry => (entry.1, f entry.2)) = (get? key entries).map f := by
  induction entries with
  | nil => rfl
  | cons entry rest ih =>
    obtain ⟨held, v⟩ := entry
    by_cases same : held = key <;> simp [get?, same, ih]

theorem get_absent (key : String) (entries : List (String × α)) (absent : key ∉ keys entries) :
    get? key entries = none := by
  induction entries with
  | nil => rfl
  | cons entry rest ih =>
    obtain ⟨held, v⟩ := entry
    have other : held ≠ key := by
      rintro rfl
      exact absent (List.mem_cons_self ..)
    rw [get?, if_neg other]
    exact ih fun later => absent (List.mem_cons_of_mem _ later)

theorem mem_keys_iff (key : String) (entries : List (String × α)) :
    key ∈ keys entries ↔ ∃ value, get? key entries = some value := by
  induction entries with
  | nil => simp [keys, get?]
  | cons entry rest ih =>
    obtain ⟨held, v⟩ := entry
    by_cases same : held = key
    · simp [keys, get?, same]
    · have other : ¬key = held := fun eq => same eq.symm
      rw [get?, if_neg same, ← ih]
      simp [keys, other]

theorem keys_erase (key : String) (entries : List (String × α)) :
    keys (erase key entries) = (keys entries).erase key := by
  induction entries with
  | nil => rfl
  | cons entry rest ih =>
    obtain ⟨held, v⟩ := entry
    by_cases same : held = key <;> simp_all [erase, keys]

theorem get_erase (key k : String) (entries : List (String × α))
    (distinct : (keys entries).Nodup) :
    get? k (erase key entries) = if key = k then none else get? k entries := by
  induction entries with
  | nil => simp [erase, get?]
  | cons entry rest ih =>
    obtain ⟨held, v⟩ := entry
    obtain ⟨single, others⟩ := List.nodup_cons.mp distinct
    by_cases same : held = key
    · subst same
      have gone := get_absent held rest single
      by_cases eq : held = k
      · simp [erase, ← eq, gone]
      · simp [erase, get?, eq]
    · by_cases eq : held = k
      · subst eq
        simp [erase, get?, same, Ne.symm same]
      · simp [erase, get?, same, eq, ih others]

theorem get_filter (keep : String → Bool) (key : String) (entries : List (String × α)) :
    get? key (entries.filter fun entry => keep entry.1) =
      if keep key then get? key entries else none := by
  induction entries with
  | nil => simp [get?]
  | cons entry rest ih =>
    obtain ⟨held, v⟩ := entry
    by_cases same : held = key
    · by_cases kept : keep key = true <;> simp_all [get?]
    · by_cases kept : keep held = true <;> simp_all [get?]

theorem last_append (key : String) (front back : List (String × α)) :
    last? key (front ++ back) = (last? key back).or (last? key front) := by
  rw [last?, List.reverse_append, get_append]
  rfl

theorem last_filter (keep : String → Bool) (key : String) (entries : List (String × α)) :
    last? key (entries.filter fun entry => keep entry.1) =
      if keep key then last? key entries else none := by
  rw [last?, ← List.filter_reverse, get_filter]
  rfl

theorem keys_filter (keep : String → Bool) (entries : List (String × α)) :
    keys (entries.filter fun entry => keep entry.1) = (keys entries).filter keep :=
  List.filter_map.symm

/-- The last of several entries with a key is the one that stays. -/
theorem get_insert_all (key : String) (into entries : List (String × α)) :
    get? key (insertAll into entries) = (get? key entries.reverse).or (get? key into) := by
  unfold insertAll
  induction entries generalizing into with
  | nil => simp [get?]
  | cons entry rest ih =>
    obtain ⟨held, v⟩ := entry
    rw [List.foldl_cons, ih, get_insert, List.reverse_cons, get_append, Option.or_assoc]
    by_cases same : held = key <;> simp [get?, same]

/-- New keys come behind the old ones, each where it is met first. -/
theorem keys_insert_all (into entries : List (String × α)) :
    keys (insertAll into entries) =
      keys into ++ ((keys entries).removeAll (keys into)).eraseDups := by
  unfold insertAll
  induction entries generalizing into with
  | nil => simp [keys, List.removeAll]
  | cons entry rest ih =>
    rw [List.foldl_cons, ih, keys_insert]
    have names : keys (entry :: rest) = entry.1 :: keys rest := rfl
    rw [names]
    by_cases present : entry.1 ∈ keys into
    · simp [present, List.removeAll]
    · simp only [present, if_false, List.removeAll]
      rw [List.filter_cons_of_pos (by simpa using present), List.eraseDups_cons,
        List.filter_filter]
      have same (name : String) : (name == entry.1) = decide (name = entry.1) := by
        rw [Bool.eq_iff_iff]
        simp
      simp [Bool.and_comm, same]

theorem values_insert (kind : α → Prop) (key : String) (value : α) (entries : List (String × α))
    (held : ∀ entry ∈ entries, kind entry.2) (new : kind value) :
    ∀ entry ∈ insert key value entries, kind entry.2 := by
  induction entries with
  | nil => simpa [insert] using new
  | cons first rest ih =>
    obtain ⟨own, others⟩ := List.forall_mem_cons.mp held
    unfold insert
    split
    · exact List.forall_mem_cons.mpr ⟨new, others⟩
    · exact List.forall_mem_cons.mpr ⟨own, ih others⟩

theorem values_insert_all (kind : α → Prop) (into entries : List (String × α))
    (held : ∀ entry ∈ into, kind entry.2) (new : ∀ entry ∈ entries, kind entry.2) :
    ∀ entry ∈ insertAll into entries, kind entry.2 := by
  unfold insertAll
  induction entries generalizing into with
  | nil => exact held
  | cons first rest ih =>
    obtain ⟨own, others⟩ := List.forall_mem_cons.mp new
    exact ih _ (values_insert kind first.1 first.2 into held own) others

theorem keys_nodup_insert (key : String) (value : α) (entries : List (String × α))
    (distinct : (keys entries).Nodup) : (keys (insert key value entries)).Nodup := by
  rw [keys_insert]
  split
  · exact distinct
  · rename_i absent
    exact List.nodup_append.mpr ⟨distinct, by simp, by
      intro held member other single same
      obtain rfl : other = key := by simpa using single
      exact absent (same ▸ member)⟩

theorem keys_nodup_insert_all (into entries : List (String × α)) (distinct : (keys into).Nodup) :
    (keys (insertAll into entries)).Nodup := by
  unfold insertAll
  induction entries generalizing into with
  | nil => exact distinct
  | cons entry rest ih => exact ih _ (keys_nodup_insert entry.1 entry.2 into distinct)

theorem get_of_list (key : String) (entries : List (String × α)) :
    get? key (ofList entries) = last? key entries := by
  rw [ofList, get_insert_all, last?]
  simp [get?]

theorem keys_of_list (entries : List (String × α)) :
    keys (ofList entries) = (keys entries).eraseDups := by
  have all : (keys entries).removeAll (keys ([] : List (String × α))) = keys entries :=
    List.filter_eq_self.mpr (by simp [keys])
  rw [ofList, keys_insert_all, all]
  rfl

theorem insert_insert (key : String) (value earlier : α) (entries : List (String × α)) :
    insert key value (insert key earlier entries) = insert key value entries := by
  induction entries with
  | nil => simp [insert]
  | cons entry rest ih =>
    obtain ⟨held, v⟩ := entry
    by_cases same : held = key
    · simp [insert, same]
    · simp [insert, same, ih]

theorem insert_comm {key other : String} (value v : α) (entries : List (String × α))
    (different : key ≠ other) (present : key ∈ keys entries) :
    insert key value (insert other v entries) = insert other v (insert key value entries) := by
  induction entries with
  | nil => simp [keys] at present
  | cons entry rest ih =>
    obtain ⟨held, w⟩ := entry
    by_cases same : held = key
    · subst same
      simp [insert, different]
    · have later : key ∈ keys rest := by
        have apart : key ≠ held := fun eq => same eq.symm
        simpa [keys, apart] using present
      by_cases match_other : held = other
      · subst match_other
        simp [insert, same]
      · simp [insert, same, match_other, ih later]

theorem insert_before_all {key : String} (value : α) (into entries : List (String × α))
    (present : key ∈ keys into) (absent : key ∉ keys entries) :
    insert key value (insertAll into entries) = insertAll (insert key value into) entries := by
  unfold insertAll
  induction entries generalizing into with
  | nil => rfl
  | cons entry rest ih =>
    obtain ⟨other, v⟩ := entry
    have different : key ≠ other := by
      rintro rfl
      exact absent (List.mem_cons_self ..)
    have later : key ∉ keys rest := fun held => absent (List.mem_cons_of_mem _ held)
    have kept : key ∈ keys (insert other v into) := by
      rw [keys_insert]
      split
      · exact present
      · exact List.mem_append_left _ present
    simp only [List.foldl_cons]
    rw [ih _ kept later, insert_comm value v into different present]

theorem insert_all_insert (key : String) (value : α) (into entries : List (String × α))
    (distinct : (keys entries).Nodup) :
    insertAll into (insert key value entries) = insert key value (insertAll into entries) := by
  induction entries generalizing into with
  | nil => rfl
  | cons entry rest ih =>
    obtain ⟨held, v⟩ := entry
    obtain ⟨single, others⟩ := List.nodup_cons.mp distinct
    by_cases same : held = key
    · subst same
      have present : held ∈ keys (insert held v into) := by
        rw [keys_insert]
        split
        · assumption
        · simp
      calc insertAll into (insert held value ((held, v) :: rest))
          = insertAll (insert held value into) rest := by simp [insert, insertAll]
        _ = insertAll (insert held value (insert held v into)) rest := by rw [insert_insert]
        _ = insert held value (insertAll (insert held v into) rest) :=
            (insert_before_all value _ rest present single).symm
    · have step : insert key value ((held, v) :: rest) = (held, v) :: insert key value rest := by
        simp [insert, same]
      rw [step]
      exact ih (insert held v into) others

theorem insert_all_append (into front back : List (String × α)) :
    insertAll into (front ++ back) = insertAll (insertAll into front) back := List.foldl_append ..

theorem insert_fresh {key : String} (value : α) (entries : List (String × α))
    (fresh : key ∉ keys entries) : insert key value entries = entries ++ [(key, value)] := by
  induction entries with
  | nil => rfl
  | cons entry rest ih =>
    obtain ⟨held, v⟩ := entry
    have other : held ≠ key := by
      rintro rfl
      exact fresh (List.mem_cons_self ..)
    have later : key ∉ keys rest := fun member => fresh (List.mem_cons_of_mem _ member)
    rw [insert, if_neg other, ih later]
    rfl

theorem insert_all_fresh (into entries : List (String × α))
    (distinct : (keys into ++ keys entries).Nodup) : insertAll into entries = into ++ entries := by
  unfold insertAll
  induction entries generalizing into with
  | nil => simp
  | cons entry rest ih =>
    have fresh : entry.1 ∉ keys into := by
      intro held
      obtain ⟨_, _, apart⟩ := List.nodup_append.mp distinct
      exact apart _ held entry.1 (List.mem_cons_self ..) rfl
    have next : (keys (into ++ [entry]) ++ keys rest).Nodup := by
      simpa [keys] using distinct
    rw [List.foldl_cons, insert_fresh entry.2 into fresh, ih _ next, List.append_assoc]
    rfl

theorem of_list_distinct (entries : List (String × α)) (distinct : (keys entries).Nodup) :
    ofList entries = entries := insert_all_fresh [] entries distinct

@[simp] theorem get_insert_sorted (key k : String) (value : α) (entries : List (String × α)) :
    get? k (insertSorted key value entries) = if key = k then some value else get? k entries := by
  induction entries with
  | nil => simp [insertSorted, get?]
  | cons entry rest ih =>
    obtain ⟨held, v⟩ := entry
    by_cases same : held = key
    · by_cases eq : key = k <;> simp_all [insertSorted, get?]
    · rw [insertSorted, if_neg same]
      split
      · simp [get?]
      · by_cases eq : held = k <;> by_cases eq' : key = k <;> simp_all [get?]

/-- The keys in ascending order, so each of them once. -/
def Ascending (entries : List (String × α)) : Prop := entries.Pairwise fun a b => a.1 < b.1

theorem precedes_iff (a b : List Char) : precedes a b = true ↔ a < b := by
  induction a generalizing b with
  | nil => cases b <;> simp [precedes]
  | cons c cs ih =>
    cases b with
    | nil => simp [precedes]
    | cons d ds =>
      have codes : c.toNat < d.toNat ↔ c < d := Iff.rfl
      simp [precedes, List.cons_lt_cons_iff, ih, codes]

theorem mem_of_insert_sorted {key : String} {value : α} {entries : List (String × α)}
    {entry : String × α} (member : entry ∈ insertSorted key value entries) :
    entry = (key, value) ∨ entry ∈ entries := by
  induction entries with
  | nil => simpa [insertSorted] using member
  | cons first rest ih =>
    unfold insertSorted at member
    split at member
    · rename_i same
      subst same
      rcases List.mem_cons.mp member with here | later
      · exact .inl here
      · exact .inr (List.mem_cons_of_mem _ later)
    · split at member
      · exact List.mem_cons.mp member
      · rcases List.mem_cons.mp member with here | later
        · exact .inr (here ▸ List.mem_cons_self ..)
        · exact (ih later).imp_right (List.mem_cons_of_mem _)

theorem insert_sorted_ascending {entries : List (String × α)} (ascending : Ascending entries)
    (key : String) (value : α) : Ascending (insertSorted key value entries) := by
  induction entries with
  | nil => exact List.pairwise_singleton ..
  | cons first rest ih =>
    obtain ⟨name, held⟩ := first
    obtain ⟨lowest, others⟩ := List.pairwise_cons.mp ascending
    unfold insertSorted
    split
    · exact List.pairwise_cons.mpr ⟨lowest, others⟩
    · rename_i different
      have order : precedes key.toList name.toList = true ↔ key < name := precedes_iff _ _
      split
      · rename_i front
        have lower := order.mp front
        refine List.pairwise_cons.mpr ⟨?_, ascending⟩
        intro entry member
        rcases List.mem_cons.mp member with rfl | later
        · exact lower
        · exact String.lt_trans lower (lowest entry later)
      · rename_i behind
        have notLower := behind ∘ order.mpr
        refine List.pairwise_cons.mpr ⟨?_, ih others⟩
        intro entry member
        rcases mem_of_insert_sorted member with rfl | old
        · exact Std.lt_of_le_of_ne (String.not_lt.mp notLower) different
        · exact lowest entry old

end LogLayout.Keyed
