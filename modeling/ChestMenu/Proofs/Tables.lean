import ChestMenu.Index

/-!
# Laws of ordered tables

What a look-up finds after an entry has been put in or taken out. These laws hold of any
list of entries. That each key has one entry needs the order of the keys, which every
operation keeps; in an ordered table the entries and the findings of a look-up are the
same thing.
-/

namespace ChestMenu.Index

variable {κ ν : Type} [DecidableEq κ] [LT κ] [DecidableLT κ]

/-- The keys increase from entry to entry. -/
def Ordered (index : Index κ ν) : Prop := index.Pairwise fun first second => first.1 < second.1

omit [DecidableEq κ] [DecidableLT κ] in
/-- Whether an index is ordered is seen from its keys. -/
theorem ordered_iff_keys (index : Index κ ν) : Ordered index ↔ index.keys.Pairwise (· < ·) :=
  List.pairwise_map.symm

omit [LT κ] [DecidableLT κ] in
@[simp] theorem find_nil (key : κ) : find? key ([] : Index κ ν) = none := rfl

/-- A look-up finds what was put under its key, and under any other key what was there. -/
theorem find_put (key other : κ) (value : ν) (index : Index κ ν) :
    find? other (index.put key value) = if other = key then some value else find? other index := by
  induction index with
  | nil => simp [put, find?]
  | cons entry rest inductionHypothesis =>
    obtain ⟨k, v⟩ := entry
    by_cases same : key = k
    · subst same
      simp only [put, if_true, find?]
      split <;> rfl
    · by_cases before : key < k
      · simp [put, same, before, find?]
      · simp only [put, if_neg same, if_neg before, find?, inductionHypothesis]
        by_cases here : other = k
        · subst here
          simp [Ne.symm same]
        · simp [here]

omit [LT κ] [DecidableLT κ] in
/-- A key that has been removed is not found, and any other key is found as before. -/
theorem find_remove (key other : κ) (index : Index κ ν) :
    find? other (index.remove key) = if other = key then none else find? other index := by
  induction index with
  | nil => simp [remove]
  | cons entry rest inductionHypothesis =>
    obtain ⟨k, v⟩ := entry
    by_cases same : k = key
    · subst same
      have dropped : remove k ((k, v) :: rest) = remove k rest :=
        List.filter_cons_of_neg (by simp)
      rw [dropped, inductionHypothesis]
      split
      · rfl
      · simp [find?, *]
    · have kept : remove key ((k, v) :: rest) = (k, v) :: remove key rest :=
        List.filter_cons_of_pos (by simpa using same)
      rw [kept, find?, find?, inductionHypothesis]
      by_cases here : other = k
      · subst here
        simp [same]
      · simp [here]

omit [LT κ] [DecidableLT κ] in
/-- Taking out a key that is not there changes nothing. -/
theorem remove_of_find_none {key : κ} {index : Index κ ν} (absent : find? key index = none) :
    index.remove key = index := by
  refine List.filter_eq_self.mpr ?_
  induction index with
  | nil => simp
  | cons entry rest inductionHypothesis =>
    obtain ⟨k, v⟩ := entry
    simp only [find?] at absent
    split at absent
    · cases absent
    · rename_i different
      intro other member
      rcases List.mem_cons.mp member with rfl | member
      · simpa using Ne.symm different
      · exact inductionHypothesis absent other member

omit [LT κ] [DecidableLT κ] in
/-- When all values are changed, a look-up finds the changed value. -/
theorem find_map {μ : Type} (change : ν → μ) (key : κ) (index : Index κ ν) :
    find? key (index.map fun entry => (entry.1, change entry.2)) =
      (find? key index).map change := by
  induction index with
  | nil => rfl
  | cons entry rest inductionHypothesis =>
    obtain ⟨k, v⟩ := entry
    simp only [List.map_cons, find?, inductionHypothesis]
    split <;> rfl

omit [LT κ] [DecidableLT κ] in
/-- What a look-up finds is an entry. -/
theorem mem_of_find {key : κ} {value : ν} {index : Index κ ν}
    (found : find? key index = some value) : (key, value) ∈ index := by
  induction index with
  | nil => simp at found
  | cons entry rest inductionHypothesis =>
    obtain ⟨k, v⟩ := entry
    by_cases here : key = k
    · subst here
      simp only [find?, if_true, Option.some.injEq] at found
      subst found
      exact List.mem_cons_self
    · simp only [find?, if_neg here] at found
      exact List.mem_cons_of_mem _ (inductionHypothesis found)

omit [LT κ] [DecidableLT κ] in
/-- Something is found under exactly the keys of the entries. -/
theorem mem_keys_iff (key : κ) (index : Index κ ν) :
    key ∈ index.keys ↔ (find? key index).isSome = true := by
  induction index with
  | nil => simp [keys]
  | cons entry rest inductionHypothesis =>
    obtain ⟨k, v⟩ := entry
    by_cases here : key = k
    · simp [keys, find?, here]
    · simpa [keys, find?, here] using inductionHypothesis

/-- An index of elements has these elements for its keys. -/
theorem mem_distinct_iff {key : κ} {elements : List κ} :
    key ∈ distinct elements ↔ key ∈ elements := by
  have grown (found : Index κ Unit) :
      (find? key (elements.foldl (fun found element => put element () found) found)).isSome = true ↔
        key ∈ elements ∨ (find? key found).isSome = true := by
    induction elements generalizing found with
    | nil => simp
    | cons element rest inductionHypothesis =>
      rw [List.foldl_cons, inductionHypothesis, find_put, List.mem_cons]
      by_cases here : key = element <;> simp [here]
  rw [distinct, mem_keys_iff, grown]
  simp

/-- Putting an entry in brings no other new one. -/
theorem mem_put {key : κ} {value : ν} {entry : κ × ν} {index : Index κ ν}
    (member : entry ∈ index.put key value) : entry = (key, value) ∨ entry ∈ index := by
  induction index with
  | nil => exact Or.inl (List.mem_singleton.mp member)
  | cons head tail inductionHypothesis =>
    obtain ⟨k, v⟩ := head
    simp only [put] at member
    split at member
    · rcases List.mem_cons.mp member with rfl | member
      · exact Or.inl rfl
      · exact Or.inr (List.mem_cons_of_mem _ member)
    · split at member
      · exact List.mem_cons.mp member
      · rcases List.mem_cons.mp member with rfl | member
        · exact Or.inr List.mem_cons_self
        · exact (inductionHypothesis member).imp_right (List.mem_cons_of_mem _)

section Order

variable [Std.Irrefl (α := κ) (· < ·)] [Trans (α := κ) (· < ·) (· < ·) (· < ·)]
variable [Std.Trichotomous (α := κ) (· < ·)]

omit [DecidableLT κ] [Trans (α := κ) (· < ·) (· < ·) (· < ·)] [Std.Trichotomous (α := κ) (· < ·)] in
/-- In an ordered table every entry is found under its key. -/
theorem find_of_mem {key : κ} {value : ν} {index : Index κ ν} (ordered : Ordered index)
    (member : (key, value) ∈ index) : find? key index = some value := by
  induction index with
  | nil => simp at member
  | cons entry rest inductionHypothesis =>
    obtain ⟨k, v⟩ := entry
    obtain ⟨first, later⟩ := List.pairwise_cons.mp ordered
    rcases List.mem_cons.mp member with same | member
    · obtain ⟨rfl, rfl⟩ := Prod.mk.inj same
      simp [find?]
    · have before : k < key := first _ member
      have different : key ≠ k := by
        intro same
        exact Std.Irrefl.irrefl (r := (· < ·)) k (same ▸ before)
      simp only [find?, if_neg different]
      exact inductionHypothesis later member

omit [Std.Irrefl (α := κ) (· < ·)] in
/-- An ordered table stays ordered when an entry is put in. -/
theorem ordered_put (key : κ) (value : ν) {index : Index κ ν} (ordered : Ordered index) :
    Ordered (index.put key value) := by
  induction index with
  | nil => exact List.pairwise_singleton _ _
  | cons entry rest inductionHypothesis =>
    obtain ⟨k, v⟩ := entry
    obtain ⟨first, later⟩ := List.pairwise_cons.mp ordered
    by_cases same : key = k
    · subst same
      simp only [put, if_true]
      exact List.pairwise_cons.mpr ⟨first, later⟩
    · by_cases before : key < k
      · simp only [put, if_neg same, if_pos before]
        refine List.pairwise_cons.mpr ⟨?_, ordered⟩
        intro other member
        rcases List.mem_cons.mp member with rfl | member
        · exact before
        · exact Std.lt_trans before (first other member)
      · have after : k < key := by
          rcases Std.lt_trichotomy key k with h | h | h
          · exact absurd h before
          · exact absurd h same
          · exact h
        simp only [put, if_neg same, if_neg before]
        refine List.pairwise_cons.mpr ⟨?_, inductionHypothesis later⟩
        intro other member
        rcases mem_put member with rfl | member
        · exact after
        · exact first other member

omit [DecidableLT κ] [Trans (α := κ) (· < ·) (· < ·) (· < ·)] [Std.Trichotomous (α := κ) (· < ·)] in
/-- Among some entries of an ordered table, a look-up finds what it finds among all of
them if that is one of these entries. -/
theorem find_filter_iff {key : κ} {value : ν} {index : Index κ ν} (ordered : Ordered index)
    (keep : κ × ν → Bool) :
    find? key (index.filter keep) = some value ↔
      find? key index = some value ∧ keep (key, value) = true := by
  constructor
  · intro found
    obtain ⟨member, kept⟩ := List.mem_filter.mp (mem_of_find found)
    exact ⟨find_of_mem ordered member, kept⟩
  · rintro ⟨found, kept⟩
    exact find_of_mem (ordered.filter keep) (List.mem_filter.mpr ⟨mem_of_find found, kept⟩)

omit [DecidableLT κ] [Std.Trichotomous (α := κ) (· < ·)] in
/-- Ordered tables in which the same is found are the same. -/
theorem eq_of_find {first second : Index κ ν} (ordered : Ordered first)
    (ordered' : Ordered second) (same : ∀ key, find? key first = find? key second) :
    first = second := by
  have distinct {index : Index κ ν} (ordered : Ordered index) : index.Nodup := by
    refine List.Pairwise.imp (fun {entry other} before same => ?_) ordered
    subst same
    exact Std.Irrefl.irrefl (r := (· < ·)) entry.1 before
  have reordered : first.Perm second := by
    refine (List.perm_ext_iff_of_nodup (distinct ordered) (distinct ordered')).mpr fun entry => ?_
    constructor
    · exact fun member => mem_of_find ((same entry.1).symm.trans (find_of_mem ordered member))
    · exact fun member => mem_of_find ((same entry.1).trans (find_of_mem ordered' member))
  refine reordered.eq_of_pairwise (fun entry other _ _ before after => ?_) ordered ordered'
  exact (Std.Irrefl.irrefl (r := (· < ·)) entry.1 (Std.lt_trans before after)).elim

end Order

omit [DecidableLT κ] in
/-- An ordered table stays ordered when an entry is taken out. -/
theorem ordered_remove (key : κ) {index : Index κ ν} (ordered : Ordered index) :
    Ordered (index.remove key) := List.Pairwise.filter _ ordered

end ChestMenu.Index
