import ChestMenu.Text.Blank
import Mathlib.Data.List.DropRight

/-!
# Cutting texts that have been put together

A text that was put together from parts with separators between them falls into the same
parts again, as long as no separator stands inside a part: at the first separator, at all
of them, or into words. Trimming leaves a text alone exactly if no blank stands at either
end of it.
-/

namespace ChestMenu.Text

variable {test : Char → Bool} {front back cs : List Char} {separator : Char}

/-- What holds of every character of a text is decided character by character. -/
instance (priority := high) decidableForallMem (holds : Char → Prop) [DecidablePred holds]
    (cs : List Char) : Decidable (∀ c ∈ cs, holds c) := List.decidableBAll holds cs

/-! ## Trimming -/

/-- No blank stands at either end of a text. -/
structure Trimmed (cs : List Char) : Prop where
  head : ∀ c ∈ cs.head?, isBlank c = false
  last : ∀ c ∈ cs.getLast?, isBlank c = false

/-- Nothing is taken from the front exactly if the first character stays. -/
theorem drop_while_eq_self_iff (test : Char → Bool) (cs : List Char) :
    cs.dropWhile test = cs ↔ ∀ c ∈ cs.head?, test c = false := by
  cases cs with
  | nil => simp
  | cons c rest => simp [List.dropWhile_eq_self_iff]

/-- Nothing is taken from the end exactly if the last character stays. -/
theorem drop_end_eq_self_iff (test : Char → Bool) (cs : List Char) :
    (cs.reverse.dropWhile test).reverse = cs ↔ ∀ c ∈ cs.getLast?, test c = false := by
  rw [List.reverse_eq_iff, drop_while_eq_self_iff, List.head?_reverse]

/-- Trimming leaves exactly those texts alone that have no blank at either end. -/
theorem trim_eq_self_iff (cs : List Char) : trim cs = cs ↔ Trimmed cs := by
  constructor
  · intro same
    -- a text that loses nothing at both ends together loses nothing at the first of them
    have whole : trimStart cs = cs := by
      refine (List.dropWhile_suffix _).eq_of_length_le ?_
      have shorter := (List.rdropWhile_prefix isBlank (l := trimStart cs)).length_le
      exact (congrArg List.length same).ge.trans shorter
    rw [trim, whole] at same
    exact ⟨(drop_while_eq_self_iff _ cs).mp whole, (drop_end_eq_self_iff _ cs).mp same⟩
  · intro trimmed
    have whole : trimStart cs = cs := (drop_while_eq_self_iff _ cs).mpr trimmed.head
    rw [trim, whole]
    exact (drop_end_eq_self_iff _ cs).mpr trimmed.last

instance (cs : List Char) : Decidable (Trimmed cs) :=
  decidable_of_iff (trim cs = cs) (trim_eq_self_iff cs)

namespace Trimmed

theorem trim_eq (trimmed : Trimmed cs) : trim cs = cs := (trim_eq_self_iff cs).mpr trimmed

/-- A text without any blank is trimmed. -/
theorem of_visible (visible : ∀ c ∈ cs, isBlank c = false) : Trimmed cs where
  head c member := visible c (List.mem_of_mem_head? member)
  last c member := visible c (List.mem_of_mem_getLast? member)

/-- What stands around a visible character is trimmed when its outer ends are. -/
theorem around (head : ∀ c ∈ front.head?, isBlank c = false)
    (visible : isBlank separator = false) (last : ∀ c ∈ back.getLast?, isBlank c = false) :
    Trimmed (front ++ separator :: back) where
  head c member := by
    cases front with
    | nil =>
      obtain rfl := Option.some.inj member
      exact visible
    | cons first rest => exact head c member
  last c member := by
    rw [List.getLast?_append_cons] at member
    cases back with
    | nil =>
      obtain rfl := Option.some.inj member
      exact visible
    | cons first rest =>
      rw [List.getLast?_cons_cons] at member
      exact last c member

end Trimmed

/-! ## Cutting at the first separator -/

theorem cut_at_append (none : ∀ c ∈ front, test c = false) (passes : test separator = true)
    (back : List Char) : cutAt test (front ++ separator :: back) = some (front, back) := by
  induction front with
  | nil => simp [cutAt, passes]
  | cons c rest inductionHypothesis =>
    obtain ⟨first, others⟩ := List.forall_mem_cons.mp none
    simp [cutAt, first, inductionHypothesis others]

/-- In front of the first separator there is none. -/
theorem none_before_cut (found : cutAt test cs = some (front, back)) :
    ∀ c ∈ front, test c = false := by
  induction cs generalizing front with
  | nil => cases found
  | cons c rest inductionHypothesis =>
    rw [cutAt] at found
    split at found
    · cases found
      exact List.forall_mem_nil _
    · rename_i passedOver
      obtain ⟨⟨before, behind⟩, later, same⟩ := Option.map_eq_some_iff.mp found
      cases same
      exact List.forall_mem_cons.mpr ⟨by simpa using passedOver, inductionHypothesis later⟩

/-- What was cut at a separator is put together again by it. -/
theorem append_of_cut (found : cutAt test cs = some (front, back)) :
    ∃ separator, test separator = true ∧ cs = front ++ separator :: back := by
  induction cs generalizing front with
  | nil => cases found
  | cons c rest inductionHypothesis =>
    rw [cutAt] at found
    split at found
    · rename_i passes
      cases found
      exact ⟨c, passes, rfl⟩
    · obtain ⟨⟨before, behind⟩, later, same⟩ := Option.map_eq_some_iff.mp found
      cases same
      obtain ⟨separator, passes, rfl⟩ := inductionHypothesis later
      exact ⟨separator, passes, rfl⟩

/-- Nothing is cut off exactly if there is no separator. -/
theorem cut_at_eq_none_iff : cutAt test cs = none ↔ ∀ c ∈ cs, test c = false := by
  induction cs with
  | nil => simp [cutAt]
  | cons c rest inductionHypothesis =>
    cases here : test c <;> simp [cutAt, here, inductionHypothesis]

/-- What stands before the last character of a text, if it is the given one. -/
theorem before_last_eq_some_iff {last : Char} :
    beforeLast? last cs = some front ↔ cs = front ++ [last] := by
  rw [beforeLast?]
  constructor
  · intro found
    split at found
    · rename_i c rest backwards
      split at found
      · rename_i same
        have whole := List.reverse_eq_cons_iff.mp backwards
        rw [whole, same, Option.some.inj found]
      · cases found
    · cases found
  · rintro rfl
    simp

/-! ## Cutting at all separators -/

theorem pieces_eq_split (test : Char → Bool) (cs : List Char) :
    pieces test cs = cs.splitOnP test := by
  induction cs with
  | nil => rfl
  | cons c rest inductionHypothesis =>
    rw [List.splitOnP_cons_eq_if_modifyHead, ← inductionHypothesis, pieces]
    split
    · rfl
    · cases cut : pieces test rest with
      | nil => exact absurd (inductionHypothesis.symm.trans cut) (List.splitOnP_ne_nil _ _)
      | cons first others => rfl

/-- What stands in a text that was put together is a separator or stands in a part. -/
theorem mem_intercalate {parts : List (List Char)} {c : Char}
    (member : c ∈ [separator].intercalate parts) : c = separator ∨ ∃ part ∈ parts, c ∈ part := by
  induction parts with
  | nil => cases member
  | cons first rest inductionHypothesis =>
    cases rest with
    | nil =>
      rw [List.intercalate_singleton] at member
      exact Or.inr ⟨first, List.mem_cons_self, member⟩
    | cons second others =>
      rw [List.intercalate_cons_cons, List.append_assoc] at member
      rcases List.mem_append.mp member with inFirst | later
      · exact Or.inr ⟨first, List.mem_cons_self, inFirst⟩
      · rcases List.mem_cons.mp later with rfl | inRest
        · exact Or.inl rfl
        · refine (inductionHypothesis inRest).imp_right ?_
          rintro ⟨part, isPart, inPart⟩
          exact ⟨part, List.mem_cons_of_mem _ isPart, inPart⟩

/-- No part is longer than the whole. -/
theorem length_le_intercalate {parts : List (List Char)} {part : List Char}
    (member : part ∈ parts) : part.length ≤ ([separator].intercalate parts).length := by
  induction parts with
  | nil => cases member
  | cons first rest inductionHypothesis =>
    cases rest with
    | nil =>
      obtain rfl := List.mem_singleton.mp member
      rw [List.intercalate_singleton]
    | cons second others =>
      rw [List.intercalate_cons_cons, List.length_append, List.length_append]
      rcases List.mem_cons.mp member with rfl | later
      · omega
      · have shorter := inductionHypothesis later
        omega

/-- Parts with a separator between neighbours are the pieces of the whole, when no part
contains a separator. -/
theorem pieces_intercalate {parts : List (List Char)} (some : parts ≠ [])
    (passes : test separator = true) (none : ∀ part ∈ parts, ∀ c ∈ part, test c = false) :
    pieces test ([separator].intercalate parts) = parts := by
  rw [pieces_eq_split]
  induction parts with
  | nil => exact absurd rfl some
  | cons first rest inductionHypothesis =>
    obtain ⟨inFirst, inRest⟩ := List.forall_mem_cons.mp none
    cases rest with
    | nil =>
      rw [List.intercalate_singleton]
      exact List.splitOnP_eq_singleton inFirst
    | cons second others =>
      rw [List.intercalate_cons_cons, List.append_assoc, List.singleton_append,
        List.splitOnP_append_cons_of_forall_mem inFirst _ passes,
        inductionHypothesis (List.cons_ne_nil _ _) inRest]

/-- The words of a text that was made of words are these words. -/
theorem words_intercalate {parts : List (List Char)} (some : parts ≠ [])
    (full : ∀ part ∈ parts, part ≠ []) (visible : ∀ part ∈ parts, ∀ c ∈ part, isBlank c = false) :
    words ([' '].intercalate parts) = parts := by
  have blank : isBlank ' ' = true := rfl
  rw [words, pieces_intercalate some blank visible, List.filter_eq_self]
  intro part member
  simpa using full part member

/-- No piece contains a separator. -/
theorem none_in_piece {piece : List Char} (member : piece ∈ pieces test cs) :
    ∀ c ∈ piece, test c = false := by
  induction cs generalizing piece with
  | nil =>
    obtain rfl := List.mem_singleton.mp member
    exact List.forall_mem_nil _
  | cons c rest inductionHypothesis =>
    rw [pieces] at member
    split at member
    · rcases List.mem_cons.mp member with rfl | later
      · exact List.forall_mem_nil _
      · exact inductionHypothesis later
    · rename_i passedOver
      have here : test c = false := by simpa using passedOver
      split at member
      · obtain rfl := List.mem_singleton.mp member
        simpa using here
      · rename_i first others cut
        have inRest : ∀ piece ∈ first :: others, ∀ c ∈ piece, test c = false :=
          fun piece member => inductionHypothesis (cut ▸ member)
        obtain ⟨inFirst, inOthers⟩ := List.forall_mem_cons.mp inRest
        rcases List.mem_cons.mp member with rfl | later
        · exact List.forall_mem_cons.mpr ⟨here, inFirst⟩
        · exact inOthers piece later

/-- Words are not empty, and no blank stands in them. -/
theorem word_visible {word : List Char} (member : word ∈ words cs) :
    word ≠ [] ∧ ∀ c ∈ word, isBlank c = false := by
  obtain ⟨isPiece, full⟩ := List.mem_filter.mp member
  exact ⟨by simpa using full, none_in_piece isPiece⟩

/-- A text that begins with a word and a blank has that word first. -/
theorem words_append_cons (full : front ≠ []) (visible : ∀ c ∈ front, isBlank c = false)
    (blank : isBlank separator = true) (back : List Char) :
    words (front ++ separator :: back) = front :: words back := by
  rw [words, words, pieces_eq_split, pieces_eq_split,
    List.splitOnP_append_cons_of_forall_mem visible _ blank, List.filter_cons_of_pos]
  simpa using full

/-- The first word of a text is the whole text exactly if it is one word. -/
theorem head_words_eq_self_iff :
    (words cs).head? = some cs ↔ cs ≠ [] ∧ ∀ c ∈ cs, isBlank c = false := by
  constructor
  · exact fun first => word_visible (List.mem_of_mem_head? first)
  · rintro ⟨full, visible⟩
    have whole : words ([' '].intercalate [cs]) = [cs] :=
      words_intercalate (List.cons_ne_nil _ _) (by simpa using full) (by simpa using visible)
    rw [List.intercalate_singleton] at whole
    rw [whole, List.head?_cons]

/-- A text that was made of words begins and ends with a word. -/
theorem intercalate_trimmed {parts : List (List Char)} (full : ∀ part ∈ parts, part ≠ [])
    (visible : ∀ part ∈ parts, ∀ c ∈ part, isBlank c = false) :
    Trimmed ([' '].intercalate parts) := by
  induction parts with
  | nil => exact ⟨nofun, nofun⟩
  | cons first rest inductionHypothesis =>
    obtain ⟨inFirst, inRest⟩ := List.forall_mem_cons.mp visible
    obtain ⟨firstFull, restFull⟩ := List.forall_mem_cons.mp full
    cases rest with
    | nil =>
      rw [List.intercalate_singleton]
      exact Trimmed.of_visible inFirst
    | cons second others =>
      have later := inductionHypothesis restFull inRest
      have some : [' '].intercalate (second :: others) ≠ [] := by
        have secondFull : second ≠ [] := restFull second List.mem_cons_self
        cases others <;> simp [List.intercalate_cons_cons, secondFull]
      rw [List.intercalate_cons_cons]
      constructor
      · intro c member
        rw [List.append_assoc, List.head?_append_of_ne_nil _ firstFull] at member
        exact inFirst c (List.mem_of_mem_head? member)
      · intro c member
        rw [List.getLast?_append_of_ne_nil _ some] at member
        exact later.last c member

end ChestMenu.Text
