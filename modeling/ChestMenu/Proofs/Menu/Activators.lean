import ChestMenu.Proofs.Menu.Loaded
import ChestMenu.Proofs.Text.Letters
import Mathlib.Logic.Relation

/-!
# What activators compare

The label of a command line is the run of visible characters behind the blanks, the slashes
and again the blanks that the line begins with, in lower case. As long as there is a label,
it stays the same when ASCII letters change their case, when blanks are put around the
line, when words are put behind it, and when slashes are put in front of it. Only a line
that begins with a blank and has a slash behind its blanks is different with a slash in
front: the slashes end there, and those behind the blanks belong to the label.

A held item whose material is no identifier is compared by the empty text, and no trigger of
a loaded menu is without a material.
-/

namespace ChestMenu

open ChestMenu.Text

variable {cs : List Char} {line other : String}

/-! ## Labels -/

/-- The first word of a text, and nothing if there is none. -/
def firstWord (cs : List Char) : List Char :=
  (cs.dropWhile isBlank).takeWhile fun c => !isBlank c

theorem first_word_cons_blank {c : Char} (blank : isBlank c = true) (rest : List Char) :
    firstWord (c :: rest) = firstWord rest := by
  simp [firstWord, blank]

theorem first_word_cons_visible {c : Char} (visible : isBlank c = false) (rest : List Char) :
    firstWord (c :: rest) = c :: rest.takeWhile fun c => !isBlank c := by
  simp [firstWord, visible]

/-- The first piece of a text ends at the first separator. -/
theorem pieces_eq_cons (test : Char → Bool) (cs : List Char) :
    ∃ others, pieces test cs = (cs.takeWhile fun c => !test c) :: others := by
  induction cs with
  | nil => exact ⟨[], rfl⟩
  | cons c rest inductionHypothesis =>
    obtain ⟨others, split⟩ := inductionHypothesis
    cases here : test c <;> simp [pieces, here, split]

theorem head_words (cs : List Char) : (words cs).headD [] = firstWord cs := by
  induction cs with
  | nil => rfl
  | cons c rest inductionHypothesis =>
    cases here : isBlank c with
    | true =>
      rw [first_word_cons_blank here, ← inductionHypothesis]
      simp [words, pieces, here]
    | false =>
      obtain ⟨others, split⟩ := pieces_eq_cons isBlank rest
      rw [first_word_cons_visible here]
      simp [words, pieces, here, split]

/-- What stays at the front of a text stays there when something is put behind it. -/
theorem drop_while_append_of_ne_nil {test : Char → Bool} (some : cs.dropWhile test ≠ [])
    (more : List Char) : (cs ++ more).dropWhile test = cs.dropWhile test ++ more := by
  rw [List.dropWhile_append, if_neg]
  simpa using some

/-- What is put behind the first word does not belong to it. -/
theorem first_word_append_cons (full : firstWord cs ≠ []) {separator : Char}
    (blank : isBlank separator = true) (more : List Char) :
    firstWord (cs ++ separator :: more) = firstWord cs := by
  have some : cs.dropWhile isBlank ≠ [] := by
    intro nothing
    exact full (by rw [firstWord, nothing, List.takeWhile_nil])
  rw [firstWord, drop_while_append_of_ne_nil some, List.takeWhile_append]
  split
  · rename_i whole
    have same : (cs.dropWhile isBlank).takeWhile (fun c => !isBlank c) = cs.dropWhile isBlank :=
      (List.takeWhile_prefix _).eq_of_length whole
    simp [firstWord, same, blank]
  · rfl

/-- Blanks behind a text do not belong to its first word. -/
theorem first_word_append {behind : List Char} (blank : ∀ c ∈ behind, isBlank c = true) :
    firstWord (cs ++ behind) = firstWord cs := by
  by_cases full : firstWord cs = []
  · have allBlank : ∀ c ∈ cs, isBlank c = true := by
      by_contra someVisible
      have some : cs.dropWhile isBlank ≠ [] := by
        rwa [ne_eq, List.dropWhile_eq_nil_iff]
      have head := List.head_dropWhile_not isBlank some
      obtain ⟨first, rest, split⟩ := List.exists_cons_of_ne_nil some
      simp only [split, List.head_cons] at head
      simp [firstWord, split, head] at full
    have nothing : ∀ c ∈ cs ++ behind, isBlank c = true := by
      intro c member
      exact (List.mem_append.mp member).elim (allBlank c) (blank c)
    rw [full, firstWord, List.dropWhile_eq_nil_iff.mpr nothing, List.takeWhile_nil]
  · cases behind with
    | nil => rw [List.append_nil]
    | cons separator more =>
      exact first_word_append_cons full (blank separator List.mem_cons_self) more

/-- The label of a line as it is written. -/
def writtenLabel (cs : List Char) : List Char := firstWord ((trimStart cs).dropWhile (· == '/'))

theorem command_label_eq (line : String) :
    commandLabel line = lower (writtenLabel line.toList) := by
  have first : commandLabel line =
      lower ((words ((trim line.toList).dropWhile (· == '/'))).headD []) := by
    rw [commandLabel]
    cases words ((trim line.toList).dropWhile (· == '/')) <;> rfl
  obtain ⟨behind, blank, same⟩ := exists_trim_end_append (trimStart line.toList)
  -- the slashes end before the blanks behind the line, if not earlier
  have kept : (trimStart line.toList).dropWhile (· == '/') =
      (trim line.toList).dropWhile (· == '/') ++ behind := by
    rw [← same, trim, List.dropWhile_append]
    split
    · rename_i nothing
      rw [List.isEmpty_iff.mp nothing, List.nil_append, drop_while_eq_self_iff]
      intro c head
      rw [beq_eq_false_iff_ne]
      rintro rfl
      exact absurd (blank _ (List.mem_of_mem_head? head)) (by decide)
    · rfl
  rw [first, head_words, writtenLabel, kept, first_word_append blank]

/-- The label of a line in other letters is that label in other letters. -/
theorem written_label_map_to_lower (cs : List Char) :
    writtenLabel (cs.map Char.toLower) = (writtenLabel cs).map Char.toLower := by
  have slash : ∀ c : Char, (c.toLower == '/') = (c == '/') :=
    eq_at_to_lower (· == '/') (by decide)
  have visible : ∀ c : Char, (!isBlank c.toLower) = !isBlank c := by
    intro c
    rw [is_blank_to_lower]
  rw [writtenLabel, trimStart, drop_while_map_to_lower is_blank_to_lower,
    drop_while_map_to_lower slash, firstWord, drop_while_map_to_lower is_blank_to_lower,
    take_while_map_to_lower visible]
  rfl

/-- A line begins with a blank, and its first visible character is a slash. -/
def LateSlash (cs : List Char) : Prop :=
  (∃ c ∈ cs.head?, isBlank c = true) ∧ (trimStart cs).head? = some '/'

/-- Slashes in front of a line do not belong to its label. -/
theorem written_label_slashes {slashes : List Char} (all : ∀ c ∈ slashes, c = '/')
    (early : ¬ LateSlash cs) : writtenLabel (slashes ++ cs) = writtenLabel cs := by
  cases slashes with
  | nil => rfl
  | cons first rest =>
    have dropped : (trimStart (first :: rest ++ cs)).dropWhile (· == '/') =
        cs.dropWhile (· == '/') := by
      have whole : trimStart (first :: rest ++ cs) = first :: rest ++ cs := by
        obtain rfl := all first List.mem_cons_self
        rfl
      rw [whole, List.dropWhile_append_of_pos]
      simpa using all
    rw [writtenLabel, dropped, writtenLabel]
    by_cases lateBlank : ∃ c ∈ cs.head?, isBlank c = true
    · -- the line begins with a blank, so no slash stands in front of the blanks or behind them
      have noSlash : ∀ c ∈ (trimStart cs).head?, (c == '/') = false := by
        intro c head
        rw [beq_eq_false_iff_ne]
        rintro rfl
        exact early ⟨lateBlank, head⟩
      have blankFirst : ∀ c ∈ cs.head?, (c == '/') = false := by
        obtain ⟨blank, head, isBlankHere⟩ := lateBlank
        intro c sameHead
        obtain rfl := Option.mem_unique head sameHead
        rw [beq_eq_false_iff_ne]
        rintro rfl
        exact absurd isBlankHere (by decide)
      rw [(drop_while_eq_self_iff _ _).mpr noSlash, (drop_while_eq_self_iff _ _).mpr blankFirst,
        firstWord, firstWord, trimStart, List.dropWhile_idempotent]
    · have whole : trimStart cs = cs := by
        refine (drop_while_eq_self_iff _ _).mpr fun c head => ?_
        exact Bool.eq_false_iff.mpr fun blank => lateBlank ⟨c, head, blank⟩
      rw [whole]

/-- Words behind a line do not belong to its label. -/
theorem written_label_append_cons (named : writtenLabel cs ≠ []) {separator : Char}
    (blank : isBlank separator = true) (more : List Char) :
    writtenLabel (cs ++ separator :: more) = writtenLabel cs := by
  have someBehind : (trimStart cs).dropWhile (· == '/') ≠ [] := by
    intro nothing
    exact named (by rw [writtenLabel, nothing]; rfl)
  have some : cs.dropWhile isBlank ≠ [] := by
    intro nothing
    exact someBehind (by rw [trimStart, nothing, List.dropWhile_nil])
  have kept : trimStart (cs ++ separator :: more) = trimStart cs ++ separator :: more :=
    drop_while_append_of_ne_nil some _
  rw [writtenLabel, kept, drop_while_append_of_ne_nil someBehind,
    first_word_append_cons named blank]
  rfl

/-! ## Lines with one label -/

/-- A change of a command line that makes no difference to its label. -/
inductive Respelled : String → String → Prop where
  /-- ASCII letters change their case. -/
  | letters {line other : String} :
      sameIgnoringAsciiCase other.toList line.toList = true → Respelled line other
  /-- Blanks are put around the line. -/
  | blanks {line front behind : String} : isAllBlank front.toList = true →
      isAllBlank behind.toList = true → Respelled line (front ++ line ++ behind)
  /-- Slashes are put in front of the line. -/
  | slashes {line slashes : String} : (∀ c ∈ slashes.toList, c = '/') →
      ¬ LateSlash line.toList → Respelled line (slashes ++ line)
  /-- A blank and more words are put behind the line. -/
  | words {line more : String} {separator : Char} : isBlank separator = true →
      Respelled line (line ++ String.singleton separator ++ more)

theorem Respelled.label_eq (respelled : Respelled line other) (named : commandLabel line ≠ []) :
    commandLabel other = commandLabel line := by
  cases respelled with
  | letters same =>
    rw [command_label_eq, command_label_eq, ← lower_map_to_lower, ← written_label_map_to_lower,
      same_ignoring_case_iff.mp same, written_label_map_to_lower, lower_map_to_lower]
  | blanks blankFront blankBehind =>
    have same := trim_padded (List.all_eq_true.mp blankFront) (List.all_eq_true.mp blankBehind)
      line.toList
    simp only [commandLabel, String.toList_append, same]
  | slashes all early =>
    rw [command_label_eq, command_label_eq, String.toList_append, written_label_slashes all early]
  | @words more separator blank =>
    have full : writtenLabel line.toList ≠ [] := by
      intro nothing
      exact named (by rw [command_label_eq, nothing]; rfl)
    have split : (line ++ String.singleton separator ++ more).toList =
        line.toList ++ separator :: more.toList := by
      simp
    rw [command_label_eq, command_label_eq, split, written_label_append_cons full blank]

/-- However often a line with a label is changed, its label stays the same. -/
theorem label_eq_of_respelled (named : commandLabel line ≠ [])
    (respelled : Relation.ReflTransGen Respelled line other) :
    commandLabel other = commandLabel line := by
  induction respelled with
  | refl => rfl
  | tail _ last inductionHypothesis =>
    have stillNamed := inductionHypothesis ▸ named
    exact (last.label_eq stillNamed).trans inductionHypothesis

/-- Lines of one label fit the same activators. -/
theorem Activator.fits_command_congr (same : commandLabel other = commandLabel line)
    (activator : Activator) : activator.fitsCommand other = activator.fitsCommand line := by
  cases activator <;> simp only [fitsCommand, same]

/-! ## Held items -/

theorem material_ne_empty {raw material : String} (found : material? raw = some material) :
    material ≠ "" := by
  simp only [material?, Option.ite_none_right_eq_some, Option.some.injEq] at found
  obtain ⟨identifier, rfl⟩ := found
  intro empty
  rw [String.ofList_eq_empty_iff] at empty
  rw [empty] at identifier
  cases identifier

theorem trigger_material_ne_empty (menu : String) (entry : Document.TriggerEntry) :
    (Loading.trigger menu entry).value.material ≠ "" := by
  rw [Loading.trigger]
  cases found : material? (entry.material.getD "") with
  | none => simp [defaultTriggerMaterial]
  | some material => exact material_ne_empty found

/-- A material that is no identifier sets off no trigger that has a material. -/
theorem ItemTrigger.not_set_off {trigger : ItemTrigger} {held : Visual}
    (some : trigger.material ≠ "") (unknown : material? held.material = none) :
    trigger.isSetOffBy held = false := by
  simp [isSetOffBy, unknown, Ne.symm some]

theorem Loading.activators_fit_none {held : Visual} (unknown : material? held.material = none)
    (menu : String) (entries : Option Document.ActivatorEntries) :
    ∀ activator ∈ (activators menu entries).value, activator.fitsItem held = false := by
  cases entries with
  | none => exact List.forall_mem_nil _
  | some entries =>
    have triggered (entry : Document.TriggerEntry) :
        (Activator.item (trigger menu entry).value).fitsItem held = false :=
      ItemTrigger.not_set_off (trigger_material_ne_empty menu entry) unknown
    rw [activators]
    cases triggerEntry? entries with
    | none =>
      cases entries.command <;> cases entries.chat <;> simp [Activator.fitsItem]
    | some entry =>
      cases entries.command <;> cases entries.chat <;>
        simp [Activator.fitsItem] <;> exact triggered entry

/-- No activator of a loaded menu fits a held item whose material is no identifier. -/
theorem Menu.fits_no_item_of_loaded {name text : String} {memo : Layout.RowMemo} {menu : Menu}
    (loaded : (Menu.load name text memo).1.value = .ok menu) {held : Visual}
    (unknown : material? held.material = none) :
    menu.activators.any (fun activator => activator.fitsItem held) = false := by
  obtain ⟨document, -, loaded⟩ := Menu.document_of_loaded loaded
  obtain ⟨frame, -, rfl⟩ := Menu.assembled_of_loaded loaded
  rw [Loading.assemble_value, List.any_eq_false]
  intro activator member
  simpa using Loading.activators_fit_none unknown name document.activators activator member

end ChestMenu
