import ChestMenu.Action.Printer
import ChestMenu.Action.Reader
import ChestMenu.Proofs.Notices
import ChestMenu.Proofs.Number.Digits
import ChestMenu.Proofs.Text.Cuts

/-!
# Actions are read as they are written

An action is written as its word, a colon and a value. The value of a sound is three parts
with dashes between them and that of a title three parts with backticks between them, so
these parts may contain anything but the character that separates them. Reading what is
written then gives the action back, without a notice.

The numbers of a sound may be written with any text that is accepted as a numeral. Such a
text contains no blank, so it makes no difference that each part is trimmed.
-/

namespace ChestMenu.Action

open ChestMenu.Text ChestMenu.Number

/-! ## Actions in writing -/

/-- A number of a sound in writing, with no dash that would end it. -/
structure Loudness (text : String) (numeral : Numeral) : Prop where
  accepted : numeral? text.toList = some numeral
  whole : '-' ∉ text.toList

/-- A title or subtitle that stays whole between backticks. -/
structure Caption (text : String) : Prop where
  trimmed : Trimmed text.toList
  whole : Layout.quote ∉ text.toList

/-- The values that an action can be written with so that nothing in them is taken for
something else. -/
inductive Spells : Action → String → Prop where
  | tell {message : String} : Trimmed message.toList → Spells (.tell message) message
  | sound {id volume pitch : String} {volumeNumeral pitchNumeral : Numeral} : id ≠ "" →
      Trimmed id.toList → '-' ∉ id.toList → upper id.toList = id.toList →
      Loudness volume volumeNumeral → Loudness pitch pitchNumeral →
      Spells (.sound ⟨id, Format.single.encode volumeNumeral, Format.single.encode pitchNumeral⟩)
        (writtenSound id volume pitch)
  | title {card : TitleCard} : Caption card.title → Caption card.subtitle →
      card.fadeIn ≤ limit32 → card.stay ≤ limit32 → card.fadeOut ≤ limit32 →
      Spells (.title card) (writtenTitle card)
  | actionBar {message : String} : Trimmed message.toList → Spells (.actionBar message) message
  | playerCommand {template : String} : Trimmed template.toList →
      template.toList.head? ≠ some '/' → Spells (.playerCommand template) template
  | consoleCommand {template : String} : Trimmed template.toList →
      template.toList.head? ≠ some '/' → Spells (.consoleCommand template) template
  | close : Spells .close ""
  | forceClose : Spells .forceClose ""
  | openMenu {name : String} : name ≠ "" → Trimmed name.toList → Spells (.openMenu name) name
  | stop : Spells .stop ""

/-- The word of an action is in lower case, and no colon in it would end it early. -/
theorem word_and_value_eq (action : Action) {value : String} (trimmed : Trimmed value.toList) :
    wordAndValue (action.kind ++ ":" ++ value).toList = (action.kind.toList, value.toList) := by
  have plain : ∀ c ∈ action.kind.toList, (c == ':') = false := by
    cases action <;> simp only [kind] <;> decide
  have small : lower (trim action.kind.toList) = action.kind.toList := by
    cases action <;> simp only [kind] <;> decide
  have cut : cutAt (· == ':') (action.kind.toList ++ ':' :: value.toList) =
      some (action.kind.toList, value.toList) := cut_at_append plain rfl _
  have written : (action.kind ++ ":" ++ value).toList =
      action.kind.toList ++ ':' :: value.toList := by simp
  rw [written, wordAndValue, cut]
  simp only [small, trimmed.trim_eq]

/-- No slash is taken from a command that begins with none. -/
theorem command_text_eq {template : String} (head : template.toList.head? ≠ some '/') :
    commandText template.toList = template := by
  have bare : template.toList.dropWhile (· == '/') = template.toList := by
    refine (drop_while_eq_self_iff _ _).mpr fun c member => ?_
    simp only [beq_eq_false_iff_ne]
    rintro rfl
    exact head member
  rw [commandText, bare, String.ofList_toList]

/-! ## Sounds -/

section Sound

variable {id volume pitch text : String} {volumeNumeral pitchNumeral numeral : Numeral}

theorem Loudness.visible (loudness : Loudness text numeral) :
    ∀ c ∈ text.toList, isBlank c = false := numeral_visible loudness.accepted

theorem Loudness.full (loudness : Loudness text numeral) : text.toList ≠ [] := by
  intro none
  have accepted := loudness.accepted
  rw [none] at accepted
  cases accepted

theorem read_loudness_eq (loudness : Loudness text numeral) (what id : String) :
    readLoudness what id (some text.toList) = pure (Format.single.encode numeral) := by
  have trimmed : trim text.toList = text.toList := (Trimmed.of_visible loudness.visible).trim_eq
  rw [readLoudness, Option.getD_some, trimmed]
  split
  · rename_i none
    exact absurd none loudness.full
  · rw [loudness.accepted]

theorem sound_pieces (idWhole : '-' ∉ id.toList) (volumeLoudness : Loudness volume volumeNumeral)
    (pitchLoudness : Loudness pitch pitchNumeral) :
    pieces (· == '-') (writtenSound id volume pitch).toList =
      [id.toList, volume.toList, pitch.toList] := by
  have written : (writtenSound id volume pitch).toList =
      ['-'].intercalate [id.toList, volume.toList, pitch.toList] := by
    rw [writtenSound, String.toList_intercalate]
    rfl
  rw [written]
  refine pieces_intercalate (List.cons_ne_nil _ _) rfl ?_
  simp only [List.forall_mem_cons, List.not_mem_nil, false_implies, implies_true, and_true,
    beq_eq_false_iff_ne]
  exact ⟨fun c member => ne_of_mem_of_not_mem member idWhole,
    fun c member => ne_of_mem_of_not_mem member volumeLoudness.whole,
    fun c member => ne_of_mem_of_not_mem member pitchLoudness.whole⟩

theorem sound_trimmed (trimmed : Trimmed id.toList) (volumeLoudness : Loudness volume volumeNumeral)
    (pitchLoudness : Loudness pitch pitchNumeral) :
    Trimmed (writtenSound id volume pitch).toList := by
  have written : (writtenSound id volume pitch).toList =
      id.toList ++ '-' :: (volume.toList ++ '-' :: pitch.toList) := by
    simp [writtenSound]
  have numbers : Trimmed (volume.toList ++ '-' :: pitch.toList) :=
    Trimmed.around (Trimmed.of_visible volumeLoudness.visible).head rfl
      (Trimmed.of_visible pitchLoudness.visible).last
  rw [written]
  exact Trimmed.around trimmed.head rfl numbers.last

theorem read_sound_eq (full : id ≠ "") (trimmed : Trimmed id.toList) (whole : '-' ∉ id.toList)
    (capital : upper id.toList = id.toList) (volumeLoudness : Loudness volume volumeNumeral)
    (pitchLoudness : Loudness pitch pitchNumeral) :
    readSound (writtenSound id volume pitch).toList =
      pure (some ⟨id, Format.single.encode volumeNumeral, Format.single.encode pitchNumeral⟩) := by
  have isFull : id.isEmpty = false := by simpa using full
  rw [readSound, sound_pieces whole volumeLoudness pitchLoudness]
  simp [trimmed.trim_eq, capital, isFull, read_loudness_eq volumeLoudness,
    read_loudness_eq pitchLoudness]

end Sound

/-! ## Titles -/

section Title

variable {card : TitleCard} {times : List Nat}

/-- Times within the limit are read back one by one. -/
theorem read_times_eq (within : ∀ time ∈ times, time ≤ limit32) :
    readTimes (times.map fun time => (toString time).toList) = pure (times.map some) := by
  induction times with
  | nil => rfl
  | cons time rest inductionHypothesis =>
    obtain ⟨first, others⟩ := List.forall_mem_cons.mp within
    rw [List.map_cons, readTimes, whole_of_decimal first, inductionHypothesis others]
    rfl

/-- The words that the times of a title are written with. -/
def timeWords (card : TitleCard) : List (List Char) :=
  [card.fadeIn, card.stay, card.fadeOut].map fun time => (toString time).toList

theorem decimal_visible (n : Nat) : ∀ c ∈ (toString n).toList, isBlank c = false := by
  intro c member
  refine digit_visible ?_
  rw [digit_eq (decimal_digits n c member)]
  rfl

theorem time_words_full (card : TitleCard) : ∀ word ∈ timeWords card, word ≠ [] :=
  List.forall_mem_map.mpr fun _ _ => decimal_ne_nil _

theorem time_words_visible (card : TitleCard) :
    ∀ word ∈ timeWords card, ∀ c ∈ word, isBlank c = false :=
  List.forall_mem_map.mpr fun _ _ => decimal_visible _

theorem title_times (card : TitleCard) :
    words ([' '].intercalate (timeWords card)) = timeWords card :=
  words_intercalate (List.cons_ne_nil _ _) (time_words_full card) (time_words_visible card)

theorem times_unquoted (card : TitleCard) :
    Layout.quote ∉ [' '].intercalate (timeWords card) := by
  intro member
  rcases mem_intercalate member with same | ⟨word, isWord, inWord⟩
  · exact absurd same (by decide)
  · obtain ⟨time, _, rfl⟩ := List.mem_map.mp isWord
    exact absurd (decimal_digits time _ inWord) (by decide)

theorem written_title_eq (card : TitleCard) :
    (writtenTitle card).toList = [Layout.quote].intercalate
      [card.title.toList, card.subtitle.toList, [' '].intercalate (timeWords card)] := by
  simp only [writtenTitle, String.toList_intercalate, List.map_cons, List.map_nil, timeWords]
  rfl

theorem title_pieces (title : Caption card.title) (subtitle : Caption card.subtitle) :
    pieces (· == Layout.quote) (writtenTitle card).toList =
      [card.title.toList, card.subtitle.toList, [' '].intercalate (timeWords card)] := by
  rw [written_title_eq]
  refine pieces_intercalate (List.cons_ne_nil _ _) rfl ?_
  simp only [List.forall_mem_cons, List.not_mem_nil, false_implies, implies_true, and_true,
    beq_eq_false_iff_ne]
  exact ⟨fun c member => ne_of_mem_of_not_mem member title.whole,
    fun c member => ne_of_mem_of_not_mem member subtitle.whole,
    fun c member => ne_of_mem_of_not_mem member (times_unquoted card)⟩

theorem title_trimmed (title : Caption card.title) (subtitle : Caption card.subtitle) :
    Trimmed (writtenTitle card).toList := by
  have behind : Trimmed (card.subtitle.toList ++
      Layout.quote :: [' '].intercalate (timeWords card)) :=
    Trimmed.around subtitle.trimmed.head rfl
      (intercalate_trimmed (time_words_full card) (time_words_visible card)).last
  rw [written_title_eq]
  simp only [List.intercalate_cons_cons, List.intercalate_singleton, List.append_assoc,
    List.singleton_append]
  exact Trimmed.around title.trimmed.head rfl behind.last

theorem read_title_eq (title : Caption card.title) (subtitle : Caption card.subtitle)
    (within : ∀ time ∈ [card.fadeIn, card.stay, card.fadeOut], time ≤ limit32) :
    readTitle (writtenTitle card).toList = pure card := by
  have times : readTimes (timeWords card) =
      pure [some card.fadeIn, some card.stay, some card.fadeOut] := read_times_eq within
  rw [readTitle, title_pieces title subtitle]
  simp only [List.getElem?_cons_succ, List.getElem?_cons_zero, Option.getD_some, title_times, times]
  simp [title.trimmed.trim_eq, subtitle.trimmed.trim_eq]

end Title

/-! ## Every kind of action -/

/-- No value that an action can be written with loses anything to trimming. -/
theorem Spells.trimmed {action : Action} {value : String} (spells : Spells action value) :
    Trimmed value.toList := by
  cases spells with
  | tell trimmed => exact trimmed
  | sound full trimmed whole capital volumeLoudness pitchLoudness =>
    exact sound_trimmed trimmed volumeLoudness pitchLoudness
  | title title subtitle fadeIn stay fadeOut => exact title_trimmed title subtitle
  | actionBar trimmed => exact trimmed
  | playerCommand trimmed head => exact trimmed
  | consoleCommand trimmed head => exact trimmed
  | close => decide
  | forceClose => decide
  | openMenu full trimmed => exact trimmed
  | stop => decide

/-- Reading an action that was written gives the action back, without a notice. -/
theorem read_spelled {action : Action} {value : String} (spells : Spells action value) :
    read (action.kind ++ ":" ++ value) = pure (some action) := by
  rw [read, word_and_value_eq action spells.trimmed]
  cases spells with
  | tell trimmed => simp [kind]
  | sound full trimmed whole capital volumeLoudness pitchLoudness =>
    simp [kind, read_sound_eq full trimmed whole capital volumeLoudness pitchLoudness]
  | title title subtitle fadeIn stay fadeOut =>
    simp [kind, read_title_eq title subtitle (by simp [fadeIn, stay, fadeOut])]
  | actionBar trimmed => simp [kind]
  | playerCommand trimmed head => simp [kind, command_text_eq head]
  | consoleCommand trimmed head => simp [kind, command_text_eq head]
  | close => simp [kind]
  | forceClose => simp [kind]
  | openMenu full trimmed => simp [kind, full]
  | stop => simp [kind]

/-- A sound whose numbers are not written with the fewest digits, and whose id has colons. -/
theorem sound_read_back :
    Spells (.sound ⟨"MINECRAFT:UI: CLICK", 0x3F000000, 0x40000000⟩)
      "MINECRAFT:UI: CLICK-0.50-+2E0" ∧
    read "sound:MINECRAFT:UI: CLICK-0.50-+2E0" =
      pure (some (.sound ⟨"MINECRAFT:UI: CLICK", 0x3F000000, 0x40000000⟩)) := by
  have volume : Loudness "0.50" (.finite false 50 (-2)) := ⟨by decide, by decide⟩
  have pitch : Loudness "+2E0" (.finite false 2 0) := ⟨by decide, by decide⟩
  have half : Format.single.encode (.finite false 50 (-2)) = 0x3F000000 := by decide +kernel
  have two : Format.single.encode (.finite false 2 0) = 0x40000000 := by decide +kernel
  have spelled : writtenSound "MINECRAFT:UI: CLICK" "0.50" "+2E0" =
      "MINECRAFT:UI: CLICK-0.50-+2E0" := by decide
  have spells : Spells (.sound ⟨"MINECRAFT:UI: CLICK", 0x3F000000, 0x40000000⟩)
      "MINECRAFT:UI: CLICK-0.50-+2E0" := by
    rw [← spelled, ← half, ← two]
    exact .sound (by decide) (by decide) (by decide) (by decide) volume pitch
  exact ⟨spells, read_spelled spells⟩

end ChestMenu.Action
