import ChestMenu.Action.Reader
import ChestMenu.Condition.Reader
import ChestMenu.Proofs.Notices
import ChestMenu.Proofs.Text.Letters

/-!
# Words and values in any spelling

Actions and conditions are written with a word, a colon and a value. The word may have
letters of either case, and blanks may stand in front of it and around the value. Both
readers then read the same as from the word and the value with only the colon between them,
and give the same notices.

They differ in the blanks between the word and the colon. The word of an action ends at the
colon and is trimmed. The word of a condition ends at the first colon or blank, so behind
a blank the colon belongs to the value. No condition hides a colon of its value: the colons
of the value are those of the texts of the condition. So a condition with a blank in front
of its colon is never the one without it.
-/

namespace ChestMenu

open ChestMenu.Text

/-- A way to write a word with a value: letters of either case, and blanks around the word
and around the value. -/
structure Spelling (word : String) where
  front : String
  letters : String
  gap : String
  before : String
  behind : String
  sameLetters : sameIgnoringAsciiCase letters.toList word.toList = true
  blank : ∀ part ∈ [front, gap, before, behind], isAllBlank part.toList = true

/-- The word with a value behind the colon. -/
def Spelling.text {word : String} (spelling : Spelling word) (value : String) : String :=
  spelling.front ++ spelling.letters ++ spelling.gap ++ ":" ++
    spelling.before ++ value ++ spelling.behind

/-- Neither a colon nor a blank stands in a text. -/
def Plain (cs : List Char) : Prop := ∀ c ∈ cs, (c == ':' || isBlank c) = false

instance (cs : List Char) : Decidable (Plain cs) :=
  inferInstanceAs (Decidable (∀ c ∈ cs, (c == ':' || isBlank c) = false))

namespace Plain

variable {cs : List Char}

theorem visible (plain : Plain cs) : ∀ c ∈ cs, isBlank c = false :=
  fun c member => (Bool.or_eq_false_iff.mp (plain c member)).2

theorem no_colon (plain : Plain cs) : ∀ c ∈ cs, (c == ':') = false :=
  fun c member => (Bool.or_eq_false_iff.mp (plain c member)).1

end Plain

theorem no_colon_of_blank {cs : List Char} (blank : ∀ c ∈ cs, isBlank c = true) :
    ∀ c ∈ cs, (c == ':') = false := by
  intro c member
  rw [beq_eq_false_iff_ne]
  rintro rfl
  exact absurd (blank _ member) (by decide)

namespace Spelling

variable {word : String} (spelling : Spelling word)

theorem blank_front : ∀ c ∈ spelling.front.toList, isBlank c = true := by
  simpa [isAllBlank] using spelling.blank spelling.front (by simp)

theorem blank_gap : ∀ c ∈ spelling.gap.toList, isBlank c = true := by
  simpa [isAllBlank] using spelling.blank spelling.gap (by simp)

theorem blank_before : ∀ c ∈ spelling.before.toList, isBlank c = true := by
  simpa [isAllBlank] using spelling.blank spelling.before (by simp)

theorem blank_behind : ∀ c ∈ spelling.behind.toList, isBlank c = true := by
  simpa [isAllBlank] using spelling.blank spelling.behind (by simp)

theorem text_to_list (value : String) :
    (spelling.text value).toList = spelling.front.toList ++ spelling.letters.toList ++
      spelling.gap.toList ++
        ':' :: (spelling.before.toList ++ value.toList ++ spelling.behind.toList) := by
  simp [text]

/-- The letters of a plain word are plain. -/
theorem plain (plain : Plain word.toList) : Plain spelling.letters.toList := by
  have keeps : ∀ c : Char, (c.toLower == ':' || isBlank c.toLower) = (c == ':' || isBlank c) :=
    eq_at_to_lower (fun c => c == ':' || isBlank c) (by decide)
  exact fails_of_same keeps spelling.sameLetters plain

theorem lower_letters : lower spelling.letters.toList = lower word.toList :=
  lower_eq_of_same spelling.sameLetters

theorem letters_length : spelling.letters.toList.length = word.toList.length := by
  simpa using congrArg List.length (same_ignoring_case_iff.mp spelling.sameLetters)

theorem trim_value (value : String) :
    trim (spelling.before.toList ++ value.toList ++ spelling.behind.toList) = trim value.toList :=
  trim_padded spelling.blank_before spelling.blank_behind _

end Spelling

/-! ## Actions -/

namespace Action

/-- The words of actions. -/
def typeWords : List String :=
  ["tell", "sound", "title", "actionbar", "command", "console", "close", "force-close", "open",
    "return"]

theorem type_words_plain : ∀ word ∈ typeWords, Plain word.toList := by decide

theorem mem_type_words_iff {word : String} :
    word ∈ typeWords ↔ ∃ action : Action, action.kind = word := by
  constructor
  · intro member
    simp only [typeWords, List.mem_cons, List.not_mem_nil, or_false] at member
    rcases member with rfl | rfl | rfl | rfl | rfl | rfl | rfl | rfl | rfl | rfl
    · exact ⟨.tell "", rfl⟩
    · exact ⟨.sound ⟨"", 0, 0⟩, rfl⟩
    · exact ⟨.title ⟨"", "", 0, 0, 0⟩, rfl⟩
    · exact ⟨.actionBar "", rfl⟩
    · exact ⟨.playerCommand "", rfl⟩
    · exact ⟨.consoleCommand "", rfl⟩
    · exact ⟨.close, rfl⟩
    · exact ⟨.forceClose, rfl⟩
    · exact ⟨.openMenu "", rfl⟩
    · exact ⟨.stop, rfl⟩
  · rintro ⟨action, rfl⟩
    cases action <;> simp [typeWords, kind]

/-- Any other word is reported. -/
theorem read_unknown {raw : String}
    (unknown : String.ofList (wordAndValue raw.toList).1 ∉ typeWords) :
    read raw = (do
      Noted.note .warn s!"Unknown action type: {String.ofList (wordAndValue raw.toList).1}"
      pure none) := by
  cases cut : wordAndValue raw.toList with
  | mk letters value =>
  rw [cut] at unknown
  simp only [read, cut]
  generalize String.ofList letters = word at unknown
  split
  case h_11 => rfl
  -- the other cases are the recognised words
  all_goals exact absurd (by simp [typeWords]) unknown

/-- What is read depends on the word and the value alone. -/
theorem read_congr {left right : String}
    (same : wordAndValue left.toList = wordAndValue right.toList) : read left = read right := by
  rw [read, read, same]

theorem word_and_value_spelled {word : String} (plain : Plain word.toList)
    (spelling : Spelling word) (value : String) :
    wordAndValue (spelling.text value).toList = (lower word.toList, trim value.toList) := by
  have noColon : ∀ c ∈ spelling.front.toList ++ spelling.letters.toList ++ spelling.gap.toList,
      (c == ':') = false := by
    simp only [List.forall_mem_append]
    exact ⟨⟨no_colon_of_blank spelling.blank_front, (spelling.plain plain).no_colon⟩,
      no_colon_of_blank spelling.blank_gap⟩
  have bare : trim spelling.letters.toList = spelling.letters.toList :=
    (Trimmed.of_visible (spelling.plain plain).visible).trim_eq
  rw [spelling.text_to_list, wordAndValue, cut_at_append noColon (by simp)]
  simp only [trim_padded spelling.blank_front spelling.blank_gap, bare, spelling.lower_letters,
    spelling.trim_value]

end Action

/-! ## Conditions -/

namespace Condition

/-- The words of conditions that are no lists. -/
def typeWords : List String := ["permission", "perm", "placeholder", "papi", "check"]

theorem type_words_plain : ∀ word ∈ typeWords, Plain word.toList := by decide

theorem type_words_small : ∀ word ∈ typeWords, lower word.toList = word.toList := by decide

/-- The words of conditions are longer than those of lists and begin differently. -/
theorem type_words_begin :
    ∀ word ∈ typeWords, 3 ≤ word.toList.length ∧ quantity? (word.toList.take 3) = none := by
  decide

theorem quantity_of_same {left right : List Char}
    (same : sameIgnoringAsciiCase left right = true) : quantity? left = quantity? right := by
  simp only [quantity?, sameIgnoringAsciiCase, same_ignoring_case_iff.mp same, beq_iff_eq]

/-- A text that is no list is trimmed and read as a word with a value. -/
theorem read_of_single {raw : String} (full : trim raw.toList ≠ [])
    (noList : compound? (trim raw.toList) = none) : read raw = readSingle (trim raw.toList) := by
  have some : (trim raw.toList).isEmpty = false := by simpa using full
  simp only [read, readWithin, some, noList, Bool.false_eq_true, if_false]

/-- What is read depends on the word and the value alone. -/
theorem read_single_congr {left right : List Char} (same : wordAndValue left = wordAndValue right) :
    readSingle left = readSingle right := by
  rw [readSingle, readSingle, same]

section Spelled

variable {word : String} (member : word ∈ typeWords) (spelling : Spelling word) (value : String)

include member

theorem letters_not_nil : spelling.letters.toList ≠ [] := by
  have long := (type_words_begin word member).1
  rw [← spelling.letters_length] at long
  exact List.ne_nil_of_length_pos (by omega)

/-- Only the blanks at the ends are trimmed from a spelling. -/
theorem trim_spelled :
    trim (spelling.text value).toList = spelling.letters.toList ++ (spelling.gap.toList ++
      ':' :: trimEnd (spelling.before.toList ++ value.toList ++ spelling.behind.toList)) := by
  have visible := (spelling.plain (type_words_plain word member)).visible
  have head : ∀ rest, trimStart (spelling.letters.toList ++ rest) =
      spelling.letters.toList ++ rest := by
    intro rest
    refine (drop_while_eq_self_iff _ _).mpr fun c isHead => visible c ?_
    rw [List.head?_append_of_ne_nil _ (letters_not_nil member spelling)] at isHead
    exact List.mem_of_mem_head? isHead
  rw [spelling.text_to_list, trim, List.append_assoc, List.append_assoc,
    trim_start_append spelling.blank_front, head, ← List.append_assoc,
    trim_end_append_cons (by decide), List.append_assoc]

theorem compound_spelled (rest : List Char) :
    compound? (spelling.letters.toList ++ rest) = none := by
  obtain ⟨long, noQuantity⟩ := type_words_begin word member
  rw [← spelling.letters_length] at long
  have same :
      sameIgnoringAsciiCase (spelling.letters.toList.take 3) (word.toList.take 3) = true := by
    rw [same_ignoring_case_iff, List.map_take, List.map_take,
      same_ignoring_case_iff.mp spelling.sameLetters]
  rw [compound?, List.take_append_of_le_length long, quantity_of_same same, noQuantity]

theorem read_spelling :
    read (spelling.text value) = readSingle (trim (spelling.text value).toList) := by
  apply read_of_single
  · rw [trim_spelled member]
    simp
  · rw [trim_spelled member]
    exact compound_spelled member spelling _

/-- Without blanks in front of the colon it ends the word. -/
theorem word_and_value_at_colon (noGap : spelling.gap = "") :
    wordAndValue (trim (spelling.text value).toList) = (lower word.toList, trim value.toList) := by
  have plain := spelling.plain (type_words_plain word member)
  rw [trim_spelled member, noGap, String.toList_empty, List.nil_append, wordAndValue,
    cut_at_append plain (by decide)]
  simp only [spelling.lower_letters, trim_trim_end, spelling.trim_value]

/-- A blank in front of the colon ends the word, and the value begins with the colon. -/
theorem word_and_value_at_blank (hasGap : spelling.gap ≠ "") :
    wordAndValue (trim (spelling.text value).toList) = (lower word.toList,
      ':' :: trimEnd (spelling.before.toList ++ value.toList ++ spelling.behind.toList)) := by
  have plain := spelling.plain (type_words_plain word member)
  obtain ⟨blank, rest, split⟩ : ∃ blank rest, spelling.gap.toList = blank :: rest :=
    List.exists_cons_of_ne_nil (by simpa using hasGap)
  have blanks := spelling.blank_gap
  rw [split] at blanks
  obtain ⟨isBlankHere, blankRest⟩ := List.forall_mem_cons.mp blanks
  rw [trim_spelled member, split, List.cons_append, wordAndValue,
    cut_at_append plain (by simp [isBlankHere])]
  have nothingMore : trimEnd (trimEnd (spelling.before.toList ++ value.toList ++
      spelling.behind.toList)) =
        trimEnd (spelling.before.toList ++ value.toList ++ spelling.behind.toList) :=
    List.rdropWhile_idempotent _ _
  have colonFirst : ∀ back, trimStart (':' :: back) = ':' :: back := fun _ => rfl
  have colonKept : ∀ back, trimEnd (':' :: back) = ':' :: trimEnd back :=
    trim_end_append_cons (by decide) []
  simp only [spelling.lower_letters, trim, trim_start_append blankRest, colonFirst, colonKept,
    nothingMore]

end Spelled

/-! ### The colons of a value -/

/-- The number of colons in the texts of a condition that is no list. -/
def colons : Condition → Nat
  | .permission name => name.toList.count ':'
  | .placeholder key => key.toList.count ':'
  | .comparison compared => compared.left.toList.count ':' + compared.right.toList.count ':'
  | .all _ => 0
  | .any _ => 0

theorem sign_of_of_sign {sign : List Char} {relation : Relation}
    (found : Relation.ofSign? sign = some relation) : sign = relation.sign.toList := by
  have same := List.find?_some found
  exact (beq_iff_eq.mp same).symm

/-- A comparison is made of all of its text but the sign and the blanks. -/
theorem comparison_colons (raw : List Char) :
    (Condition.comparison (Comparison.read raw)).colons = raw.count ':' := by
  have malformed : (Condition.comparison ⟨String.ofList (trim raw), none, ""⟩).colons =
      raw.count ':' := by
    simp [colons, count_trim (show isBlank ':' = false by decide)]
  have shown : (words raw).flatten.count ':' = raw.count ':' := by
    rw [flatten_words, List.count_filter (by decide)]
  rw [Comparison.read]
  split
  · rename_i left sign right threeWords
    rw [threeWords] at shown
    cases found : Relation.ofSign? sign with
    | none => exact malformed
    | some relation =>
      have noColon : sign.count ':' = 0 := by
        rw [sign_of_of_sign found]
        cases relation <;> decide
      simpa [colons, noColon] using shown
  · exact malformed

/-- The condition of a recognised word has the colons of its value. -/
theorem colons_kept {word : String} (member : word ∈ typeWords) {cs value : List Char}
    (cut : wordAndValue cs = (word.toList, value)) :
    ∃ condition, (readSingle cs).value = some condition ∧
      condition.colons = value.count ':' := by
  have keyColons : (withoutPercents value).count ':' = value.count ':' := by
    rw [withoutPercents, count_drop_end (by decide), count_drop_while (by decide)]
  simp only [typeWords, List.mem_cons, List.not_mem_nil, or_false] at member
  rw [readSingle, cut]
  rcases member with rfl | rfl | rfl | rfl | rfl
  · exact ⟨.permission (String.ofList value), by simp, by simp [colons]⟩
  · exact ⟨.permission (String.ofList value), by simp, by simp [colons]⟩
  · exact ⟨.placeholder (String.ofList (withoutPercents value)), by simp,
      by simp [colons, keyColons]⟩
  · exact ⟨.placeholder (String.ofList (withoutPercents value)), by simp,
      by simp [colons, keyColons]⟩
  · refine ⟨.comparison (Comparison.read value), ?_, comparison_colons value⟩
    by_cases signed : (Comparison.read value).relation = none <;> simp [signed]

/-- Any other word is reported. -/
theorem read_single_unknown {cs : List Char}
    (unknown : String.ofList (wordAndValue cs).1 ∉ typeWords) :
    readSingle cs = (do
      Noted.note .warn s!"Unknown condition type: {String.ofList (wordAndValue cs).1}"
      pure none) := by
  have differs : ∀ word ∈ typeWords, (wordAndValue cs).1 ≠ word.toList := by
    rintro word member same
    rw [same, String.ofList_toList] at unknown
    exact unknown member
  simp only [typeWords, List.forall_mem_cons, List.not_mem_nil, false_implies, implies_true,
    and_true] at differs
  obtain ⟨permission, perm, placeholder, papi, check⟩ := differs
  simp only [readSingle, permission, perm, placeholder, papi, check, or_self, if_false]

/-- A single condition is read exactly when its word is one of the recognised ones. -/
theorem read_single_some_iff (cs : List Char) :
    (readSingle cs).value.isSome = true ↔ String.ofList (wordAndValue cs).1 ∈ typeWords := by
  constructor
  · intro read
    by_contra unknown
    rw [read_single_unknown unknown] at read
    cases read
  · intro member
    have cut : wordAndValue cs =
        ((String.ofList (wordAndValue cs).1).toList, (wordAndValue cs).2) := by
      rw [String.toList_ofList]
    obtain ⟨condition, found, -⟩ := colons_kept member cut
    rw [found, Option.isSome_some]

end Condition

/-! ## Both readers -/

/-- A word with nothing around it. -/
def Spelling.bare (word : String) : Spelling word where
  front := ""
  letters := word
  gap := ""
  before := ""
  behind := ""
  sameLetters := by simp [sameIgnoringAsciiCase]
  blank := by simp [isAllBlank]

theorem Spelling.bare_text (word value : String) :
    (Spelling.bare word).text value = word ++ ":" ++ value := by
  simp [text, bare]

theorem Action.read_spelling {word : String} (plain : Plain word.toList) (spelling : Spelling word)
    (value : String) : Action.read (spelling.text value) = Action.read (word ++ ":" ++ value) := by
  apply Action.read_congr
  rw [← Spelling.bare_text, Action.word_and_value_spelled plain,
    Action.word_and_value_spelled plain]

/-- A condition is read as from its bare word and its value exactly if no blank stands in
front of the colon. -/
theorem Condition.read_spelling_iff {word : String} (member : word ∈ Condition.typeWords)
    (spelling : Spelling word) (value : String) :
    Condition.read (spelling.text value) = Condition.read (word ++ ":" ++ value) ↔
      spelling.gap = "" := by
  have small : lower word.toList = word.toList := Condition.type_words_small word member
  have bare := Condition.word_and_value_at_colon member (Spelling.bare word) value rfl
  rw [← Spelling.bare_text, Condition.read_spelling member, Condition.read_spelling member]
  constructor
  · intro same
    by_contra hasGap
    have atBlank := Condition.word_and_value_at_blank member spelling value hasGap
    rw [small] at bare atBlank
    obtain ⟨condition, found, colons⟩ := Condition.colons_kept member atBlank
    obtain ⟨bareCondition, bareFound, bareColons⟩ := Condition.colons_kept member bare
    rw [same, bareFound, Option.some.injEq] at found
    have oneMore := bareColons.symm.trans ((congrArg Condition.colons found).trans colons)
    have keptByEnd : ∀ cs, (trimEnd cs).count ':' = cs.count ':' :=
      count_drop_end (by decide)
    have keptByTrim : ∀ cs, (trim cs).count ':' = cs.count ':' := count_trim (by decide)
    simp only [List.count_cons_self, keptByTrim, keptByEnd, List.count_append] at oneMore
    omega
  · intro noGap
    apply Condition.read_single_congr
    rw [Condition.word_and_value_at_colon member spelling value noGap, bare]

/-- Every spelling of a recognised word with a value is read like the bare word with the
value, by both readers. Only a condition needs the colon directly behind its word. -/
theorem spellings_read_alike {word : String} (spelling : Spelling word) (value : String) :
    (word ∈ Action.typeWords →
      Action.read (spelling.text value) = Action.read (word ++ ":" ++ value)) ∧
    (word ∈ Condition.typeWords →
      (Condition.read (spelling.text value) = Condition.read (word ++ ":" ++ value) ↔
        spelling.gap = "")) :=
  ⟨fun member => Action.read_spelling (Action.type_words_plain word member) spelling value,
    fun member => Condition.read_spelling_iff member spelling value⟩

/-- An action with blanks wherever they may stand. -/
def Spelling.spacedTell : Spelling "tell" where
  front := " \t"
  letters := "TeLL"
  gap := "\n "
  before := "  "
  behind := " "
  sameLetters := by decide
  blank := by decide

/-- A condition with blanks around its text and its value. -/
def Spelling.spacedPerm : Spelling "perm" where
  front := " "
  letters := "PerM"
  gap := ""
  before := "\t"
  behind := " "
  sameLetters := by decide
  blank := by decide

/-- A condition with a blank in front of the colon. -/
def Spelling.lateColon : Spelling "perm" where
  front := ""
  letters := "perm"
  gap := " "
  before := " "
  behind := ""
  sameLetters := by decide
  blank := by decide

/-- Blanks and letters that make no difference to an action and to a condition, and a value
with a colon and blanks in it. -/
theorem spaced_read_alike :
    Action.read " \tTeLL\n :  hi: you  " = Action.read "tell:hi: you " ∧
    Condition.read " PerM:\tvip: gold " = Condition.read "perm:vip: gold" ∧
    Condition.read "perm : vip" ≠ Condition.read "perm:vip" := by
  have tell := (spellings_read_alike Spelling.spacedTell "hi: you ").1 (by decide)
  have perm := (spellings_read_alike Spelling.spacedPerm "vip: gold").2 (by decide)
  have late := (spellings_read_alike Spelling.lateColon "vip").2 (by decide)
  exact ⟨tell, perm.mpr rfl, fun same => absurd (late.mp same) (by decide)⟩

/-- Behind a blank the colon belongs to the value, and the condition asks for a permission
whose name begins with it. -/
theorem late_colon_kept :
    Spelling.lateColon.text "vip" = "perm : vip" ∧
    Condition.read (Spelling.lateColon.text "vip") = pure (some (.permission ": vip")) ∧
    Condition.read ("perm" ++ ":" ++ "vip") = pure (some (.permission "vip")) ∧
    Condition.read (Spelling.lateColon.text "vip") ≠ Condition.read ("perm" ++ ":" ++ "vip") := by
  have late : Condition.read (Spelling.lateColon.text "vip") =
      pure (some (.permission ": vip")) := by
    rfl
  have bare : Condition.read ("perm" ++ ":" ++ "vip") = pure (some (.permission "vip")) := by
    rfl
  refine ⟨by decide, late, bare, ?_⟩
  rw [late, bare]
  intro same
  simpa using congrArg Noted.value same

end ChestMenu
