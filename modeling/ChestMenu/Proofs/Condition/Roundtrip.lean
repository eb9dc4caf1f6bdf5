import ChestMenu.Condition.Printer
import ChestMenu.Condition.Reader
import ChestMenu.Proofs.Notices
import ChestMenu.Proofs.Text.Cuts

/-!
# Conditions are read as they are written

The texts inside a condition may contain anything but brackets and semicolons, which have
a meaning in lists of conditions. Reading what is written then gives the condition back,
however deep the lists lie in each other, and gives no notice.

The parts of a list are found again because no written condition is cut: all of its
semicolons stand between brackets of its own, and behind it the reader is at the same
depth as before it.
-/

namespace ChestMenu.Condition

open ChestMenu.Text

/-! ## Conditions that can be written -/

/-- Nothing in a text has a meaning in lists of conditions. -/
def Unmarked (cs : List Char) : Prop := ∀ c ∈ cs, c ≠ '[' ∧ c ≠ ']' ∧ c ≠ ';'

instance (cs : List Char) : Decidable (Unmarked cs) :=
  inferInstanceAs (Decidable (∀ c ∈ cs, c ≠ '[' ∧ c ≠ ']' ∧ c ≠ ';'))

/-- A text that can stand on a side of a comparison. -/
structure Operand (text : String) : Prop where
  some : text ≠ ""
  visible : ∀ c ∈ text.toList, isBlank c = false
  unmarked : Unmarked text.toList

/-- A condition that can be written so that nothing in it is taken for something else. -/
inductive Writable : Condition → Prop where
  | permission {name : String} : Unmarked name.toList → Trimmed name.toList →
      Writable (.permission name)
  | placeholder {key : String} : Unmarked key.toList → Trimmed key.toList →
      key.toList.head? ≠ some '%' → key.toList.getLast? ≠ some '%' → Writable (.placeholder key)
  | comparison {left right : String} (relation : Relation) : Operand left → Operand right →
      Writable (.comparison ⟨left, some relation, right⟩)
  | all {parts : List Condition} : (∀ part ∈ parts, Writable part) → Writable (.all parts)
  | any {parts : List Condition} : (∀ part ∈ parts, Writable part) → Writable (.any parts)

/-- A condition in writing, character by character. -/
def spelling (condition : Condition) : List Char := (written condition).toList

/-- The word in front of the brackets of a list. -/
def Quantity.word : Quantity → List Char
  | .each => "all".toList
  | .oneOf => "any".toList

theorem written_parts_eq (parts : List Condition) : writtenParts parts = parts.map written := by
  induction parts with
  | nil => rfl
  | cons part rest inductionHypothesis => rw [writtenParts, inductionHypothesis, List.map_cons]

theorem spelling_list (quantity : Quantity) (parts : List Condition) :
    spelling (quantity.of parts) =
      quantity.word ++ '[' :: ([';'].intercalate (parts.map spelling) ++ [']']) := by
  have inside : (";".intercalate (parts.map written)).toList =
      [';'].intercalate (parts.map spelling) := by
    rw [String.toList_intercalate, List.map_map]
    rfl
  cases quantity <;>
    simp [spelling, Quantity.of, Quantity.word, written, written_parts_eq, ← inside]

theorem spelling_permission (name : String) :
    spelling (.permission name) = "perm".toList ++ ':' :: name.toList := by
  simp [spelling, written]

theorem spelling_placeholder (key : String) :
    spelling (.placeholder key) = "papi".toList ++ ':' :: key.toList := by
  simp [spelling, written]

/-- The words that a comparison is written with. -/
def comparisonWords (left right : String) (relation : Relation) : List (List Char) :=
  [left.toList, relation.sign.toList, right.toList]

theorem spelling_comparison (left right : String) (relation : Relation) :
    spelling (.comparison ⟨left, some relation, right⟩) =
      "check".toList ++ ':' :: [' '].intercalate (comparisonWords left right relation) := by
  simp [spelling, written, writtenComparison, comparisonWords]

/-! ## Texts that are not cut -/

/-- Reading a text at a depth cuts it nowhere and comes back to that depth. -/
def Uncut (depth : Nat) (cs : List Char) : Prop :=
  ∀ rest, outerPieces depth (cs ++ rest) = (outerPieces depth rest).modifyHead (cs ++ ·)

theorem outer_pieces_ne_nil (depth : Nat) (cs : List Char) : outerPieces depth cs ≠ [] := by
  cases cs with
  | nil => simp [outerPieces]
  | cons c rest =>
    unfold outerPieces
    split
    · exact List.cons_ne_nil _ _
    · split <;> exact List.cons_ne_nil _ _

theorem outer_pieces_cons {depth : Nat} {c : Char} (goesOn : ¬ (c = ';' ∧ depth = 0))
    (rest : List Char) :
    outerPieces depth (c :: rest) =
      (outerPieces (depthAfter depth c) rest).modifyHead (c :: ·) := by
  rw [outerPieces, if_neg goesOn]
  cases pieces : outerPieces (depthAfter depth c) rest with
  | nil => exact absurd pieces (outer_pieces_ne_nil _ _)
  | cons first others => rfl

namespace Uncut

variable {depth : Nat} {cs : List Char} {texts : List (List Char)}

theorem nil (depth : Nat) : Uncut depth [] := by
  intro rest
  cases pieces : outerPieces depth rest with
  | nil => exact absurd pieces (outer_pieces_ne_nil _ _)
  | cons first others => simp [pieces]

theorem append {front back : List Char} (first : Uncut depth front) (second : Uncut depth back) :
    Uncut depth (front ++ back) := by
  intro rest
  rw [List.append_assoc, first, second, List.modifyHead_modifyHead]
  simp only [Function.comp_def, List.append_assoc]

/-- A character that opens and closes nothing. -/
theorem single {c : Char} (same : depthAfter depth c = depth)
    (goesOn : ¬ (c = ';' ∧ depth = 0)) : Uncut depth [c] := by
  intro rest
  rw [List.singleton_append, outer_pieces_cons goesOn, same]
  rfl

/-- A text without brackets and semicolons is cut at no depth. -/
theorem of_unmarked (unmarked : Unmarked cs) (depth : Nat) :
    Uncut depth cs := by
  induction cs with
  | nil => exact nil depth
  | cons c rest inductionHypothesis =>
    obtain ⟨⟨opens, closes, cuts⟩, others⟩ := List.forall_mem_cons.mp unmarked
    have alone : Uncut depth [c] :=
      single (by simp [depthAfter, opens, closes]) fun both => cuts both.1
    exact alone.append (inductionHypothesis others)

/-- Between brackets semicolons cut nothing. -/
theorem joined (uncut : ∀ text ∈ texts, Uncut (depth + 1) text) :
    Uncut (depth + 1) ([';'].intercalate texts) := by
  have semicolon : Uncut (depth + 1) [';'] := single rfl (by simp)
  induction texts with
  | nil => exact nil _
  | cons first rest inductionHypothesis =>
    obtain ⟨head, others⟩ := List.forall_mem_cons.mp uncut
    cases rest with
    | nil =>
      rw [List.intercalate_singleton]
      exact head
    | cons second later =>
      rw [List.intercalate_cons_cons]
      exact (head.append semicolon).append (inductionHypothesis others)

/-- What is not cut one bracket deeper is not cut with brackets around it. -/
theorem bracketed (inside : Uncut (depth + 1) cs) : Uncut depth ('[' :: (cs ++ [']'])) := by
  intro rest
  have opens : depthAfter depth '[' = depth + 1 := rfl
  have closes : depthAfter (depth + 1) ']' = depth := rfl
  rw [List.cons_append, List.append_assoc, List.singleton_append,
    outer_pieces_cons (by simp), opens, inside, outer_pieces_cons (by simp), closes]
  simp only [List.modifyHead_modifyHead, Function.comp_def, List.cons_append, List.append_assoc,
    List.nil_append]

end Uncut

/-- Uncut texts with semicolons between them are cut into these texts. -/
theorem outer_pieces_intercalate {texts : List (List Char)} (some : texts ≠ [])
    (uncut : ∀ text ∈ texts, Uncut 0 text) : outerPieces 0 ([';'].intercalate texts) = texts := by
  induction texts with
  | nil => exact absurd rfl some
  | cons first rest inductionHypothesis =>
    obtain ⟨head, others⟩ := List.forall_mem_cons.mp uncut
    cases rest with
    | nil =>
      have whole := head []
      simpa [outerPieces] using whole
    | cons second later =>
      have later := inductionHypothesis (List.cons_ne_nil _ _) others
      rw [List.intercalate_cons_cons, List.append_assoc, head, List.singleton_append]
      simp [outerPieces, later]

/-! ## Reading lists -/

/-- A text that can be a part of a list. -/
structure Whole (cs : List Char) : Prop where
  some : cs ≠ []
  trimmed : Trimmed cs
  uncut : ∀ depth, Uncut depth cs

theorem parts_intercalate {texts : List (List Char)} (whole : ∀ text ∈ texts, Whole text) :
    parts ([';'].intercalate texts) = texts := by
  cases texts with
  | nil => rfl
  | cons first rest =>
    rw [parts, outer_pieces_intercalate (List.cons_ne_nil _ _)
      fun text member => (whole text member).uncut 0]
    have trimmed : (first :: rest).map trim = first :: rest := by
      refine List.map_congr_left (fun text member => ?_) |>.trans (List.map_id _)
      exact (whole text member).trimmed.trim_eq
    rw [trimmed, List.filter_eq_self]
    intro text member
    simpa using (whole text member).some

theorem compound_list (quantity : Quantity) (body : List Char) :
    compound? (quantity.word ++ '[' :: (body ++ [']'])) = some (quantity, body) := by
  have before : beforeLast? ']' (body ++ [']']) = some body := by
    simp [beforeLast?]
  cases quantity with
  | each =>
    change (beforeLast? ']' (body ++ [']'])).map (Quantity.each, ·) = _
    rw [before, Option.map_some]
  | oneOf =>
    change (beforeLast? ']' (body ++ [']'])).map (Quantity.oneOf, ·) = _
    rw [before, Option.map_some]

theorem compound_none {cs : List Char} (other : quantity? (cs.take 3) = none) :
    compound? cs = none := by
  rw [compound?, other]

/-- A condition that is no list is read as a word with a value. -/
theorem read_within_single {cs : List Char} {depth : Nat} (whole : Whole cs)
    (noList : quantity? (cs.take 3) = none) (deep : cs.length < depth) :
    readWithin depth cs = readSingle cs := by
  obtain ⟨below, rfl⟩ : ∃ below, depth = below + 1 := ⟨depth - 1, by omega⟩
  have full : cs.isEmpty = false := by simpa using whole.some
  simp only [readWithin, whole.trimmed.trim_eq, full, compound_none noList, Bool.false_eq_true,
    if_false]

/-- A list is read by reading its parts. -/
theorem read_within_list (quantity : Quantity) {texts : List (List Char)}
    (whole : Whole (quantity.word ++ '[' :: ([';'].intercalate texts ++ [']'])))
    (wholeParts : ∀ text ∈ texts, Whole text) (depth : Nat) :
    readWithin (depth + 1) (quantity.word ++ '[' :: ([';'].intercalate texts ++ [']'])) = (do
      let conditions ← Noted.gather (readWithin depth) texts
      pure (some (quantity.of conditions))) := by
  have full : (quantity.word ++ '[' :: ([';'].intercalate texts ++ [']'])).isEmpty = false := by
    simp
  rw [readWithin, whole.trimmed.trim_eq]
  simp only [full, compound_list, parts_intercalate wholeParts, Bool.false_eq_true, if_false]

/-! ## Reading words with values -/

theorem word_and_value_eq {word value : List Char}
    (plain : ∀ c ∈ word, (c == ':' || isBlank c) = false) (small : lower word = word)
    (trimmed : Trimmed value) : wordAndValue (word ++ ':' :: value) = (word, value) := by
  have cut : cutAt (fun c => c == ':' || isBlank c) (word ++ ':' :: value) = some (word, value) :=
    cut_at_append plain rfl value
  rw [wordAndValue, cut]
  simp only [small, trimmed.trim_eq]

/-- A key is left alone when no percent sign stands at either end. -/
theorem without_percents_eq {cs : List Char} (head : cs.head? ≠ some '%')
    (last : cs.getLast? ≠ some '%') : withoutPercents cs = cs := by
  have atFront : cs.dropWhile (· == '%') = cs := by
    refine (drop_while_eq_self_iff _ cs).mpr fun c member => beq_eq_false_iff_ne.mpr ?_
    rintro rfl
    exact head member
  have atEnd : (cs.reverse.dropWhile (· == '%')).reverse = cs := by
    refine (drop_end_eq_self_iff _ cs).mpr fun c member => beq_eq_false_iff_ne.mpr ?_
    rintro rfl
    exact last member
  rw [withoutPercents, atFront, atEnd]

theorem read_permission {name : String} (trimmed : Trimmed name.toList) :
    readSingle (spelling (.permission name)) = pure (some (.permission name)) := by
  have cut : wordAndValue ("perm".toList ++ ':' :: name.toList) = ("perm".toList, name.toList) :=
    word_and_value_eq (by decide) (by decide) trimmed
  rw [spelling_permission, readSingle, cut]
  simp

theorem read_placeholder {key : String} (trimmed : Trimmed key.toList)
    (head : key.toList.head? ≠ some '%') (last : key.toList.getLast? ≠ some '%') :
    readSingle (spelling (.placeholder key)) = pure (some (.placeholder key)) := by
  have cut : wordAndValue ("papi".toList ++ ':' :: key.toList) = ("papi".toList, key.toList) :=
    word_and_value_eq (by decide) (by decide) trimmed
  rw [spelling_placeholder, readSingle, cut]
  simp [without_percents_eq head last]

/-- The signs of relations are words that tell them apart. -/
theorem of_sign_sign (relation : Relation) :
    Relation.ofSign? relation.sign.toList = some relation := by
  cases relation <;> decide

theorem sign_visible (relation : Relation) : ∀ c ∈ relation.sign.toList, isBlank c = false := by
  cases relation <;> decide

theorem Operand.full {text : String} (operand : Operand text) : text.toList ≠ [] := by
  simpa using operand.some

section Comparison

variable {left right : String} {relation : Relation}

theorem comparison_words_full (leftOperand : Operand left) (rightOperand : Operand right) :
    ∀ word ∈ comparisonWords left right relation, word ≠ [] := by
  have signed : relation.sign.toList ≠ [] := by cases relation <;> decide
  simp [comparisonWords, leftOperand.full, rightOperand.full, signed]

theorem comparison_words_visible (leftOperand : Operand left) (rightOperand : Operand right) :
    ∀ word ∈ comparisonWords left right relation, ∀ c ∈ word, isBlank c = false := by
  simp only [comparisonWords, List.forall_mem_cons, List.not_mem_nil, false_implies, implies_true,
    and_true]
  exact ⟨leftOperand.visible, sign_visible relation, rightOperand.visible⟩

theorem comparison_words_trimmed (leftOperand : Operand left) (rightOperand : Operand right) :
    Trimmed ([' '].intercalate (comparisonWords left right relation)) :=
  intercalate_trimmed (comparison_words_full leftOperand rightOperand)
    (comparison_words_visible leftOperand rightOperand)

theorem read_words (leftOperand : Operand left) (rightOperand : Operand right) :
    Comparison.read ([' '].intercalate (comparisonWords left right relation)) =
      ⟨left, some relation, right⟩ := by
  have found : words ([' '].intercalate (comparisonWords left right relation)) =
      comparisonWords left right relation :=
    words_intercalate (List.cons_ne_nil _ _) (comparison_words_full leftOperand rightOperand)
      (comparison_words_visible leftOperand rightOperand)
  rw [Comparison.read, found]
  simp only [comparisonWords, of_sign_sign, String.ofList_toList]

theorem read_comparison (leftOperand : Operand left) (rightOperand : Operand right) :
    readSingle (spelling (.comparison ⟨left, some relation, right⟩)) =
      pure (some (.comparison ⟨left, some relation, right⟩)) := by
  have cut : wordAndValue ("check".toList ++
        ':' :: [' '].intercalate (comparisonWords left right relation)) =
      ("check".toList, [' '].intercalate (comparisonWords left right relation)) :=
    word_and_value_eq (by decide) (by decide) (comparison_words_trimmed leftOperand rightOperand)
  rw [spelling_comparison, readSingle, cut]
  simp [read_words leftOperand rightOperand]

end Comparison

/-! ## Written conditions -/

/-- A word with a value can be a part of a list when neither has brackets or semicolons. -/
theorem Whole.single {word value : List Char} (wordTrimmed : Trimmed word)
    (plain : Unmarked word) (unmarked : Unmarked value)
    (last : ∀ c ∈ value.getLast?, isBlank c = false) : Whole (word ++ ':' :: value) where
  some := by simp
  trimmed := Trimmed.around wordTrimmed.head rfl last
  uncut := by
    refine Uncut.of_unmarked fun c member => ?_
    rcases List.mem_append.mp member with inWord | inValue
    · exact plain c inWord
    · rcases List.mem_cons.mp inValue with rfl | inText
      · decide
      · exact unmarked c inText

theorem comparison_words_unmarked {left right : String} (relation : Relation)
    (leftOperand : Operand left) (rightOperand : Operand right) :
    Unmarked ([' '].intercalate (comparisonWords left right relation)) := by
  have sign : Unmarked relation.sign.toList := by cases relation <;> decide
  intro c member
  rcases mem_intercalate member with rfl | ⟨word, isWord, inWord⟩
  · decide
  · simp only [comparisonWords, List.mem_cons, List.not_mem_nil, or_false] at isWord
    rcases isWord with rfl | rfl | rfl
    · exact leftOperand.unmarked c inWord
    · exact sign c inWord
    · exact rightOperand.unmarked c inWord

/-- A list of whole texts is whole. -/
theorem Whole.list (quantity : Quantity) {texts : List (List Char)}
    (whole : ∀ text ∈ texts, Whole text) :
    Whole (quantity.word ++ '[' :: ([';'].intercalate texts ++ [']'])) where
  some := by simp
  trimmed := by
    have word : Trimmed quantity.word := by cases quantity <;> decide
    refine Trimmed.around word.head rfl ?_
    simp [show isBlank ']' = false from rfl]
  uncut depth := by
    have word : Uncut depth quantity.word := Uncut.of_unmarked (by cases quantity <;> decide) depth
    exact word.append (Uncut.joined fun text member => (whole text member).uncut _).bracketed

/-- Whatever is written can be a part of a list. -/
theorem Writable.whole {condition : Condition} (writable : Writable condition) :
    Whole (spelling condition) := by
  induction writable with
  | permission unmarked trimmed =>
    rw [spelling_permission]
    exact Whole.single (by decide) (by decide) unmarked trimmed.last
  | placeholder unmarked trimmed head last =>
    rw [spelling_placeholder]
    exact Whole.single (by decide) (by decide) unmarked trimmed.last
  | comparison relation leftOperand rightOperand =>
    rw [spelling_comparison]
    exact Whole.single (by decide) (by decide)
      (comparison_words_unmarked relation leftOperand rightOperand)
      (comparison_words_trimmed leftOperand rightOperand).last
  | @all parts _ inductionHypothesis =>
    rw [show Condition.all parts = Quantity.of .each parts from rfl, spelling_list]
    exact Whole.list _ (List.forall_mem_map.mpr inductionHypothesis)
  | @any parts _ inductionHypothesis =>
    rw [show Condition.any parts = Quantity.of .oneOf parts from rfl, spelling_list]
    exact Whole.list _ (List.forall_mem_map.mpr inductionHypothesis)

/-- A list is read back when its parts are, with one level less for lists. -/
theorem read_list (quantity : Quantity) {parts : List Condition} {depth : Nat}
    (writable : ∀ part ∈ parts, Writable part)
    (readParts : ∀ part ∈ parts, ∀ depth, (spelling part).length < depth →
      readWithin depth (spelling part) = pure (some part))
    (deep : (spelling (quantity.of parts)).length < depth) :
    readWithin depth (spelling (quantity.of parts)) = pure (some (quantity.of parts)) := by
  obtain ⟨below, rfl⟩ : ∃ below, depth = below + 1 := ⟨depth - 1, by omega⟩
  have whole : ∀ text ∈ parts.map spelling, Whole text :=
    List.forall_mem_map.mpr fun part member => (writable part member).whole
  have gathered : Noted.gather (readWithin below) (parts.map spelling) = pure parts := by
    refine Noted.gather_map fun part member => readParts part member below ?_
    have shorter : (spelling part).length ≤ ([';'].intercalate (parts.map spelling)).length :=
      length_le_intercalate (List.mem_map_of_mem member)
    rw [spelling_list] at deep
    simp only [List.length_append, List.length_cons] at deep
    omega
  rw [spelling_list, read_within_list quantity (Whole.list quantity whole) whole, gathered]
  rfl

theorem Writable.read_within {condition : Condition} (writable : Writable condition) :
    ∀ depth, (spelling condition).length < depth →
      readWithin depth (spelling condition) = pure (some condition) := by
  induction writable with
  | @permission name unmarked trimmed =>
    intro depth deep
    have noList : quantity? ((spelling (.permission name)).take 3) = none := by
      rw [spelling_permission]
      rfl
    rw [read_within_single (Writable.permission unmarked trimmed).whole noList deep]
    exact read_permission trimmed
  | @placeholder key unmarked trimmed head last =>
    intro depth deep
    have noList : quantity? ((spelling (.placeholder key)).take 3) = none := by
      rw [spelling_placeholder]
      rfl
    rw [read_within_single (Writable.placeholder unmarked trimmed head last).whole noList deep]
    exact read_placeholder trimmed head last
  | @comparison left right relation leftOperand rightOperand =>
    intro depth deep
    have noList :
        quantity? ((spelling (.comparison ⟨left, some relation, right⟩)).take 3) = none := by
      rw [spelling_comparison]
      rfl
    rw [read_within_single (Writable.comparison relation leftOperand rightOperand).whole noList
      deep]
    exact read_comparison leftOperand rightOperand
  | @all parts writable inductionHypothesis =>
    exact fun _ => read_list .each writable inductionHypothesis
  | @any parts writable inductionHypothesis =>
    exact fun _ => read_list .oneOf writable inductionHypothesis

/-- Reading a written condition gives the condition back, without a notice. -/
theorem read_written {condition : Condition} (writable : Writable condition) :
    read (written condition) = pure (some condition) :=
  writable.read_within _ (Nat.lt_succ_self _)

/-- Lists in lists, one of them empty, and a name with a colon and a blank in it. -/
theorem nested_read_back :
    Writable (.all [.any [.permission "vip: gold", .all []],
      .comparison ⟨"%coins%", some .atLeast, "10"⟩]) ∧
    read "all[any[perm:vip: gold;all[]];check:%coins% >= 10]" =
      pure (some (.all [.any [.permission "vip: gold", .all []],
        .comparison ⟨"%coins%", some .atLeast, "10"⟩])) := by
  have writable : Writable (.all [.any [.permission "vip: gold", .all []],
      .comparison ⟨"%coins%", some .atLeast, "10"⟩]) := by
    have name : Writable (.permission "vip: gold") := .permission (by decide) (by decide)
    have nothing : Writable (.all []) := .all nofun
    have coins : Operand "%coins%" := ⟨by decide, by decide, by decide⟩
    have ten : Operand "10" := ⟨by decide, by decide, by decide⟩
    refine .all (List.forall_mem_cons.mpr ⟨.any ?_, ?_⟩)
    · exact List.forall_mem_cons.mpr ⟨name, List.forall_mem_singleton.mpr nothing⟩
    · exact List.forall_mem_singleton.mpr (.comparison .atLeast coins ten)
  have spelled : written (.all [.any [.permission "vip: gold", .all []],
      .comparison ⟨"%coins%", some .atLeast, "10"⟩]) =
        "all[any[perm:vip: gold;all[]];check:%coins% >= 10]" := by decide +kernel
  rw [← spelled]
  exact ⟨writable, read_written writable⟩

end ChestMenu.Condition
