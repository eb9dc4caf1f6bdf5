import ChestMenu.Text.Template
import Mathlib.Data.List.Infix

/-!
# Scanning a template

A scan reads a template from left to right. Where the token of a key begins it puts the value
in and goes on behind the token, and any other character it takes over. Replacing one key in
a whole text is the scan with that one key, so filling a template key by key is a sequence of
scans.

What a scan does to percent signs decides what a later scan finds. A token begins and ends
with one and a text without any is never entered: a long one survives every scan. What is put
in without percent signs brings none, so each percent sign of the result was one of the
template, between the same stretches of it.
-/

namespace ChestMenu.Text

variable {entries : List (String × String)} {cs rest : List Char} {key value : String} {c : Char}

/-! ## One step of a scan -/

/-- The key, with its value, of which the token begins a text. -/
def opening? (entries : List (String × String)) (cs : List Char) : Option (String × String) :=
  entries.find? fun entry => (token entry.1.toList).isPrefixOf cs

theorem length_token (key : List Char) : (token key).length = key.length + 2 := by
  simp [token]

theorem opening_eq_none_iff :
    opening? entries cs = none ↔ ∀ entry ∈ entries, ¬ token entry.1.toList <+: cs := by
  simp [opening?, List.isPrefixOf_iff_prefix]

/-- An opening is that of an entry, and the text goes on behind its token. -/
theorem of_opening {entry : String × String} (opens : opening? entries cs = some entry) :
    entry ∈ entries ∧ token entry.1.toList <+: cs := by
  rw [opening?] at opens
  have begins := List.find?_some opens
  exact ⟨List.mem_of_find?_eq_some opens, List.isPrefixOf_iff_prefix.mp begins⟩

/-- A token begins with a percent sign. -/
theorem no_opening_at (letter : c ≠ '%') : opening? entries (c :: cs) = none := by
  refine opening_eq_none_iff.mpr fun entry _ isPrefix => letter ?_
  exact (List.cons_prefix_cons.mp isPrefix).1.symm

theorem scan_after_eq (passed : Nat) (cs : List Char) :
    scanAfter entries passed cs = scan entries (cs.drop passed) := by
  induction cs generalizing passed with
  | nil => simp [scanAfter, scan]
  | cons c rest inductionHypothesis =>
    cases passed with
    | zero => rfl
    | succ fewer => rw [scanAfter, inductionHypothesis, List.drop_succ_cons]

@[simp] theorem scan_nil : scan entries [] = [] := rfl

/-- One step of a scan. -/
theorem scan_step (c : Char) (rest : List Char) :
    scan entries (c :: rest) =
      match opening? entries (c :: rest) with
      | some (key, value) =>
        value.toList ++ scan entries (rest.drop (token key.toList).tail.length)
      | none => c :: scan entries rest := by
  cases opens : opening? entries (c :: rest) with
  | none =>
    rw [opening?] at opens
    rw [scan, scanAfter, opens]
    rfl
  | some entry =>
    rw [opening?] at opens
    rw [scan, scanAfter, opens]
    exact congrArg (entry.2.toList ++ ·) (scan_after_eq _ _)

/-- Where a token begins, its value is put in. -/
theorem scan_token (opens : opening? entries (token key.toList ++ rest) = some (key, value)) :
    scan entries (token key.toList ++ rest) = value.toList ++ scan entries rest := by
  have front : token key.toList ++ rest = '%' :: ((token key.toList).tail ++ rest) := rfl
  rw [front] at opens ⊢
  rw [scan_step, opens]
  simp only [List.drop_left]

/-- Where none begins, the character is taken over. -/
theorem scan_cons (none : opening? entries (c :: rest) = none) :
    scan entries (c :: rest) = c :: scan entries rest := by
  rw [scan_step, none]

/-- A text is read as a scan reads it: it is at its end, or a token begins it, or it begins
with a character that is taken over. -/
theorem scan_induction {motive : List Char → Prop} (entries : List (String × String))
    (finished : motive [])
    (gap : ∀ key value rest, opening? entries (token key.toList ++ rest) = some (key, value) →
      motive rest → motive (token key.toList ++ rest))
    (letter : ∀ c rest, opening? entries (c :: rest) = none → motive rest → motive (c :: rest))
    (cs : List Char) : motive cs := by
  induction measured : cs.length using Nat.strong_induction_on generalizing cs with
  | _ bound inductionHypothesis =>
    cases cs with
    | nil => exact finished
    | cons c rest =>
      cases opens : opening? entries (c :: rest) with
      | none =>
        refine letter c rest opens (inductionHypothesis _ ?_ rest rfl)
        simp [← measured]
      | some entry =>
        obtain ⟨key, value⟩ := entry
        obtain ⟨behind, same⟩ := (of_opening opens).2
        rw [← same] at opens ⊢
        refine gap key value behind opens (inductionHypothesis _ ?_ behind rfl)
        rw [← measured, ← same, List.length_append, length_token]
        omega

/-- Where no token is, a scan changes nothing. -/
theorem scan_eq_self (absent : ∀ entry ∈ entries, ¬ token entry.1.toList <:+: cs) :
    scan entries cs = cs := by
  induction cs using scan_induction entries with
  | finished => rfl
  | gap key value rest opens _ =>
    obtain ⟨member, isPrefix⟩ := of_opening opens
    exact absurd isPrefix.isInfix (absent (key, value) member)
  | letter c rest none inductionHypothesis =>
    rw [scan_cons none, inductionHypothesis]
    exact fun entry member inside => absent entry member (List.infix_cons inside)

/-- Keys that open in the same places with the same values scan alike. -/
theorem scan_congr {others : List (String × String)}
    (same : ∀ part, part <:+: cs → opening? entries part = opening? others part) :
    scan entries cs = scan others cs := by
  induction cs using scan_induction others with
  | finished => rfl
  | gap key value rest opens inductionHypothesis =>
    have inRest : rest <:+: token key.toList ++ rest := (List.suffix_append _ _).isInfix
    rw [scan_token opens, scan_token ((same _ (List.infix_refl _)).trans opens),
      inductionHypothesis fun part inside => same part (inside.trans inRest)]
  | letter c rest none inductionHypothesis =>
    have inRest : rest <:+: c :: rest := (List.suffix_cons _ _).isInfix
    rw [scan_cons none, scan_cons ((same _ (List.infix_refl _)).trans none),
      inductionHypothesis fun part inside => same part (inside.trans inRest)]

/-- Keys of which no token is in a text make no difference to its scan. -/
theorem scan_append_absent {front : List (String × String)} (back : List (String × String))
    (absent : ∀ entry ∈ front, ¬ token entry.1.toList <:+: cs) :
    scan (front ++ back) cs = scan back cs := by
  refine scan_congr fun part inside => ?_
  have none : opening? front part = none :=
    opening_eq_none_iff.mpr fun entry member begins =>
      absent entry member (begins.isInfix.trans inside)
  rw [opening?] at none
  rw [opening?, List.find?_append, none, Option.none_or, opening?]

/-- A text without percent signs is passed over. -/
theorem scan_append {front : List Char} (plain : '%' ∉ front) (back : List Char) :
    scan entries (front ++ back) = front ++ scan entries back := by
  induction front with
  | nil => rfl
  | cons c rest inductionHypothesis =>
    obtain ⟨first, others⟩ := List.ne_and_not_mem_of_not_mem_cons plain
    rw [List.cons_append, scan_cons (no_opening_at (Ne.symm first)), inductionHypothesis others,
      List.cons_append]

theorem scan_plain (plain : '%' ∉ cs) : scan entries cs = cs := by
  simpa using scan_append plain []

/-! ## Filling key by key -/

theorem replace_after_eq (key value : String) (passed : Nat) (cs : List Char) :
    replaceAfter (token key.toList) value.toList passed cs =
      scanAfter [(key, value)] passed cs := by
  induction cs generalizing passed with
  | nil => simp [replaceAfter, scanAfter]
  | cons c rest inductionHypothesis =>
    cases passed with
    | succ fewer => rw [replaceAfter, scanAfter, inductionHypothesis]
    | zero =>
      rw [replaceAfter, scanAfter, inductionHypothesis, inductionHypothesis, List.find?_singleton]
      split <;> simp

/-- Replacing one key is the scan with that one key. -/
theorem fill_one_eq_scan (cs : List Char) (entry : String × String) :
    fillOne cs entry = scan [entry] cs :=
  replace_after_eq entry.1 entry.2 0 cs

@[simp] theorem fill_nil : fill [] cs = cs := rfl

theorem fill_cons (entry : String × String) (entries : List (String × String)) (cs : List Char) :
    fill (entry :: entries) cs = fill entries (scan [entry] cs) := by
  rw [fill, List.foldl_cons, fill_one_eq_scan, fill]

theorem fill_append (first second : List (String × String)) (cs : List Char) :
    fill (first ++ second) cs = fill second (fill first cs) := List.foldl_append

/-- Keys of which no token is in a text make no difference to how it is filled. -/
theorem fill_eq_self (absent : ∀ entry ∈ entries, ¬ token entry.1.toList <:+: cs) :
    fill entries cs = cs := by
  induction entries with
  | nil => rfl
  | cons entry rest inductionHypothesis =>
    obtain ⟨first, others⟩ := List.forall_mem_cons.mp absent
    rw [fill_cons, scan_eq_self (List.forall_mem_singleton.mpr first), inductionHypothesis others]

/-! ## The scan with one key -/

/-- Where the token of the only key begins, its value is put in. -/
theorem scan_one_token (key value : String) (rest : List Char) :
    scan [(key, value)] (token key.toList ++ rest) =
      value.toList ++ scan [(key, value)] rest := by
  refine scan_token ?_
  simp [opening?, List.isPrefixOf_iff_prefix]

/-- Where it does not, the character is taken over. -/
theorem scan_one_cons (other : ¬ token key.toList <+: c :: rest) :
    scan [(key, value)] (c :: rest) = c :: scan [(key, value)] rest :=
  scan_cons (opening_eq_none_iff.mpr (by simpa using other))

theorem scan_one_induction {motive : List Char → Prop} (key : String) (finished : motive [])
    (gap : ∀ rest, motive rest → motive (token key.toList ++ rest))
    (letter : ∀ c rest, ¬ token key.toList <+: c :: rest → motive rest → motive (c :: rest))
    (cs : List Char) : motive cs := by
  induction cs using scan_induction [(key, "")] with
  | finished => exact finished
  | gap other value rest opens inductionHypothesis =>
    obtain ⟨rfl, -⟩ := Prod.mk.inj (List.mem_singleton.mp (of_opening opens).1)
    exact gap rest inductionHypothesis
  | letter c rest none inductionHypothesis =>
    refine letter c rest ?_ inductionHypothesis
    exact opening_eq_none_iff.mp none _ (List.mem_singleton_self _)

/-- Putting in the token of a key for the key itself changes nothing. -/
theorem scan_own_token (key : String) (cs : List Char) :
    scan [(key, String.ofList (token key.toList))] cs = cs := by
  induction cs using scan_one_induction key with
  | finished => rfl
  | gap rest inductionHypothesis =>
    rw [scan_one_token, inductionHypothesis, String.toList_ofList]
  | letter c rest other inductionHypothesis => rw [scan_one_cons other, inductionHypothesis]

theorem fill_own_tokens (own : ∀ entry ∈ entries, entry.2 = String.ofList (token entry.1.toList)) :
    fill entries cs = cs := by
  induction entries with
  | nil => rfl
  | cons entry rest inductionHypothesis =>
    obtain ⟨first, others⟩ := List.forall_mem_cons.mp own
    have same : entry = (entry.1, String.ofList (token entry.1.toList)) := by rw [← first]
    rw [fill_cons, same, scan_own_token, inductionHypothesis others]

/-- What is put in for a key shows in the result if the token was in the text. -/
theorem infix_scan_of_token (inside : token key.toList <:+: cs) :
    value.toList <:+: scan [(key, value)] cs := by
  induction cs using scan_one_induction key with
  | finished => simp [token] at inside
  | gap rest _ =>
    rw [scan_one_token]
    exact (List.prefix_append _ _).isInfix
  | letter c rest other inductionHypothesis =>
    rw [scan_one_cons other]
    exact List.infix_cons (inductionHypothesis ((List.infix_cons_iff.mp inside).resolve_left other))

/-- A text without percent signs at the end of a token is empty. -/
theorem eq_nil_of_suffix_token {part key : List Char} (plain : '%' ∉ part)
    (suffix : part <:+ token key) : part = [] := by
  rcases List.suffix_concat_iff.mp suffix with empty | ⟨front, same, -⟩
  · exact empty
  · exact absurd (by simp [same]) plain

/-- A text without percent signs in a token is no longer than the key. -/
theorem length_le_of_infix_token {part key : List Char} (plain : '%' ∉ part)
    (inside : part <:+: token key) : part.length ≤ key.length := by
  rcases List.infix_concat_iff.mp inside with atEnd | inFront
  · simp [eq_nil_of_suffix_token plain atEnd]
  · rcases List.infix_cons_iff.mp inFront with atFront | inKey
    · rcases List.prefix_cons_iff.mp atFront with rfl | ⟨behind, rfl, -⟩
      · exact Nat.zero_le _
      · exact absurd List.mem_cons_self plain
    · exact inKey.length_le

/-- A text without percent signs stays whole in a scan if it is longer than the key, since a
token that reaches into it would have to hold all of it. -/
theorem infix_scan_of_plain (value : String) {block : List Char} (plain : '%' ∉ block)
    (long : key.toList.length < block.length) (inside : block <:+: cs) :
    block <:+: scan [(key, value)] cs := by
  induction cs using scan_one_induction key with
  | finished => exact inside
  | gap rest inductionHypothesis =>
    have inRest : block <:+: rest := by
      rcases List.infix_append_iff.mp inside with
        inToken | inRest | ⟨front, back, same, ends, begins⟩
      · exact absurd (length_le_of_infix_token plain inToken) (Nat.not_le.mpr long)
      · exact inRest
      · have none : front = [] :=
          eq_nil_of_suffix_token (fun member => plain (same ▸ List.mem_append_left _ member)) ends
        rw [same, none, List.nil_append]
        exact begins.isInfix
    rw [scan_one_token]
    exact List.infix_append_of_infix_right (inductionHypothesis inRest)
  | letter c rest other inductionHypothesis =>
    rcases List.infix_cons_iff.mp inside with ⟨behind, same⟩ | inRest
    · rw [← same, scan_append plain]
      exact (List.prefix_append _ _).isInfix
    · rw [scan_one_cons other]
      exact List.infix_cons (inductionHypothesis inRest)

/-- What stands before the first percent sign of a result, if it is shorter than the value
put in, stood there in the text. -/
theorem prefix_of_prefix_scan {front : List Char} (plain : '%' ∉ value.toList)
    (short : front.length < value.toList.length)
    (begins : front ++ ['%'] <+: scan [(key, value)] cs) : front ++ ['%'] <+: cs := by
  induction cs using scan_one_induction key generalizing front with
  | finished => exact begins
  | gap rest _ =>
    rw [scan_one_token] at begins
    have within : front ++ ['%'] <+: value.toList := by
      refine List.prefix_of_prefix_length_le begins (List.prefix_append _ _) ?_
      rw [List.length_append]
      exact short
    exact absurd (within.subset (by simp)) plain
  | letter c rest other inductionHypothesis =>
    rw [scan_one_cons other] at begins
    cases front with
    | nil => exact List.cons_prefix_cons.mpr ⟨(List.cons_prefix_cons.mp begins).1, List.nil_prefix⟩
    | cons first others =>
      obtain ⟨same, later⟩ := List.cons_prefix_cons.mp begins
      have shorter : others.length < value.toList.length := Nat.lt_of_succ_lt short
      exact List.cons_prefix_cons.mpr ⟨same, inductionHypothesis shorter later⟩

/-- After the scan the token of the key is nowhere, if what was put in has no percent sign and
is longer than the key. -/
theorem token_not_infix_scan (plain : '%' ∉ value.toList)
    (long : key.toList.length < value.toList.length) (cs : List Char) :
    ¬ token key.toList <:+: scan [(key, value)] cs := by
  induction cs using scan_one_induction key with
  | finished => simp [token]
  | gap rest inductionHypothesis =>
    rw [scan_one_token]
    intro inside
    rcases List.infix_append_iff.mp inside with inValue | inRest | ⟨front, back, same, ends, begins⟩
    · exact plain (inValue.subset List.mem_cons_self)
    · exact inductionHypothesis inRest
    · -- the token would have to begin in the value
      cases front with
      | nil =>
        rw [List.nil_append] at same
        exact inductionHypothesis (same ▸ begins.isInfix)
      | cons first others =>
        obtain ⟨rfl, -⟩ := List.cons.inj same
        exact plain (ends.subset List.mem_cons_self)
  | letter c rest other inductionHypothesis =>
    rw [scan_one_cons other]
    intro inside
    refine inductionHypothesis ((List.infix_cons_iff.mp inside).resolve_left fun begins => ?_)
    obtain ⟨same, behind⟩ := List.cons_prefix_cons.mp begins
    have stood : key.toList ++ ['%'] <+: rest := prefix_of_prefix_scan plain long behind
    exact other (List.cons_prefix_cons.mpr ⟨same, stood⟩)

/-! ## Values that show in which order keys are replaced -/

/-- If no value but one is longer than its token, a result that is longer than the text shows
that value. -/
theorem length_scan_le_or_shown {shown : List Char}
    (short : ∀ entry ∈ entries, entry.2.toList.length ≤ (token entry.1.toList).length ∨
      entry.2.toList = shown) (cs : List Char) :
    (scan entries cs).length ≤ cs.length ∨ shown <:+: scan entries cs := by
  induction cs using scan_induction entries with
  | finished => exact Or.inl (Nat.le_refl _)
  | gap key value rest opens inductionHypothesis =>
    rw [scan_token opens]
    rcases short (key, value) (of_opening opens).1 with fits | rfl
    · refine inductionHypothesis.imp (fun le => ?_) List.infix_append_of_infix_right
      rw [List.length_append, List.length_append]
      exact Nat.add_le_add fits le
    · exact Or.inr (List.prefix_append _ _).isInfix
  | letter c rest none inductionHypothesis =>
    rw [scan_cons none]
    exact inductionHypothesis.imp Nat.succ_le_succ List.infix_cons

/-- Values for two keys and a text of some length. The first key gives the token of the second
one and a run of stars that is longer than the text, the second key a run of stars that is
shorter than its token, and any other key its own token. -/
def revealing (first second : String) (length : Nat) (key : String) : String :=
  if key = first then
    String.ofList (token second.toList ++
      List.replicate (length + second.toList.length + 1) '*')
  else if key = second then String.ofList (List.replicate (second.toList.length + 1) '*')
  else String.ofList (token key.toList)

/-- Keys with their values. -/
def valued (valueOf : String → String) (keys : List String) : List (String × String) :=
  keys.map fun key => (key, valueOf key)

theorem valued_cons (valueOf : String → String) (key : String) (keys : List String) :
    valued valueOf (key :: keys) = (key, valueOf key) :: valued valueOf keys := rfl

theorem valued_append (valueOf : String → String) (front back : List String) :
    valued valueOf (front ++ back) = valued valueOf front ++ valued valueOf back :=
  List.map_append

@[simp] theorem valued_keys (valueOf : String → String) (keys : List String) :
    (valued valueOf keys).map Prod.fst = keys := by
  rw [valued, List.map_map]
  exact List.map_id keys

section Revealing

variable {first second : String} {length : Nat}

theorem revealing_own (other : key ≠ first ∧ key ≠ second) :
    revealing first second length key = String.ofList (token key.toList) := by
  rw [revealing, if_neg other.1, if_neg other.2]

/-- No value but that of the first key is longer than its token. -/
theorem revealing_short (key : String) :
    (revealing first second length key).toList.length ≤ (token key.toList).length ∨
      (revealing first second length key).toList =
        (revealing first second length first).toList := by
  by_cases isFirst : key = first
  · exact Or.inr (by rw [isFirst])
  · left
    by_cases isSecond : key = second
    · subst isSecond
      simp [revealing, isFirst, length_token]
    · simp [revealing_own ⟨isFirst, isSecond⟩]

/-- The first key gives the token of the second one, and the stars behind it. -/
theorem revealing_first :
    (revealing first second length first).toList =
      token second.toList ++ List.replicate (length + second.toList.length + 1) '*' := by
  rw [revealing, if_pos rfl, String.toList_ofList]

theorem revealing_second (different : first ≠ second) :
    (revealing first second length second).toList =
      List.replicate (second.toList.length + 1) '*' := by
  rw [revealing, if_neg different.symm, if_pos rfl, String.toList_ofList]

theorem stars_plain (count : Nat) : '%' ∉ List.replicate count '*' := by
  simp [List.mem_replicate]

theorem token_not_infix_second (different : first ≠ second) (cs : List Char) :
    ¬ token second.toList <:+: scan [(second, revealing first second length second)] cs := by
  refine token_not_infix_scan ?_ ?_ cs
  · rw [revealing_second different]
    exact stars_plain _
  · rw [revealing_second different, List.length_replicate]
    exact Nat.lt_succ_self _

theorem fill_valued_pair (valueOf : String → String) (first second : String) (cs : List Char) :
    fill (valued valueOf [first, second]) cs =
      scan [(second, valueOf second)] (scan [(first, valueOf first)] cs) := by
  rw [valued, List.map_cons, List.map_singleton, fill_cons, fill_cons, fill_nil]

/-- Keys that are neither of the two change nothing. -/
theorem fill_revealing_own {keys : List String} (others : ∀ key ∈ keys, key ≠ first ∧ key ≠ second)
    (cs : List Char) : fill (valued (revealing first second length) keys) cs = cs :=
  fill_own_tokens (List.forall_mem_map.mpr fun key member => revealing_own (others key member))

/-- So only the two matter, in the order in which they come. -/
theorem fill_revealing_pair {before between after : List String} {one two : String}
    (others : ∀ key ∈ before ++ between ++ after, key ≠ first ∧ key ≠ second) (cs : List Char) :
    fill (valued (revealing first second length) (before ++ one :: (between ++ two :: after))) cs =
      fill (valued (revealing first second length) [one, two]) cs := by
  have inBefore : ∀ key ∈ before, key ≠ first ∧ key ≠ second :=
    fun key member => others key (List.mem_append_left _ (List.mem_append_left _ member))
  have inBetween : ∀ key ∈ between, key ≠ first ∧ key ≠ second :=
    fun key member => others key (List.mem_append_left _ (List.mem_append_right _ member))
  have inAfter : ∀ key ∈ after, key ≠ first ∧ key ≠ second :=
    fun key member => others key (List.mem_append_right _ member)
  rw [valued_append, fill_append, fill_revealing_own inBefore, valued_cons, fill_cons,
    valued_append, fill_append, fill_revealing_own inBetween, valued_cons, fill_cons,
    fill_revealing_own inAfter, fill_valued_pair]

/-- Replacing the first key and then the second one leaves the stars and no token of the
second key. -/
theorem revealed (different : first ≠ second) (inside : token first.toList <:+: cs) :
    cs.length < (fill (valued (revealing first second cs.length) [first, second]) cs).length ∧
      ¬ token second.toList <:+:
        fill (valued (revealing first second cs.length) [first, second]) cs := by
  rw [fill_valued_pair]
  refine ⟨?_, token_not_infix_second different _⟩
  have shown : (revealing first second cs.length first).toList <:+:
      scan [(first, revealing first second cs.length first)] cs := infix_scan_of_token inside
  rw [revealing_first] at shown
  have starred := (List.suffix_append (token second.toList)
    (List.replicate (cs.length + second.toList.length + 1) '*')).isInfix.trans shown
  have long : second.toList.length <
      (List.replicate (cs.length + second.toList.length + 1) '*').length := by
    rw [List.length_replicate]
    omega
  have stays := (infix_scan_of_plain (revealing first second cs.length second) (stars_plain _)
    long starred).length_le
  rw [List.length_replicate] at stays
  omega

/-- A scan for all keys at once leaves no stars that are not behind a token of the second key. -/
theorem scan_revealing (length : Nat) (keys : List String) (cs : List Char) :
    (scan (valued (revealing first second length) keys) cs).length ≤ cs.length ∨
      token second.toList <:+: scan (valued (revealing first second length) keys) cs := by
  have short : ∀ entry ∈ valued (revealing first second length) keys,
      entry.2.toList.length ≤ (token entry.1.toList).length ∨
        entry.2.toList = (revealing first second length first).toList :=
    List.forall_mem_map.mpr fun key _ => revealing_short key
  refine (length_scan_le_or_shown short cs).imp_right fun shown => ?_
  rw [revealing_first] at shown
  exact (List.prefix_append _ _).isInfix.trans shown

/-- Nor does replacing the second key and then the first one. -/
theorem fill_revealing_backwards (different : first ≠ second) (length : Nat) (cs : List Char) :
    (fill (valued (revealing first second length) [second, first]) cs).length ≤ cs.length ∨
      token second.toList <:+:
        fill (valued (revealing first second length) [second, first]) cs := by
  rw [fill_valued_pair]
  have shorter := (scan_revealing length [second] cs).resolve_right
    (token_not_infix_second different cs)
  exact (scan_revealing length [first] _).imp_left (le_trans · shorter)

end Revealing

end ChestMenu.Text
