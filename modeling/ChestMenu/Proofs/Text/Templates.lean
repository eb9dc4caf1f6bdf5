import ChestMenu.Proofs.Text.Scans
import Mathlib.Data.List.Nodup

/-!
# Filling key by key and filling at once

A template should be filled by what it says itself: one scan puts the values in, and nothing
that was put in is looked at. Filling key by key looks at every value again for all later
keys, so it does the same only where no later key can be met. Whatever the values are, that is
where no token stands in the template but that of the last key. For given values without
percent signs it is where the template keeps the tokens apart: no two of them share a percent
sign, and a stretch between two percent signs does not become a key when it is filled.
-/

namespace ChestMenu.Text

variable {entries : List (String × String)} {cs rest : List Char} {key value : String} {c : Char}

/-- Keys that make unmistakable tokens: none has a percent sign in it, and none comes twice. -/
structure Proper (keys : List String) : Prop where
  plain : ∀ key ∈ keys, '%' ∉ key.toList
  distinct : keys.Nodup

/-- Templates in which keys can only be met where their tokens stand. -/
structure Clear (entries : List (String × String)) (template : List Char) : Prop where
  /-- Tokens of two keys do not share a percent sign. -/
  apart : ∀ first ∈ entries, ∀ second ∈ entries, first.1 ≠ second.1 →
    ¬ token first.1.toList ++ second.1.toList ++ ['%'] <:+: template
  /-- What stands between two percent signs with others between them does not read as a key
  when it is filled. -/
  closed : ∀ stretch, '%' ∈ stretch → token stretch <:+: template →
    ∀ entry ∈ entries, scan entries stretch ≠ entry.1.toList

theorem Clear.of_infix {part : List Char} (clear : Clear entries cs) (inside : part <:+: cs) :
    Clear entries part where
  apart first isFirst second isSecond different shared :=
    clear.apart first isFirst second isSecond different (shared.trans inside)
  closed stretch percent within :=
    clear.closed stretch percent (within.trans inside)

/-- Clearness looks at the parts of the template. -/
theorem clear_iff : Clear entries cs ↔
    (∀ first ∈ entries, ∀ second ∈ entries, first.1 ≠ second.1 →
      ¬ token first.1.toList ++ second.1.toList ++ ['%'] <:+: cs) ∧
    ∀ behind ∈ cs.tails, ∀ part ∈ behind.inits, part = token part.tail.dropLast →
      '%' ∈ part.tail.dropLast → ∀ entry ∈ entries,
        scan entries part.tail.dropLast ≠ entry.1.toList := by
  constructor
  · intro clear
    refine ⟨clear.apart, fun behind isSuffix part isPrefix same percent => ?_⟩
    have inside : part <:+: cs :=
      ((List.mem_inits _ _).mp isPrefix).isInfix.trans ((List.mem_tails _ _).mp isSuffix).isInfix
    exact clear.closed _ percent (same ▸ inside)
  · rintro ⟨apart, closed⟩
    refine ⟨apart, fun stretch percent inside entry member => ?_⟩
    obtain ⟨behind, isPrefix, isSuffix⟩ := List.infix_iff_prefix_suffix.mp inside
    have within : (token stretch).tail.dropLast = stretch := by simp [token]
    have reads := closed behind ((List.mem_tails _ _).mpr isSuffix) (token stretch)
      ((List.mem_inits _ _).mpr isPrefix)
    rw [within] at reads
    exact reads rfl percent entry member

instance (entries : List (String × String)) (cs : List Char) : Decidable (Clear entries cs) :=
  decidable_of_iff _ clear_iff.symm

/-! ## Tokens of proper keys -/

/-- Of two texts without percent signs only the same one stands in front of a percent sign. -/
theorem eq_of_prefix_percent {first second : List Char} (plainFirst : '%' ∉ first)
    (plainSecond : '%' ∉ second) (begins : first ++ ['%'] <+: second ++ '%' :: rest) :
    first = second := by
  induction first generalizing second with
  | nil =>
    cases second with
    | nil => rfl
    | cons c others =>
      have same := (List.cons_prefix_cons.mp begins).1
      exact absurd (same ▸ List.mem_cons_self) plainSecond
  | cons c others inductionHypothesis =>
    cases second with
    | nil =>
      have same := (List.cons_prefix_cons.mp begins).1
      exact absurd (same ▸ List.mem_cons_self) plainFirst
    | cons d behind =>
      obtain ⟨rfl, later⟩ := List.cons_prefix_cons.mp begins
      rw [inductionHypothesis (List.not_mem_of_not_mem_cons plainFirst)
        (List.not_mem_of_not_mem_cons plainSecond) later]

theorem eq_of_token_begins {other : String} (plain : '%' ∉ key.toList)
    (plainOther : '%' ∉ other.toList)
    (begins : token other.toList <+: token key.toList ++ rest) : other = key := by
  have behind : other.toList ++ ['%'] <+: key.toList ++ '%' :: rest := by
    simpa [token] using begins
  exact String.toList_inj.mp (eq_of_prefix_percent plainOther plain behind)

/-- The token of a proper key opens that key and no other. -/
theorem opening_of_mem (proper : Proper (entries.map Prod.fst)) (member : (key, value) ∈ entries)
    (rest : List Char) : opening? entries (token key.toList ++ rest) = some (key, value) := by
  cases opens : opening? entries (token key.toList ++ rest) with
  | none => exact absurd (List.prefix_append _ _) (opening_eq_none_iff.mp opens _ member)
  | some entry =>
    obtain ⟨isEntry, begins⟩ := of_opening opens
    have same : entry.1 = key := by
      refine eq_of_token_begins ?_ ?_ begins
      · exact proper.plain key (List.mem_map_of_mem (f := Prod.fst) member)
      · exact proper.plain entry.1 (List.mem_map_of_mem isEntry)
    rw [List.inj_on_of_nodup_map proper.distinct isEntry member same]

theorem Proper.tail {key : String} {keys : List String} (proper : Proper (key :: keys)) :
    Proper keys where
  plain := (List.forall_mem_cons.mp proper.plain).2
  distinct := proper.distinct.tail

/-! ## Scanning key by key -/

/-- A percent sign of the result was one of the text, if none was put in. What stands before
and behind it comes from what stood before and behind it. -/
theorem split_at_percent (plain : '%' ∉ value.toList) {front back : List Char}
    (same : scan [(key, value)] cs = front ++ '%' :: back) :
    ∃ before behind, cs = before ++ '%' :: behind ∧
      scan [(key, value)] before = front ∧ scan [(key, value)] behind = back := by
  induction cs using scan_one_induction key generalizing front with
  | finished => simp at same
  | gap rest inductionHypothesis =>
    rw [scan_one_token] at same
    obtain ⟨middle, rfl, later⟩ : ∃ middle, front = value.toList ++ middle ∧
        scan [(key, value)] rest = middle ++ '%' :: back := by
      rcases List.append_eq_append_iff.mp same with
        ⟨middle, isFront, later⟩ | ⟨middle, isValue, later⟩
      · exact ⟨middle, isFront, later⟩
      · cases middle with
        | nil => exact ⟨[], by simpa using isValue.symm, later.symm⟩
        | cons c others =>
          obtain ⟨rfl, -⟩ := List.cons.inj later
          exact absurd (by simp [isValue]) plain
    obtain ⟨before, behind, rfl, isMiddle, isBack⟩ := inductionHypothesis later
    refine ⟨token key.toList ++ before, behind, (List.append_assoc _ _ _).symm, ?_, isBack⟩
    rw [scan_one_token, isMiddle]
  | letter c rest other inductionHypothesis =>
    rw [scan_one_cons other] at same
    cases front with
    | nil =>
      obtain ⟨rfl, isBack⟩ := List.cons.inj same
      exact ⟨[], rest, rfl, rfl, isBack⟩
    | cons d others =>
      obtain ⟨rfl, later⟩ := List.cons.inj same
      obtain ⟨before, behind, rfl, isFront, isBack⟩ := inductionHypothesis later
      refine ⟨c :: before, behind, rfl, ?_, isBack⟩
      rw [scan_one_cons fun begins => other (begins.trans ⟨'%' :: behind, rfl⟩), isFront]

/-- A scan for one key passes a token of another one, if the two share no percent sign. -/
theorem scan_one_other_token {other : String} (plain : '%' ∉ key.toList)
    (plainOther : '%' ∉ other.toList) (different : other ≠ key)
    (apart : ¬ token other.toList ++ key.toList ++ ['%'] <+: token other.toList ++ rest) :
    scan [(key, value)] (token other.toList ++ rest) =
      token other.toList ++ scan [(key, value)] rest := by
  have opens : ¬ token key.toList <+: token other.toList ++ rest :=
    fun begins => different.symm (eq_of_token_begins plainOther plain begins)
  have closes : ¬ token key.toList <+: '%' :: rest := by
    intro begins
    refine apart ?_
    rw [List.append_assoc, List.prefix_append_right_inj]
    exact (List.cons_prefix_cons.mp begins).2
  have split : token other.toList ++ rest = '%' :: (other.toList ++ '%' :: rest) := by
    simp [token]
  rw [split] at opens ⊢
  rw [scan_one_cons opens, scan_append plainOther, scan_one_cons closes]
  simp [token]

/-- A key that a scan leaves between two percent signs of a clear template stood between them,
if what it leaves there and the scan for all keys agree on the stretch. -/
theorem Clear.stood (clear : Clear ((key, value) :: entries) cs)
    (proper : Proper (((key, value) :: entries).map Prod.fst)) {stretch : List Char}
    (within : token stretch <:+: cs) {entry : String × String} (member : entry ∈ entries)
    (agrees : scan entries (scan [(key, value)] stretch) =
      scan ((key, value) :: entries) stretch)
    (made : scan [(key, value)] stretch = entry.1.toList) : stretch = entry.1.toList := by
  have plainKey : '%' ∉ entry.1.toList :=
    proper.tail.plain entry.1 (List.mem_map_of_mem (f := Prod.fst) member)
  by_cases percent : '%' ∈ stretch
  · have reads : scan ((key, value) :: entries) stretch = entry.1.toList := by
      rw [← agrees, made, scan_plain plainKey]
    exact absurd reads (clear.closed stretch percent within entry (List.mem_cons_of_mem _ member))
  · rw [← made, scan_plain percent]

section ScanThenScan

variable {other shown : String}
variable (proper : Proper (((key, value) :: entries).map Prod.fst))
variable (plain : ∀ entry ∈ (key, value) :: entries, '%' ∉ entry.2.toList)
include proper plain

/-- Where a token stands in a clear template, the two scans together put its value in. -/
theorem scan_scan_token (clear : Clear ((key, value) :: entries) (token other.toList ++ rest))
    (opens : opening? ((key, value) :: entries) (token other.toList ++ rest) =
      some (other, shown)) :
    scan entries (scan [(key, value)] (token other.toList ++ rest)) =
      shown.toList ++ scan entries (scan [(key, value)] rest) := by
  obtain ⟨plainFirst, -⟩ := List.forall_mem_cons.mp plain
  obtain ⟨plainKey, plainKeys⟩ := List.forall_mem_cons.mp proper.plain
  have member := (of_opening opens).1
  by_cases isFirst : other = key
  · subst isFirst
    have found := opens.symm.trans (opening_of_mem proper List.mem_cons_self rest)
    obtain ⟨-, rfl⟩ := Prod.mk.inj (Option.some.inj found)
    rw [scan_one_token, scan_append plainFirst]
  · have isLater : (other, shown) ∈ entries :=
      (List.mem_cons.mp member).resolve_left fun isHead => isFirst (Prod.mk.inj isHead).1
    have plainOther : '%' ∉ other.toList :=
      plainKeys other (List.mem_map_of_mem (f := Prod.fst) isLater)
    have apart := clear.apart _ member _ List.mem_cons_self isFirst
    rw [scan_one_other_token plainKey plainOther isFirst fun begins => apart begins.isInfix,
      scan_token (opening_of_mem proper.tail isLater _)]

/-- Where no token stands in a clear template, the first scan makes up none. The stretch
between the percent signs of one that it made up would be shorter than the template, and so
filled alike by the two scans and by one. -/
theorem no_opening_made (clear : Clear ((key, value) :: entries) (c :: rest))
    (none : opening? ((key, value) :: entries) (c :: rest) = none)
    (agrees : ∀ stretch, stretch <:+: c :: rest → stretch.length < (c :: rest).length →
      scan entries (scan [(key, value)] stretch) = scan ((key, value) :: entries) stretch) :
    opening? entries (c :: scan [(key, value)] rest) = .none := by
  refine opening_eq_none_iff.mpr fun entry member begins => ?_
  obtain ⟨plainFirst, -⟩ := List.forall_mem_cons.mp plain
  obtain ⟨back, same⟩ := begins
  rw [token, List.cons_append, List.cons_append, List.append_assoc] at same
  obtain ⟨rfl, left⟩ := List.cons.inj same
  obtain ⟨stretch, behind, rfl, made, -⟩ := split_at_percent plainFirst left.symm
  have begins : token stretch <+: '%' :: (stretch ++ '%' :: behind) := ⟨behind, by simp [token]⟩
  have inside : stretch <:+: '%' :: (stretch ++ '%' :: behind) := ⟨['%'], '%' :: behind, by simp⟩
  have shorter : stretch.length < ('%' :: (stretch ++ '%' :: behind)).length := by
    rw [List.length_cons, List.length_append]
    omega
  have stood : stretch = entry.1.toList :=
    clear.stood proper begins.isInfix member (agrees stretch inside shorter) made
  exact opening_eq_none_iff.mp none entry (List.mem_cons_of_mem _ member) (stood ▸ begins)

/-- In a clear template scanning for the first key and then for the others is scanning for
all of them. The induction is on the length of the template: behind a token the rest of the
template is shorter, and so is a stretch between percent signs in which the first scan might
have made up a key. -/
theorem scan_then_scan (clear : Clear ((key, value) :: entries) cs) :
    scan entries (scan [(key, value)] cs) = scan ((key, value) :: entries) cs := by
  induction measured : cs.length using Nat.strong_induction_on generalizing cs with
  | _ bound inductionHypothesis =>
    have agrees : ∀ part, part <:+: cs → part.length < cs.length →
        scan entries (scan [(key, value)] part) = scan ((key, value) :: entries) part :=
      fun part inside shorter =>
        inductionHypothesis part.length (measured ▸ shorter) (clear.of_infix inside) rfl
    cases cs with
    | nil => rfl
    | cons c rest =>
      cases opens : opening? ((key, value) :: entries) (c :: rest) with
      | some entry =>
        obtain ⟨other, shown⟩ := entry
        obtain ⟨-, behind, same⟩ := of_opening opens
        rw [← same] at opens clear agrees ⊢
        rw [scan_token opens, scan_scan_token proper plain clear opens, agrees]
        · exact (List.suffix_append _ _).isInfix
        · rw [List.length_append, length_token]
          omega
      | none =>
        have absent := opening_eq_none_iff.mp opens (key, value) List.mem_cons_self
        rw [scan_cons opens, scan_one_cons absent,
          scan_cons (no_opening_made proper plain clear opens agrees), agrees]
        · exact (List.suffix_cons _ _).isInfix
        · exact Nat.lt_succ_self _

/-- What a scan for one key leaves of a clear template is clear for the other keys. -/
theorem clear_scan (clear : Clear ((key, value) :: entries) cs) :
    Clear entries (scan [(key, value)] cs) := by
  obtain ⟨plainFirst, -⟩ := List.forall_mem_cons.mp plain
  have agrees {stretch : List Char} (within : token stretch <:+: cs) :
      scan entries (scan [(key, value)] stretch) = scan ((key, value) :: entries) stretch := by
    have inside : stretch <:+: token stretch := ⟨['%'], ['%'], rfl⟩
    exact scan_then_scan proper plain (clear.of_infix (inside.trans within))
  constructor
  · rintro first isFirst second isSecond different ⟨front, back, same⟩
    have left : scan [(key, value)] cs =
        front ++ '%' :: (first.1.toList ++ '%' :: (second.1.toList ++ '%' :: back)) := by
      rw [← same]
      simp [token]
    obtain ⟨before, _, rfl, -, left⟩ := split_at_percent plainFirst left
    obtain ⟨atFirst, _, rfl, madeFirst, left⟩ := split_at_percent plainFirst left
    obtain ⟨atSecond, behind, rfl, madeSecond, -⟩ := split_at_percent plainFirst left
    have withinFirst : token atFirst <:+:
        before ++ '%' :: (atFirst ++ '%' :: (atSecond ++ '%' :: behind)) :=
      ⟨before, atSecond ++ '%' :: behind, by simp [token]⟩
    have withinSecond : token atSecond <:+:
        before ++ '%' :: (atFirst ++ '%' :: (atSecond ++ '%' :: behind)) :=
      ⟨before ++ '%' :: atFirst, behind, by simp [token]⟩
    obtain rfl := clear.stood proper withinFirst isFirst (agrees withinFirst) madeFirst
    obtain rfl := clear.stood proper withinSecond isSecond (agrees withinSecond) madeSecond
    exact clear.apart first (List.mem_cons_of_mem _ isFirst) second
      (List.mem_cons_of_mem _ isSecond) different ⟨before, behind, by simp [token]⟩
  · rintro stretch percent ⟨front, back, same⟩ entry member reads
    have left : scan [(key, value)] cs = front ++ '%' :: (stretch ++ '%' :: back) := by
      rw [← same]
      simp [token]
    obtain ⟨before, _, rfl, -, left⟩ := split_at_percent plainFirst left
    obtain ⟨origin, behind, rfl, rfl, -⟩ := split_at_percent plainFirst left
    have within : token origin <:+: before ++ '%' :: (origin ++ '%' :: behind) :=
      ⟨before, behind, by simp [token]⟩
    have percents : '%' ∈ origin := by
      by_contra none
      rw [scan_plain none] at percent
      exact none percent
    rw [agrees within] at reads
    exact clear.closed origin percents within entry (List.mem_cons_of_mem _ member) reads

end ScanThenScan

/-- A clear template is filled key by key as it is by one scan. -/
theorem fill_eq_scan (proper : Proper (entries.map Prod.fst))
    (plain : ∀ entry ∈ entries, '%' ∉ entry.2.toList) (clear : Clear entries cs) :
    fill entries cs = scan entries cs := by
  induction entries generalizing cs with
  | nil => rw [fill_nil, scan_eq_self (List.forall_mem_nil _)]
  | cons entry others inductionHypothesis =>
    obtain ⟨key, value⟩ := entry
    rw [fill_cons, inductionHypothesis proper.tail (List.forall_mem_cons.mp plain).2
      (clear_scan proper plain clear), scan_then_scan proper plain clear]

/-! ## The order of the keys -/

section Orders

variable {others : List (String × String)}

theorem Proper.perm {keys others : List String} (proper : Proper keys) (same : keys.Perm others) :
    Proper others where
  plain key member := proper.plain key (same.mem_iff.mpr member)
  distinct := same.nodup_iff.mp proper.distinct

/-- No two proper keys open in one place, so a scan does not depend on which is tried first. -/
theorem scan_perm (proper : Proper (entries.map Prod.fst)) (same : entries.Perm others)
    (cs : List Char) : scan entries cs = scan others cs := by
  refine scan_congr fun part _ => ?_
  cases opens : opening? others part with
  | none =>
    rw [opening_eq_none_iff] at opens ⊢
    exact fun entry member => opens entry (same.mem_iff.mp member)
  | some entry =>
    obtain ⟨member, behind, rfl⟩ := of_opening opens
    exact opening_of_mem proper (same.mem_iff.mpr member) behind

theorem Clear.perm (clear : Clear entries cs) (proper : Proper (entries.map Prod.fst))
    (same : entries.Perm others) : Clear others cs where
  apart first isFirst second isSecond :=
    clear.apart first (same.mem_iff.mpr isFirst) second (same.mem_iff.mpr isSecond)
  closed stretch percent within entry member := by
    rw [← scan_perm proper same]
    exact clear.closed stretch percent within entry (same.mem_iff.mpr member)

/-- A clear template is filled alike in every order of the keys. -/
theorem fill_perm (proper : Proper (entries.map Prod.fst))
    (plain : ∀ entry ∈ entries, '%' ∉ entry.2.toList) (clear : Clear entries cs)
    (same : entries.Perm others) : fill others cs = fill entries cs := by
  have properOthers := proper.perm (same.map Prod.fst)
  have plainOthers : ∀ entry ∈ others, '%' ∉ entry.2.toList :=
    fun entry member => plain entry (same.mem_iff.mpr member)
  rw [fill_eq_scan proper plain clear,
    fill_eq_scan properOthers plainOthers (clear.perm proper same), scan_perm proper same]

end Orders

/-! ## Filling verbatim -/

/-- Filling puts values in as they are: the template alone decides where, read once from left
to right. -/
def Verbatim (template : String) (entries : List (String × String)) : Prop :=
  fillTemplate template entries = String.ofList (scan entries template.toList)

theorem verbatim_iff (template : String) (entries : List (String × String)) :
    Verbatim template entries ↔ fill entries template.toList = scan entries template.toList := by
  rw [Verbatim, fillTemplate, String.ofList_inj]

/-- Where only the token of the last key stands in a template, it does not matter that the
other keys are looked for as well. -/
theorem fill_eq_scan_of_last {keys : List String} (same : entries.map Prod.fst = keys)
    (absent : ∀ key ∈ keys.dropLast, ¬ token key.toList <:+: cs) :
    fill entries cs = scan entries cs := by
  subst same
  rcases List.eq_nil_or_concat entries with rfl | ⟨front, last, rfl⟩
  · rw [fill_nil, scan_eq_self (List.forall_mem_nil _)]
  · rw [List.concat_eq_append] at absent ⊢
    have none : ∀ entry ∈ front, ¬ token entry.1.toList <:+: cs := by
      intro entry member
      refine absent entry.1 ?_
      rw [List.map_append, List.map_singleton, List.dropLast_concat]
      exact List.mem_map_of_mem member
    rw [fill_append, fill_eq_self none, scan_append_absent [last] none, fill_cons, fill_nil]

/-- If the token of another key than the last one is in a template, there are values with
which filling key by key is not filling at once. -/
theorem exists_fill_ne_scan {keys : List String} (distinct : keys.Nodup)
    (inner : key ∈ keys.dropLast) (inside : token key.toList <:+: cs) :
    ∃ entries : List (String × String), entries.map Prod.fst = keys ∧
      fill entries cs ≠ scan entries cs := by
  obtain ⟨before, between, split⟩ := List.append_of_mem inner
  have some : keys ≠ [] := by
    rintro rfl
    cases inner
  obtain ⟨last, rfl⟩ : ∃ last, keys = before ++ key :: (between ++ [last]) := by
    refine ⟨keys.getLast some, ?_⟩
    have whole := List.dropLast_append_getLast some
    rw [split] at whole
    simpa using whole.symm
  have different : key ≠ last := by
    rintro rfl
    simp [List.nodup_append] at distinct
  have others : ∀ other ∈ before ++ between ++ [], other ≠ key ∧ other ≠ last := by
    simp only [List.nodup_append, List.nodup_cons] at distinct
    grind
  obtain ⟨long, none⟩ := revealed different inside
  refine ⟨valued (revealing key last cs.length) (before ++ key :: (between ++ [last])),
    valued_keys _ _, fun same => ?_⟩
  rw [fill_revealing_pair others] at same
  rw [same] at long none
  exact (scan_revealing cs.length _ cs).elim (Nat.not_le.mpr long) none

/-- Whatever is put in, filling is verbatim exactly where no token stands in the template but
that of the last key. Values without percent signs are put in verbatim by every template that
is clear for them. -/
theorem verbatim_exact {keys : List String} (proper : Proper keys) (template : String) :
    ((∀ entries, entries.map Prod.fst = keys → Verbatim template entries) ↔
      ∀ key ∈ keys.dropLast, ¬ token key.toList <:+: template.toList) ∧
    (∀ entries, entries.map Prod.fst = keys → (∀ entry ∈ entries, '%' ∉ entry.2.toList) →
      Clear entries template.toList → Verbatim template entries) := by
  simp only [verbatim_iff]
  refine ⟨⟨fun verbatim key inner inside => ?_, fun absent entries same => ?_⟩,
    fun entries same plain clear => ?_⟩
  · obtain ⟨entries, same, differs⟩ := exists_fill_ne_scan proper.distinct inner inside
    exact differs (verbatim entries same)
  · exact fill_eq_scan_of_last same absent
  · subst same
    exact fill_eq_scan proper plain clear

/-- A menu may be named and titled freely where only the title is asked for. Where the name
stands in front, a name and a title without percent signs are put in as they are. -/
theorem listed_verbatim :
    fillTemplate "&7Now at %title%" [("name", "%title%"), ("title", "%name%")] =
      "&7Now at %name%" ∧
    fillTemplate "&e- %name%&7: %title%" [("name", "shop"), ("title", "Shop")] =
      "&e- shop&7: Shop" := by
  have proper : Proper ["name", "title"] := ⟨by decide, by decide⟩
  have absent : ∀ key ∈ ["name", "title"].dropLast,
      ¬ token key.toList <:+: "&7Now at %title%".toList := by decide
  have clear : Clear [("name", "shop"), ("title", "Shop")] "&e- %name%&7: %title%".toList := by
    decide
  have titled := (verbatim_exact proper "&7Now at %title%").1.mpr absent
    [("name", "%title%"), ("title", "%name%")] rfl
  have listed := (verbatim_exact proper "&e- %name%&7: %title%").2
    [("name", "shop"), ("title", "Shop")] rfl (by decide) clear
  exact ⟨titled.trans (by decide), listed.trans (by decide)⟩

/-- A menu that is named like the token of the title is listed by its title. -/
theorem named_like_title_listed :
    Proper ["name", "title"] ∧
    fillTemplate "&e- %name%&7: %title%" [("name", "%title%"), ("title", "Shop")] =
      "&e- Shop&7: Shop" ∧
    String.ofList (scan [("name", "%title%"), ("title", "Shop")]
      "&e- %name%&7: %title%".toList) = "&e- %title%&7: Shop" ∧
    ¬ Verbatim "&e- %name%&7: %title%" [("name", "%title%"), ("title", "Shop")] := by
  have filled : fillTemplate "&e- %name%&7: %title%" [("name", "%title%"), ("title", "Shop")] =
      "&e- Shop&7: Shop" := by decide
  have scanned : String.ofList (scan [("name", "%title%"), ("title", "Shop")]
      "&e- %name%&7: %title%".toList) = "&e- %title%&7: Shop" := by decide
  refine ⟨⟨by decide, by decide⟩, filled, scanned, ?_⟩
  rw [Verbatim, filled, scanned]
  decide

end ChestMenu.Text
