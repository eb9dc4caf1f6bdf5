import ChestMenu.Engine.Basic

/-!
# A ledger of bindings

A binding comes into being when a menu has opened for a player, and is told apart by the
id of the player and how many have been made under that id. Whatever becomes of a binding is
entered in a ledger: that it was made, how it ended, what the host said when it was asked
to close the inventory after that, and that close handlers were run on its account. The
entries of a binding are its story.

The ledger is kept if every story of an earlier binding is over, and the story of the
latest one has either just begun, while its player is bound, or is over as well. There
are not many ways for a story to be over, and in each of them the close handlers of the
binding are heard at most once.
-/

namespace ChestMenu

/-- How a binding ends. -/
inductive Ending where
  /-- The host reports that the inventory is gone. -/
  | reported
  /-- The view is closed, and the close handlers are to be heard. -/
  | closed
  /-- The view is closed by force, without them. -/
  | forced
  /-- The view is stale and is renewed. -/
  | renewed
  /-- Another menu opens over it. -/
  | replaced
deriving DecidableEq, Repr

/-- Something about a binding. -/
inductive Deed where
  /-- The binding is made, to this edition. -/
  | opened (edition : Edition)
  | ended (how : Ending)
  /-- Asked to close the inventory of the binding, the host did so or refused. -/
  | answered (outcome : Except HostError Unit)
  /-- On account of the binding, the close handlers of this edition are run. -/
  | heard (edition : Edition)
deriving Repr

namespace Deed

/-- Whether a binding is made. -/
def isOpening : Deed → Bool
  | .opened _ => true
  | _ => false

/-- Whether close handlers are run. -/
def isHearing : Deed → Bool
  | .heard _ => true
  | _ => false

end Deed

/-- A deed, and the binding that it is about. -/
structure Ledger.Entry where
  id : String
  nth : Nat
  deed : Deed
deriving Repr

/-- What has been entered so far. -/
structure Ledger where
  entries : List Ledger.Entry := []
deriving Repr

namespace Ledger

/-- Enters a deed about a binding. -/
def write (ledger : Ledger) (id : String) (nth : Nat) (deed : Deed) : Ledger :=
  ⟨ledger.entries ++ [⟨id, nth, deed⟩]⟩

/-- How many bindings have been made under an id. -/
def openings (ledger : Ledger) (id : String) : Nat :=
  ledger.entries.countP fun entry => entry.id = id ∧ entry.deed.isOpening

/-- What has become of a binding. -/
def story (ledger : Ledger) (id : String) (nth : Nat) : List Deed :=
  (ledger.entries.filter fun entry => entry.id = id ∧ entry.nth = nth).map Entry.deed

/-- Enters that the latest binding under an id ends. -/
def endLatest (ledger : Ledger) (how : Ending) (id : String) : Ledger :=
  ledger.write id (ledger.openings id) (.ended how)

/-- Enters that what was bound under an id, if anything was, is bound no more. -/
def release (ledger : Ledger) (how : Ending) (id : String) : Option Edition → Ledger
  | none => ledger
  | some _ => ledger.endLatest how id

/-- Enters that an edition is bound under an id, over what was bound there. -/
def rebind (ledger : Ledger) (id : String) (bound : Option Edition) (edition : Edition) : Ledger :=
  let released := ledger.release .replaced id bound
  released.write id (released.openings id + 1) (.opened edition)

/-- Enters that the latest bindings under some ids end to be renewed. -/
def renewAll (ledger : Ledger) : List String → Ledger
  | [] => ledger
  | id :: rest => (ledger.endLatest .renewed id).renewAll rest

variable {ledger : Ledger} {id other : String} {deed : Deed} {edition : Edition}

theorem story_write (ledger : Ledger) (id other : String) (nth n : Nat) (deed : Deed) :
    (ledger.write id nth deed).story other n =
      if id = other ∧ nth = n then ledger.story other n ++ [deed] else ledger.story other n := by
  unfold story write
  rw [List.filter_append, List.map_append]
  split <;> simp [*]

theorem openings_write (ledger : Ledger) (id other : String) (nth : Nat) (deed : Deed) :
    (ledger.write id nth deed).openings other =
      if id = other ∧ deed.isOpening then ledger.openings other + 1 else ledger.openings other := by
  unfold openings write
  rw [List.countP_append, List.countP_singleton]
  split <;> simp_all

theorem openings_end_latest (ledger : Ledger) (how : Ending) (id other : String) :
    (ledger.endLatest how id).openings other = ledger.openings other := by
  unfold endLatest
  rw [openings_write, if_neg (by simp [Deed.isOpening])]

/-- The story of a binding to an edition when it is over. -/
inductive Over (edition : Edition) : List Deed → Prop where
  | reported : Over edition [.opened edition, .ended .reported, .heard edition]
  | closed : Over edition
      [.opened edition, .ended .closed, .answered (.ok ()), .heard edition]
  | refused (error : HostError) : Over edition
      [.opened edition, .ended .closed, .answered (.error error)]
  | forced (outcome : Except HostError Unit) : Over edition
      [.opened edition, .ended .forced, .answered outcome]
  | renewed : Over edition [.opened edition, .ended .renewed]
  | replaced : Over edition [.opened edition, .ended .replaced]

/-- What is owed to a binding to an edition. -/
structure Orderly (edition : Edition) (story : List Deed) : Prop where
  /-- It is made once, before anything else. -/
  made : story.head? = some (.opened edition) ∧ story.countP Deed.isOpening = 1
  /-- Its close handlers run at most once, and no others run on its account. -/
  once : story.countP Deed.isHearing ≤ 1 ∧ ∀ other, .heard other ∈ story → other = edition
  /-- They do not run for a binding that ends by force, by renewal, or by another opening. -/
  never : .ended .forced ∈ story ∨ .ended .renewed ∈ story ∨ .ended .replaced ∈ story →
    story.countP Deed.isHearing = 0
  /-- They run after a plain close that the host accepts. -/
  accepted : .ended .closed ∈ story → .answered (.ok ()) ∈ story →
    story.countP Deed.isHearing = 1
  /-- They run after the host has reported the inventory gone. -/
  reported : .ended .reported ∈ story → story.countP Deed.isHearing = 1

theorem Orderly.of_opened (edition : Edition) : Orderly edition [.opened edition] := by
  constructor <;> simp [List.countP_cons, Deed.isOpening, Deed.isHearing]

theorem Over.orderly {story : List Deed} (isOver : Over edition story) : Orderly edition story := by
  cases isOver <;> constructor <;> simp [List.countP_cons, Deed.isOpening, Deed.isHearing]

/-! ## Ledgers that are kept -/

/-- All bindings under an id but the latest are over, and the latest has come this far. Before
there is any, nothing has been entered. -/
structure Tells (ledger : Ledger) (id : String) (latest : List Deed) : Prop where
  nameless : ledger.story id 0 = []
  unborn : ∀ nth, ledger.openings id < nth → ledger.story id nth = []
  past : ∀ nth, 0 < nth → nth < ledger.openings id →
    ∃ edition, Over edition (ledger.story id nth)
  latest : ledger.story id (ledger.openings id) = latest

/-- The bindings under an id are accounted for, when this edition or none is bound there. -/
def Keeps (ledger : Ledger) (id : String) : Option Edition → Prop
  | some edition => ledger.Tells id [.opened edition]
  | none => ∃ latest, ledger.Tells id latest ∧
      (ledger.openings id = 0 ∨ ∃ edition, Over edition latest)

namespace Tells

/-- What is entered under another id does not matter. -/
theorem aside {latest : List Deed} (tells : ledger.Tells other latest) (different : other ≠ id)
    (nth : Nat) (deed : Deed) : (ledger.write id nth deed).Tells other latest := by
  have story (n : Nat) : (ledger.write id nth deed).story other n = ledger.story other n := by
    rw [story_write, if_neg fun same => different same.1.symm]
  have openings : (ledger.write id nth deed).openings other = ledger.openings other := by
    rw [openings_write, if_neg fun same => different same.1.symm]
  constructor
  · rw [story]
    exact tells.nameless
  · intro n later
    rw [openings] at later
    rw [story]
    exact tells.unborn n later
  · intro n positive earlier
    rw [openings] at earlier
    rw [story]
    exact tells.past n positive earlier
  · rw [openings, story]
    exact tells.latest

/-- Where a story has begun, a binding has been made. -/
theorem some_made {latest : List Deed} (tells : ledger.Tells id latest) (begun : latest ≠ []) :
    0 < ledger.openings id := by
  refine Nat.pos_of_ne_zero fun nothing => begun ?_
  have empty := tells.nameless
  rw [← nothing, tells.latest] at empty
  exact empty

/-- The story of the latest binding goes on. -/
theorem onward {latest : List Deed} (tells : ledger.Tells id latest) (begun : latest ≠ [])
    (notOpening : deed.isOpening = false) :
    (ledger.write id (ledger.openings id) deed).Tells id (latest ++ [deed]) := by
  have openings : (ledger.write id (ledger.openings id) deed).openings id = ledger.openings id := by
    rw [openings_write, if_neg (by simp [notOpening])]
  have others {nth : Nat} (different : ledger.openings id ≠ nth) :
      (ledger.write id (ledger.openings id) deed).story id nth = ledger.story id nth := by
    rw [story_write, if_neg fun same => different same.2]
  have some : ledger.openings id ≠ 0 := Nat.ne_of_gt (tells.some_made begun)
  constructor
  · rw [others some]
    exact tells.nameless
  · intro nth later
    rw [openings] at later
    rw [others (Nat.ne_of_lt later)]
    exact tells.unborn nth later
  · intro nth positive earlier
    rw [openings] at earlier
    rw [others (Nat.ne_of_gt earlier)]
    exact tells.past nth positive earlier
  · rw [openings, story_write, if_pos ⟨rfl, rfl⟩, tells.latest]

/-- A new story begins when the latest one is over, or there is none. -/
theorem begin {latest : List Deed} (tells : ledger.Tells id latest)
    (isOver : ledger.openings id = 0 ∨ ∃ edition, Over edition latest) (edition : Edition) :
    (ledger.write id (ledger.openings id + 1) (.opened edition)).Tells id [.opened edition] := by
  have openings : (ledger.write id (ledger.openings id + 1) (.opened edition)).openings id =
      ledger.openings id + 1 := by
    rw [openings_write, if_pos ⟨rfl, rfl⟩]
  have others {nth : Nat} (different : ledger.openings id + 1 ≠ nth) :
      (ledger.write id (ledger.openings id + 1) (.opened edition)).story id nth =
        ledger.story id nth := by
    rw [story_write, if_neg fun same => different same.2]
  constructor
  · rw [others (Nat.succ_ne_zero _)]
    exact tells.nameless
  · intro nth later
    rw [openings] at later
    rw [others (Nat.ne_of_lt later)]
    exact tells.unborn nth (by omega)
  · intro nth positive earlier
    rw [openings] at earlier
    rw [others (Nat.ne_of_gt earlier)]
    by_cases last : nth = ledger.openings id
    · rw [last, tells.latest]
      rcases isOver with none | isOver
      · omega
      · exact isOver
    · exact tells.past nth positive (by omega)
  · rw [openings, story_write, if_pos ⟨rfl, rfl⟩, tells.unborn _ (Nat.lt_succ_self _)]
    rfl

end Tells

namespace Keeps

theorem aside {bound : Option Edition} (keeps : ledger.Keeps other bound) (different : other ≠ id)
    (nth : Nat) (deed : Deed) : (ledger.write id nth deed).Keeps other bound := by
  cases bound with
  | some edition => exact Tells.aside keeps different nth deed
  | none =>
    obtain ⟨latest, tells, isOver⟩ := keeps
    refine ⟨latest, tells.aside different nth deed, ?_⟩
    rw [openings_write, if_neg fun same => different same.1.symm]
    exact isOver

/-- A binding that ends leaves a story that has to be finished. -/
theorem ends (keeps : ledger.Keeps id (some edition)) (how : Ending) :
    (ledger.endLatest how id).Tells id [.opened edition, .ended how] :=
  Tells.onward keeps (List.cons_ne_nil _ _) rfl

theorem of_over {latest : List Deed} (tells : ledger.Tells id latest)
    (isOver : Over edition latest) : ledger.Keeps id none :=
  ⟨latest, tells, Or.inr ⟨edition, isOver⟩⟩

theorem begins (keeps : ledger.Keeps id none) (edition : Edition) :
    (ledger.write id (ledger.openings id + 1) (.opened edition)).Keeps id (some edition) := by
  obtain ⟨latest, tells, isOver⟩ := keeps
  exact tells.begin isOver edition

/-- A binding that is made over another one ends that one. -/
theorem rebound {bound : Option Edition} (keeps : ledger.Keeps id bound) (edition : Edition) :
    (ledger.rebind id bound edition).Keeps id (some edition) := by
  cases bound with
  | none => exact keeps.begins edition
  | some former =>
    have ended : (ledger.endLatest .replaced id).Keeps id none :=
      of_over (keeps.ends .replaced) .replaced
    exact ended.begins edition

theorem renewed_aside {ids : List String} {bound : Option Edition}
    (keeps : ledger.Keeps id bound) (others : id ∉ ids) : (ledger.renewAll ids).Keeps id bound := by
  induction ids generalizing ledger with
  | nil => exact keeps
  | cons first rest inductionHypothesis =>
    obtain ⟨different, later⟩ := not_or.mp (mt List.mem_cons.mpr others)
    exact inductionHypothesis (keeps.aside different _ _) later

/-- Among bindings under different ids that end to be renewed, each is over then. -/
theorem renewed {ids : List String} (keeps : ledger.Keeps id (some edition)) (member : id ∈ ids)
    (distinct : ids.Nodup) : (ledger.renewAll ids).Keeps id none := by
  induction ids generalizing ledger with
  | nil => cases member
  | cons first rest inductionHypothesis =>
    obtain ⟨others, distinctRest⟩ := List.nodup_cons.mp distinct
    rcases List.mem_cons.mp member with rfl | member
    · have ended : (ledger.endLatest .renewed id).Keeps id none :=
        of_over (keeps.ends .renewed) .renewed
      exact ended.renewed_aside others
    · have different : id ≠ first := fun same => others (same ▸ member)
      exact inductionHypothesis (keeps.aside different _ _) member distinctRest

theorem of_empty (id : String) : Ledger.Keeps {} id none :=
  ⟨[], ⟨rfl, fun _ _ => rfl, fun _ _ early => absurd early (Nat.not_lt_zero _), rfl⟩, Or.inl rfl⟩

/-! ## What a kept ledger tells -/

/-- All entries under an id are about bindings that have been made. -/
theorem known {bound : Option Edition} (keeps : ledger.Keeps id bound) {entry : Entry}
    (member : entry ∈ ledger.entries) (same : entry.id = id) :
    0 < entry.nth ∧ entry.nth ≤ ledger.openings id := by
  have written : entry.deed ∈ ledger.story id entry.nth :=
    List.mem_map.mpr ⟨entry, List.mem_filter.mpr ⟨member, by simp [same]⟩, rfl⟩
  obtain ⟨latest, tells⟩ : ∃ latest, ledger.Tells id latest := by
    cases bound with
    | some edition => exact ⟨_, keeps⟩
    | none => exact ⟨_, keeps.choose_spec.1⟩
  constructor
  · refine Nat.pos_of_ne_zero fun nothing => ?_
    rw [nothing, tells.nameless] at written
    cases written
  · refine Nat.le_of_not_lt fun later => ?_
    rw [tells.unborn _ later] at written
    cases written

/-- A binding that is not the one to which its player is bound now is over. -/
theorem former_over {bound : Option Edition} (keeps : ledger.Keeps id bound) {nth : Nat}
    (positive : 0 < nth) (made : nth ≤ ledger.openings id)
    (former : bound = none ∨ nth < ledger.openings id) :
    ∃ edition, Over edition (ledger.story id nth) := by
  rcases Nat.lt_or_eq_of_le made with earlier | rfl
  · cases bound with
    | some edition => exact Tells.past keeps nth positive earlier
    | none => exact keeps.choose_spec.1.past nth positive earlier
  · obtain rfl : bound = none := former.resolve_right (Nat.lt_irrefl _)
    obtain ⟨latest, tells, none | isOver⟩ := keeps
    · exact absurd none (Nat.ne_of_gt positive)
    · rw [tells.latest]
      exact isOver

end Keeps

end Ledger

end ChestMenu
