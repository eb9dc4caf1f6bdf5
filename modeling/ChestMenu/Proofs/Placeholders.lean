import ChestMenu.Condition.Basic
import ChestMenu.Host
import ChestMenu.Proofs.Text.Templates

/-!
# The order in which placeholders are filled

The placeholders of a player are a table, and a table is visited in some order: each of its
keys is replaced in what the keys before it have left. The name of the player comes first in
every order. Where one value has the token of another key in it, or makes one up together with
the text around it, it matters which of the two keys is visited first.

The order never matters exactly if the text, once the name is in it, asks for no key of the
table, or if the table has no two keys. For values without percent signs it does not matter in
a text that is clear for them.
-/

namespace ChestMenu

open ChestMenu.Text

namespace Host

variable {host : Host} {player : Player} {text : String} {keys : List String}

/-- The placeholders that are set for a player. -/
def known (host : Host) (player : Player) : Index String String :=
  (Index.find? player.id host.placeholders).getD []

/-- A text with the name of a player in it. -/
def named (player : Player) (text : String) : List Char :=
  scan [("player_name", player.name)] text.toList

/-- A text filled with the entries of a table in the order in which they are visited. -/
def fillVisiting (player : Player) (order : List (String × String)) (text : String) : String :=
  fillTemplate text (("player_name", player.name) :: order)

/-- In whatever order the placeholders of a player are visited, a text is filled alike. -/
def OrderFree (host : Host) (player : Player) (text : String) : Prop :=
  ∀ order, order.Perm (host.known player) →
    fillVisiting player order text = host.fill player text

/-- The table itself is one order of its entries. -/
theorem fill_eq_visiting (host : Host) (player : Player) (text : String) :
    host.fill player text = fillVisiting player (host.known player) text := rfl

theorem fill_visiting_eq (order : List (String × String)) (text : String) :
    fillVisiting player order text = String.ofList (Text.fill order (named player text)) := by
  rw [fillVisiting, fillTemplate, fill_cons, named]

theorem order_free_iff : host.OrderFree player text ↔
    ∀ order, order.Perm (host.known player) →
      Text.fill order (named player text) =
        Text.fill (host.known player) (named player text) := by
  simp only [OrderFree, fill_eq_visiting, fill_visiting_eq, String.ofList_inj]

/-- A table with no two entries has one order. -/
theorem order_free_of_short (short : (host.known player).length ≤ 1) :
    host.OrderFree player text := by
  refine order_free_iff.mpr fun order same => ?_
  cases table : host.known player with
  | nil =>
    rw [table] at same
    rw [same.eq_nil]
  | cons entry rest =>
    have none : rest = [] := by
      rw [table, List.length_cons] at short
      exact List.eq_nil_of_length_eq_zero (by omega)
    rw [table, none] at same
    rw [none, List.perm_singleton.mp same]

/-- No order of the table puts anything into a text that asks for none of its keys. -/
theorem order_free_of_absent
    (absent : ∀ key ∈ (host.known player).keys, ¬ token key.toList <:+: named player text) :
    host.OrderFree player text := by
  refine order_free_iff.mpr fun order same => ?_
  have none : ∀ entry ∈ host.known player, ¬ token entry.1.toList <:+: named player text :=
    fun entry member => absent entry.1 (List.mem_map_of_mem member)
  rw [fill_eq_self none, fill_eq_self fun entry member => none entry (same.mem_iff.mp member)]

/-- If a text asks for a key, and there is another one, the values of the two can be such that
it matters which of them is visited first. -/
theorem exists_not_order_free (distinct : keys.Nodup) (several : 1 < keys.length) {key : String}
    (member : key ∈ keys) (inside : token key.toList <:+: named player text) :
    ∃ host : Host, (host.known player).keys = keys ∧ ¬ host.OrderFree player text := by
  have front := List.perm_cons_erase member
  obtain ⟨other, rest, behind⟩ : ∃ other rest, keys.erase key = other :: rest := by
    refine List.exists_cons_of_length_pos ?_
    rw [List.length_erase_of_mem member]
    omega
  rw [behind] at front
  have unlike := front.nodup_iff.mp distinct
  have different : key ≠ other := fun same => by simp [same] at unlike
  have others : ∀ third ∈ [] ++ [] ++ rest, third ≠ key ∧ third ≠ other := by
    simp only [List.nodup_cons] at unlike
    grind
  let valueOf := revealing key other (named player text).length
  let host : Host := { placeholders := [(player.id, valued valueOf keys)] }
  have table : host.known player = valued valueOf keys := by
    simp [host, known, Index.find?]
  refine ⟨host, by rw [table, Index.keys, valued_keys], fun free => ?_⟩
  rw [order_free_iff, table] at free
  have forwards := free (valued valueOf (key :: other :: rest)) (front.symm.map _)
  have backwards := free (valued valueOf (other :: key :: rest))
    (((List.Perm.swap key other rest).trans front.symm).map _)
  have same : Text.fill (valued valueOf [key, other]) (named player text) =
      Text.fill (valued valueOf [other, key]) (named player text) := by
    rw [← fill_revealing_pair others, ← fill_revealing_pair others]
    exact forwards.trans backwards.symm
  obtain ⟨long, none⟩ := revealed different inside
  rw [same] at long none
  exact (fill_revealing_backwards different _ _).elim (Nat.not_le.mpr long) none

/-- Values without percent signs go into a clear text alike in every order. -/
theorem order_free_of_clear (proper : Proper (host.known player).keys)
    (plain : ∀ entry ∈ host.known player, '%' ∉ entry.2.toList)
    (clear : Clear (host.known player) (named player text)) : host.OrderFree player text :=
  order_free_iff.mpr fun _ same => fill_perm proper plain clear same.symm

/-- Whatever the values in a table with the given keys are, the order in which it is visited
makes no difference exactly if there are no two keys or the text, once the name of the player
is in it, asks for none of them. For given values without percent signs it makes no difference
in a text that is clear for them. -/
theorem order_free_exact (ordered : keys.Pairwise (· < ·)) (player : Player) (text : String) :
    ((∀ host : Host, (host.known player).keys = keys → host.OrderFree player text) ↔
      keys.length ≤ 1 ∨ ∀ key ∈ keys, ¬ token key.toList <:+: named player text) ∧
    (∀ host : Host, (host.known player).keys = keys → Proper keys →
      (∀ entry ∈ host.known player, '%' ∉ entry.2.toList) →
      Clear (host.known player) (named player text) → host.OrderFree player text) := by
  refine ⟨⟨fun free => ?_, fun either host same => ?_⟩, fun host same proper plain clear => ?_⟩
  · by_contra both
    obtain ⟨several, asked⟩ := not_or.mp both
    push Not at asked several
    obtain ⟨key, member, inside⟩ := asked
    have distinct : keys.Nodup := ordered.imp fun less => String.ne_of_lt less
    obtain ⟨host, same, depends⟩ := exists_not_order_free distinct several member inside
    exact depends (free host same)
  · subst same
    rcases either with short | absent
    · rw [Index.keys, List.length_map] at short
      exact order_free_of_short short
    · exact order_free_of_absent absent
  · subst same
    exact order_free_of_clear proper plain clear

/-- A host on which Steve has a rank and some coins. -/
def settled : Host :=
  (({} : Host).setPlaceholder (.named "Steve") "rank" "vip").setPlaceholder (.named "Steve")
    "coins" "5"

/-- A greeting by name asks for neither placeholder. A text in which the two stand side by
side asks for both, and gets both in either order. -/
theorem settled_order_free :
    settled.OrderFree (.named "Steve") "Hello %player_name%!" ∧
    fillVisiting (.named "Steve") [("rank", "vip"), ("coins", "5")]
      "%player_name% (%rank%): %coins%%" = "Steve (vip): 5%" := by
  have keys : (settled.known (.named "Steve")).keys = ["coins", "rank"] := by decide
  have ordered : ["coins", "rank"].Pairwise (· < ·) := by decide
  have absent : ∀ key ∈ ["coins", "rank"],
      ¬ token key.toList <:+: named (.named "Steve") "Hello %player_name%!" := by decide
  have proper : Proper ["coins", "rank"] := ⟨by decide, by decide⟩
  have clear : Clear (settled.known (.named "Steve"))
      (named (.named "Steve") "%player_name% (%rank%): %coins%%") := by decide
  have greeted := (order_free_exact ordered (.named "Steve") "Hello %player_name%!").1.mpr
    (Or.inr absent) settled keys
  have shown := (order_free_exact ordered (.named "Steve")
    "%player_name% (%rank%): %coins%%").2 settled keys proper (by decide) clear
  have backwards := shown [("rank", "vip"), ("coins", "5")] (by decide)
  exact ⟨greeted, backwards.trans (by decide)⟩

/-- A host on which one placeholder of Steve stands for another. -/
def chained : Host :=
  (({} : Host).setPlaceholder (.named "Steve") "a" "%b%").setPlaceholder (.named "Steve") "b" "1"

/-- Visited before the other one, the first placeholder is filled to the end and a comparison
with it holds. Visited after it, it stays half filled and the comparison fails. -/
theorem chained_depends_on_order :
    [("b", "1"), ("a", "%b%")].Perm (chained.known (.named "Steve")) ∧
    chained.fill (.named "Steve") "%a%" = "1" ∧
    fillVisiting (.named "Steve") [("b", "1"), ("a", "%b%")] "%a%" = "%b%" ∧
    ((Condition.comparison ⟨"%a%", some .equal, "1"⟩).check
      (chained.readings (.named "Steve"))).value = true ∧
    ((Condition.comparison ⟨"%a%", some .equal, "1"⟩).check
      { permits := chained.permits (.named "Steve")
        fill := fillVisiting (.named "Steve") [("b", "1"), ("a", "%b%")] }).value = false ∧
    ¬ chained.OrderFree (.named "Steve") "%a%" := by
  have order : [("b", "1"), ("a", "%b%")].Perm (chained.known (.named "Steve")) := by decide
  have inTable : chained.fill (.named "Steve") "%a%" = "1" := by decide
  have backwards : fillVisiting (.named "Steve") [("b", "1"), ("a", "%b%")] "%a%" = "%b%" := by
    decide
  refine ⟨order, inTable, backwards, by decide +kernel, by decide +kernel, fun free => ?_⟩
  have same := free _ order
  rw [backwards, inTable] at same
  exact absurd same (by decide)

end Host

end ChestMenu
