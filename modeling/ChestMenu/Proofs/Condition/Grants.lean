import ChestMenu.Host
import ChestMenu.Proofs.Notices
import ChestMenu.Proofs.Tables

/-!
# More permissions, no fewer conditions

There is no way to ask that a permission be missing: a permission is asked for by itself,
every other single condition does not look at permissions, and lists of conditions only join
what their parts say by all and any. So a condition that holds for a player still holds when
the player has more permissions, however deep its lists lie in each other.
-/

namespace ChestMenu

/-! ## Granting -/

namespace Host

variable {host : Host} {player : Player}

/-- After a grant a player has the permissions that were there, and the granted one if it
was granted to the same id. -/
theorem permits_grant_iff (other : Player) (granted permission : String) :
    (host.grant other granted).permits player permission = true ↔
      (player.id = other.id ∧ permission = granted) ∨ host.permits player permission = true := by
  simp only [permits, grant, Index.find_put, List.contains_iff_mem]
  by_cases same : player.id = other.id
  · simp [same]
  · simp [same]

/-- The host after several grants, to whoever it was. -/
def granting (host : Host) (grants : List (Player × String)) : Host :=
  grants.foldl (fun host (player, permission) => host.grant player permission) host

theorem placeholders_granting (grants : List (Player × String)) :
    (host.granting grants).placeholders = host.placeholders := by
  induction grants generalizing host with
  | nil => rfl
  | cons first rest inductionHypothesis =>
    rw [granting, List.foldl_cons, ← granting, inductionHypothesis]
    rfl

/-- Grants take no permission away. -/
theorem permits_granting (grants : List (Player × String)) {permission : String}
    (permits : host.permits player permission = true) :
    (host.granting grants).permits player permission = true := by
  induction grants generalizing host with
  | nil => exact permits
  | cons first rest inductionHypothesis =>
    exact inductionHypothesis ((permits_grant_iff _ _ _).mpr (Or.inr permits))

/-- Filling looks at the placeholders of the player only. -/
theorem fill_eq_of_placeholders {other : Host}
    (same : Index.find? player.id other.placeholders = Index.find? player.id host.placeholders) :
    other.fill player = host.fill player := by
  funext text
  rw [fill, fill, fillings, fillings, same]

end Host

/-! ## Checking -/

namespace Condition

variable {readings : Readings} {parts : List Condition} {first second : Host} {player : Player}

/-- All conditions are found to hold exactly if each of them is. -/
theorem value_ask_all_iff :
    (askAll readings.enquiry parts).value = true ↔
      ∀ part ∈ parts, (check readings part).value = true := by
  induction parts with
  | nil => simp [askAll]
  | cons part rest inductionHypothesis =>
    rw [askAll, Noted.value_bind, List.forall_mem_cons, ← check]
    cases (check readings part).value with
    | false => simp
    | true => simpa using inductionHypothesis

/-- Any of the conditions is found to hold exactly if one of them is. -/
theorem value_ask_any_iff :
    (askAny readings.enquiry parts).value = true ↔
      ∃ part ∈ parts, (check readings part).value = true := by
  induction parts with
  | nil => simp [askAny]
  | cons part rest inductionHypothesis =>
    simp only [askAny, Noted.value_bind, List.mem_cons, exists_eq_or_imp]
    rw [← check]
    cases (check readings part).value with
    | false => simpa using inductionHypothesis
    | true => simp

/-- What holds by some readings holds by readings with the same filled texts and more
permissions. -/
theorem check_of_more {more : Readings} (sameFill : more.fill = readings.fill)
    (permits : ∀ permission, readings.permits permission = true →
      more.permits permission = true) :
    ∀ condition, (check readings condition).value = true → (check more condition).value = true
  | .permission name => permits name
  | .placeholder key => by
    simp only [check, ask, Readings.enquiry, sameFill]
    exact id
  | .comparison compared => by
    simp only [check, ask, Comparison.ask, Readings.enquiry, sameFill]
    exact id
  | .all parts => by
    simp only [check, ask, value_ask_all_iff]
    exact fun all part member => check_of_more sameFill permits part (all part member)
  | .any parts => by
    simp only [check, ask, value_ask_any_iff]
    rintro ⟨part, member, holds⟩
    exact ⟨part, member, check_of_more sameFill permits part holds⟩

/-- A condition that holds for a player on one host holds for the player on every host with
the same placeholders of the player and at least the permissions. In particular no grants,
to this player or to others, make a condition fail that holds. -/
theorem check_survives_grants
    (placeholders :
      Index.find? player.id second.placeholders = Index.find? player.id first.placeholders)
    (permissions : ∀ permission, first.permits player permission = true →
      second.permits player permission = true) (condition : Condition)
    (holds : (condition.check (first.readings player)).value = true) :
    (condition.check (second.readings player)).value = true ∧
    ∀ grants : List (Player × String),
      (condition.check ((first.granting grants).readings player)).value = true := by
  refine ⟨check_of_more (Host.fill_eq_of_placeholders placeholders) permissions condition holds,
    fun grants => ?_⟩
  have same : Index.find? player.id (first.granting grants).placeholders =
      Index.find? player.id first.placeholders := by
    rw [Host.placeholders_granting]
  exact check_of_more (Host.fill_eq_of_placeholders same)
    (fun _ => Host.permits_granting grants) condition holds

/-- A host on which Steve has a permission and a placeholder. -/
def modest : Host :=
  (({} : Host).grant (.named "Steve") "vip").setPlaceholder (.named "Steve") "flying" "True"

/-- The same host with one permission more, on which no inventory opens. -/
def generous : Host := (modest.grant (.named "Steve") "admin").refuse .openInventory

/-- A condition with lists in a list, one of them empty. -/
def mayFly : Condition :=
  .all [.any [.permission "admin", .permission "vip"], .all [], .placeholder "flying"]

/-- Steve may fly with one permission, with another one besides, and whatever Alex is granted. -/
theorem flying_survives_grants :
    (∀ permission, modest.permits (.named "Steve") permission = true →
      generous.permits (.named "Steve") permission = true) ∧
    (mayFly.check (modest.readings (.named "Steve"))).value = true ∧
    (mayFly.check (generous.readings (.named "Steve"))).value = true ∧
    (mayFly.check ((modest.granting [(.named "Alex", "vip")]).readings (.named "Steve"))).value =
      true := by
  have more : ∀ permission, modest.permits (.named "Steve") permission = true →
      generous.permits (.named "Steve") permission = true := by
    intro permission permits
    have granted : (modest.grant (.named "Steve") "admin").permits (.named "Steve") permission =
        true := (Host.permits_grant_iff _ _ _).mpr (Or.inr permits)
    exact granted
  have same : generous.placeholders = modest.placeholders := rfl
  have holds : (mayFly.check (modest.readings (.named "Steve"))).value = true := by
    decide +kernel
  obtain ⟨stays, granted⟩ :=
    check_survives_grants (congrArg (Index.find? _) same) more mayFly holds
  exact ⟨more, holds, stays, granted _⟩

end Condition

end ChestMenu
