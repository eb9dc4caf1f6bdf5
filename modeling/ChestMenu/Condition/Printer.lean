import ChestMenu.Condition.Basic

/-!
# Writing conditions

Every condition has a written form: a word and a value with a colon between them, or a
list of written conditions in brackets with semicolons between them.
-/

namespace ChestMenu.Condition

/-- A comparison in writing. -/
def writtenComparison (compared : Comparison) : String :=
  match compared.relation with
  | some relation => " ".intercalate [compared.left, relation.sign, compared.right]
  | none => compared.left

mutual

/-- A condition in writing. -/
def written : Condition → String
  | .permission name => "perm:" ++ name
  | .placeholder key => "papi:" ++ key
  | .comparison compared => "check:" ++ writtenComparison compared
  | .all parts => "all[" ++ ";".intercalate (writtenParts parts) ++ "]"
  | .any parts => "any[" ++ ";".intercalate (writtenParts parts) ++ "]"

/-- Conditions in writing. -/
def writtenParts : List Condition → List String
  | [] => []
  | part :: rest => written part :: writtenParts rest

end

end ChestMenu.Condition
