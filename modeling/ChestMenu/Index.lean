/-!
# Ordered tables

An index keeps one value per key and lists its keys in increasing order. Putting a
value under a key that is there replaces the value in its place.
-/

namespace ChestMenu

/-- Keys and values in the order of the keys, each key once. -/
abbrev Index (κ ν : Type) := List (κ × ν)

namespace Index

variable {κ ν : Type} [DecidableEq κ] [LT κ] [DecidableLT κ]

/-- Puts a value under a key, in place of an earlier one. -/
def put (key : κ) (value : ν) : Index κ ν → Index κ ν
  | [] => [(key, value)]
  | (k, v) :: rest =>
    if key = k then (key, value) :: rest
    else if key < k then (key, value) :: (k, v) :: rest
    else (k, v) :: put key value rest

omit [LT κ] [DecidableLT κ] in
/-- The value under a key. -/
def find? (key : κ) : Index κ ν → Option ν
  | [] => none
  | (k, v) :: rest => if key = k then some v else find? key rest

omit [LT κ] [DecidableLT κ] in
/-- The entries of all other keys. -/
def remove (key : κ) (index : Index κ ν) : Index κ ν := index.filter fun entry => entry.1 ≠ key

omit [LT κ] [DecidableLT κ] [DecidableEq κ] in
/-- The keys, in order. -/
def keys (index : Index κ ν) : List κ := index.map Prod.fst

/-- An index of the elements of a list, in order and each once. -/
def distinct (elements : List κ) : List κ :=
  keys (elements.foldl (fun found element => put element () found) [])

end Index

end ChestMenu
