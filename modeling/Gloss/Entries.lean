/-!
# Lists of entries

Tables are lists of pairs, a key and what it leads to, in the order in which they were made. If a
key has several pairs, the first one counts.

## Main definitions

* `setEntry`: the entries with one of them set.
-/

namespace Gloss

/-- The entries with a key set to a value: at the first place of the key, or at the end if it has
none. -/
def setEntry {κ ν : Type} [DecidableEq κ] (key : κ) (v : ν) : List (κ × ν) → List (κ × ν)
  | [] => [(key, v)]
  | (k, old) :: rest => if k = key then (k, v) :: rest else (k, old) :: setEntry key v rest

end Gloss
