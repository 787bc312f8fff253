/-!
# Entries in order

Keys with values, in the order in which the keys first appear.  A value that is given again takes
the place of the former one.

## Main definitions

* `Entries.set` — gives a key a value.
* `Entries.ofList`, `Entries.update` — the entries of a list of pairs, and entries with those of
  others.
-/

namespace JavaTree.Entries

variable {α : Type}

/-- Entries in which a key has a given value. -/
def set (entries : List (String × α)) (key : String) (value : α) : List (String × α) :=
  match entries with
  | [] => [(key, value)]
  | (k, v) :: rest => if k == key then (k, value) :: rest else (k, v) :: set rest key value

/-- Entries with those of others, which come later. -/
def update (entries others : List (String × α)) : List (String × α) :=
  others.foldl (fun es e => set es e.1 e.2) entries

/-- The entries of a list of pairs. -/
def ofList (pairs : List (String × α)) : List (String × α) := update [] pairs

end JavaTree.Entries
