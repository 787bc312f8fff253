/-!
# JSON values

The values that describe documents: texts, lists, and objects whose keys are in order.

## Main definitions

* `Json` — the values.
* `Json.insert` — adds a value to an object's entries; what is there under the key becomes a list.
* `Json.group` — the entries that a list of contributions makes: each key once, in order of first
  appearance, with its value, or the list of its values if there are several.
-/

namespace JavaTree

/-- A value. -/
inductive Json
  | text (s : String)
  | list (items : List Json)
  | object (entries : List (String × Json))
  deriving Inhabited

namespace Json

/-- The value for a key that has a value, with a further one. -/
def join : Json → Json → Json
  | list items, v => list (items ++ [v])
  | old, v => list [old, v]

/-- Adds a value under a key. -/
def insert (entries : List (String × Json)) (key : String) (v : Json) : List (String × Json) :=
  match entries with
  | [] => [(key, v)]
  | (k, old) :: rest => if k == key then (k, join old v) :: rest else (k, old) :: insert rest key v

/-- The entries that contributions make, taken in one after the other. -/
def collect (items : List (String × Json)) : List (String × Json) :=
  items.foldl (fun entries item => insert entries item.1 item.2) []

/-- One value stands for itself, several for their list. -/
def bundle : List Json → Json
  | [v] => v
  | vs => list vs

/-- The entries that contributions make, key by key. -/
def group (items : List (String × Json)) : List (String × Json) :=
  ((items.map (·.1)).eraseDups).map fun key =>
    (key, bundle ((items.filter (·.1 == key)).map (·.2)))

end Json

end JavaTree
