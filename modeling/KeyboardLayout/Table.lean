/-!
# Tables in order of insertion

A table is a list of rows with distinct keys. Writing a key that is there changes its row in
place; a new key goes to the end.
-/

namespace KeyboardLayout

/-- Rows of keys and values. -/
abbrev Table (α β : Type) := List (α × β)

namespace Table

variable {α β : Type} [DecidableEq α]

/-- The value of a key. -/
def get? (key : α) : Table α β → Option β
  | [] => none
  | row :: rest => if row.1 = key then some row.2 else get? key rest

def put (key : α) (value : β) : Table α β → Table α β
  | [] => [(key, value)]
  | row :: rest => if row.1 = key then (key, value) :: rest else row :: put key value rest

/-- The table that rows written one after the other leave. -/
def ofRows (rows : List (α × β)) : Table α β :=
  rows.foldl (fun table row => put row.1 row.2 table) []

theorem get?_put (table : Table α β) (a b : α) (value : β) :
    get? b (put a value table) = if a = b then some value else get? b table := by
  induction table with
  | nil => simp [put, get?]
  | cons row rest ih => grind [put, get?]

end Table

end KeyboardLayout
