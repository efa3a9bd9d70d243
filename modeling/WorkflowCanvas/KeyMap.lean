/-! Finite maps from text keys, kept as lists in key order with one entry for each key.
`insert` keeps that order, and a later value for a key takes the place of an earlier one. -/
namespace WorkflowCanvas

/-- The entries of a map, smallest key first. -/
abbrev KeyMap (α : Type) := List (String × α)

namespace KeyMap
variable {α β : Type}

/-- Keys rise strictly from entry to entry. -/
def Sorted (m : KeyMap α) : Prop := m.Pairwise fun a b => a.1 < b.1

/-- The value under `key`. -/
def get? (m : KeyMap α) (key : String) : Option α := m.lookup key

/-- Put `value` under `key`, at the key's place in the order. -/
def insert (m : KeyMap α) (key : String) (value : α) : KeyMap α :=
  match m with
  | [] => [(key, value)]
  | (k, v) :: rest =>
    if key < k then (key, value) :: (k, v) :: rest
    else if key = k then (key, value) :: rest
    else (k, v) :: insert rest key value

/-- Put every entry of `added` into `m`, in turn. -/
def overlay (m added : KeyMap α) : KeyMap α :=
  added.foldl (fun acc entry => acc.insert entry.1 entry.2) m

/-- The map of a list of entries in any order; the last value given for a key stays. -/
def ofEntries (entries : List (String × α)) : KeyMap α := overlay [] entries

def keys (m : KeyMap α) : List String := m.map (·.1)

def values (m : KeyMap α) : List α := m.map (·.2)

@[simp] theorem get?_nil (key : String) : get? ([] : KeyMap α) key = none := rfl

theorem get?_cons (k : String) (v : α) (m : KeyMap α) (key : String) :
    get? ((k, v) :: m) key = if key = k then some v else get? m key := by
  by_cases h : key = k
  · simp [get?, h]
  · have hb : (key == k) = false := by simpa using h
    simp [get?, List.lookup_cons, h, hb]

theorem get?_insert (m : KeyMap α) (key other : String) (value : α) :
    get? (insert m key value) other = if other = key then some value else get? m other := by
  induction m with
  | nil => simp [insert, get?_cons]
  | cons entry rest ih =>
    obtain ⟨k, v⟩ := entry
    unfold insert
    split
    · simp [get?_cons]
    · split
      · next h => subst h; by_cases ho : other = key <;> simp [get?_cons, ho]
      · next h =>
        by_cases ho : other = key
        · subst ho; simp [get?_cons, ih, h]
        · simp [get?_cons, ih, ho]

end KeyMap
end WorkflowCanvas
