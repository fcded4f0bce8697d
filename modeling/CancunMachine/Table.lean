/-!
# Finite maps

Each key has at most one value. `Table.get?` is the view through which a table is
read; writing a key changes the view at that key only.
-/

namespace CancunMachine

/-- A finite map, listed with the latest writes first. -/
structure Table (Key Value : Type) where
  entries : List (Key × Value)

namespace Table

variable {Key Value : Type}

def empty : Table Key Value := ⟨[]⟩

instance : Inhabited (Table Key Value) := ⟨empty⟩

variable [DecidableEq Key]

def get? (table : Table Key Value) (key : Key) : Option Value :=
  (table.entries.find? fun entry => entry.1 = key).map (·.2)

def contains (table : Table Key Value) (key : Key) : Bool :=
  (table.get? key).isSome

def erase (table : Table Key Value) (key : Key) : Table Key Value :=
  ⟨table.entries.filter fun entry => entry.1 ≠ key⟩

/-- Gives a key a value, in place of any older one. -/
def insert (table : Table Key Value) (key : Key) (value : Value) : Table Key Value :=
  ⟨(key, value) :: (table.erase key).entries⟩

/-- Gives every key of `later` its value there. -/
def union (earlier later : Table Key Value) : Table Key Value :=
  later.entries.foldr (fun entry table => table.insert entry.1 entry.2) earlier

theorem get?_empty (key : Key) : (empty : Table Key Value).get? key = none := rfl

theorem get?_erase (table : Table Key Value) (key other : Key) :
    (table.erase key).get? other = if other = key then none else table.get? other := by
  by_cases same : other = key
  · subst same
    simp [get?, erase]
  · simp only [get?, erase, List.find?_filter, if_neg same]
    congr 2
    funext entry
    by_cases found : entry.1 = other <;> simp_all

theorem get?_insert (table : Table Key Value) (key other : Key) (value : Value) :
    (table.insert key value).get? other = if other = key then some value else table.get? other := by
  by_cases same : other = key
  · subst same
    simp [get?, insert]
  · have different : ¬key = other := fun equal => same equal.symm
    have erased := get?_erase table key other
    simp only [get?] at erased
    simp [get?, insert, different, same, erased]

end Table

end CancunMachine
