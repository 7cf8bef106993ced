/-!
# Key maps

A key map holds one value for each of its keys and lists its entries in the order in
which the keys came in. A key is never overwritten: inserting a key again is refused.
Two maps are the same if they hold the same entries, in whatever order; the sorted
view of a map shows its entries in the order of their keys.
-/

namespace DeviceConfig

/-- Entries with pairwise distinct keys, in the order of insertion. -/
structure KeyMap where
  entries : List (String × String) := []
  nodup_keys : (entries.map Prod.fst).Nodup := by simp

namespace KeyMap

/-- The map without entries. -/
def empty : KeyMap := {}

/-- The keys in the order of insertion. -/
def keys (map : KeyMap) : List String :=
  map.entries.map Prod.fst

/-- The number of entries. -/
def size (map : KeyMap) : Nat :=
  map.entries.length

def isEmpty (map : KeyMap) : Bool :=
  map.entries.isEmpty

/-- The value of a key. -/
def get? (map : KeyMap) (key : String) : Option String :=
  map.entries.lookup key

/-- Whether a key has a value. -/
def contains (map : KeyMap) (key : String) : Bool :=
  map.keys.contains key

/-- Appends an entry, unless its key is taken. -/
def insertNew? (map : KeyMap) (key value : String) : Option KeyMap :=
  if h : key ∈ map.keys then
    none
  else
    some
      { entries := map.entries ++ [(key, value)]
        nodup_keys := by
          have h' : ∀ x, (key, x) ∉ map.entries := by simpa [keys] using h
          simpa [List.nodup_append, map.nodup_keys] using fun a b hab => by
            rintro rfl
            exact h' b hab }

/-- The entries in the ascending order of their keys. -/
def sorted (map : KeyMap) : List (String × String) :=
  map.entries.mergeSort fun a b => decide (a.1 ≤ b.1)

/-- Whether two maps hold the same entries. -/
def same (a b : KeyMap) : Bool :=
  a.size == b.size && a.entries.all fun entry => b.get? entry.1 == some entry.2

/-! ## Views -/

@[simp] theorem entries_empty : empty.entries = [] := rfl

@[simp] theorem keys_empty : empty.keys = [] := rfl

theorem insertNew?_of_mem {map : KeyMap} {key : String} (value : String) (h : key ∈ map.keys) :
    map.insertNew? key value = none := by
  simp [insertNew?, h]

theorem insertNew?_of_not_mem {map : KeyMap} {key : String} (value : String)
    (h : key ∉ map.keys) :
    ∃ more, map.insertNew? key value = some more ∧
      more.entries = map.entries ++ [(key, value)] := by
  simp [insertNew?, h]

/-- The sorted view only rearranges the entries. -/
theorem sorted_perm (map : KeyMap) : map.sorted.Perm map.entries :=
  List.mergeSort_perm _ _

end KeyMap

end DeviceConfig
