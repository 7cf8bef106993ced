/-!
# Duplicate keys

Keys that came in more than once, in the order in which they were found and as often as
they were found.
-/

namespace DeviceConfig

/-- A key between quotes, as messages show it. -/
def quoteKey (key : String) : String :=
  "`" ++ key ++ "`"

/-- One key that was already taken. -/
structure DuplicateKey where
  key : String
  deriving DecidableEq, Repr

def DuplicateKey.message (duplicate : DuplicateKey) : String :=
  "duplicate key " ++ quoteKey duplicate.key

/-- The duplicate keys of one key space. -/
structure DuplicateKeys where
  keys : List String := []
  deriving DecidableEq, Repr

namespace DuplicateKeys

/-- The number of duplicates, repetitions included. -/
def size (duplicates : DuplicateKeys) : Nat :=
  duplicates.keys.length

def isEmpty (duplicates : DuplicateKeys) : Bool :=
  duplicates.keys.isEmpty

/-- Appends a duplicate. -/
def push (duplicates : DuplicateKeys) (key : String) : DuplicateKeys :=
  ⟨duplicates.keys ++ [key]⟩

/-- Whether a key was found to be a duplicate. -/
def contains (duplicates : DuplicateKeys) (key : String) : Bool :=
  duplicates.keys.contains key

/-- The duplicate that was found first. -/
def first? (duplicates : DuplicateKeys) : Option DuplicateKey :=
  duplicates.keys.head?.map DuplicateKey.mk

/-- The number of duplicates and all of them. -/
def message (duplicates : DuplicateKeys) : String :=
  toString duplicates.size ++ " duplicate key(s): " ++
    ", ".intercalate (duplicates.keys.map quoteKey)

@[simp] theorem keys_push (duplicates : DuplicateKeys) (key : String) :
    (duplicates.push key).keys = duplicates.keys ++ [key] :=
  rfl

end DuplicateKeys

end DeviceConfig
