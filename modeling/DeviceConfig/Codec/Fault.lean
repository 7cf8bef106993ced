import DeviceConfig.Decimal.Layout
import DeviceConfig.Json.Number.Value
import DeviceConfig.Text.Quoted

/-!
# Faults

A text that cannot be loaded is either malformed, or it is a document of another shape
than the one that is expected.
-/

namespace DeviceConfig.Codec

/-- What stands where something else is expected. -/
inductive Found where
  | null
  | boolean (value : Bool)
  | number (value : Json.Number)
  | string (text : String)
  | sequence
  | map

/-- What is expected. -/
inductive Expected where
  | string
  | sequence
  /-- A record with the given title. -/
  | record (title : String)
  deriving DecidableEq, Repr

/-- How a document differs from the expected shape. -/
inductive Mismatch where
  | invalidType (found : Found) (expected : Expected)
  /-- A member without a default is absent from an object. -/
  | missing (label : String)
  /-- A member occurs twice in an object. -/
  | duplicate (label : String)
  /-- A member without a default is cut off from an array of the given length. -/
  | tooShort (length : Nat) (title : String) (members : Nat)

/-- Why a text cannot be loaded. -/
inductive Fault where
  | malformed
  | mismatch (mismatch : Mismatch)

/-! ## Messages -/

/-- A detail within a message. -/
def backquoted (text : String) : String :=
  "`" ++ text ++ "`"

def numberMessage : Json.Number → String
  | .natural n => "integer " ++ backquoted (toString n)
  | .negative n => "integer " ++ backquoted ("-" ++ toString n)
  | .float x => "floating point " ++ backquoted (Decimal.floatText x)

def Found.message : Found → String
  | null => "null"
  | boolean value => "boolean " ++ backquoted (toString value)
  | number value => numberMessage value
  | string text => "string " ++ Text.quoted text
  | sequence => "sequence"
  | map => "map"

def Expected.message : Expected → String
  | string => "a string"
  | sequence => "a sequence"
  | record title => "struct " ++ title

def Mismatch.message : Mismatch → String
  | invalidType found expected =>
    "invalid type: " ++ found.message ++ ", expected " ++ expected.message
  | missing label => "missing field " ++ backquoted label
  | duplicate label => "duplicate field " ++ backquoted label
  | tooShort length title members =>
    "invalid length " ++ toString length ++ ", expected struct " ++ title ++ " with " ++
      toString members ++ " elements"

end DeviceConfig.Codec
