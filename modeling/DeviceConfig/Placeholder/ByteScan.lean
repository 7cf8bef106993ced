import DeviceConfig.Placeholder.Promotion
import DeviceConfig.Text.Utf8

/-!
# Scanning bytes

A template can be scanned as the bytes in which it is stored. Places are offsets then, and
at an offset behind the end or within a character the bytes cannot be cut.
-/

namespace DeviceConfig

/-! ## One turn -/

def openingBytes : List UInt8 := [0x7B, 0x7B]

def closingBytes : List UInt8 := [0x7D, 0x7D]

/-- The bytes of the placeholder with the given content. -/
def placeholderBytes (content : String) : List UInt8 :=
  openingBytes ++ utf8Bytes content ++ closingBytes

/-- The offset of the first opening. -/
def findOpening : List UInt8 → Option Nat
  | [] => none
  | byte :: rest =>
    if openingBytes.isPrefixOf (byte :: rest) then
      some 0
    else
      (findOpening rest).map (· + 1)

/-- The id with the most bytes of those whose placeholders start the given bytes. -/
def idAt (ids : List FieldId) (candidate : List UInt8) : Option FieldId :=
  longestId (ids.filter fun id => (placeholderBytes id.text).isPrefixOf candidate)

/-- How many bytes a turn takes. If an id is found the number is reckoned from the id. -/
def takenSize : Option FieldId → Nat
  | some id => openingBytes.length + id.byteSize + closingBytes.length
  | none => 1

/-- Bytes that were to be cut at an offset at which they cannot be cut. -/
structure BadCut where
  bytes : List UInt8
  offset : Nat
  deriving DecidableEq, Repr

/-- The bytes in front of an offset and those behind it. -/
def cutAt (bytes : List UInt8) (offset : Nat) : Except BadCut (List UInt8 × List UInt8) :=
  if CharBoundary bytes offset then
    .ok (bytes.take offset, bytes.drop offset)
  else
    .error ⟨bytes, offset⟩

/-- A turn of a scan over bytes. -/
structure ByteTurn where
  before : List UInt8
  found : Option FieldId
  rest : List UInt8
  deriving DecidableEq, Repr

namespace ByteTurn

def taken (turn : ByteTurn) : List UInt8 :=
  match turn.found with
  | some id => placeholderBytes id.text
  | none => [0x7B]

def written (key : FieldId → String) (turn : ByteTurn) : List UInt8 :=
  match turn.found with
  | some id => placeholderBytes (key id)
  | none => [0x7B]

end ByteTurn

/-- The next turn over bytes, if they hold another opening. -/
def byteTurn? (ids : List FieldId) (bytes : List UInt8) : Except BadCut (Option ByteTurn) :=
  match findOpening bytes with
  | none => .ok none
  | some start => do
    let (before, candidate) ← cutAt bytes start
    let found := idAt ids candidate
    let (_, rest) ← cutAt candidate (takenSize found)
    return some ⟨before, found, rest⟩

/-! ## The scan -/

/-- A scan over bytes comes to have some turns behind it and some bytes before it. -/
inductive ScansTo (ids : List FieldId) (bytes : List UInt8) :
    List ByteTurn → List UInt8 → Prop where
  | start : ScansTo ids bytes [] bytes
  | turn {turns : List ByteTurn} {rest : List UInt8} {turn : ByteTurn}
      (h : ScansTo ids bytes turns rest) (hturn : byteTurn? ids rest = .ok (some turn)) :
      ScansTo ids bytes (turns ++ [turn]) turn.rest

end DeviceConfig
