import DeviceConfig.Codec.Fault
import DeviceConfig.Json.Document
import DeviceConfig.Name

/-!
# Codecs

A codec reads values of a type from documents and writes them as documents. Reading
goes through a document from left to right and stops at the first fault, be it a break
in the document or a value of the wrong shape.
-/

namespace DeviceConfig

open Json (Document)

/-- How values of a type are read and written. -/
structure Codec (α : Type) where
  read : Document → Except Codec.Fault α
  write : α → Document

namespace Codec

variable {α β : Type}

/-- The fault of a document that is not of the expected type. It has to be readable for
that, and a number has to be in range. -/
def unexpected (expected : Expected) (document : Document) : Fault :=
  match document with
  | .null => .mismatch (.invalidType .null expected)
  | .boolean value => .mismatch (.invalidType (.boolean value) expected)
  | .number literal =>
    match literal.value? with
    | some value => .mismatch (.invalidType (.number value) expected)
    | none => .malformed
  | .string (some text) => .mismatch (.invalidType (.string text) expected)
  | .string none => .malformed
  | .array _ _ => .mismatch (.invalidType .sequence expected)
  | .object _ _ => .mismatch (.invalidType .map expected)
  | .broken => .malformed

/-- Reads a string. -/
def readString : Document → Except Fault String
  | .string (some text) => .ok text
  | document => .error (unexpected .string document)

/-- Strings. -/
def string : Codec String where
  read := readString
  write text := .string (some text)

/-- Values that are written as other values. -/
def map (pack : α → β) (unpack : β → α) (codec : Codec α) : Codec β where
  read document := (codec.read document).map pack
  write value := codec.write (unpack value)

/-- Names, written as strings. -/
def name (kind : NameKind) : Codec (Name kind) :=
  string.map Name.mk Name.text

/-- Reads all items of an array, in order. -/
def readItems (read : Document → Except Fault α) : List Document → Except Fault (List α)
  | [] => .ok []
  | item :: items => do
    let value ← read item
    let values ← readItems read items
    return value :: values

/-- Reads an array. -/
def readList (read : Document → Except Fault α) : Document → Except Fault (List α)
  | .array items closed => do
    let values ← readItems read items
    if closed then .ok values else .error .malformed
  | document => .error (unexpected .sequence document)

/-- Lists, written as arrays. -/
def list (codec : Codec α) : Codec (List α) where
  read := readList codec.read
  write values := .array (values.map codec.write) true

/-! ## Texts -/

/-- Loads a value from a text that holds nothing else. -/
def load (codec : Codec α) (text : String) : Except Fault α := do
  let (document, trailing) := Document.ofText text.toList
  let value ← codec.read document
  if trailing then .error .malformed else .ok value

/-- Saves a value as a text. -/
def save (codec : Codec α) (value : α) : String :=
  String.ofList (codec.write value).write

/-- Loads a value and saves it again. -/
def reload (codec : Codec α) (text : String) : Except Fault String :=
  (codec.load text).map codec.save

end Codec

end DeviceConfig
