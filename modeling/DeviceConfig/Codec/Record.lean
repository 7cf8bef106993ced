import DeviceConfig.Codec.Basic

/-!
# Records

A record is written as an object with all of its members, in the order of their
declaration. It is read from an object, with its members in any order and members of
other labels passed over, or from an array that holds its members in order. A member
that is absent takes its default, if it has one.
-/

namespace DeviceConfig.Codec

open Json (Document Member)

/-! ## Layouts -/

/-- The members of a record. Their values form a tuple of type `ρ`; a tuple of type `σ`
holds the values that have been read so far. -/
inductive Layout : (ρ σ : Type) → Type 1 where
  | done : Layout Unit Unit
  | member {α ρ σ : Type} (label : String) (default : Option α) (codec : Codec α)
      (more : Layout ρ σ) : Layout (α × ρ) (Option α × σ)

namespace Layout

/-- The number of members. -/
def size : {ρ σ : Type} → Layout ρ σ → Nat
  | _, _, .done => 0
  | _, _, .member _ _ _ more => more.size + 1

/-- No member has been read. -/
def blank : {ρ σ : Type} → Layout ρ σ → σ
  | _, _, .done => ()
  | _, _, .member _ _ _ more => (none, more.blank)

/-- Reads the value of a label into its slot, which must be free. There is no result for a
label of no member. -/
def fill? : {ρ σ : Type} → Layout ρ σ → String → Document → σ → Option (Except Fault σ)
  | _, _, .done, _, _, _ => none
  | _, _, .member label _ codec more, found, value, (slot, slots) =>
    if found = label then
      match slot with
      | some _ => some (.error (.mismatch (.duplicate label)))
      | none => some ((codec.read value).map fun v => (some v, slots))
    else
      (more.fill? found value slots).map fun filled =>
        filled.map fun slots => (slot, slots)

/-- The values of all members. Absent ones take their defaults; the first that has none is
missing. -/
def complete : {ρ σ : Type} → Layout ρ σ → σ → Except Fault ρ
  | _, _, .done, _ => .ok ()
  | _, _, .member label default _ more, (slot, slots) =>
    match slot <|> default with
    | some value => (more.complete slots).map fun values => (value, values)
    | none => .error (.mismatch (.missing label))

/-- Reads the members of an object, in the order of the object. A member of no slot is
passed over if it can be read at all. -/
def readMembers {ρ σ : Type} (layout : Layout ρ σ) (slots : σ) : List Member → Except Fault σ
  | [] => .ok slots
  | (none, _) :: _ => .error .malformed
  | (some label, value) :: members =>
    match layout.fill? label value slots with
    | some filled => do
      let slots ← filled
      layout.readMembers slots members
    | none => if value.intact then layout.readMembers slots members else .error .malformed

/-- Reads the members from the items of an array. The array must end with the last member
or before it; `cutOff` is the fault if it ends at a member without a default, given the
number of items before that. -/
def readItems (cutOff : Nat → Fault) (closed : Bool) :
    {ρ σ : Type} → Layout ρ σ → Nat → List Document → Except Fault ρ
  | _, _, .done, _, items => if items.isEmpty && closed then .ok () else .error .malformed
  | _, _, .member _ _ codec more, index, item :: items => do
    let value ← codec.read item
    let values ← more.readItems cutOff closed (index + 1) items
    return (value, values)
  | _, _, .member _ default _ more, index, [] =>
    if closed then
      match default with
      | some value => do
        let values ← more.readItems cutOff closed (index + 1) []
        return (value, values)
      | none => .error (cutOff index)
    else
      .error .malformed

/-- The members with their values. -/
def writeMembers : {ρ σ : Type} → Layout ρ σ → ρ → List Member
  | _, _, .done, _ => []
  | _, _, .member label _ codec more, (value, values) =>
    (some label, codec.write value) :: more.writeMembers values

end Layout

/-! ## The codec of a record -/

/-- Reads a record. -/
def readRecord {ρ σ : Type} (title : String) (layout : Layout ρ σ) : Document → Except Fault ρ
  | .object members closed => do
    let slots ← layout.readMembers layout.blank members
    if closed then layout.complete slots else .error .malformed
  | .array items closed =>
    layout.readItems (fun index => .mismatch (.tooShort index title layout.size)) closed 0 items
  | document => .error (unexpected (.record title) document)

/-- Records with the given title and members. -/
def record {ρ σ : Type} (title : String) (layout : Layout ρ σ) : Codec ρ where
  read := readRecord title layout
  write values := .object (layout.writeMembers values) true

end DeviceConfig.Codec
