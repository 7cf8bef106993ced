import DeviceConfig.Json.Token

/-!
# Documents

A document is read token by token. Where it breaks off, all that stands before that
place is kept: arrays and objects remember whether they were closed, and a value that
could not be read is marked as broken. A reader of the document thus meets a break
exactly after everything that stands before it.
-/

namespace DeviceConfig.Json

/-- A document as far as it could be read. -/
inductive Document where
  | null
  | boolean (value : Bool)
  | number (literal : NumberLiteral)
  | string (text : Option String)
  | array (items : List Document) (closed : Bool)
  | object (members : List (Option String × Document)) (closed : Bool)
  /-- The place of a value that could not be read. -/
  | broken

/-- A member of an object: its label, which has no text if half a character stands alone
in it, and its value. -/
abbrev Member := Option String × Document

/-! ## Views -/

mutual

/-- Whether a document was read to its end. -/
def Document.intact : Document → Bool
  | .array items closed => closed && intactItems items
  | .object members closed => closed && intactMembers members
  | .broken => false
  | _ => true

/-- Whether all items were read to their ends. -/
def intactItems : List Document → Bool
  | [] => true
  | item :: items => item.intact && intactItems items

/-- Whether the values of all members were read to their ends. -/
def intactMembers : List Member → Bool
  | [] => true
  | (_, value) :: members => value.intact && intactMembers members

end

mutual

/-- The tokens that a document was read from. -/
def Document.tokens : Document → List Token
  | .null => [.null]
  | .boolean value => [.boolean value]
  | .number literal => [.number literal]
  | .string text => [.string text]
  | .array items closed =>
    .beginArray :: itemTokens items ++ if closed then [.endArray] else []
  | .object members closed =>
    .beginObject :: memberTokens members ++ if closed then [.endObject] else []
  | .broken => []

/-- The tokens of items, with commas between them. -/
def itemTokens : List Document → List Token
  | [] => []
  | item :: items => item.tokens ++ moreItemTokens items

/-- The tokens of items that follow others. -/
def moreItemTokens : List Document → List Token
  | [] => []
  | item :: items => .comma :: item.tokens ++ moreItemTokens items

/-- The tokens of members, with commas between them. -/
def memberTokens : List Member → List Token
  | [] => []
  | (label, value) :: members =>
    .string label :: .colon :: value.tokens ++ moreMemberTokens members

/-- The tokens of members that follow others. -/
def moreMemberTokens : List Member → List Token
  | [] => []
  | (label, value) :: members =>
    .comma :: .string label :: .colon :: value.tokens ++ moreMemberTokens members

end

/-- A document as it is written, without blanks. -/
def Document.write (document : Document) : List Char :=
  document.tokens.flatMap Token.write

/-! ## Reading -/

/-- A container that waits for one of its values, with what it holds before that value,
latest first. -/
inductive Frame where
  | item (before : List Document)
  | member (before : List Member) (label : Option String)

/-- How far a document has been read: what may come next, within the containers that are
still open. -/
inductive Progress where
  /-- A value. -/
  | value (outer : List Frame)
  /-- The first item of an array, or its end. -/
  | firstItem (outer : List Frame)
  /-- A comma, or the end of an array. -/
  | afterItem (items : List Document) (outer : List Frame)
  /-- The first member of an object, or its end. -/
  | firstMember (outer : List Frame)
  /-- A further member. -/
  | nextMember (members : List Member) (outer : List Frame)
  /-- The colon behind a label. -/
  | afterLabel (members : List Member) (label : Option String) (outer : List Frame)
  /-- A comma, or the end of an object. -/
  | afterMember (members : List Member) (outer : List Frame)
  /-- Nothing; `trailing` holds if something came nevertheless. -/
  | done (document : Document) (trailing : Bool)

namespace Progress

/-- A value is complete. -/
def deliver (document : Document) : List Frame → Progress
  | [] => .done document false
  | .item before :: outer => .afterItem (document :: before) outer
  | .member before label :: outer => .afterMember ((label, document) :: before) outer

/-- The document that is left where reading breaks off at a value. -/
def abandon (document : Document) : List Frame → Document
  | [] => document
  | .item before :: outer => abandon (.array (before.reverse ++ [document]) false) outer
  | .member before label :: outer =>
    abandon (.object (before.reverse ++ [(label, document)]) false) outer

/-- Reading breaks off. -/
def fail (document : Document) (outer : List Frame) : Progress :=
  .done (abandon document outer) false

/-- A value starts. -/
def beginValue (outer : List Frame) : Token → Progress
  | .null => deliver .null outer
  | .boolean truth => deliver (.boolean truth) outer
  | .number literal => deliver (.number literal) outer
  | .string text => deliver (.string text) outer
  | .beginArray => .firstItem outer
  | .beginObject => .firstMember outer
  | _ => fail .broken outer

/-- Reads one token. -/
def step : Progress → Token → Progress
  | .value outer, token => beginValue outer token
  | .firstItem outer, .endArray => deliver (.array [] true) outer
  | .firstItem outer, token => beginValue (.item [] :: outer) token
  | .afterItem items outer, .comma => .value (.item items :: outer)
  | .afterItem items outer, .endArray => deliver (.array items.reverse true) outer
  | .afterItem items outer, _ => fail (.array items.reverse false) outer
  | .firstMember outer, .string label => .afterLabel [] label outer
  | .firstMember outer, .endObject => deliver (.object [] true) outer
  | .firstMember outer, _ => fail (.object [] false) outer
  | .nextMember members outer, .string label => .afterLabel members label outer
  | .nextMember members outer, _ => fail (.object members.reverse false) outer
  | .afterLabel members label outer, .colon => .value (.member members label :: outer)
  | .afterLabel members label outer, _ => fail .broken (.member members label :: outer)
  | .afterMember members outer, .comma => .nextMember members outer
  | .afterMember members outer, .endObject => deliver (.object members.reverse true) outer
  | .afterMember members outer, _ => fail (.object members.reverse false) outer
  | .done document _, _ => .done document true

/-- The document as far as it was read, and whether something came behind its end. -/
def finish : Progress → Document × Bool
  | .value outer => (abandon .broken outer, false)
  | .firstItem outer => (abandon (.array [] false) outer, false)
  | .afterItem items outer => (abandon (.array items.reverse false) outer, false)
  | .firstMember outer => (abandon (.object [] false) outer, false)
  | .nextMember members outer => (abandon (.object members.reverse false) outer, false)
  | .afterLabel members label outer => (abandon .broken (.member members label :: outer), false)
  | .afterMember members outer => (abandon (.object members.reverse false) outer, false)
  | .done document trailing => (document, trailing)

end Progress

/-- The document that tokens spell, and whether further tokens follow it. -/
def Document.ofTokens (tokens : List Token) : Document × Bool :=
  (tokens.foldl Progress.step (.value [])).finish

/-- The document that starts a text, and whether the text goes on behind it. -/
def Document.ofText (text : List Char) : Document × Bool :=
  ofTokens (Json.tokens text)

end DeviceConfig.Json
