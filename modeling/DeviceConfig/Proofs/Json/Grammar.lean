import DeviceConfig.Json.Document

/-!
# The grammar of texts

A text spells a value if it can be derived by the rules of the notation. The rules relate a
text to what it spells and to the rest of the text behind that, and they say nothing about
how a text is read.
-/

namespace DeviceConfig.Json

/-! ## Values -/

/-- A value that a whole text can spell. No string in it holds half a character. -/
inductive Value where
  | null
  | boolean (value : Bool)
  | number (literal : NumberLiteral)
  | string (text : String)
  | array (items : List Value)
  | object (members : List (String × Value))

mutual

/-- A value as a document that was read to its end. -/
def Value.document : Value → Document
  | .null => .null
  | .boolean value => .boolean value
  | .number literal => .number literal
  | .string text => .string (some text)
  | .array items => .array (itemDocuments items) true
  | .object members => .object (memberDocuments members) true

/-- Items as documents. -/
def itemDocuments : List Value → List Document
  | [] => []
  | item :: items => item.document :: itemDocuments items

/-- Members with their values as documents. -/
def memberDocuments : List (String × Value) → List Member
  | [] => []
  | (label, value) :: members => (some label, value.document) :: memberDocuments members

end

theorem itemDocuments_eq_map (items : List Value) :
    itemDocuments items = items.map Value.document := by
  induction items with
  | nil => rfl
  | cons item items ih => rw [itemDocuments, ih, List.map_cons]

/-- A member with its value as a document. -/
def memberDocument (member : String × Value) : Member :=
  (some member.1, member.2.document)

theorem memberDocuments_eq_map (members : List (String × Value)) :
    memberDocuments members = members.map memberDocument := by
  induction members with
  | nil => rfl
  | cons member members ih =>
      rw [memberDocuments, ih, List.map_cons]
      rfl

/-! ## Blanks -/

/-- The characters that may stand between tokens. -/
def blanks : List Char := [' ', '\t', '\n', '\r']

/-- Any number of blanks. -/
inductive SkipsBlanks : List Char → List Char → Prop
  | stop {rest : List Char} : SkipsBlanks rest rest
  | blank {c : Char} {text rest : List Char} (hc : c ∈ blanks) (h : SkipsBlanks text rest) :
      SkipsBlanks (c :: text) rest

/-! ## Numbers -/

/-- One or more digits. -/
inductive SpellsDigits : List Char → List Nat → List Char → Prop
  | last (n : Nat) {rest : List Char} (hn : n < 10) :
      SpellsDigits (Nat.digitChar n :: rest) [n] rest
  | more (n : Nat) {text rest : List Char} {digits : List Nat} (hn : n < 10)
      (h : SpellsDigits text digits rest) :
      SpellsDigits (Nat.digitChar n :: text) (n :: digits) rest

/-- A minus, or no sign. -/
inductive SpellsSign : List Char → Bool → List Char → Prop
  | none {rest : List Char} : SpellsSign rest false rest
  | minus {rest : List Char} : SpellsSign ('-' :: rest) true rest

/-- The digits before the point. A zero stands alone. -/
inductive SpellsWhole : List Char → List Nat → List Char → Prop
  | zero {rest : List Char} : SpellsWhole ('0' :: rest) [0] rest
  | digits {n : Nat} {text rest : List Char} {digits : List Nat} (hn : n ≠ 0)
      (h : SpellsDigits text (n :: digits) rest) : SpellsWhole text (n :: digits) rest

/-- A point with the digits behind it, or nothing. -/
inductive SpellsFraction : List Char → List Nat → List Char → Prop
  | none {rest : List Char} : SpellsFraction rest [] rest
  | digits {text rest : List Char} {digits : List Nat} (h : SpellsDigits text digits rest) :
      SpellsFraction ('.' :: text) digits rest

/-- A sign of either kind, or none. -/
inductive SpellsExponentSign : List Char → Bool → List Char → Prop
  | none {rest : List Char} : SpellsExponentSign rest false rest
  | plus {rest : List Char} : SpellsExponentSign ('+' :: rest) false rest
  | minus {rest : List Char} : SpellsExponentSign ('-' :: rest) true rest

/-- A power of ten, or nothing. -/
inductive SpellsExponent : List Char → Option Exponent → List Char → Prop
  | none {rest : List Char} : SpellsExponent rest none rest
  | power {e : Char} {signed text rest : List Char} {negative : Bool} {digits : List Nat}
      (he : e = 'e' ∨ e = 'E') (hsign : SpellsExponentSign signed negative text)
      (h : SpellsDigits text digits rest) :
      SpellsExponent (e :: signed) (some ⟨negative, digits⟩) rest

/-- A number. -/
inductive SpellsNumber : List Char → NumberLiteral → List Char → Prop
  | parts {text unsigned behindWhole behindFraction rest : List Char} {negative : Bool}
      {whole fraction : List Nat} {exponent : Option Exponent}
      (hsign : SpellsSign text negative unsigned)
      (hwhole : SpellsWhole unsigned whole behindWhole)
      (hfraction : SpellsFraction behindWhole fraction behindFraction)
      (hexponent : SpellsExponent behindFraction exponent rest) :
      SpellsNumber text { negative, whole, fraction, exponent } rest

/-! ## Strings -/

/-- The letters of short escapes, with the characters that they stand for. -/
def shortEscapes : List (Char × Char) :=
  [('"', '"'), ('\\', '\\'), ('/', '/'), ('b', '\x08'), ('f', '\x0c'), ('n', '\n'), ('r', '\r'),
    ('t', '\t')]

/-- A digit in base sixteen, in either case. -/
def SpellsHexDigit (c : Char) (n : Nat) : Prop :=
  "0123456789abcdef".toList[n]? = some c ∨ "0123456789ABCDEF".toList[n]? = some c

/-- A 16-bit unit as four digits behind `\u`. -/
inductive SpellsUnit : List Char → Nat → List Char → Prop
  | digits {a b c d : Char} {w x y z : Nat} {rest : List Char} (ha : SpellsHexDigit a w)
      (hb : SpellsHexDigit b x) (hc : SpellsHexDigit c y) (hd : SpellsHexDigit d z) :
      SpellsUnit ('\\' :: 'u' :: a :: b :: c :: d :: rest)
        (((w * 16 + x) * 16 + y) * 16 + z) rest

/-- The characters of a string, with the quote behind them. A character stands for itself,
or it is escaped; beyond the first 0x10000 characters, a unit gives half of one. -/
inductive SpellsCharacters : List Char → List Char → List Char → Prop
  | quote {rest : List Char} : SpellsCharacters ('"' :: rest) [] rest
  | plain {c : Char} {text content rest : List Char} (hcontrol : 0x20 ≤ c.toNat)
      (hquote : c ≠ '"') (hbackslash : c ≠ '\\') (h : SpellsCharacters text content rest) :
      SpellsCharacters (c :: text) (c :: content) rest
  | short {e c : Char} {text content rest : List Char} (he : (e, c) ∈ shortEscapes)
      (h : SpellsCharacters text content rest) :
      SpellsCharacters ('\\' :: e :: text) (c :: content) rest
  | unit {c : Char} {text more content rest : List Char} (hc : SpellsUnit text c.toNat more)
      (h : SpellsCharacters more content rest) : SpellsCharacters text (c :: content) rest
  | halves {c : Char} {high low : Nat} {text half more content rest : List Char}
      (hhigh : SpellsUnit text high half) (hlow : SpellsUnit half low more)
      (hhighBound : 0xD800 ≤ high ∧ high < 0xDC00) (hlowBound : 0xDC00 ≤ low ∧ low < 0xE000)
      (hc : c.toNat = 0x10000 + (high - 0xD800) * 0x400 + (low - 0xDC00))
      (h : SpellsCharacters more content rest) : SpellsCharacters text (c :: content) rest

/-! ## Values -/

mutual

/-- A value with any blanks around it. -/
inductive SpellsValue : List Char → Value → List Char → Prop
  | before {c : Char} {text rest : List Char} {value : Value} (hc : c ∈ blanks)
      (h : SpellsValue text value rest) : SpellsValue (c :: text) value rest
  | after {c : Char} {text rest : List Char} {value : Value} (hc : c ∈ blanks)
      (h : SpellsValue text value (c :: rest)) : SpellsValue text value rest
  | null {rest : List Char} : SpellsValue ("null".toList ++ rest) .null rest
  | isTrue {rest : List Char} : SpellsValue ("true".toList ++ rest) (.boolean true) rest
  | isFalse {rest : List Char} : SpellsValue ("false".toList ++ rest) (.boolean false) rest
  | number {text rest : List Char} {literal : NumberLiteral}
      (h : SpellsNumber text literal rest) : SpellsValue text (.number literal) rest
  | string {text rest : List Char} {content : String}
      (h : SpellsCharacters text content.toList rest) :
      SpellsValue ('"' :: text) (.string content) rest
  | emptyArray {text rest : List Char} (h : SkipsBlanks text (']' :: rest)) :
      SpellsValue ('[' :: text) (.array []) rest
  | array {text rest : List Char} {items : List Value}
      (h : SpellsItems text items (']' :: rest)) : SpellsValue ('[' :: text) (.array items) rest
  | emptyObject {text rest : List Char} (h : SkipsBlanks text ('}' :: rest)) :
      SpellsValue ('{' :: text) (.object []) rest
  | object {text rest : List Char} {members : List (String × Value)}
      (h : SpellsMembers text members ('}' :: rest)) :
      SpellsValue ('{' :: text) (.object members) rest

/-- One or more items with commas between them. -/
inductive SpellsItems : List Char → List Value → List Char → Prop
  | last {text rest : List Char} {item : Value} (hitem : SpellsValue text item rest) :
      SpellsItems text [item] rest
  | more {text others rest : List Char} {item : Value} {items : List Value}
      (hitem : SpellsValue text item (',' :: others)) (h : SpellsItems others items rest) :
      SpellsItems text (item :: items) rest

/-- One or more members with commas between them. A label is spelled as a string is. -/
inductive SpellsMembers : List Char → List (String × Value) → List Char → Prop
  | last {text content rest : List Char} {label : String} {value : Value}
      (hlabel : SpellsValue text (.string label) (':' :: content))
      (hvalue : SpellsValue content value rest) : SpellsMembers text [(label, value)] rest
  | more {text content others rest : List Char} {label : String} {value : Value}
      {members : List (String × Value)}
      (hlabel : SpellsValue text (.string label) (':' :: content))
      (hvalue : SpellsValue content value (',' :: others))
      (h : SpellsMembers others members rest) :
      SpellsMembers text ((label, value) :: members) rest

end

/-- A whole text that spells a value. -/
def Spells (text : String) (value : Value) : Prop :=
  SpellsValue text.toList value []

end DeviceConfig.Json
