import DeviceConfig.Json.Number.Literal
import DeviceConfig.Json.StringLiteral

/-!
# Tokens

The first stage of reading a document splits its text into tokens and drops the blanks
between them. Where no token can be read the list ends with a token that says so.
-/

namespace DeviceConfig.Json

/-- A token of a document. -/
inductive Token where
  | beginArray
  | endArray
  | beginObject
  | endObject
  | colon
  | comma
  | null
  | boolean (value : Bool)
  | number (literal : NumberLiteral)
  /-- A string, without a text if half a character stands alone in it. -/
  | string (text : Option String)
  /-- The place where the text cannot be read on. -/
  | invalid
  deriving DecidableEq, Repr

/-- The characters that may stand between tokens. -/
def isBlank (c : Char) : Bool :=
  c = ' ' || c = '\n' || c = '\t' || c = '\r'

/-- A word whose first character has been read, as the given token. -/
def wordToken (others : String) (token : Token) (rest : List Char) : Token × List Char :=
  if others.toList.isPrefixOf rest then
    (token, rest.drop others.toList.length)
  else
    (.invalid, [])

/-- A string whose opening quote has been read. -/
def stringToken (rest : List Char) : Token × List Char :=
  match readPieces rest with
  | some (pieces, rest) => (.string ((joinPieces pieces).map String.ofList), rest)
  | none => (.invalid, [])

/-- A number with all of its characters. -/
def numberToken (text : List Char) : Token × List Char :=
  match readNumber text with
  | some (literal, rest) => (.number literal, rest)
  | none => (.invalid, [])

/-- The token that is a single character. -/
def punctuation? (c : Char) : Option Token :=
  if c = '[' then some .beginArray
  else if c = ']' then some .endArray
  else if c = '{' then some .beginObject
  else if c = '}' then some .endObject
  else if c = ':' then some .colon
  else if c = ',' then some .comma
  else none

/-- The token that starts with a character, and the text behind it. -/
def tokenAt (c : Char) (rest : List Char) : Token × List Char :=
  match punctuation? c with
  | some token => (token, rest)
  | none =>
    if c = '"' then stringToken rest
    else if c = 'n' then wordToken "ull" .null rest
    else if c = 't' then wordToken "rue" (.boolean true) rest
    else if c = 'f' then wordToken "alse" (.boolean false) rest
    else numberToken (c :: rest)

/-! ## Every token takes something -/

theorem length_wordToken_le (others : String) (token : Token) (rest : List Char) :
    (wordToken others token rest).2.length ≤ rest.length := by
  unfold wordToken
  split <;> simp

theorem length_stringToken_le (rest : List Char) :
    (stringToken rest).2.length ≤ rest.length := by
  unfold stringToken
  split
  · next h => exact Nat.le_of_lt (length_lt_of_readPieces h)
  · simp

theorem length_numberToken_le (c : Char) (rest : List Char) :
    (numberToken (c :: rest)).2.length ≤ rest.length := by
  unfold numberToken
  split
  · next h => exact Nat.le_of_lt_succ (length_lt_of_readNumber h)
  · simp

/-- No token gives anything back, so its first character is taken. -/
theorem length_tokenAt_le (c : Char) (rest : List Char) :
    (tokenAt c rest).2.length ≤ rest.length := by
  unfold tokenAt
  split
  · exact Nat.le_refl _
  split
  · exact length_stringToken_le rest
  split
  · exact length_wordToken_le _ _ rest
  split
  · exact length_wordToken_le _ _ rest
  split
  · exact length_wordToken_le _ _ rest
  · exact length_numberToken_le c rest

/-- The tokens of a text. -/
def tokens : List Char → List Token
  | [] => []
  | c :: rest =>
    if isBlank c then
      tokens rest
    else
      (tokenAt c rest).1 :: tokens (tokenAt c rest).2
termination_by text => text.length
decreasing_by
  · simp
  · have := length_tokenAt_le c rest
    simp only [List.length_cons]
    omega

/-! ## Writing -/

/-- A token as it is written. What has no text is left out. -/
def Token.write : Token → List Char
  | beginArray => ['[']
  | endArray => [']']
  | beginObject => ['{']
  | endObject => ['}']
  | colon => [':']
  | comma => [',']
  | null => "null".toList
  | boolean true => "true".toList
  | boolean false => "false".toList
  | number literal => literal.write
  | string (some text) => writeString text.toList
  | string none => []
  | invalid => []

end DeviceConfig.Json
