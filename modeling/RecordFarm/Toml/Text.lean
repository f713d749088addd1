import RecordFarm.Toml.Reader
/-!
# Blanks, strings and keys

Strings come in four kinds: basic ones, which know escapes, and literal ones, which do not, each
on one line or over several. A string over several lines starts after a line break that follows
its opening quotes at once, and may end in one or two quotes of its own.
-/

namespace RecordFarm

namespace Toml

/-! ### Characters -/

/-- Whether a character may stand in a comment: a tab, or anything that is not a control
character. Control characters beyond ASCII are no exception, they are text. -/
def isText (c : Char) : Bool := c == '\t' || (' ' ≤ c && c != '\x7f')

def isBlank (c : Char) : Bool := c == ' ' || c == '\t'

/-- The quote of a literal string. -/
def apostrophe : Char := '\x27'

/-- A character of a key without quotes. -/
def isBare (c : Char) : Bool :=
  ('a' ≤ c && c ≤ 'z') || ('A' ≤ c && c ≤ 'Z') || ('0' ≤ c && c ≤ '9') || c == '_' || c == '-'

def isDecimal (c : Char) : Bool := '0' ≤ c && c ≤ '9'

def isHex (c : Char) : Bool :=
  isDecimal c || ('a' ≤ c && c ≤ 'f') || ('A' ≤ c && c ≤ 'F')

def digitValue (c : Char) : Nat :=
  if isDecimal c then c.toNat - '0'.toNat
  else if 'a' ≤ c then c.toNat - 'a'.toNat + 10
  else c.toNat - 'A'.toNat + 10

def numberOf (base : Nat) (digits : List Char) : Nat :=
  digits.foldl (fun n c => n * base + digitValue c) 0

/-! ### Blanks -/

def blanks : Reader Unit := discard (Reader.span isBlank)

def newline : Reader Unit := Reader.just '\n' <|> (do Reader.just '\r'; Reader.just '\n')

def comment : Reader Unit := do
  Reader.just '#'
  discard (Reader.span isText)

/-- What may stand between the values of an array. -/
def gap : Reader Unit :=
  discard (Reader.many (discard (Reader.span1 isBlank) <|> newline <|> comment))

/-- What may stand behind a line, and its end. -/
def lineEnd : Reader Unit := do
  blanks
  Reader.maybe comment
  newline <|> Reader.atEnd

/-! ### Strings -/

def scalar? (n : Nat) : Option Char := if n.isValidChar then some (Char.ofNat n) else none

/-- A character given by its number in so many digits. -/
def numbered (digits : Nat) : Reader Char := do
  let found ← Reader.times digits isHex
  (scalar? (numberOf 16 found)).elim failure pure

def escape : Reader Char := do
  Reader.just '\\'
  match ← Reader.char fun _ => true with
  | 'b' => return '\x08'
  | 't' => return '\t'
  | 'n' => return '\n'
  | 'f' => return '\x0c'
  | 'r' => return '\r'
  | '"' => return '"'
  | '\\' => return '\\'
  | 'u' => numbered 4
  | 'U' => numbered 8
  | _ => failure

/-- A character of a basic string that stands for itself. -/
def basicChar : Reader Char := Reader.char fun c => isText c && c != '"' && c != '\\'

/-- A character of a literal string. -/
def literalChar : Reader Char := Reader.char fun c => isText c && c != apostrophe

/-- A string on one line. -/
def onOneLine (quote : Char) (part : Reader Char) : Reader String := do
  Reader.just quote
  let parts ← Reader.many part
  Reader.just quote
  return String.ofList parts

/-- A line break that an escape takes away, with all blanks and line breaks behind it. -/
def joined : Reader (List Char) := do
  Reader.just '\\'
  blanks
  newline
  discard (Reader.many (discard (Reader.span1 isBlank) <|> newline))
  return []

/-- One or two quotes inside a string over several lines. -/
def fewQuotes (quote : Char) : Reader (List Char) := do
  let quotes ← Reader.span1 (· == quote)
  if quotes.length < 3 then return quotes else failure

/-- The quotes that end a string over several lines, and those before them that belong to it. -/
def lastQuotes (quote : Char) : Reader (List Char) := do
  let quotes ← Reader.span (· == quote)
  if 3 ≤ quotes.length && quotes.length ≤ 5 then return quotes.drop 3 else failure

def onManyLines (quote : Char) (part : Reader (List Char)) : Reader String := do
  Reader.word [quote, quote, quote]
  Reader.maybe newline
  let inside := part <|> (do newline; return ['\n']) <|> fewQuotes quote
  let parts ← Reader.many inside
  let last ← lastQuotes quote
  return String.ofList (parts.flatten ++ last)

/-- A character as a part of a string. -/
def single (part : Reader Char) : Reader (List Char) := return [← part]

def basicString : Reader String := onOneLine '"' (basicChar <|> escape)

def literalString : Reader String := onOneLine apostrophe literalChar

def string : Reader String :=
  onManyLines '"' (single basicChar <|> joined <|> single escape) <|> basicString <|>
    onManyLines apostrophe (single literalChar) <|> literalString

/-! ### Keys -/

def keyPart : Reader String := do
  blanks
  let part ← basicString <|> literalString <|> (return String.ofList (← Reader.span1 isBare))
  blanks
  return part

/-- Keys with so many parts, and values that are nested so deep, are not read. -/
def nestingLimit : Nat := 80

/-- A dotted key: its path and its last part. -/
def key : Reader (List String × String) := do
  let parts ← Reader.separated (Reader.just '.') keyPart
  match parts.getLast? with
  | some last => if parts.length < nestingLimit then return (parts.dropLast, last) else failure
  | none => failure

end Toml

end RecordFarm
