import RecordFarm.Toml.Text
/-!
# Writing strings

A string is written in the first of these styles that can show it without escapes, tabs apart: basic
on one line, literal on one line, basic over several lines, literal over several lines. If none can,
it is written with escapes, over several lines if it has line breaks.
-/

namespace RecordFarm

namespace Toml

inductive Style where
  | basic
  | literal
  | basicLines
  | literalLines
  deriving DecidableEq, Repr

/-- The most that a character is repeated in a text, behind `run` of it in a row. -/
def longestRun (c : Char) : Nat → List Char → Nat
  | run, [] => run
  | run, d :: rest => if d = c then longestRun c (run + 1) rest else max run (longestRun c 0 rest)

/-- Whether a character can only be written as an escape. -/
def needsEscape (c : Char) : Bool := (c < ' ' && c != '\t' && c != '\n') || c == '\x7f'

def styleOf (s : List Char) : Style :=
  let clean := !s.any needsEscape
  let breaks := s.contains '\n'
  let slashes := s.contains '\\'
  let quotes := longestRun '"' 0 s
  let apostrophes := longestRun apostrophe 0 s
  if clean && !slashes && !breaks && quotes = 0 then .basic
  else if clean && !breaks && apostrophes = 0 then .literal
  else if clean && !slashes && quotes ≤ 2 then .basicLines
  else if clean && apostrophes ≤ 2 then .literalLines
  else if breaks then .basicLines
  else .basic

def hexDigit (n : Nat) : Char := "0123456789ABCDEF".toList.getD n '0'

/-- A character, other than a double quote, as it stands in a basic string. -/
def escaped (lines : Bool) (c : Char) : List Char :=
  if c = '\x08' then ['\\', 'b']
  else if c = '\t' then ['\\', 't']
  else if c = '\n' then if lines then [c] else ['\\', 'n']
  else if c = '\x0c' then ['\\', 'f']
  else if c = '\r' then ['\\', 'r']
  else if c = '\\' then ['\\', '\\']
  else if needsEscape c then ['\\', 'u', '0', '0', hexDigit (c.toNat / 16), hexDigit (c.toNat % 16)]
  else [c]

/-- The inside of a basic string. Over several lines two double quotes in a row may stand as they
are, on one line none. -/
def insideBasic (lines : Bool) : Nat → List Char → List Char
  | _, [] => []
  | run, c :: rest =>
    if c = '"' then
      if lines && run < 2 then c :: insideBasic lines (run + 1) rest
      else '\\' :: c :: insideBasic lines 0 rest
    else escaped lines c ++ insideBasic lines 0 rest

/-- A string as it is written. A string with line breaks starts on a new line. -/
def quote (s : String) : String :=
  let text := s.toList
  let head := if text.contains '\n' then ['\n'] else []
  let triple (c : Char) : List Char := [c, c, c]
  String.ofList <|
    match styleOf text with
    | .basic => '"' :: insideBasic false 0 text ++ ['"']
    | .literal => apostrophe :: text ++ [apostrophe]
    | .basicLines => triple '"' ++ head ++ insideBasic true 0 text ++ triple '"'
    | .literalLines => triple apostrophe ++ head ++ text ++ triple apostrophe

end Toml

end RecordFarm
