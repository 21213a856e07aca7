import FlightLink.Toml.Scan

/-! Quoted strings. Double quotes allow escapes, single quotes take every character
as it is; three quotes in a row allow line breaks, which all read as one line
feed. -/

namespace FlightLink.Toml.Quotation
open Scan

/-- Characters that stand for themselves between double quotes. -/
def isPlain (char : Char) : Bool :=
  isCommentary char && char ≠ '"' && char ≠ '\\'

/-- Characters that may stand between single quotes. -/
def isLiteral (char : Char) : Bool :=
  isCommentary char && char ≠ '\''

/-- The character with a code point, which surrogates do not have. -/
def scalar? (code : Nat) : Option Char :=
  if _ : code.isValidChar then some (Char.ofNat code) else none

/-- What follows the backslash of an escape. -/
def escape : Scan Char := do
  match ← next with
  | 'b' => return '\x08'
  | 't' => return '\t'
  | 'n' => return '\n'
  | 'f' => return '\x0c'
  | 'r' => return '\r'
  | '"' => return '"'
  | '\\' => return '\\'
  | 'u' => ofOption (scalar? (← fixed 16 4 0))
  | 'U' => ofOption (scalar? (← fixed 16 8 0))
  | _ => failure

def escaped : Scan (List Char) := do
  char '\\'
  return [← escape]

/-- A backslash at the end of a line drops the line break and all blanks and line
breaks behind it. -/
def continuation : Scan (List Char) := do
  char '\\'
  blanks
  newline
  let _ ← many (newline <|> discard (run isBlank))
  return []

def lineBreak : Scan (List Char) := do
  newline
  return ['\n']

/-- One or two quotes, where three would close. -/
def fewQuotes (quote : Char) : Scan (List Char) := do
  let quotes ← run (· = quote)
  guard (quotes.length < 3)
  return quotes

/-- Three quotes, which up to two quotes of the content may precede. -/
def closing (quote : Char) : Scan (List Char) := do
  let quotes ← span (· = quote)
  guard (3 ≤ quotes.length ∧ quotes.length ≤ 5)
  return quotes.drop 3

/-- A string between triple quotes. A line break right behind the opening quotes is
dropped. -/
def multiline (quote : Char) (piece : Scan (List Char)) : Scan (List Char) := do
  char quote
  char quote
  char quote
  let _ ← optional newline
  let pieces ← many (piece <|> fewQuotes quote)
  let last ← closing quote
  return pieces.flatten ++ last

/-- A string between double quotes. -/
def basic : Scan (List Char) := do
  char '"'
  let pieces ← many (run isPlain <|> escaped)
  char '"'
  return pieces.flatten

/-- A string between single quotes. -/
def literal : Scan (List Char) := do
  char '\''
  let content ← span isLiteral
  char '\''
  return content

/-- A string on one line. -/
def short : Scan String := do
  return String.ofList (← basic <|> literal)

/-- Any string. -/
def text : Scan String := do
  return String.ofList
    (← multiline '"' (run isPlain <|> continuation <|> escaped <|> lineBreak) <|>
      multiline '\'' (run isLiteral <|> lineBreak) <|> basic <|> literal)

end FlightLink.Toml.Quotation
