import FlightLink.Digit

/-! Scanning text from left to right. A scan takes characters from the front of what
is left and returns a result, or it fails and takes nothing. Scans are composed as a
monad, and a failed scan may be followed by another one from the same place. All scans
of a text know how long it is, which bounds the repetitions. -/

namespace FlightLink.Toml

abbrev Scan := ReaderT Nat (StateT (List Char) Option)

namespace Scan

def next : Scan Char
  | _, [] => none
  | _, first :: rest => some (first, rest)

/-- Takes one particular character. -/
def char (expected : Char) : Scan Unit
  | _, [] => none
  | _, first :: rest => if first = expected then some ((), rest) else none

/-- Takes a particular text. -/
def word (expected : String) : Scan Unit :=
  expected.toList.forM char

/-- Takes the longest run of accepted characters, which may be empty. -/
def span (accepts : Char → Bool) : Scan (List Char) :=
  fun _ text => some (text.span accepts)

/-- Takes the longest run of accepted characters, which may not be empty. -/
def run (accepts : Char → Bool) : Scan (List Char) := do
  let taken ← span accepts
  guard !taken.isEmpty
  return taken

/-- A number of exactly `count` digits, behind the digits read so far. -/
def fixed (base : Nat) : (count : Nat) → (number : Nat) → Scan Nat
  | 0, number => return number
  | count + 1, number => do
    match Digit.value? base (← next) with
    | some digit => fixed base count (number * base + digit)
    | none => failure

/-- Succeeds at the end of the text only. -/
def finished : Scan Unit
  | _, [] => some ((), [])
  | _, _ :: _ => none

/-- A result that needs no text, if there is one. -/
def ofOption {α : Type} (result : Option α) : Scan α :=
  fun _ text => result.map (·, text)

/-- What repeating a scan gives, behind what was given so far (the latest first), and
what is left. -/
def repeated {α : Type} (scan : Scan α) (length : Nat) :
    (budget : Nat) → (given : List α) → List Char → List α × List Char
  | 0, given, text => (given.reverse, text)
  | budget + 1, given, text =>
    match scan length text with
    | none => (given.reverse, text)
    | some (item, rest) => repeated scan length budget (item :: given) rest

/-- Repeats a scan until it fails. Each round takes a character at least, so there are
no more rounds than the text is long. -/
def many {α : Type} (scan : Scan α) : Scan (List α) :=
  fun length text => some (repeated scan length length [] text)

/-- Items with a separator between each two of them. -/
def separated {α : Type} (item : Scan α) (separator : Scan Unit) : Scan (List α) := do
  let first ← item
  let rest ← many (separator *> item)
  return first :: rest

/-- Takes all of a text. -/
def whole {α : Type} (scan : Scan α) (text : List Char) : Option α :=
  ((scan <* finished) text.length text).map (·.1)

/-! ## Blanks, comments and line ends -/

def isBlank (char : Char) : Bool := char = ' ' || char = '\t'

/-- Characters that may stand in a comment: all but control characters, and tabs. -/
def isCommentary (char : Char) : Bool :=
  char = '\t' || (' ' ≤ char && char ≤ '~') || '\x80' ≤ char

def blanks : Scan Unit := do
  let _ ← span isBlank

def newline : Scan Unit := word "\n" <|> word "\r\n"

def comment : Scan Unit := do
  char '#'
  let _ ← span isCommentary

/-- The end of a line, which may be the end of the text. -/
def lineEnd : Scan Unit := newline <|> finished

/-- What may follow a statement on its line. -/
def trailing : Scan Unit := do
  blanks
  let _ ← optional comment
  lineEnd

/-- Blanks and whole lines without a statement. -/
def gap : Scan Unit := do
  let _ ← many (blanks *> (newline <|> comment *> lineEnd))
  blanks

end Scan
end FlightLink.Toml
