import FlightLink.Toml.Quotation
import FlightLink.Toml.Scalar

/-! Whole documents. A document is a list of sections: assignments to the root, then
headers with the assignments that follow each. Nesting of values is limited, and so
is the number of parts of a key. -/

namespace FlightLink.Toml

open Scan

/-- Values and keys are nested less deeply than this. -/
def depthLimit : Nat := 80

/-! ## Keys -/

def isBare (char : Char) : Bool :=
  char.isAlphanum || char = '_' || char = '-'

/-- A key without dots. -/
def simpleKey : Scan String :=
  Quotation.short <|> do return String.ofList (← run isBare)

/-- A path and the key at its end. -/
def splitLast? : List String → Option (List String × String)
  | [] => none
  | [last] => some ([], last)
  | first :: rest => (splitLast? rest).map fun (path, last) => (first :: path, last)

/-- A key, which may have dots. -/
def keyPath : Scan (List String × String) := do
  let parts ← separated (blanks *> simpleKey <* blanks) (char '.')
  guard (parts.length < depthLimit)
  ofOption (splitLast? parts)

/-! ## Values -/

/-- A key and its value. -/
def assignment (value : Scan Node) : Scan Entries.Assignment := do
  let (path, key) ← keyPath
  char '='
  blanks
  return ⟨path, key, ← value⟩

/-- An array, which may go over several lines and end in a comma. -/
def array (value : Scan Node) : Scan Node := do
  char '['
  gap
  let elements ← optional (separated (gap *> value <* gap) (char ','))
  if elements.isSome then
    let _ ← optional (char ',')
  gap
  char ']'
  return .array (elements.getD [])

/-- An inline table, which is on one line. -/
def inlineTable (value : Scan Node) : Scan Node := do
  char '\x7b'
  let assignments ← optional (separated (assignment value <* blanks) (char ','))
  blanks
  char '\x7d'
  let entries ← ofOption (Entries.assignAll .inline [] (assignments.getD []))
  return .table .inline entries

/-- A value with at most `depth` levels of arrays and inline tables. -/
def value : (depth : Nat) → Scan Node
  | 0 => .string <$> Quotation.text <|> Scalar.scalar
  | depth + 1 =>
    .string <$> Quotation.text <|> Scalar.scalar <|> array (value depth) <|>
      inlineTable (value depth)

/-! ## Sections -/

inductive Header
  | table (path : List String) (key : String)
  /-- Adds a table to an array of tables. -/
  | element (path : List String) (key : String)

/-- A header and the assignments below it. -/
structure Section where
  header : Header
  assignments : List Entries.Assignment

def statement : Scan Entries.Assignment :=
  gap *> assignment (value (depthLimit - 1)) <* trailing

def header : Scan Header :=
  (do word "[["
      let (path, key) ← keyPath
      word "]]"
      trailing
      return .element path key) <|>
  (do word "["
      let (path, key) ← keyPath
      word "]"
      trailing
      return .table path key)

/-- What a header opens, with what deeper headers have put there already. -/
def Header.place (assignments : List Entries.Assignment) :
    Header → Option Node → Option Node
  | .table .., none => (Entries.assignAll .header [] assignments).map (.table .header)
  | .table .., some (.table .implied entries) =>
    (Entries.assignAll .header entries assignments).map (.table .header)
  | .table .., some _ => none
  | .element .., none => do return .tables [← Entries.assignAll .header [] assignments]
  | .element .., some (.tables elements) => do
    return .tables (elements ++ [← Entries.assignAll .header [] assignments])
  | .element .., some _ => none

def Header.path : Header → List String
  | table path _ | element path _ => path

def Header.key : Header → String
  | table _ key | element _ key => key

/-- Adds a section to the root. -/
def Section.addTo (root : Entries) (part : Section) : Option Entries :=
  root.descend .implied
    (fun _ => Entries.alter part.header.key (part.header.place part.assignments))
    part.header.path .header

/-- The statements of a document: those of the root, then the sections. -/
def statements : Scan (List Entries.Assignment × List Section) := do
  let first ← many statement
  let sections ← many (do
    gap
    return ⟨← header, ← many statement⟩)
  gap
  return (first, sections)

/-- Reads a document. A byte order mark in front is skipped. -/
def parse? (text : String) : Option Entries := do
  let characters := match text.toList with
    | '\ufeff' :: rest => rest
    | characters => characters
  let (first, sections) ← Scan.whole statements characters
  let root ← Entries.assignAll .header [] first
  sections.foldlM Section.addTo root

end FlightLink.Toml
