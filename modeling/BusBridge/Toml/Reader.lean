import BusBridge.Toml
import BusBridge.Toml.Scalar
import BusBridge.Toml.Text

/-!
# Reading TOML

A document is a sequence of lines: keys with values, headers of tables, comments.
The main function is `Toml.read?`, which gives the entries at the top of a document
if the document is well-formed and no key is set twice.
-/

namespace BusBridge

namespace Toml

def skipBlanks (input : List Char) : List Char :=
  input.dropWhile isBlank

/-- A character of a key without quotes. -/
def isBareChar (character : Char) : Bool :=
  character.isAlphanum || character = '_' || character = '-'

def readPart (input : List Char) : Option (String × List Char) :=
  match input with
  | '"' :: _ => readQuoted input
  | '\'' :: _ => readQuoted input
  | _ =>
    let bare := input.takeWhile isBareChar
    if bare.isEmpty then none else some (String.ofList bare, input.dropWhile isBareChar)

/-- A key, given as the parts before its last dot and the part after it.  Every part
takes one unit of fuel. -/
def readKey : Nat → List Char → Option ((List String × String) × List Char)
  | 0, _ => none
  | fuel + 1, input => do
    let (part, rest) ← readPart (skipBlanks input)
    match skipBlanks rest with
    | '.' :: rest =>
      let ((path, last), after) ← readKey fuel rest
      return ((part :: path, last), after)
    | after => return (([], part), after)

def skipComment (input : List Char) : Option (List Char) :=
  match input with
  | '#' :: rest => check (rest.takeWhile (· != '\n')) (rest.dropWhile (· != '\n'))
  | rest => some rest
where
  /-- The text of a comment has no control characters but the end of the line. -/
  check (comment rest : List Char) : Option (List Char) :=
    if comment.getLast? = some '\r' ∧ !rest.isEmpty then
      if comment.dropLast.any isControl then none else some ('\r' :: rest)
    else if comment.any isControl then none else some rest

/-- Skip blanks, comments and ends of lines.  Every comment takes one unit of fuel. -/
def skipSpace : Nat → List Char → Option (List Char)
  | 0, _ => none
  | fuel + 1, input =>
    match skipLines input with
    | '#' :: rest => (skipComment ('#' :: rest)).bind (skipSpace fuel)
    | rest => some rest

/-- The end of a line: blanks, perhaps a comment, and the line end or that of the
document. -/
def endLine (input : List Char) : Option (List Char) := do
  match ← skipComment (skipBlanks input) with
  | [] => some []
  | '\n' :: rest => some rest
  | '\r' :: '\n' :: rest => some rest
  | _ => none

mutual

/-- A value.  Every step takes one unit of fuel. -/
def readItem : Nat → List Char → Option (Item × List Char)
  | 0, _ => none
  | fuel + 1, input =>
    match input with
    | '[' :: rest => (readElements fuel rest).map fun after => (.plain, after)
    | '\x7b' :: rest =>
      match skipBlanks rest with
      | '\x7d' :: after => some (.table .inline [], after)
      | rest => (readMembers fuel [] rest).map fun (entries, after) =>
        (.table .inline entries, after)
    | '"' :: _ => (readString input).map fun (text, after) => (.text text, after)
    | '\'' :: _ => (readString input).map fun (text, after) => (.text text, after)
    | _ => (takeScalar? input).map fun after => (.plain, after)

/-- The elements of a list and the closing bracket. -/
def readElements : Nat → List Char → Option (List Char)
  | 0, _ => none
  | fuel + 1, input => do
    match ← skipSpace (input.length + 1) input with
    | ']' :: after => return after
    | rest =>
      let (_, rest) ← readItem fuel rest
      match ← skipSpace (rest.length + 1) rest with
      | ',' :: rest => readElements fuel rest
      | ']' :: after => return after
      | _ => none

/-- One or more entries of a table between braces and the closing brace. -/
def readMembers : Nat → Entries → List Char → Option (Entries × List Char)
  | 0, _, _ => none
  | fuel + 1, entries, input => do
    let ((path, key), rest) ← readKey (input.length + 1) input
    match rest with
    | '=' :: rest =>
      let (item, rest) ← readItem fuel (skipBlanks rest)
      let entries ← entries.assign .inline path key item
      match skipBlanks rest with
      | ',' :: rest => readMembers fuel entries rest
      | '\x7d' :: after => return (entries, after)
      | _ => none
    | _ => none

end

/-- A header after its opening brackets. -/
def readHeader (closing input : List Char) : Option ((List String × String) × List Char) := do
  let (key, rest) ← readKey (input.length + 1) input
  if closing.isPrefixOf rest then
    return (key, ← endLine (rest.drop closing.length))
  else none

/-- A key with its value, on a line of its own. -/
def readAssignment (input : List Char) : Option ((List String × String) × Item × List Char) := do
  let (key, rest) ← readKey (input.length + 1) input
  match rest with
  | '=' :: rest =>
    let (item, rest) ← readItem (2 * rest.length + 1) (skipBlanks rest)
    return (key, item, ← endLine rest)
  | _ => none

/-- The lines of a document, given the entries so far and the header above.  Every
line takes one unit of fuel. -/
def readLines : Nat → Entries → List String → List Char → Option Entries
  | 0, _, _, _ => none
  | fuel + 1, entries, header, input => do
    match ← skipSpace (input.length + 1) input with
    | [] => return entries
    | '[' :: '[' :: rest =>
      let ((path, key), rest) ← readHeader [']', ']'] rest
      readLines fuel (← entries.openTables path key) (path ++ [key]) rest
    | '[' :: rest =>
      let ((path, key), rest) ← readHeader [']'] rest
      readLines fuel (← entries.openTable path key) (path ++ [key]) rest
    | rest =>
      let ((path, key), item, rest) ← readAssignment rest
      readLines fuel (← entries.assignIn header path key item) header rest

def dropMark : List Char → List Char
  | '\uFEFF' :: rest => rest
  | rest => rest

/-- The entries at the top of a document, if it is well-formed. -/
def read? (document : String) : Option Entries :=
  let input := dropMark document.toList
  readLines (input.length + 1) [] [] input

end Toml

end BusBridge
