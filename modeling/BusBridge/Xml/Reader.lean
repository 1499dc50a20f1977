import BusBridge.Xml

/-!
# Reading XML

A document is read up to the end of its first element.  Start and end of every
element must match; comments, instructions and declarations are passed over.
-/

namespace BusBridge

namespace Xml

/-- What follows the first place where `ending` stands. -/
def afterFirst (ending : List Char) : List Char → Option (List Char)
  | [] => none
  | character :: rest =>
    if ending.isPrefixOf (character :: rest) then some ((character :: rest).drop ending.length)
    else afterFirst ending rest

/-- What stands before the first place of `ending`, and what follows it. -/
def splitAtFirst (ending : List Char) (input : List Char) : Option (List Char × List Char) :=
  (afterFirst ending input).map fun after =>
    (input.take (input.length - after.length - ending.length), after)

/-- What follows a declaration, in which angle brackets may be nested. -/
def afterDeclaration : Nat → List Char → Option (List Char)
  | _, [] => none
  | depth, '<' :: rest => afterDeclaration (depth + 1) rest
  | 0, '>' :: rest => some rest
  | depth + 1, '>' :: rest => afterDeclaration depth rest
  | depth, _ :: rest => afterDeclaration depth rest

/-- The inside of a tag and what follows it.  A quoted part may hold the bracket that
otherwise ends the tag. -/
def readTag (quote? : Option Char) : List Char → Option (List Char × List Char)
  | [] => none
  | character :: rest =>
    let next (quote? : Option Char) : Option (List Char × List Char) :=
      (readTag quote? rest).map fun (inside, after) => (character :: inside, after)
    match quote? with
    | some quote => next (if character = quote then none else some quote)
    | none =>
      if character = '>' then some ([], rest)
      else if character = '"' ∨ character = '\'' then next (some character)
      else next none

def tagName (inside : List Char) : String :=
  String.ofList (inside.takeWhile fun character => !isSpace character)

def tagAttributes (inside : List Char) : List Char :=
  inside.dropWhile fun character => !isSpace character

/-- What follows the end tag of an element. -/
def readEndTag (name : String) (input : List Char) : Option (List Char) := do
  match input with
  | '<' :: '/' :: rest =>
    let (inside, after) ← splitAtFirst ['>'] rest
    let trimmed := (inside.reverse.dropWhile isSpace).reverse
    if String.ofList trimmed = name then return after else none
  | _ => none

/-- What follows a comment, a literal text, a declaration or an instruction, together
with the text if it is one. -/
def readSpecial (input : List Char) : Option (Option (List Char) × List Char) :=
  match input with
  | '<' :: '!' :: '-' :: '-' :: rest =>
    (afterFirst ['-', '-', '>'] rest).map fun after => (none, after)
  | '<' :: '!' :: '[' :: 'C' :: 'D' :: 'A' :: 'T' :: 'A' :: '[' :: rest =>
    (splitAtFirst [']', ']', '>'] rest).map fun (text, after) => (some text, after)
  | '<' :: '!' :: letter :: rest =>
    if letter = 'D' ∨ letter = 'd' then
      (afterDeclaration 0 rest).map fun after => (none, after)
    else none
  | '<' :: '?' :: rest => (afterFirst ['?', '>'] rest).map fun after => (none, after)
  | _ => none

mutual

/-- An element from its opening bracket on, and what follows it.  Every step takes
one unit of fuel. -/
def readElement : Nat → List Char → Option (Content × List Char)
  | 0, _ => none
  | fuel + 1, input => do
    let (inside, rest) ← readTag none (input.drop 1)
    if inside.getLast? = some '/' then
      return (.element (tagName inside.dropLast) (tagAttributes inside.dropLast) [], rest)
    else
      let (children, rest) ← readChildren fuel rest
      let after ← readEndTag (tagName inside) rest
      return (.element (tagName inside) (tagAttributes inside) children, after)

/-- The content of an element up to its end tag. -/
def readChildren : Nat → List Char → Option (List Content × List Char)
  | 0, _ => none
  | fuel + 1, input =>
    match input with
    | [] => none
    | '<' :: '/' :: _ => some ([], input)
    | '<' :: '!' :: _ => do
      let (_, rest) ← readSpecial input
      readChildren fuel rest
    | '<' :: '?' :: _ => do
      let (_, rest) ← readSpecial input
      readChildren fuel rest
    | '<' :: _ => do
      let (child, rest) ← readElement fuel input
      let (children, after) ← readChildren fuel rest
      return (child :: children, after)
    | _ => do
      let source := input.takeWhile (· ≠ '<')
      let (children, after) ← readChildren fuel (input.dropWhile (· ≠ '<'))
      return (.text source :: children, after)

end

/-- What begins with the first element: everything before it must be blanks,
comments, declarations and instructions.  Every step takes one unit of fuel. -/
def skipProlog : Nat → List Char → Option (List Char)
  | 0, _ => none
  | fuel + 1, input =>
    match input.dropWhile isSpace with
    | '<' :: '/' :: _ => none
    | '<' :: '!' :: rest => do
      match ← readSpecial ('<' :: '!' :: rest) with
      | (none, after) => skipProlog fuel after
      | (some _, _) => none
    | '<' :: '?' :: rest => do
      let (_, after) ← readSpecial ('<' :: '?' :: rest)
      skipProlog fuel after
    | '<' :: rest => some ('<' :: rest)
    | _ => none

def dropMark : List Char → List Char
  | '\uFEFF' :: rest => rest
  | rest => rest

/-- The first element of a document. -/
def read? (document : String) : Option Content := do
  let input := dropMark document.toList
  let start ← skipProlog (input.length + 1) input
  let (root, _) ← readElement (input.length + 1) start
  return root

end Xml

end BusBridge
