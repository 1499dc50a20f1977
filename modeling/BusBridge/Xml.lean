/-!
# XML elements

The elements of a document with their attributes and texts as they are written.
Attributes and texts are taken apart only when someone asks for them, so mistakes in
parts that nobody reads do no harm.
-/

namespace BusBridge

namespace Xml

def isSpace (character : Char) : Bool :=
  character = ' ' || character = '\n' || character = '\r' || character = '\t'

/-- A piece of the content of an element. -/
inductive Content
  /-- An element with the source of its attributes. -/
  | element (name : String) (attributes : List Char) (children : List Content)
  /-- The source of a text. -/
  | text (source : List Char)
deriving Repr

/-- The part of a name after its namespace. -/
def localName (name : String) : String :=
  let characters := name.toList
  match characters.dropWhile (· ≠ ':') with
  | _ :: rest => String.ofList rest
  | [] => name

/-- The value of digits in a base, if there are not more than `limit` of them. -/
def codeOf? (base limit : Nat) (digits : List Char) : Option Nat := do
  if limit < digits.length then none
  else digits.foldlM (fun value character => do
    let digit ← digitOf? character
    if digit < base then return value * base + digit else none) 0
where
  digitOf? (character : Char) : Option Nat :=
    if character.isDigit then some (character.toNat - '0'.toNat)
    else if 'a' ≤ character ∧ character ≤ 'f' then some (character.toNat - 'a'.toNat + 10)
    else if 'A' ≤ character ∧ character ≤ 'F' then some (character.toNat - 'A'.toNat + 10)
    else none

def entity? (name : List Char) : Option Char :=
  match name with
  | '#' :: 'x' :: digits => (codeOf? 16 6 digits).bind characterOf?
  | '#' :: digits => (codeOf? 10 8 digits).bind characterOf?
  | _ =>
    [("lt", '<'), ("gt", '>'), ("amp", '&'), ("apos", '\''), ("quot", '"')].lookup
      (String.ofList name)
where
  /-- The character with a code. -/
  characterOf? (code : Nat) : Option Char :=
    if code ≠ 0 ∧ code.isValidChar then some (Char.ofNat code) else none

/-- The text that a source stands for, where `open?` holds what was read of the name
of an entity.  It fails on entities that are unknown or not closed. -/
def unescapeFrom (open? : Option (List Char)) : List Char → Option (List Char)
  | [] => if open?.isSome then none else some []
  | character :: rest =>
    match open? with
    | none =>
      if character = '&' then unescapeFrom (some []) rest
      else (unescapeFrom none rest).map (character :: ·)
    | some name =>
      if character = '&' then none
      else if character = ';' then do
        let decoded ← entity? name.reverse
        (unescapeFrom none rest).map (decoded :: ·)
      else unescapeFrom (some (character :: name)) rest

/-- The text that a source stands for. -/
def unescape? (source : List Char) : Option String :=
  (unescapeFrom none source).map String.ofList

/-- An attribute with the source of its value. -/
structure Attribute where
  name : String
  value : List Char
deriving DecidableEq, Repr

/-- One attribute at the beginning of a source, and what follows it.  The first
character belongs to the name whatever it is. -/
def readAttribute (first : Char) (rest : List Char) : Option (Attribute × List Char) :=
  let isNameChar (character : Char) : Bool := character ≠ '=' && !isSpace character
  let name := String.ofList (first :: rest.takeWhile isNameChar)
  match (rest.dropWhile isNameChar).dropWhile isSpace with
  | '=' :: afterEquals =>
    match afterEquals.dropWhile isSpace with
    | quote :: value =>
      if quote = '"' ∨ quote = '\'' then
        match value.dropWhile (· ≠ quote) with
        | _ :: after => some (⟨name, value.takeWhile (· ≠ quote)⟩, after)
        | [] => none
      else none
    | [] => none
  | _ => none

/-- The attributes in a source.  Every attribute takes one unit of fuel, and no name
may come twice. -/
def readAttributes : Nat → List Attribute → List Char → Option (List Attribute)
  | 0, _, _ => none
  | fuel + 1, attributes, source =>
    match source.dropWhile isSpace with
    | [] => some attributes.reverse
    | first :: rest => do
      let (found, after) ← readAttribute first rest
      if attributes.any fun other => other.name = found.name then none
      else readAttributes fuel (found :: attributes) after

def attributes? (source : List Char) : Option (List Attribute) :=
  readAttributes (source.length + 1) [] source

/-- The name under which an attribute is asked for: without its namespace, unless it
declares one. -/
def attributeKey (name : String) : String :=
  if "xmlns:".toList.isPrefixOf name.toList then name else localName name

/-- The value of an attribute that may be missing.  It fails if the attribute comes
more than once or is malformed. -/
def optional? (attributes : List Attribute) (key : String) : Option (Option String) :=
  match attributes.filter fun found => attributeKey found.name = key with
  | [] => some none
  | [found] => (unescape? found.value).map some
  | _ => none

/-- The value of an attribute that must be there. -/
def required? (attributes : List Attribute) (key : String) : Option String :=
  (optional? attributes key).bind id

end Xml

end BusBridge
