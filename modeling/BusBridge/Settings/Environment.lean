import BusBridge.Settings.Layer
import BusBridge.Toml.Text

/-!
# Settings from the environment

A variable whose name begins with `NDB_`, in any case, gives a setting.  The rest of
the name is the key, with two underscores between nested keys.  The text of a
variable may also be a number, a truth value, a list or a table; then it is no text
any more.
-/

namespace BusBridge

namespace Environment

/-- The blanks inside lists and tables. -/
def isSpace (character : Char) : Bool :=
  character = ' ' || character = '\t' || character = '\n'

/-- A character that ends a bare value. -/
def isSeparator (character : Char) : Bool :=
  character = ',' || character = '\x7b' || character = '\x7d' || character = '[' ||
    character = ']'

def isKeyChar (character : Char) : Bool :=
  character.isAlphanum || character = '_' || character = '-'

def skipSpace (input : List Char) : List Char :=
  input.dropWhile isSpace

/-- The text between double quotes, after the opening quote, and what follows the
closing quote.  Every character takes one unit of fuel. -/
def readQuoted : Nat → List Char → Option (List Char × List Char)
  | 0, _ => none
  | _, [] => none
  | _ + 1, '"' :: after => some ([], after)
  | fuel + 1, '\\' :: rest => do
    let (character, rest) ← Toml.readEscape rest
    let (characters, after) ← readQuoted fuel rest
    return (character :: characters, after)
  | fuel + 1, character :: rest =>
    (readQuoted fuel rest).map fun (characters, after) => (character :: characters, after)

def skipKey (input : List Char) : Option (List Char) :=
  match input with
  | '"' :: rest => (readQuoted (rest.length + 1) rest).map Prod.snd
  | _ => if (input.takeWhile isKeyChar).isEmpty then none else some (input.dropWhile isKeyChar)

mutual

/-- Skip a value inside a list or a table, and the blanks around it.  Every step
takes one unit of fuel. -/
def skipValue : Nat → List Char → Option (List Char)
  | 0, _ => none
  | fuel + 1, input =>
    let start := skipSpace input
    let after := match start with
      | 't' :: 'r' :: 'u' :: 'e' :: rest => some rest
      | 'f' :: 'a' :: 'l' :: 's' :: 'e' :: rest => some rest
      | '[' :: rest => skipItems fuel rest
      | '\x7b' :: rest => skipMembers fuel rest
      | '"' :: rest => (readQuoted (rest.length + 1) rest).map Prod.snd
      | '\'' :: _ :: '\'' :: rest => some rest
      | '\'' :: _ => none
      | rest => some (rest.dropWhile fun character => !isSeparator character)
    after.map skipSpace

/-- Skip the items of a list and the closing bracket. -/
def skipItems : Nat → List Char → Option (List Char)
  | 0, _ => none
  | fuel + 1, input =>
    match input with
    | ']' :: after => some after
    | rest => do
      match ← skipValue fuel rest with
      | ',' :: rest => skipItems fuel rest
      | ']' :: after => some after
      | _ => none

/-- Skip the members of a table and the closing brace. -/
def skipMembers : Nat → List Char → Option (List Char)
  | 0, _ => none
  | fuel + 1, input =>
    match input with
    | '\x7d' :: after => some after
    | rest => do
      match skipSpace (← skipKey (skipSpace rest)) with
      | '=' :: rest =>
        match ← skipValue fuel rest with
        | ',' :: rest => skipMembers fuel rest
        | '\x7d' :: after => some after
        | _ => none
      | _ => none

end

/-- A list or a table, and nothing after it. -/
def isStructured (characters : List Char) : Bool :=
  skipValue (2 * characters.length + 2) characters = some []

/-- An optional minus sign, and digits with at most one point. -/
def isNumber (characters : List Char) : Bool :=
  let unsigned := if characters.head? = some '-' then characters.drop 1 else characters
  let digits := unsigned.filter (· != '.')
  !digits.isEmpty && digits.all Char.isDigit && unsigned.length ≤ digits.length + 1

/-- What the trimmed text of a variable gives. -/
def readValue (characters : List Char) : Entry :=
  let plain : Entry := .text (String.ofList characters)
  let isWord (word : String) : Bool := Text.equalIgnoringCase word (String.ofList characters)
  match characters with
  | '[' :: _ => if isStructured characters then .other else plain
  | '\x7b' :: _ => if isStructured characters then .other else plain
  | '"' :: rest =>
    match readQuoted (rest.length + 1) rest with
    | some (inner, []) => .text (String.ofList inner)
    | _ => plain
  | ['\'', character, '\''] => .text character.toString
  | '\'' :: _ => plain
  | _ =>
    if characters.contains ',' || isWord "true" || isWord "false" || isNumber characters then
      .other
    else plain

/-- Split at every pair of underscores. -/
def splitKey : List Char → List (List Char)
  | '_' :: '_' :: rest => [] :: splitKey rest
  | character :: rest =>
    match splitKey rest with
    | [] => [[character]]
    | first :: others => (character :: first) :: others
  | [] => [[]]

/-- The parts of the key that the name of a variable gives, if it gives one. -/
def keyParts? (name : String) : Option (List String) :=
  let lower := (Text.trim name).toList.map Char.toLower
  if ['n', 'd', 'b', '_'].isPrefixOf lower then
    let parts := splitKey (lower.drop 4)
    if parts.any List.isEmpty then none else some (parts.map String.ofList)
  else none

/-- Take in one variable.  A nested key makes a table of its first part. -/
def addVariable (layer : Layer) (entry : String × String) : Layer :=
  match keyParts? entry.1 with
  | some [key] => layer.set key (readValue (Text.trim entry.2).toList)
  | some (key :: _) => layer.set key .other
  | _ => layer

/-- The layer that the variables give, taken in this order. -/
def layer (entries : List (String × String)) : Layer :=
  entries.foldl addVariable .empty

end Environment

end BusBridge
