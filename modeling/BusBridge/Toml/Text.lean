import BusBridge.Json.Reader

/-!
# Strings of TOML

A string stands between single or double quotes, one or three of them.  Between
single quotes nothing is special; between double quotes a backslash begins an
escape.  Every reader takes the characters from a place in the document on and gives
what it read together with the characters after it.
-/

namespace BusBridge

namespace Toml

/-- A control character that may not stand in a document as it is. -/
def isControl (character : Char) : Bool :=
  (character.toNat < 0x20 && character != '\t') || character = '\x7f'

/-- The value of `count` hexadecimal digits, and what follows them. -/
def readHex : Nat → Nat → List Char → Option (Nat × List Char)
  | 0, value, rest => some (value, rest)
  | _ + 1, _, [] => none
  | count + 1, value, digit :: rest => do
    readHex count (value * 16 + (← Json.hexDigit? digit)) rest

def scalarOf? (code : Nat) : Option Char :=
  if code.isValidChar then some (Char.ofNat code) else none

/-- The character that an escape stands for, after its backslash. -/
def readEscape : List Char → Option (Char × List Char)
  | 'b' :: rest => some ('\x08', rest)
  | 't' :: rest => some ('\t', rest)
  | 'n' :: rest => some ('\n', rest)
  | 'f' :: rest => some ('\x0c', rest)
  | 'r' :: rest => some ('\r', rest)
  | '"' :: rest => some ('"', rest)
  | '\\' :: rest => some ('\\', rest)
  | 'u' :: rest => do
    let (code, after) ← readHex 4 0 rest
    return (← scalarOf? code, after)
  | 'U' :: rest => do
    let (code, after) ← readHex 8 0 rest
    return (← scalarOf? code, after)
  | _ => none

/-- The text of a string in double quotes, after the opening quote.  Every character
takes one unit of fuel. -/
def readBasic : Nat → List Char → Option (List Char × List Char)
  | 0, _ => none
  | _, [] => none
  | _ + 1, '"' :: after => some ([], after)
  | fuel + 1, '\\' :: rest => do
    let (character, rest) ← readEscape rest
    let (characters, after) ← readBasic fuel rest
    return (character :: characters, after)
  | fuel + 1, character :: rest =>
    if isControl character then none
    else (readBasic fuel rest).map fun (characters, after) => (character :: characters, after)

/-- The text of a string in single quotes, after the opening quote. -/
def readLiteral : List Char → Option (List Char × List Char)
  | [] => none
  | '\'' :: after => some ([], after)
  | character :: rest =>
    if isControl character then none
    else (readLiteral rest).map fun (characters, after) => (character :: characters, after)

def dropLineEnd : List Char → List Char
  | '\n' :: rest => rest
  | '\r' :: '\n' :: rest => rest
  | rest => rest

/-- A blank within a line. -/
def isBlank (character : Char) : Bool :=
  character = ' ' || character = '\t'

/-- Drop blanks and ends of lines. -/
def skipLines : List Char → List Char
  | [] => []
  | '\r' :: '\n' :: rest => skipLines rest
  | character :: rest =>
    if isBlank character || character = '\n' then skipLines rest else character :: rest

/-- The rest after a backslash that ends a line, without the blanks that begin the
next lines. -/
def continueLine? (input : List Char) : Option (List Char) :=
  match input.dropWhile isBlank with
  | '\n' :: rest => some (skipLines rest)
  | '\r' :: '\n' :: rest => some (skipLines rest)
  | _ => none

/-- The quotes at the end of a string in three quotes: up to two of them belong to
the text. -/
def closingQuotes? (quote : Char) (input : List Char) : Option (List Char × List Char) :=
  let quotes := (input.takeWhile (· = quote)).length
  if 3 ≤ quotes ∧ quotes ≤ 5 then
    some (List.replicate (quotes - 3) quote, input.drop quotes)
  else none

/-- The text of a string in three quotes, after the opening quotes.  Every step takes
one unit of fuel. -/
def readMultiline (quote : Char) : Nat → List Char → Option (List Char × List Char)
  | 0, _ => none
  | fuel + 1, input =>
    match closingQuotes? quote input with
    | some (characters, after) => some (characters, after)
    | none =>
      match input with
      | [] => none
      | '\r' :: '\n' :: rest => consed '\n' (readMultiline quote fuel rest)
      | '\n' :: rest => consed '\n' (readMultiline quote fuel rest)
      | character :: rest =>
        if character = quote then
          if rest.take 2 = [quote, quote] then none
          else consed character (readMultiline quote fuel rest)
        else if character = '\\' ∧ quote = '"' then
          match continueLine? rest with
          | some next => readMultiline quote fuel next
          | none =>
            match readEscape rest with
            | some (escaped, next) => consed escaped (readMultiline quote fuel next)
            | none => none
        else if isControl character then none
        else consed character (readMultiline quote fuel rest)
where
  /-- One more character before what was read. -/
  consed (character : Char) :
      Option (List Char × List Char) → Option (List Char × List Char) :=
    Option.map fun (characters, after) => (character :: characters, after)

def readQuoted : List Char → Option (String × List Char)
  | '"' :: rest =>
    (readBasic (rest.length + 1) rest).map fun (characters, after) =>
      (String.ofList characters, after)
  | '\'' :: rest =>
    (readLiteral rest).map fun (characters, after) => (String.ofList characters, after)
  | _ => none

/-- A string of any kind, with its quotes. -/
def readString (input : List Char) : Option (String × List Char) :=
  match input with
  | first :: second :: third :: rest =>
    if first = second ∧ second = third ∧ (first = '"' ∨ first = '\'') then
      (readMultiline first (rest.length + 1) (dropLineEnd rest)).map fun (characters, after) =>
        (String.ofList characters, after)
    else readQuoted input
  | _ => readQuoted input

end Toml

end BusBridge
