import BusBridge.Json

/-!
# Reading JSON

Every reader takes the characters from a place in the text on and gives what it
read together with the characters after it.  A document may be followed by blanks
only.
-/

namespace BusBridge

namespace Json

def isSpace (character : Char) : Bool :=
  character = ' ' || character = '\n' || character = '\r' || character = '\t'

def skipSpace (input : List Char) : List Char :=
  input.dropWhile isSpace

def hexDigit? (character : Char) : Option Nat :=
  if character.isDigit then some (character.toNat - '0'.toNat)
  else if 'a' ≤ character ∧ character ≤ 'f' then some (character.toNat - 'a'.toNat + 10)
  else if 'A' ≤ character ∧ character ≤ 'F' then some (character.toNat - 'A'.toNat + 10)
  else none

/-- One element of a string literal: a character, or the code of a `\u` escape. -/
inductive Piece
  | character (character : Char)
  | code (code : Nat)
deriving Repr, DecidableEq

/-- The characters that a backslash and one letter stand for. -/
def simpleEscape? : Char → Option Char
  | '"' => some '"'
  | '\\' => some '\\'
  | '/' => some '/'
  | 'b' => some '\x08'
  | 'f' => some '\x0c'
  | 'n' => some '\n'
  | 'r' => some '\r'
  | 't' => some '\t'
  | _ => none

/-- The pieces of a string literal after its opening quote. -/
def readPieces : List Char → Option (List Piece × List Char)
  | [] => none
  | '"' :: rest => some ([], rest)
  | '\\' :: 'u' :: first :: second :: third :: fourth :: rest => do
    let code := (← hexDigit? first) * 4096 + (← hexDigit? second) * 256 +
      (← hexDigit? third) * 16 + (← hexDigit? fourth)
    let (pieces, after) ← readPieces rest
    return (.code code :: pieces, after)
  | '\\' :: escape :: rest => do
    let character ← simpleEscape? escape
    let (pieces, after) ← readPieces rest
    return (.character character :: pieces, after)
  | character :: rest =>
    if character.toNat < 0x20 || character = '\\' then none
    else do
      let (pieces, after) ← readPieces rest
      return (.character character :: pieces, after)

/-- The characters that the pieces of a literal stand for.  Two codes that are the
halves of a surrogate pair make one character; a half on its own makes none. -/
def joinPieces : List Piece → Option (List Char)
  | [] => some []
  | .character character :: pieces => (joinPieces pieces).map (character :: ·)
  | .code high :: .code low :: pieces =>
    if 0xD800 ≤ high ∧ high ≤ 0xDBFF ∧ 0xDC00 ≤ low ∧ low ≤ 0xDFFF then
      (joinPieces pieces).map
        (Char.ofNat (0x10000 + (high - 0xD800) * 0x400 + (low - 0xDC00)) :: ·)
    else if 0xD800 ≤ high ∧ high ≤ 0xDFFF then none
    else (joinPieces (.code low :: pieces)).map (Char.ofNat high :: ·)
  | .code code :: pieces =>
    if 0xD800 ≤ code ∧ code ≤ 0xDFFF then none
    else (joinPieces pieces).map (Char.ofNat code :: ·)

/-- A string literal after its opening quote: its text, unless it holds half a
surrogate pair. -/
def readString (input : List Char) : Option (Option String × List Char) :=
  (readPieces input).map fun (pieces, after) =>
    ((joinPieces pieces).map String.ofList, after)

def sourceBefore (input after : List Char) : String :=
  String.ofList (input.take (input.length - after.length))

/-- The members of an object, unless a key holds half a surrogate pair. -/
def textKeys? : List (Option String × Json) → Option (List (String × Json))
  | [] => some []
  | (none, _) :: _ => none
  | (some key, value) :: members => (textKeys? members).map ((key, value) :: ·)

def readDigits (input : List Char) : Option (List Char × List Char) :=
  let digits := input.takeWhile Char.isDigit
  if digits.isEmpty then none else some (digits, input.dropWhile Char.isDigit)

/-- The fraction of a number, with its point, or nothing. -/
def readFraction : List Char → Option (List Char × List Char)
  | '.' :: rest => (readDigits rest).map fun (digits, after) => ('.' :: digits, after)
  | rest => some ([], rest)

/-- The exponent of a number, with its letter, or nothing. -/
def readExponent : List Char → Option (List Char × List Char)
  | letter :: rest =>
    if letter = 'e' || letter = 'E' then
      match rest with
      | sign :: afterSign =>
        if sign = '+' || sign = '-' then
          (readDigits afterSign).map fun (digits, after) => (letter :: sign :: digits, after)
        else (readDigits rest).map fun (digits, after) => (letter :: digits, after)
      | [] => none
    else some ([], letter :: rest)
  | [] => some ([], [])

/-- An unsigned number.  The whole part has no leading zero. -/
def readUnsigned (negative : Bool) (input : List Char) : Option (Json × List Char) := do
  let (whole, afterWhole) ← readDigits input
  if whole.length ≠ 1 ∧ whole.head? = some '0' then none
  else
    let (fraction, afterFraction) ← readFraction afterWhole
    let (exponent, after) ← readExponent afterFraction
    let sign := if negative then ['-'] else []
    if fraction.isEmpty && exponent.isEmpty && !(negative && whole == ['0']) then
      let value : Int := whole.foldl (fun value digit => value * 10 + (digit.toNat - 48 : Nat)) 0
      return (.integer (if negative then -value else value), after)
    else return (.decimal (String.ofList (sign ++ whole ++ fraction ++ exponent)), after)

def readAtom (input : List Char) : Option (Json × List Char) :=
  if ['t', 'r', 'u', 'e'].isPrefixOf input then some (.boolean true, input.drop 4)
  else if ['f', 'a', 'l', 's', 'e'].isPrefixOf input then some (.boolean false, input.drop 5)
  else if ['n', 'u', 'l', 'l'].isPrefixOf input then some (.null, input.drop 4)
  else match input with
    | '-' :: rest => readUnsigned true rest
    | rest => readUnsigned false rest

mutual

/-- A value.  Every nested reading takes one unit of fuel. -/
def readValue : Nat → List Char → Option (Json × List Char)
  | 0, _ => none
  | fuel + 1, input =>
    match skipSpace input with
    | '"' :: rest =>
      (readString rest).map fun (text, after) =>
        (text.elim (.unpaired (sourceBefore ('"' :: rest) after)) .string, after)
    | '[' :: rest =>
      match skipSpace rest with
      | ']' :: after => some (.array [], after)
      | rest => (readItems fuel rest).map fun (items, after) => (.array items, after)
    | '\x7b' :: rest =>
      match skipSpace rest with
      | '\x7d' :: after => some (.object [], after)
      | members =>
        (readMembers fuel members).map fun (members, after) =>
          ((textKeys? members).elim (.unpaired (sourceBefore ('\x7b' :: rest) after)) .object,
            after)
    | rest => readAtom rest

/-- One or more items and the closing bracket. -/
def readItems : Nat → List Char → Option (List Json × List Char)
  | 0, _ => none
  | fuel + 1, input => do
    let (item, rest) ← readValue fuel input
    match skipSpace rest with
    | ',' :: rest =>
      let (items, after) ← readItems fuel rest
      return (item :: items, after)
    | ']' :: after => return ([item], after)
    | _ => none

/-- One or more members and the closing brace. -/
def readMembers : Nat → List Char → Option (List (Option String × Json) × List Char)
  | 0, _ => none
  | fuel + 1, input =>
    match skipSpace input with
    | '"' :: rest => do
      let (key, rest) ← readString rest
      match skipSpace rest with
      | ':' :: rest =>
        let (value, rest) ← readValue fuel rest
        match skipSpace rest with
        | ',' :: rest =>
          let (members, after) ← readMembers fuel rest
          return ((key, value) :: members, after)
        | '\x7d' :: after => return ([(key, value)], after)
        | _ => none
      | _ => none
    | _ => none

end

/-- The document that a text is, if it is one.  No part of a text nests deeper than
the text is long. -/
def read? (text : String) : Option Json := do
  let (document, after) ← readValue (text.length + 1) text.toList
  if (skipSpace after).isEmpty then return document else none

end Json

end BusBridge
