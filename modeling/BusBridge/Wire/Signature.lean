import BusBridge.Scalar

/-!
# Signatures

The type of a value on the bus, written in letters and brackets.  A dictionary is
an array of entries, and the key of an entry is a scalar or a name.
-/

namespace BusBridge

/-- A type of the bus. -/
inductive Signature
  | scalar (type : ScalarType)
  | objectPath
  | signature
  | fileDescriptor
  | variant
  | array (element : Signature)
  | entry (key value : Signature)
  | tuple (fields : List Signature)
deriving Repr, Inhabited

namespace Signature

mutual

/-- The letters and brackets of a type. -/
def write : Signature → List Char
  | scalar type => [type.tag]
  | objectPath => ['o']
  | signature => ['g']
  | fileDescriptor => ['h']
  | variant => ['v']
  | array element => 'a' :: write element
  | entry key value => '\x7b' :: write key ++ write value ++ ['\x7d']
  | tuple fields => '(' :: writeAll fields ++ [')']

/-- The letters and brackets of several types. -/
def writeAll : List Signature → List Char
  | [] => []
  | first :: rest => write first ++ writeAll rest

end

def text (type : Signature) : String :=
  String.ofList type.write

theorem text_scalar (type : ScalarType) : (scalar type).text = String.singleton type.tag := by
  rw [text, write, String.singleton_eq_ofList]

theorem text_tuple (fields : List Signature) :
    (tuple fields).text = "(" ++ String.ofList (writeAll fields) ++ ")" := by
  rw [text, write, ← List.singleton_append, String.ofList_append, String.ofList_append]

/-- The text of several types is that of each, one after another. -/
theorem ofList_writeAll (types : List Signature) :
    String.ofList (writeAll types) = String.join (types.map text) := by
  induction types with
  | nil => rfl
  | cons first rest ih =>
      rw [writeAll, String.ofList_append, ih, List.map_cons, String.join_cons, text]

/-- The type that one letter names. -/
def ofLetter? (letter : Char) : Option Signature :=
  match letter with
  | 'o' => some .objectPath
  | 'g' => some .signature
  | 'h' => some .fileDescriptor
  | 'v' => some .variant
  | _ => (ScalarType.ofTag? letter.toString).map .scalar

/-- The type can be the type of a key. -/
def isKey : Signature → Bool
  | scalar _ | objectPath | signature | fileDescriptor => true
  | variant | array _ | entry _ _ | tuple _ => false

mutual

/-- The type at the beginning of a text, and what follows it.  Every nested type
takes one unit of fuel. -/
def readOne : Nat → List Char → Option (Signature × List Char)
  | 0, _ => none
  | _, [] => none
  | fuel + 1, 'a' :: rest => do
    let (element, after) ← readOne fuel rest
    return (.array element, after)
  | fuel + 1, '(' :: rest => do
    let (fields, after) ← readFields fuel rest
    if fields.isEmpty then none else return (.tuple fields, after)
  | fuel + 1, '\x7b' :: rest => do
    let (key, rest) ← readOne fuel rest
    let (value, rest) ← readOne fuel rest
    match rest with
    | '\x7d' :: after => if key.isKey then return (.entry key value, after) else none
    | _ => none
  | _ + 1, letter :: rest => (ofLetter? letter).map fun type => (type, rest)

/-- The types up to a closing bracket, and what follows it. -/
def readFields : Nat → List Char → Option (List Signature × List Char)
  | 0, _ => none
  | _, [] => none
  | _ + 1, ')' :: after => some ([], after)
  | fuel + 1, rest => do
    let (field, rest) ← readOne fuel rest
    let (fields, after) ← readFields fuel rest
    return (field :: fields, after)

end

/-- The greatest number of characters of a signature. -/
def maxLength : Nat :=
  255

/-- The type that a text is, if the text is exactly one type. -/
def read? (text : String) : Option Signature :=
  if maxLength < text.utf8ByteSize then none
  else match readOne (2 * text.length + 1) text.toList with
    | some (type, []) => some type
    | _ => none

end Signature

end BusBridge
