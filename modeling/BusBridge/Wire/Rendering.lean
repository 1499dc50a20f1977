import BusBridge.Text.Quoted
import BusBridge.Text.RawText
import BusBridge.Wire

/-!
# Values of the bus as text

Every value of the bus has a text from which its type can be seen.  Where the type
cannot be seen from the digits or the quotes it stands before the value; inside an
array only the first item tells its type, and inside a dictionary only the first
entry.  Dictionaries are written in the order of their keys.
-/

namespace BusBridge

namespace Double

/-- The number in plain decimal digits, with a point after a whole number. -/
def wireText (number : Double) : String :=
  if number.isWhole then number.display ++ "." else number.display

end Double

namespace IntegerType

/-- The word that stands before a number of the type, if one is needed. -/
def word : IntegerType → String
  | byte => "byte "
  | int16 => "int16 "
  | uint16 => "uint16 "
  | int32 => ""
  | uint32 => "uint32 "
  | int64 => "int64 "
  | uint64 => "uint64 "

/-- The digits of a number: two hexadecimal ones of a byte, decimal ones otherwise. -/
def digits : (type : IntegerType) → type.Number → String
  | byte, number => "0x" ++ String.ofList (Text.hexPadded 2 number.val.toNat)
  | _, number => toString number.val

end IntegerType

namespace WireValue

/-- A word before a text, if the type is to be seen. -/
def annotate (annotated : Bool) (word text : String) : String :=
  if annotated then word ++ text else text

def byte? : WireValue → Option UInt8
  | .integer .byte number => some (UInt8.ofNat number.val.toNat)
  | _ => none

/-- The bytes of an array that ends with its only zero, without the zero. -/
def zeroTerminated? (items : List WireValue) : Option (List UInt8) := do
  let bytes ← items.mapM byte?
  if bytes.getLast? = some 0 ∧ bytes.dropLast.all (· != 0) then some bytes.dropLast else none

def bracketed (opening closing : String) (items : List String) : String :=
  opening ++ String.intercalate ", " items ++ closing

/-- The order of keys: numbers by value, texts by code points, false before true. -/
def compareKeys : WireValue → WireValue → Ordering
  | .integer _ first, .integer _ second => compare first.val second.val
  | .boolean first, .boolean second => compare first second
  | .double first, .double second => compare first.rank second.rank
  | .string first, .string second => compare first second
  | .objectPath first, .objectPath second => compare first second
  | .signature first, .signature second => compare first second
  | _, _ => .eq

/-- An entry of a dictionary and its texts with and without types. -/
structure RenderedEntry where
  key : WireValue
  annotatedText : String
  plainText : String

namespace RenderedEntry

/-- Put an entry in its place by its key.  An entry with an equal key is replaced. -/
def insert (entry : RenderedEntry) : List RenderedEntry → List RenderedEntry
  | [] => [entry]
  | first :: rest =>
    match compareKeys entry.key first.key with
    | .lt => entry :: first :: rest
    | .eq => entry :: rest
    | .gt => first :: insert entry rest

/-- The texts of entries in the order of their keys. -/
def texts (annotated : Bool) (entries : List RenderedEntry) : List String :=
  match entries.foldl (fun sorted entry => entry.insert sorted) [] with
  | [] => []
  | first :: rest =>
    (if annotated then first.annotatedText else first.plainText) :: rest.map plainText

end RenderedEntry

mutual

/-- The text of a value; `annotated` tells whether its type is to be seen. -/
def render (annotated : Bool) : WireValue → String
  | .integer type number => annotate annotated type.word (type.digits number)
  | .boolean flag => if flag then "true" else "false"
  | .double number => number.wireText
  | .string text => Text.quoted text
  | .objectPath text => annotate annotated "objectpath " (Text.quoted text)
  | .signature text => annotate annotated "signature " (Text.quoted text)
  | .variant value => "<" ++ render true value ++ ">"
  | .array element [] => annotate annotated ("@a" ++ element.text ++ " ") "[]"
  | .array _ (first :: rest) =>
    match zeroTerminated? (first :: rest) with
    | some bytes => "b" ++ Text.quoted (RawText.lossy ⟨bytes⟩)
    | none => bracketed "[" "]" (render annotated first :: renderAll false rest)
  | .dictionary key value [] =>
    annotate annotated ("@a" ++ (Signature.entry key value).text ++ " ") "\x7b\x7d"
  | .dictionary _ _ (first :: rest) =>
    bracketed "\x7b" "\x7d"
      (RenderedEntry.texts annotated (renderEntries annotated (first :: rest)))
  | .tuple [field] => bracketed "(" ",)" [render annotated field]
  | .tuple fields => bracketed "(" ")" (renderAll annotated fields)

/-- The texts of several values. -/
def renderAll (annotated : Bool) : List WireValue → List String
  | [] => []
  | first :: rest => render annotated first :: renderAll annotated rest

/-- The texts of the entries of a dictionary.  The texts with types are needed only
where the types of the dictionary are to be seen. -/
def renderEntries (annotated : Bool) : List (WireValue × WireValue) → List RenderedEntry
  | [] => []
  | (key, value) :: rest =>
    let plainText := render false key ++ ": " ++ render false value
    let annotatedText :=
      if annotated then render true key ++ ": " ++ render true value else plainText
    ⟨key, annotatedText, plainText⟩ :: renderEntries annotated rest

end

def text (value : WireValue) : String :=
  value.render true

end WireValue

end BusBridge
