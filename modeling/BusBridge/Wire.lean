import BusBridge.Value
import BusBridge.Wire.Signature

/-!
# Values on the wire

The values that a message bus carries: scalars, names, values that bring their own
type, arrays, dictionaries and structures.  Empty arrays and dictionaries keep the
type of what they could hold.
-/

namespace BusBridge

/-- A value as the bus carries it. -/
inductive WireValue
  | integer (type : IntegerType) (number : type.Number)
  | boolean (flag : Bool)
  | double (number : Double)
  | string (text : String)
  | objectPath (text : String)
  | signature (text : String)
  /-- A value that brings its own type. -/
  | variant (value : WireValue)
  | array (element : Signature) (items : List WireValue)
  | dictionary (key value : Signature) (entries : List (WireValue × WireValue))
  | tuple (fields : List WireValue)

namespace WireValue

instance : Inhabited WireValue :=
  ⟨.boolean false⟩

mutual

def type : WireValue → Signature
  | integer type _ => .scalar (.integer type)
  | boolean _ => .scalar .boolean
  | double _ => .scalar .double
  | string _ => .scalar .string
  | objectPath _ => .objectPath
  | signature _ => .signature
  | variant _ => .variant
  | array element _ => .array element
  | dictionary key value _ => .array (.entry key value)
  | tuple fields => .tuple (types fields)

def types : List WireValue → List Signature
  | [] => []
  | first :: rest => type first :: types rest

end

theorem types_eq_map (values : List WireValue) : types values = values.map type := by
  induction values with
  | nil => rfl
  | cons first rest ih => rw [types, List.map_cons, ih]

end WireValue

end BusBridge
