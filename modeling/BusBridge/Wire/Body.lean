import BusBridge.Notification
import BusBridge.Wire.Rendering

/-!
# Message bodies

The arguments of a call become the fields of a message body, and the fields of a
reply or of a signal become values.  A value that brings its own type stands for
what is inside it; a value that is no scalar is kept as text.
-/

namespace BusBridge

namespace Value

/-- The value as the bus carries it.  The text of a value that is no scalar is sent
as a string. -/
def toWire : Value → WireValue
  | integer type number => .integer type number
  | boolean flag => .boolean flag
  | double number => .double number
  | string text => .string text
  | other text => .string text

end Value

namespace WireValue

/-- What a value of the bus means to the program. -/
def toValue : WireValue → Value
  | .integer type number => .integer type number
  | .boolean flag => .boolean flag
  | .double number => .double number
  | .string text => .string text
  | .objectPath text => .string text
  | .variant value => value.toValue
  | .signature text => .other (WireValue.signature text).text
  | .array element items => .other (WireValue.array element items).text
  | .dictionary key value entries => .other (WireValue.dictionary key value entries).text
  | .tuple fields => .other (WireValue.tuple fields).text

end WireValue

section Scalars

variable {value : Value} {type : ScalarType}

theorem Value.type_toWire (typed : value.type? = some type) : value.toWire.type = .scalar type := by
  cases value with
  | other text => cases typed
  | _ => obtain rfl := Option.some.inj typed; rfl

theorem Value.toValue_toWire (typed : value.type? = some type) : value.toWire.toValue = value := by
  cases value with
  | other text => cases typed
  | _ => rfl

end Scalars

theorem Value.toWire_ne_tuple (value : Value) (fields : List WireValue) :
    value.toWire ≠ .tuple fields := by
  cases value <;> nofun

structure MessageBody where
  fields : List WireValue

namespace MessageBody

/-- The body of a call with these arguments. -/
def ofValues (values : List Value) : MessageBody :=
  ⟨values.map Value.toWire⟩

/-- The signature of a body: those of its fields one after another. -/
def signature (body : MessageBody) : String :=
  String.ofList (Signature.writeAll (WireValue.types body.fields))

def signature? (body : MessageBody) : Option String :=
  if body.fields.isEmpty then none else some body.signature

/-- The fields that a reader finds.  A body that is a single structure cannot be
told from the fields of that structure. -/
def contents (body : MessageBody) : List WireValue :=
  match body.fields with
  | [.tuple fields] => fields
  | fields => fields

def values (body : MessageBody) : List Value :=
  body.contents.map WireValue.toValue

theorem signature_eq_join (body : MessageBody) :
    body.signature = String.join (body.fields.map fun field => field.type.text) := by
  rw [signature, Signature.ofList_writeAll, WireValue.types_eq_map, List.map_map]
  rfl

/-- The arguments of a call are found in its body as they were put there: none of them is a
structure. -/
theorem contents_ofValues (values : List Value) :
    (ofValues values).contents = values.map Value.toWire := by
  rw [contents]
  split
  · next fields single =>
      obtain ⟨value, -, same⟩ : ∃ value ∈ values, value.toWire = .tuple fields := by
        rw [← List.mem_map, show values.map Value.toWire = [.tuple fields] from single]
        exact List.mem_cons_self
      exact absurd same (value.toWire_ne_tuple fields)
  · rfl

end MessageBody

end BusBridge
