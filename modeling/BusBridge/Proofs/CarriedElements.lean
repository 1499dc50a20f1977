import BusBridge.Proofs.CallBodies
import BusBridge.Wire.Layers

/-!
# What becomes of the elements of a message

Every element of a reply or of a signal becomes one value.  What counts is its core: a scalar stays
a scalar of its type, the path of an object becomes its text as a string, and everything else is
carried as the text of its core.  Nothing is ever refused.
-/

namespace BusBridge

namespace WireValue

section Bare

variable {value : WireValue} (bare : ∀ inner, value ≠ .variant inner)

/-- A scalar of the bus is the value that is sent as this very scalar. -/
theorem toWire_toValue_of_scalar {type : ScalarType} (scalar : value.type = .scalar type) :
    value.toValue.type? = some type ∧ value.toValue.toWire = value := by
  cases value with
  | integer kind number => exact ⟨congrArg some (Signature.scalar.inj scalar), rfl⟩
  | boolean flag => exact ⟨congrArg some (Signature.scalar.inj scalar), rfl⟩
  | double number => exact ⟨congrArg some (Signature.scalar.inj scalar), rfl⟩
  | string text => exact ⟨congrArg some (Signature.scalar.inj scalar), rfl⟩
  | objectPath text => cases scalar
  | signature text => cases scalar
  | variant inner => cases scalar
  | array element items => cases scalar
  | dictionary key value entries => cases scalar
  | tuple fields => cases scalar

theorem exists_objectPath (path : value.type = .objectPath) : ∃ text, value = .objectPath text := by
  cases value with
  | objectPath text => exact ⟨text, rfl⟩
  | _ => cases path

include bare

theorem toValue_of_other (noScalar : ∀ type, value.type ≠ .scalar type)
    (noPath : value.type ≠ .objectPath) : value.toValue = .other value.text := by
  cases value with
  | integer kind number => exact absurd rfl (noScalar (.integer kind))
  | boolean flag => exact absurd rfl (noScalar .boolean)
  | double number => exact absurd rfl (noScalar .double)
  | string text => exact absurd rfl (noScalar .string)
  | objectPath text => exact absurd rfl noPath
  | signature text => rfl
  | variant inner => exact absurd rfl (bare inner)
  | array element items => rfl
  | dictionary key value entries => rfl
  | tuple fields => rfl

end Bare

section Core

variable {value : WireValue}

theorem toValue_of_core_scalar {type : ScalarType} (scalar : value.core.type = .scalar type) :
    value.toValue.type? = some type ∧ value.toValue.toWire = value.core := by
  rw [← toValue_core]
  exact toWire_toValue_of_scalar scalar

theorem toValue_of_core_objectPath {text : String} (path : value.core = .objectPath text) :
    value.toValue = .string text := by
  rw [← toValue_core, path, toValue]

theorem toValue_of_core_other (noScalar : ∀ type, value.core.type ≠ .scalar type)
    (noPath : value.core.type ≠ .objectPath) : value.toValue = .other value.core.text := by
  rw [← toValue_core]
  exact toValue_of_other value.core_ne_variant noScalar noPath

/-- A scalar is read as the same scalar, and everything else as its text. -/
structure IsCarried (value : WireValue) : Prop where
  scalar : ∀ type, value.core.type = .scalar type →
    value.toValue.type? = some type ∧ value.toValue.toWire = value.core
  other : (∀ type, value.core.type ≠ .scalar type) → value.toValue = .other value.core.text

/-- The path of an object is taken for a scalar, and nothing else that is none. -/
theorem isCarried_iff : value.IsCarried ↔ value.core.type ≠ .objectPath := by
  constructor
  · intro carried path
    obtain ⟨text, same⟩ := exists_objectPath path
    have asText := carried.other fun type scalar => by rw [path] at scalar; cases scalar
    rw [toValue_of_core_objectPath same] at asText
    cases asText
  · intro noPath
    exact ⟨fun _ => toValue_of_core_scalar, fun noScalar => toValue_of_core_other noScalar noPath⟩

/-- What is read from an element is a scalar if its core is one, and if its core is the path of an
object. -/
theorem isScalar_toValue_iff :
    (∃ type, value.toValue.type? = some type) ↔
      (∃ type, value.core.type = .scalar type) ∨ value.core.type = .objectPath := by
  constructor
  · rintro ⟨type, typed⟩
    by_contra neither
    obtain ⟨noScalar, noPath⟩ := not_or.mp neither
    rw [toValue_of_core_other (not_exists.mp noScalar) noPath] at typed
    cases typed
  · rintro (⟨type, scalar⟩ | path)
    · exact ⟨type, (toValue_of_core_scalar scalar).1⟩
    · obtain ⟨text, same⟩ := exists_objectPath path
      exact ⟨.string, by rw [toValue_of_core_objectPath same]; rfl⟩

end Core

end WireValue

namespace MessageBody

/-- The body is a single structure, with no variant around it. -/
def IsStructure (body : MessageBody) : Prop :=
  ∃ fields, body.fields = [.tuple fields]

variable {body : MessageBody}

theorem contents_of_not_isStructure (several : ¬body.IsStructure) :
    body.contents = body.fields := by
  rw [contents]
  split
  · next fields same => exact absurd ⟨fields, same⟩ several
  · rfl

theorem contents_of_fields {fields : List WireValue} (same : body.fields = [.tuple fields]) :
    body.contents = fields := by
  rw [contents, same]

end MessageBody

theorem Daemon.reply_of_body {daemon : Daemon} {method : String} {body : MessageBody}
    (succeeds : daemon.errors.lookup method = none)
    (replies : daemon.replies.lookup method = some body) :
    daemon.reply method = .ok body.values := by
  rw [reply, succeeds, replies]
  rfl

/-- Every element of a body becomes a value, whatever is in it: a scalar inside any number of
variants stays what it is, and anything else is carried as its text, with the variants taken off.
The path of an object is the one exception: it becomes a string of its text.  So a call that is
answered with a body ends with as many values as the body has elements, in their order. -/
theorem elements_are_carried (value : WireValue) (body : MessageBody) :
    ((∃ layers, value = WireValue.variant^[layers] value.core) ∧
        (∀ inner, value.core ≠ .variant inner) ∧
        (value.IsCarried ↔ value.core.type ≠ .objectPath) ∧
        (∀ text, value.core = .objectPath text → value.toValue = .string text) ∧
        ((∃ type, value.toValue.type? = some type) ↔
          (∃ type, value.core.type = .scalar type) ∨ value.core.type = .objectPath)) ∧
      body.values.length = body.contents.length ∧
      (∀ index : Nat, body.values[index]? = body.contents[index]?.map WireValue.toValue) ∧
      (¬body.IsStructure → body.contents = body.fields) ∧
      (∀ fields, body.fields = [.tuple fields] → body.contents = fields) ∧
      ∀ (session : Session DaemonBus) (connection : Connection DaemonBus) name tokens prepared,
        session.bus = DaemonBus.bus → session.prepare name tokens = .ok prepared →
          connection.bus.daemon.errors.lookup prepared.method.name = none →
            connection.bus.daemon.replies.lookup prepared.method.name = some body →
              (session.invoke name tokens connection).1 = .done body.values := by
  constructor
  · exact ⟨value.exists_layers, value.core_ne_variant, WireValue.isCarried_iff,
      fun _ => WireValue.toValue_of_core_objectPath, WireValue.isScalar_toValue_iff⟩
  · refine ⟨List.length_map _, fun index => List.getElem?_map, ?_, ?_, ?_⟩
    · exact MessageBody.contents_of_not_isStructure
    · exact fun fields => MessageBody.contents_of_fields
    · intro session connection name tokens prepared bus chosen succeeds replies
      rw [Session.invoke_of_daemon bus chosen, Daemon.reply_of_body succeeds replies]
      rfl

/-- A method that takes no arguments. -/
def look : Method :=
  ⟨"look", []⟩

/-- A call of it over a connection to a daemon that answers with this body. -/
def looked (target : Target) (scheduler : Scheduler) (body : MessageBody) : Outcome (List Value) :=
  (Session.invoke ⟨DaemonBus.bus, target, ⟨"shelf", [look], []⟩, scheduler⟩ "look" []
    (.start (.ofDaemon (.answering "look" body)))).1

/-- A path inside two variants comes out as a string, a signature beside it as its text. -/
theorem path_and_signature_are_carried :
    let path : WireValue := .variant (.variant (.objectPath "/shelf"))
    let body : MessageBody := ⟨[path, .signature "as", .variant (.tuple [.boolean true])]⟩
    path.core = .objectPath "/shelf" ∧ path.toValue = .string "/shelf" ∧
      (WireValue.variant (.signature "as")).toValue = .other "signature \"as\"" ∧
      ∀ target scheduler, looked target scheduler body =
        .done [.string "/shelf", .other "signature \"as\"", .other "(true,)"] := by
  intro path body
  obtain ⟨⟨-, -, -, asString, -⟩, -, -, -, -, answered⟩ := elements_are_carried path body
  obtain ⟨⟨-, -, carried, -⟩, -⟩ := elements_are_carried (.variant (.signature "as")) body
  have signature : (WireValue.variant (.signature "as")).core.text = "signature \"as\"" := by
    decide +kernel
  have values : body.values =
      [.string "/shelf", .other "signature \"as\"", .other "(true,)"] := by
    decide +kernel
  refine ⟨by rfl, asString "/shelf" (by rfl), ?_, fun target scheduler => ?_⟩
  · rw [(carried.mpr nofun).other fun type => nofun, signature]
  · exact (answered _ _ "look" [] ⟨look, []⟩ rfl (by rfl) rfl rfl).trans (congrArg _ values)

end BusBridge
