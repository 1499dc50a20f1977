import BusBridge.Daemon
import BusBridge.Proofs.Overloads
import BusBridge.Proofs.Session

/-!
# The body of a call

The arguments that were prepared for a method are sent as fields of the types that the
method declares, and a reader of these fields finds the arguments again.
-/

namespace BusBridge

/-- The remote object gives back what a call brings. -/
structure Daemon.Echoes (daemon : Daemon) (call : MethodCall) : Prop where
  succeeds : daemon.errors.lookup call.method = none
  body_eq : daemon.replies.lookup call.method = some (.ofValues call.arguments)

/-- A daemon behind which an object answers to one method with this body. -/
def Daemon.answering (method : String) (body : MessageBody) : Daemon where
  kind := .session
  description := .ok ""
  replies := [(method, body)]
  errors := []
  early := []
  late := []
  subscriptionError? := none
  greeting := []

theorem Daemon.echoes_answering (call : MethodCall) :
    (answering call.method (.ofValues call.arguments)).Echoes call :=
  ⟨rfl, List.lookup_cons_self⟩

/-- Every value is of a scalar type. -/
def Value.AllScalar (values : List Value) : Prop :=
  ∀ value ∈ values, ∃ type, value.type? = some type

namespace MessageBody

variable {values : List Value}

theorem toValue_fields_ofValues (scalar : Value.AllScalar values) :
    (ofValues values).fields.map WireValue.toValue = values := by
  rw [ofValues, List.map_map]
  refine (List.map_congr_left fun value member => ?_).trans (List.map_id values)
  obtain ⟨type, typed⟩ := scalar value member
  exact Value.toValue_toWire typed

theorem values_ofValues (scalar : Value.AllScalar values) : (ofValues values).values = values := by
  rw [MessageBody.values, contents_ofValues]
  exact toValue_fields_ofValues scalar

end MessageBody

theorem Daemon.reply_of_echoes {daemon : Daemon} {call : MethodCall}
    (echoes : daemon.Echoes call) (scalar : Value.AllScalar call.arguments) :
    daemon.reply call.method = .ok call.arguments := by
  rw [reply, echoes.succeeds, echoes.body_eq, Option.map_some, Option.getD_some,
    MessageBody.values_ofValues scalar]

namespace Session

/-- The reply of the remote object ends a call. -/
theorem invoke_of_daemon {session : Session DaemonBus} {name : String} {tokens : List String}
    {prepared : PreparedCall} {connection : Connection DaemonBus}
    (bus : session.bus = DaemonBus.bus) (chosen : session.prepare name tokens = .ok prepared) :
    (session.invoke name tokens connection).1 =
      .ofExcept (replied prepared.method.name
        (connection.bus.daemon.reply prepared.method.name)) := by
  rw [invoke, chosen]
  simp only [answer, bus]
  rfl

end Session

namespace Invocation

/-- A value that a token was converted to has the type of the parameter on the bus. -/
theorem type_of_coerce {tag token : String} {value : Value}
    (converted : Value.coerce tag token = .ok value) :
    value.toWire.type.text = tag ∧ ∃ type, value.type? = some type := by
  obtain ⟨type, rfl, denoted⟩ := Value.coerce_eq_ok_iff.mp converted
  have typed := Value.type?_of_read denoted
  refine ⟨?_, type, typed⟩
  rw [Value.type_toWire typed, Signature.text_scalar]

/-- The arguments have the types of the parameters, place by place. -/
theorem types_of_convert {parameters : List Parameter} {tokens : List String}
    {arguments : List Value} (arity : parameters.length = tokens.length)
    (converted : convert parameters tokens = arguments.map .ok) :
    arguments.map (fun value => value.toWire.type.text) = parameters.map Parameter.type ∧
      Value.AllScalar arguments := by
  induction parameters generalizing tokens arguments with
  | nil =>
      obtain rfl := List.map_eq_nil_iff.mp converted.symm
      exact ⟨rfl, List.forall_mem_nil _⟩
  | cons parameter rest ih =>
      obtain _ | ⟨token, tokens⟩ := tokens
      · cases arity
      obtain ⟨value, arguments, rfl, first, others⟩ := List.map_eq_cons_iff.mp converted.symm
      obtain ⟨types, scalar⟩ := ih (Nat.succ.inj arity) others.symm
      obtain ⟨type, isScalar⟩ := type_of_coerce first.symm
      refine ⟨?_, List.forall_mem_cons.mpr ⟨isScalar, scalar⟩⟩
      rw [List.map_cons, List.map_cons, types, type]

section Bodies

variable {interface : Interface} {name : String} {tokens : List String} {prepared : PreparedCall}

theorem types_of_prepare (chosen : prepare interface name tokens = .ok prepared) :
    (MessageBody.ofValues prepared.arguments).fields.map (fun field => field.type.text) =
        prepared.method.inputs.map Parameter.type ∧
      Value.AllScalar prepared.arguments := by
  obtain ⟨accepted, takes, -⟩ := prepare_eq_ok_iff.mp chosen
  rw [MessageBody.ofValues, List.map_map]
  exact types_of_convert takes.arity_eq (coerceArguments_eq_ok_iff.mp accepted)

theorem isEmpty_fields_of_prepare (chosen : prepare interface name tokens = .ok prepared) :
    (MessageBody.ofValues prepared.arguments).fields.isEmpty = tokens.isEmpty := by
  obtain ⟨accepted, takes, -⟩ := prepare_eq_ok_iff.mp chosen
  rw [coerceArguments_eq_ok_iff, convert_eq_map_ok_iff takes.arity_eq] at accepted
  rw [MessageBody.ofValues, List.isEmpty_map, Bool.eq_iff_iff, List.isEmpty_iff_length_eq_zero,
    List.isEmpty_iff_length_eq_zero, accepted.1]

/-- What is sent with a call has the declared types and survives the way there and back.
The fields of the body are of the types of the input parameters in their order, so that the
signature of the body is theirs one after another; there is no body if there are no tokens.
Every field reads back as the very argument, and a remote object that gives back what it
got makes the call end with the arguments. -/
theorem call_body_is_declared_and_echoed
    (chosen : prepare interface name tokens = .ok prepared) :
    let body := MessageBody.ofValues prepared.arguments
    let declared := prepared.method.inputs.map Parameter.type
    body.fields.map (fun field => field.type.text) = declared ∧
      body.signature = String.join declared ∧
      (WireValue.tuple body.fields).type.text = "(" ++ body.signature ++ ")" ∧
      body.signature? = (if tokens.isEmpty then none else some (String.join declared)) ∧
      body.fields.map WireValue.toValue = prepared.arguments ∧
      body.values = prepared.arguments ∧
      ∀ (session : Session DaemonBus) (connection : Connection DaemonBus),
        session.bus = DaemonBus.bus → session.interface = interface →
          connection.bus.daemon.Echoes (Session.methodCall prepared) →
            (session.invoke name tokens connection).1 = .done prepared.arguments := by
  intro body declared
  obtain ⟨types, scalar⟩ := types_of_prepare chosen
  have signature : body.signature = String.join declared := by
    rw [MessageBody.signature_eq_join, types]
  refine ⟨types, signature, ?_, ?_, MessageBody.toValue_fields_ofValues scalar,
    MessageBody.values_ofValues scalar, ?_⟩
  · rw [WireValue.type, Signature.text_tuple]
    rfl
  · rw [MessageBody.signature?, isEmpty_fields_of_prepare chosen, signature]
  · rintro session connection bus rfl echoes
    rw [Session.invoke_of_daemon bus chosen]
    have reply := Daemon.reply_of_echoes echoes scalar
    rw [Session.methodCall] at reply
    rw [reply]
    rfl

end Bodies

/-- A method that takes one argument of every scalar type. -/
def store : Method :=
  ⟨"store", ScalarType.all.map fun type => ⟨none, .input, String.singleton type.tag⟩⟩

theorem every_scalar_is_echoed :
    ∃ arguments : List Value,
      prepare ⟨"shelf", [store], []⟩ "store"
          ["255", "t", "-1", "2", "+3", "4", "-5", "6", "nan", "--"] = .ok ⟨store, arguments⟩ ∧
        (MessageBody.ofValues arguments).signature = "ybnqiuxtds" ∧
        ∀ (target : Target) (scheduler : Scheduler),
          (Session.invoke ⟨DaemonBus.bus, target, ⟨"shelf", [store], []⟩, scheduler⟩ "store"
              ["255", "t", "-1", "2", "+3", "4", "-5", "6", "nan", "--"]
              (.start (.ofDaemon (.answering "store" (.ofValues arguments))))).1 =
            .done arguments := by
  obtain ⟨arguments, chosen⟩ : ∃ arguments, prepare ⟨"shelf", [store], []⟩ "store"
      ["255", "t", "-1", "2", "+3", "4", "-5", "6", "nan", "--"] = .ok ⟨store, arguments⟩ :=
    ⟨_, by rfl⟩
  obtain ⟨-, signature, -, -, -, -, echoed⟩ := call_body_is_declared_and_echoed chosen
  have echoes := Daemon.echoes_answering (Session.methodCall ⟨store, arguments⟩)
  exact ⟨arguments, chosen, signature, fun _ _ => echoed _ _ rfl rfl echoes⟩

end Invocation

end BusBridge
