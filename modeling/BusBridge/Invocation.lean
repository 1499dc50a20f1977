import BusBridge.Interface
import BusBridge.Log
import BusBridge.SessionError

/-!
# Choosing the method to call

The candidates are the methods with the requested name that take as many arguments
as there are tokens, in the order of their declaration.  The first candidate that
takes every token is called.  If none does, the failures of all of them are
reported together.
-/

namespace BusBridge

/-- A method to call, with arguments of the types that it declares. -/
structure PreparedCall where
  method : Method
  arguments : List Value
deriving DecidableEq, Repr

namespace Invocation

def accepted? : Except CoercionError Value → Option Value
  | .ok value => some value
  | .error _ => none

def rejected? : Except CoercionError Value → Option CoercionError
  | .ok _ => none
  | .error failure => some failure

/-- Convert every token to the type of the parameter at its place. -/
def convert (parameters : List Parameter) (tokens : List String) :
    List (Except CoercionError Value) :=
  List.zipWith (fun parameter token => Value.coerce parameter.type token) parameters tokens

/-- The arguments of a method, or all the failures to convert a token. -/
def coerceArguments (method : Method) (tokens : List String) :
    Except (List CoercionError) (List Value) :=
  let conversions := convert method.inputs tokens
  let failures := conversions.filterMap rejected?
  if failures.isEmpty then .ok (conversions.filterMap accepted?) else .error failures

/-- The methods with this name that take this many arguments. -/
def candidates (interface : Interface) (name : String) (arity : Nat) : List Method :=
  (interface.methodsNamed name).filter fun method => method.arity = arity

/-- The first candidate that takes the tokens, or the failures of all candidates. -/
def firstAccepting (tokens : List String) :
    List Method → Except (List CoercionError) PreparedCall
  | [] => .error []
  | method :: others =>
    match coerceArguments method tokens with
    | .ok arguments => .ok ⟨method, arguments⟩
    | .error failures =>
      match firstAccepting tokens others with
      | .ok prepared => .ok prepared
      | .error further => .error (failures ++ further)

/-- The signature of a parameter that cannot be converted to. -/
def unsupportedTag? : CoercionError → Option String
  | .unsupportedType tag => some tag
  | .invalidArgument _ _ _ => none

/-- What it means that the candidates failed in these ways. -/
def rejection (name : String) (arity : Nat) (failures : List CoercionError) : SessionError :=
  if failures.isEmpty then .methodNotFound name arity
  else
    match failures.findSome? unsupportedTag? with
    | some tag =>
      if failures.all CoercionError.isUnsupported then .unsupportedType name tag
      else .invalidArguments name failures
    | none => .invalidArguments name failures

/-- Choose the method with this name that takes these tokens. -/
def prepare (interface : Interface) (name : String) (tokens : List String) :
    Except SessionError PreparedCall :=
  match firstAccepting tokens (candidates interface name tokens.length) with
  | .ok prepared => .ok prepared
  | .error failures => .error (rejection name tokens.length failures)

def logTarget : String :=
  "ndb_engine::invoker"

/-- The reports about trying candidates, `isFirst` telling whether none was tried
before. -/
def attemptEvents (name : String) (tokens : List String) (isFirst : Bool) :
    List Method → List Log.Event
  | [] => []
  | method :: others =>
    let trying : List Log.Event :=
      if isFirst then []
      else [⟨.debug, logTarget, "trying overload sharing name and arity",
        [("method", .quoted name), ("arity", .number tokens.length)]⟩]
    match coerceArguments method tokens with
    | .ok _ => trying
    | .error failures =>
      trying ++ [⟨.debug, logTarget, "rejecting candidate",
        [("method", .quoted name), ("rejected", .number failures.length)]⟩] ++
        attemptEvents name tokens false others

def prepareEvents (interface : Interface) (name : String) (tokens : List String) :
    List Log.Event :=
  attemptEvents name tokens true (candidates interface name tokens.length)

end Invocation

end BusBridge
