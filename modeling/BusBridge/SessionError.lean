import BusBridge.Value.Coercion
import BusBridge.Waiting.Limit

/-!
# Failures of a session

Everything that can go wrong between opening a connection and reporting a result.
Each failure ends the operation that met it.
-/

namespace BusBridge

inductive SessionError
  /-- The bus, or the description of the remote object, could not be had. -/
  | connection (reason : String)
  | interfaceNotFound (interface : String)
  /-- No method has this name and takes this many arguments. -/
  | methodNotFound (method : String) (arity : Nat)
  | signalNotFound (signal : String)
  /-- No candidate took the arguments; the failures of all of them in order. -/
  | invalidArguments (method : String) (failures : List CoercionError)
  /-- Every failure was a parameter type that cannot be converted to. -/
  | unsupportedType (method tag : String)
  | remoteCallFailed (method reason : String)
  /-- The subscription was refused, failed, or ended. -/
  | subscription (reason : String)
  | timeout (limit : WaitLimit)
deriving DecidableEq, Repr

namespace SessionError

def message : SessionError → String
  | connection reason => s!"failed to reach the bus: {reason}"
  | interfaceNotFound interface => s!"{interface} not in list of available interfaces"
  | methodNotFound method arity => s!"method '{method}' taking {arity} argument(s) not found"
  | signalNotFound signal => s!"signal '{signal}' not found"
  | invalidArguments method failures =>
    let listed := String.intercalate "; " (failures.map CoercionError.message)
    s!"invalid arguments for '{method}': {listed}"
  | unsupportedType method tag =>
    s!"method '{method}' declares unsupported parameter type '{tag}'"
  | remoteCallFailed method reason => s!"error calling {method}: {reason}"
  | subscription reason => s!"signal subscription failed: {reason}"
  | timeout limit => "timeout after " ++ limit.display

end SessionError

end BusBridge
