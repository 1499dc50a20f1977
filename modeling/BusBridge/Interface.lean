import BusBridge.Json

/-!
# Interfaces

What a remote object publishes: methods and signals with typed parameters, in the
order of their declaration.  Several methods may have one name.
-/

namespace BusBridge

/-- Which way a parameter travels, seen from the remote object. -/
inductive Direction
  | input
  | output
deriving DecidableEq, Repr, Inhabited

namespace Direction

def word : Direction → String
  | input => "in"
  | output => "out"

end Direction

/-- A parameter of a method or of a signal.  The type is a signature. -/
structure Parameter where
  name : Option String
  direction : Direction
  type : String
deriving DecidableEq, Repr, Inhabited

/-- A method with its parameters of both directions. -/
structure Method where
  name : String
  parameters : List Parameter
deriving DecidableEq, Repr, Inhabited

/-- A signal with the parameters that it carries. -/
structure Signal where
  name : String
  parameters : List Parameter
deriving DecidableEq, Repr, Inhabited

/-- The methods and signals that are published under one interface name. -/
structure Interface where
  name : String
  methods : List Method
  signals : List Signal
deriving DecidableEq, Repr, Inhabited

namespace Method

/-- The parameters that a caller has to give. -/
def inputs (method : Method) : List Parameter :=
  method.parameters.filter fun parameter => parameter.direction = .input

/-- How many arguments a caller has to give. -/
def arity (method : Method) : Nat :=
  method.inputs.length

end Method

namespace Interface

def methodsNamed (interface : Interface) (name : String) : List Method :=
  interface.methods.filter fun method => method.name = name

def hasSignal (interface : Interface) (name : String) : Bool :=
  interface.signals.any fun signal => signal.name = name

/-- The first interface with exactly this name. -/
def find? (interfaces : List Interface) (name : String) : Option Interface :=
  interfaces.find? fun interface => interface.name = name

end Interface

namespace Parameter

/-- A parameter as a JSON object; a parameter without a name has no such member. -/
def toJson (parameter : Parameter) : Json :=
  let name := match parameter.name with
    | some name => [("name", Json.string name)]
    | none => []
  .object (name ++ [("direction", .string parameter.direction.word),
    ("type", .string parameter.type)])

end Parameter

namespace Method

def toJson (method : Method) : Json :=
  .object [("name", .string method.name),
    ("parameters", .array (method.parameters.map Parameter.toJson))]

end Method

namespace Signal

def toJson (signal : Signal) : Json :=
  .object [("name", .string signal.name),
    ("parameters", .array (signal.parameters.map Parameter.toJson))]

end Signal

namespace Interface

def toJson (interface : Interface) : Json :=
  .object [("name", .string interface.name),
    ("methods", .array (interface.methods.map Method.toJson)),
    ("signals", .array (interface.signals.map Signal.toJson))]

end Interface

end BusBridge
