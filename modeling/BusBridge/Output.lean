import BusBridge.CommandLine.Request
import BusBridge.Value.Json
import BusBridge.Interface

/-!
# Results on the output

A result is written in pieces.  In the human form it is one piece; in the JSON form
it is the document and the end of the line.  The output may be full: then it keeps
what fits, and the kind of the failure tells which piece did not.
-/

namespace BusBridge

/-- Why a result could not be written completely. -/
inductive OutputError
  | serialise
  /-- The text, or the end of the line, did not fit. -/
  | write
deriving DecidableEq, Repr

namespace OutputError

/-- What an error shows, with what a full output says. -/
def message : OutputError → String
  | serialise => "failed to serialise output: sink full"
  | write => "failed to write output: sink full"

end OutputError

/-- A piece of a result, and what it means if it does not fit. -/
structure OutputPiece where
  text : String
  failure : OutputError
deriving DecidableEq, Repr

/-- The output: the bytes that were accepted, and how many more are, if there is a
limit. -/
structure Sink where
  accepted : List UInt8
  room? : Option Nat
deriving DecidableEq, Repr

namespace Sink

def empty (room? : Option Nat) : Sink :=
  ⟨[], room?⟩

/-- Write bytes.  What does not fit is lost. -/
def put (sink : Sink) (bytes : List UInt8) : Bool × Sink :=
  match sink.room? with
  | none => (true, { sink with accepted := sink.accepted ++ bytes })
  | some room =>
    (bytes.length ≤ room,
      ⟨sink.accepted ++ bytes.take room, some (room - bytes.length)⟩)

/-- Write pieces up to the first that does not fit. -/
def write (sink : Sink) : List OutputPiece → Except OutputError Unit × Sink
  | [] => (.ok (), sink)
  | piece :: pieces =>
    match sink.put (RawText.ofString piece.text).bytes with
    | (true, next) => next.write pieces
    | (false, next) => (.error piece.failure, next)

def text (sink : Sink) : String :=
  RawText.lossy ⟨sink.accepted⟩

end Sink

namespace Output

def line (text : String) : List OutputPiece :=
  [⟨text ++ "\n", .write⟩]

def document (json : Json) : List OutputPiece :=
  [⟨json.compact, .serialise⟩, ⟨"\n", .write⟩]

/-- Values with blanks between them. -/
def joined (values : List Value) : String :=
  String.intercalate " " (values.map Value.display)

/-- The reply to a call.  An empty reply leaves no trace in the human form. -/
def reply (format : OutputFormat) (values : List Value) : List OutputPiece :=
  match format with
  | .human => if values.isEmpty then [] else line (joined values)
  | .json => document (.array (values.map Value.toJson))

/-- The signal that ended a wait, and its values. -/
def arrival (format : OutputFormat) (arrival : Arrival) : List OutputPiece :=
  match format with
  | .human =>
    if arrival.values.isEmpty then line arrival.signal
    else line (arrival.signal ++ " " ++ joined arrival.values)
  | .json => document arrival.toJson

def parameter (parameter : Parameter) : String :=
  match parameter.name with
  | some name => "<" ++ parameter.type ++ "> " ++ name
  | none => "<" ++ parameter.type ++ ">"

def member (name : String) (parameters : List Parameter) : String :=
  let listed := String.intercalate ", " (parameters.map parameter)
  "    " ++ name ++ (if parameters.isEmpty then "" else " " ++ listed) ++ "\n"

/-- The methods with their inputs and the signals of an interface. -/
def listing (interface : Interface) : String :=
  "The following methods and their arguments can be called:\n" ++
    String.join (interface.methods.map fun method => member method.name method.inputs) ++
    "\nThe following signals and their 'return' value can be waited for:\n" ++
    String.join (interface.signals.map fun signal => member signal.name signal.parameters)

def api (format : OutputFormat) (interface : Interface) : List OutputPiece :=
  match format with
  | .human => [⟨listing interface, .write⟩]
  | .json => document interface.toJson

end Output

end BusBridge
