import BusBridge.CommandLine.Help
import BusBridge.CommandLine.Level

/-!
# The command line of the program

The program has three commands.  How results are shown can be said before the
command and after it; what is said after it counts.
-/

namespace BusBridge

/-- How results are shown. -/
inductive OutputFormat
  /-- Values with blanks between them, one result per line. -/
  | human
  /-- One JSON document per result. -/
  | json
deriving DecidableEq, Repr, Inhabited

namespace OutputFormat

def word : OutputFormat → String
  | human => "human"
  | json => "json"

def ofWord? (word : String) : Option OutputFormat :=
  if word = "human" then some .human else if word = "json" then some .json else none

end OutputFormat

/-- A command as it was typed. -/
inductive TypedCommand
  | method (name : String) (arguments signals : List String) (seconds : Nat)
  | signal (names : List String) (seconds : Nat)
  | api
deriving DecidableEq, Repr

/-- A command line as it was typed. -/
structure TypedRequest where
  command : TypedCommand
  format : OutputFormat
deriving DecidableEq, Repr

namespace CommandLine

/-- A request for help or for the version, or an error. -/
inductive Stop
  | usage (error : UsageError)
  | help (topic : HelpTopic) (long : Bool)
  | version
deriving DecidableEq, Repr

def outputOption : OptionSpec :=
  ⟨.output, "output", none, "--output <OUTPUT>", .word ["human", "json"], false⟩

/-- The option that names a signal to wait for beside a call. -/
def signalOption : OptionSpec :=
  ⟨.signal, "signal", none, "--signal <SIGNAL>", .text, true⟩

/-- The option that limits the wait beside a call. -/
def signalTimeoutOption : OptionSpec :=
  ⟨.signalTimeout, "signal-timeout", none, "--signal-timeout <SECONDS>", .seconds, false⟩

/-- The option that limits a wait without a call. -/
def timeoutOption : OptionSpec :=
  ⟨.timeout, "timeout", none, "--timeout <SECONDS>", .seconds, false⟩

def programLevel : Level :=
  ⟨[outputOption], [], true⟩

def methodLevel : Level :=
  ⟨[outputOption, signalOption, signalTimeoutOption],
    [⟨"<METHOD>", true, false, false⟩, ⟨"[ARG]...", false, true, true⟩], false⟩

def signalLevel : Level :=
  ⟨[outputOption, timeoutOption], [⟨"<SIGNAL>...", true, true, false⟩], false⟩

def apiLevel : Level :=
  ⟨[outputOption], [], false⟩

inductive CommandName
  | method
  | signal
  | api
deriving DecidableEq, Repr

namespace CommandName

def word : CommandName → String
  | method => "method"
  | signal => "signal"
  | api => "api"

def all : List CommandName :=
  [method, signal, api]

def ofWord? (word : RawText) : Option CommandName :=
  all.find? fun name => word.decode? = some name.word

def level : CommandName → Level
  | method => methodLevel
  | signal => signalLevel
  | api => apiLevel

def topic : CommandName → HelpTopic
  | method => .method
  | signal => .signal
  | api => .api

end CommandName

/-- The number that the last value of an option gives, or zero. -/
def secondsOf (progress : Progress) (name : OptionName) : Nat :=
  match (progress.values name).getLast?.bind RawText.decode? with
  | some text =>
    match IntegerType.uint64.read text with
    | .ok number => number.val.toNat
    | .error _ => 0
  | none => 0

def textsOf (progress : Progress) (name : OptionName) : List String :=
  (progress.values name).filterMap RawText.decode?

/-- The plain words that are texts. -/
def wordsOf (progress : Progress) : List String :=
  progress.words.filterMap RawText.decode?

/-- The format that was chosen on a level. -/
def formatOf? (progress : Progress) : Option OutputFormat :=
  (textsOf progress .output).getLast?.bind OutputFormat.ofWord?

/-- The command that the words of its level make up. -/
def typedCommand (name : CommandName) (progress : Progress) : TypedCommand :=
  match name with
  | .method =>
    .method ((wordsOf progress).headD "") (wordsOf progress).tail (textsOf progress .signal)
      (secondsOf progress .signalTimeout)
  | .signal => .signal (wordsOf progress) (secondsOf progress .timeout)
  | .api => .api

/-- Say which part of the command line an interruption belongs to. -/
def stopAt (topic : HelpTopic) : Interruption → Stop
  | .usage error => .usage error
  | .help long => .help topic long
  | .version => .version

/-- What is read up to the command. -/
inductive Heading
  /-- The command with the words after it. -/
  | command (progress : Progress) (name : CommandName) (rest : List RawText)
  | noCommand (progress : Progress)

def notACommand (progress : Progress) (word : RawText) : UsageError :=
  if progress.terminated && (CommandName.ofWord? word).isSome then .unknownArgument word.lossy
  else .invalidCommand word.lossy

def readHeading (progress : Progress) : List RawText → Except Interruption Heading
  | [] => .ok (.noCommand progress)
  | word :: rest =>
    let isPlain := progress.terminated || Token.ofWord word = .plain
    if isPlain && (progress.terminated || !progress.awaitsValue) then
      match progress.terminated, CommandName.ofWord? word with
      | false, some name => .ok (.command progress name rest)
      | _, _ => .error (.usage (notACommand progress word))
    else
      match programLevel.step progress word with
      | .error stop => .error stop
      | .ok next => readHeading next rest

/-- The last part of a path, if it is a name. -/
def fileName? (path : RawText) : Option String := do
  let parts := path.bytes.splitOn 0x2F
  let last ← (parts.filter fun part => part ≠ [] ∧ part ≠ [0x2E]).getLast?
  if last = [0x2E, 0x2E] then none else (RawText.mk last).decode?

def programName (program? : Option RawText) : String :=
  (program?.bind fileName?).getD "ndb-cli"

def readWords (program : String) (words : List RawText) : Except Stop TypedRequest :=
  match readHeading .start words with
  | .error stop => .error (stopAt .program stop)
  | .ok (.noCommand progress) =>
    match progress.resolve with
    | .error error => .error (.usage error)
    | .ok resolved =>
      .error (.usage (if resolved.options.isEmpty then .nothingGiven else .missingCommand program))
  | .ok (.command progress name rest) =>
    match name.level.read rest with
    | .error stop => .error (stopAt name.topic stop)
    | .ok inner =>
      match progress.resolve with
      | .error error => .error (.usage error)
      | .ok outer =>
        .ok ⟨typedCommand name inner,
          ((formatOf? inner).or (formatOf? outer)).getD .human⟩

/-- Read a command line, the name of the program included. -/
def read (arguments : List RawText) : Except Stop TypedRequest :=
  readWords (programName arguments.head?) arguments.tail

end CommandLine

end BusBridge
