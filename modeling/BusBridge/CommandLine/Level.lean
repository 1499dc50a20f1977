import BusBridge.CommandLine.Token
import BusBridge.CommandLine.UsageError
import BusBridge.Scalar.Integer
import BusBridge.Text.Blank

/-!
# Reading one level of a command line

A level is the words after the program or after a command.  It has options with
values, and places for plain words.  The words are read from left to right.  An
option whose value is a word of its own is taken in when the next option or place
begins, so an unknown option right after it is found first.
-/

namespace BusBridge

namespace CommandLine

inductive OptionName
  | output
  | signal
  | signalTimeout
  | timeout
  | bus
  | logFilter
  | logFormat
  | configPath
deriving DecidableEq, Repr

/-- Which values an option takes. -/
inductive ValueRule
  | text
  | word (words : List String)
  /-- One of these words in any case. -/
  | wordInAnyCase (words : List String)
  | seconds
  /-- Anything but nothing, and not only UTF-8. -/
  | path
deriving DecidableEq, Repr

structure OptionSpec where
  name : OptionName
  /-- The name after two dashes. -/
  long : String
  /-- The letter after one dash. -/
  short? : Option Char
  /-- How the option is shown. -/
  usage : String
  rule : ValueRule
  repeatable : Bool
deriving DecidableEq, Repr

structure PlaceSpec where
  usage : String
  required : Bool
  /-- The place takes any number of words. -/
  multiple : Bool
  /-- The place takes negative numbers. -/
  negativeNumbers : Bool
deriving DecidableEq, Repr

structure Level where
  options : List OptionSpec
  places : List PlaceSpec
  hasVersion : Bool
deriving DecidableEq, Repr

/-- Why the reading of a command line ends before its last word. -/
inductive Interruption
  | usage (error : UsageError)
  /-- Help was asked for, in its long or its short form. -/
  | help (long : Bool)
  | version
deriving DecidableEq, Repr

namespace ValueRule

def check (rule : ValueRule) (usage : String) (value : RawText) : Except UsageError Unit :=
  match rule with
  | .word words =>
    match value.decode? with
    | some spelling =>
      if words.contains spelling then .ok () else .error (.invalidValue usage spelling)
    | none => .error (.invalidValue usage value.lossy)
  | .path => if value.bytes.isEmpty then .error (.invalidValue usage "") else .ok ()
  | .text =>
    match value.decode? with
    | some _ => .ok ()
    | none => .error .invalidUtf8
  | .wordInAnyCase words =>
    match value.decode? with
    | some spelling =>
      if words.any (Text.equalIgnoringCase spelling) then .ok ()
      else .error (.valueValidation usage spelling)
    | none => .error .invalidUtf8
  | .seconds =>
    match value.decode? with
    | some spelling =>
      match IntegerType.uint64.read spelling with
      | .ok _ => .ok ()
      | .error _ => .error (.valueValidation usage spelling)
    | none => .error .invalidUtf8

end ValueRule

/-- Words that were read and not yet taken in. -/
inductive Pending
  | nothing
  /-- An option that needs the next word for its value. -/
  | awaiting (option : OptionSpec)
  | value (option : OptionSpec) (value : RawText)
  /-- Words for one place. -/
  | words (place : PlaceSpec) (words : List RawText)
deriving DecidableEq, Repr

/-- How far the reading of a level has come. -/
structure Progress where
  /-- The options that were taken in, in order. -/
  options : List (OptionName × RawText)
  /-- The plain words that were taken in, in order. -/
  words : List RawText
  pending : Pending
  /-- Only plain words follow. -/
  terminated : Bool
deriving DecidableEq, Repr

namespace Progress

def start : Progress :=
  ⟨[], [], .nothing, false⟩

def accept (progress : Progress) (option : OptionSpec) (value : RawText) :
    Except UsageError Progress :=
  if !option.repeatable && progress.options.any fun entry => entry.1 = option.name then
    .error (.argumentConflict option.usage)
  else match option.rule.check option.usage value with
    | .error error => .error error
    | .ok () =>
      .ok { progress with
        options := progress.options ++ [(option.name, value)], pending := .nothing }

/-- Take in what is pending. -/
def resolve (progress : Progress) : Except UsageError Progress :=
  match progress.pending with
  | .nothing => .ok progress
  | .awaiting option => .error (.invalidValue option.usage "")
  | .value option value => progress.accept option value
  | .words _ words =>
    if words.all fun word => word.decode?.isSome then
      .ok { progress with words := progress.words ++ words, pending := .nothing }
    else .error .invalidUtf8

def wordCount (progress : Progress) : Nat :=
  match progress.pending with
  | .words _ words => progress.words.length + words.length
  | _ => progress.words.length

/-- The last option still needs its value. -/
def awaitsValue (progress : Progress) : Bool :=
  match progress.pending with
  | .awaiting _ => true
  | _ => false

def values (progress : Progress) (name : OptionName) : List RawText :=
  (progress.options.filter fun entry => entry.1 = name).map (·.2)

end Progress

namespace Level

/-- The place for the next plain word.  The last place takes all further words if it
is made for several. -/
def place? (level : Level) (wordCount : Nat) : Option PlaceSpec :=
  match level.places[wordCount]? with
  | some place => some place
  | none => level.places.getLast?.filter fun place => place.multiple

def longOption? (level : Level) (name : String) : Option OptionSpec :=
  level.options.find? fun option => option.long = name

def shortOption? (level : Level) (letter : Char) : Option OptionSpec :=
  level.options.find? fun option => option.short? = some letter

def orUsage {α : Type} : Except UsageError α → Except Interruption α
  | .ok value => .ok value
  | .error error => .error (.usage error)

/-- An option was met; its value is the one at hand or the next word. -/
def meet (progress : Progress) (option : OptionSpec) (value? : Option RawText) :
    Except Interruption Progress :=
  match orUsage progress.resolve with
  | .error stop => .error stop
  | .ok resolved =>
    match value? with
    | some value => orUsage (resolved.accept option value)
    | none => .ok { resolved with pending := .awaiting option }

/-- Help or the version was asked for. -/
def display (progress : Progress) (request : Interruption) : Except Interruption Progress :=
  match orUsage progress.resolve with
  | .error stop => .error stop
  | .ok _ => .error request

def readLong (level : Level) (progress : Progress) (name : RawText) (value? : Option RawText) :
    Except Interruption Progress :=
  let unknown := Interruption.usage (.unknownArgument ("--" ++ name.lossy))
  let special (request : Interruption) : Except Interruption Progress :=
    match value? with
    | some value => .error (.usage (.unneededValue ("--" ++ name.lossy) value.lossy))
    | none => display progress request
  match name.decode? with
  | none => .error unknown
  | some name =>
    match level.longOption? name with
    | some option => meet progress option value?
    | none =>
      if name = "help" then special (.help true)
      else if name = "version" ∧ level.hasVersion then special .version
      else .error unknown

/-- The value of a short option that follows its letter in the same word. -/
def attachedValue (rest : List UInt8) : Option RawText :=
  match rest with
  | [] => none
  | first :: others => if first = 0x3D then some ⟨others⟩ else some ⟨rest⟩

/-- Read a cluster of short options.  Every option that is known either ends the
reading or takes the rest of the word for its value. -/
def readShort (level : Level) (progress : Progress) (cluster : List UInt8) :
    Except Interruption Progress :=
  match cluster with
  | [] => .ok progress
  | lead :: rest =>
    match RawText.readChar lead rest with
    | (none, _) => .error (.usage (.unknownArgument ("-" ++ (RawText.mk cluster).lossy)))
    | (some letter, length) =>
      match level.shortOption? letter with
      | some option => meet progress option (attachedValue (rest.drop length))
      | none =>
        if letter = 'h' then display progress (.help false)
        else if letter = 'V' ∧ level.hasVersion then display progress .version
        else .error (.usage (.unknownArgument ("-" ++ letter.toString)))

/-- A negative number is a plain word here. -/
def allowsNegativeNumber (level : Level) (progress : Progress) : Bool :=
  (level.place? progress.wordCount).any fun place => place.negativeNumbers

/-- Read a plain word: the value of the last option, or a word for the next place. -/
def readPlain (level : Level) (progress : Progress) (word : RawText) :
    Except Interruption Progress :=
  match progress.pending, progress.terminated with
  | .awaiting option, false => .ok { progress with pending := .value option word }
  | pending, _ =>
    match level.place? progress.wordCount with
    | none => .error (.usage (.unknownArgument word.lossy))
    | some place =>
      match pending with
      | .words current words =>
        if current = place ∧ place.multiple then
          .ok { progress with pending := .words place (words ++ [word]) }
        else match orUsage progress.resolve with
          | .error stop => .error stop
          | .ok resolved => .ok { resolved with pending := .words place [word] }
      | _ =>
        match orUsage progress.resolve with
        | .error stop => .error stop
        | .ok resolved => .ok { resolved with pending := .words place [word] }

def step (level : Level) (progress : Progress) (word : RawText) : Except Interruption Progress :=
  if progress.terminated then level.readPlain progress word
  else match Token.ofWord word with
    | .terminator => .ok { progress with terminated := true }
    | .long name value? => level.readLong progress name value?
    | .short cluster =>
      if Token.isNumber cluster && level.allowsNegativeNumber progress then
        level.readPlain progress word
      else level.readShort progress cluster
    | .plain => level.readPlain progress word

/-- The places that need a word and have none. -/
def missing (level : Level) (progress : Progress) : List String :=
  ((level.places.drop progress.words.length).filter fun place => place.required).map
    PlaceSpec.usage

/-- Take in what is pending after the last word, and check that nothing is missing. -/
def finish (level : Level) (progress : Progress) : Except UsageError Progress :=
  match progress.resolve with
  | .error error => .error error
  | .ok resolved =>
    match level.missing resolved with
    | [] => .ok resolved
    | missing => .error (.missingArgument missing)

def read (level : Level) (words : List RawText) : Except Interruption Progress :=
  match words.foldlM level.step .start with
  | .error stop => .error stop
  | .ok progress => orUsage (level.finish progress)

end Level

end CommandLine

end BusBridge
