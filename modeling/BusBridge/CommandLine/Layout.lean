import BusBridge.Command
import BusBridge.CommandLine.Writing

/-!
# Ways to type a call

A call is typed in many ways: its options stand anywhere among the plain words, and each has
its value in the same word or in a word of its own.
-/

namespace BusBridge

namespace CommandLine

/-- An option that a call can have. -/
inductive CallOption
  | output
  | signal
  | signalTimeout
deriving DecidableEq, Repr

def CallOption.spec : CallOption → OptionSpec
  | output => outputOption
  | signal => signalOption
  | signalTimeout => signalTimeoutOption

/-- An option with its value, in one word or in two. -/
structure OptionGroup where
  option : CallOption
  value : String
  joined : Bool
deriving DecidableEq, Repr

namespace OptionGroup

def words (group : OptionGroup) : List String :=
  if group.joined then [group.option.spec.assign group.value]
  else ["--" ++ group.option.spec.long, group.value]

def entry (group : OptionGroup) : OptionSpec × String :=
  (group.option.spec, group.value)

end OptionGroup

inductive LayoutItem
  | plain (text : String)
  | option (group : OptionGroup)
deriving DecidableEq, Repr

namespace LayoutItem

def words : LayoutItem → List String
  | plain text => [text]
  | option group => group.words

def plain? : LayoutItem → Option String
  | plain text => some text
  | option _ => none

def group? : LayoutItem → Option OptionGroup
  | plain _ => none
  | option group => some group

@[simp]
theorem plain?_plain (text : String) : (plain text).plain? = some text :=
  rfl

@[simp]
theorem plain?_option (group : OptionGroup) : (option group).plain? = none :=
  rfl

@[simp]
theorem group?_plain (text : String) : (plain text).group? = none :=
  rfl

@[simp]
theorem group?_option (group : OptionGroup) : (option group).group? = some group :=
  rfl

end LayoutItem

/-- The options before the command, and the options and plain words after it. -/
structure Layout where
  front : List OptionGroup
  items : List LayoutItem
deriving DecidableEq, Repr

namespace Layout

def words (layout : Layout) : List String :=
  layout.front.flatMap OptionGroup.words ++
    CommandName.method.word :: layout.items.flatMap LayoutItem.words

/-- The whole command line. -/
def line (layout : Layout) (program : RawText) : List RawText :=
  program :: layout.words.map .ofString

def groups (layout : Layout) : List OptionGroup :=
  layout.front ++ layout.items.filterMap LayoutItem.group?

def plainWords (layout : Layout) : List String :=
  layout.items.filterMap LayoutItem.plain?

/-- The values of an option, in order. -/
def values (layout : Layout) (option : CallOption) : List String :=
  (layout.groups.filter fun group => group.option = option).map OptionGroup.value

end Layout

/-- A number of seconds with its spelling. -/
structure SpeltSeconds where
  text : String
  number : IntegerType.uint64.Number
  reads : IntegerType.uint64.read text = .ok number

def SpeltSeconds.count (seconds : SpeltSeconds) : Nat :=
  seconds.number.val.toNat

/-- A call, however it is typed. -/
structure Call where
  name : String
  arguments : List String
  signals : List String
  timeout? : Option SpeltSeconds
  format? : Option OutputFormat

namespace Call

/-- What the call asks for. -/
def command (call : Call) : Command :=
  .method (Text.trim call.name) call.arguments (.ofList (call.signals.map Text.trim))
    (.ofSeconds ((call.timeout?.map SpeltSeconds.count).getD 0))

def format (call : Call) : OutputFormat :=
  call.format?.getD .human

end Call

/-- The text begins with a dash. -/
def Dashed (text : String) : Prop :=
  text.toList.head? = some '-'

instance : DecidablePred Dashed :=
  fun text => inferInstanceAs (Decidable (text.toList.head? = some '-'))

def AllDigits (characters : List Char) : Prop :=
  ∀ character ∈ characters, character.isDigit = true

instance : DecidablePred AllDigits :=
  fun characters => decidable_of_iff (characters.all Char.isDigit = true) List.all_eq_true

/-- A point with digits behind it or none, or nothing at all. -/
def IsFraction (characters : List Char) : Prop :=
  characters = [] ∨ ∃ digits, characters = '.' :: digits ∧ AllDigits digits

/-- The letter of an exponent and its digits, or nothing at all. -/
def IsExponent (characters : List Char) : Prop :=
  characters = [] ∨ ∃ digits, characters = 'e' :: digits ∧ digits ≠ [] ∧ AllDigits digits

/-- A minus sign and a number: digits, perhaps a fraction, and perhaps an exponent. -/
def IsNegativeNumber (text : String) : Prop :=
  ∃ whole fraction exponent, text.toList = '-' :: whole ++ fraction ++ exponent ∧
    whole ≠ [] ∧ AllDigits whole ∧ IsFraction fraction ∧ IsExponent exponent

/-- The call can be typed without the two dashes. -/
structure Call.Typable (call : Call) : Prop where
  name_visible : ¬Text.IsBlank call.name
  name_plain : ¬Dashed call.name
  arguments_plain : ∀ argument ∈ call.arguments, ¬Dashed argument ∨ IsNegativeNumber argument
  signals_visible : ∀ signal ∈ call.signals, ¬Text.IsBlank signal

/-- The layout is one way to type the call.  The order of the signals does not count. -/
structure Layout.Types (layout : Layout) (call : Call) : Prop where
  plain_eq : layout.plainWords = call.name :: call.arguments
  signals_iff : ∀ signal, signal ∈ layout.values .signal ↔ signal ∈ call.signals
  timeout_eq : layout.values .signalTimeout = (call.timeout?.map SpeltSeconds.text).toList
  output_eq : layout.values .output = (call.format?.map OutputFormat.word).toList
  front_output : ∀ group ∈ layout.front, group.option = .output
  apart_plain : ∀ group ∈ layout.groups, group.joined = false → ¬Dashed group.value

end CommandLine

end BusBridge
