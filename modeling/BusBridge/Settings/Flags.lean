import BusBridge.CommandLine.Level
import BusBridge.Settings.Layer

/-!
# Settings from flags

The flags before the command give settings, and the path of a configuration file.
Names may be written in any case; they are passed on in their own spelling.
-/

namespace BusBridge

namespace Flags

open CommandLine

def level : Level :=
  ⟨[⟨.bus, "bus", some 'b', "--bus <BUS>", .wordInAnyCase BusKind.choices.names, false⟩,
      ⟨.logFilter, "log-filter", some 'l', "--log-filter <LOG_FILTER>", .text, false⟩,
      ⟨.logFormat, "log-format", some 'L', "--log-format <LOG_FORMAT>",
        .wordInAnyCase LogFormat.choices.names, false⟩,
      ⟨.configPath, "config-path", none, "--config-path <PATH>", .path, false⟩],
    [], false⟩

def textOf? (progress : Progress) (name : OptionName) : Option String :=
  (progress.values name).getLast?.bind RawText.decode?

/-- What an option gives whose value is a name. -/
def nameOf? {α : Type} (choices : NamedChoices α) (progress : Progress) (name : OptionName) :
    Option Entry :=
  ((textOf? progress name).bind choices.ofNameInAnyCase?).map fun value =>
    .text (choices.name value)

structure Given where
  layer : Layer
  configPath? : Option RawText
deriving DecidableEq, Repr

namespace Given

def nothing : Given :=
  ⟨.empty, none⟩

end Given

/-- What the options of the configuration give. -/
def given (progress : Progress) : Given :=
  ⟨⟨nameOf? BusKind.choices progress .bus, (textOf? progress .logFilter).map .text,
      nameOf? LogFormat.choices progress .logFormat⟩,
    (progress.values .configPath).getLast?⟩

/-- Read the flags, the name of the program not included. -/
def read (words : List RawText) : Except Interruption Given :=
  match level.read words with
  | .ok progress => .ok (given progress)
  | .error stop => .error stop

end Flags

end BusBridge
