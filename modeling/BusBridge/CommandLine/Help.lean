/-!
# Help texts

The help of the program and of each of its commands, in a short and in a long form,
and the version.
-/

namespace BusBridge

namespace CommandLine

/-- The parts of the command line that have a help text of their own. -/
inductive HelpTopic
  | program
  | method
  | signal
  | api
deriving DecidableEq, Repr

namespace Help

def lines (texts : List String) : String :=
  String.join (texts.map fun text => text ++ "\n")

def programShort : String :=
  lines [
    "Command-line bridge to the `NickelDBus` remote object",
    "",
    "Usage: ndb-cli [OPTIONS] <COMMAND>",
    "",
    "Commands:",
    "  method  Calls a method, optionally waiting for signals it triggers",
    "  signal  Waits for the first of one or more signals",
    "  api     Lists the methods and signals the remote object publishes",
    "",
    "Options:",
    "      --output <OUTPUT>  Controls how results are rendered on stdout [default: human] [possible values: human, json]",
    "  -h, --help             Print help (see more with '--help')",
    "  -V, --version          Print version"]

def programLong : String :=
  lines [
    "Command-line bridge to the `NickelDBus` remote object",
    "",
    "Usage: ndb-cli [OPTIONS] <COMMAND>",
    "",
    "Commands:",
    "  method  Calls a method, optionally waiting for signals it triggers",
    "  signal  Waits for the first of one or more signals",
    "  api     Lists the methods and signals the remote object publishes",
    "",
    "Options:",
    "      --output <OUTPUT>",
    "          Controls how results are rendered on stdout",
    "",
    "          Possible values:",
    "          - human: Space-separated values, one result per line",
    "          - json:  One JSON document per result",
    "          ",
    "          [default: human]",
    "",
    "  -h, --help",
    "          Print help (see a summary with '-h')",
    "",
    "  -V, --version",
    "          Print version"]

def methodShort : String :=
  lines [
    "Calls a method, optionally waiting for signals it triggers",
    "",
    "Usage: ndb-cli method [OPTIONS] <METHOD> [ARG]...",
    "",
    "Arguments:",
    "  <METHOD>  Name of the method to call",
    "  [ARG]...  Method arguments, converted to the declared parameter types",
    "",
    "Options:",
    "      --output <OUTPUT>           Controls how results are rendered on stdout [default: human] [possible values: human, json]",
    "      --signal <SIGNAL>           Waits for this signal after calling the method. Repeatable",
    "      --signal-timeout <SECONDS>  Seconds to wait for a signal; 0 waits indefinitely [default: 0]",
    "  -h, --help                      Print help (see more with '--help')"]

def methodLong : String :=
  lines [
    "Calls a method, optionally waiting for signals it triggers",
    "",
    "Usage: ndb-cli method [OPTIONS] <METHOD> [ARG]...",
    "",
    "Arguments:",
    "  <METHOD>",
    "          Name of the method to call",
    "",
    "  [ARG]...",
    "          Method arguments, converted to the declared parameter types",
    "",
    "Options:",
    "      --output <OUTPUT>",
    "          Controls how results are rendered on stdout",
    "",
    "          Possible values:",
    "          - human: Space-separated values, one result per line",
    "          - json:  One JSON document per result",
    "          ",
    "          [default: human]",
    "",
    "      --signal <SIGNAL>",
    "          Waits for this signal after calling the method. Repeatable",
    "",
    "      --signal-timeout <SECONDS>",
    "          Seconds to wait for a signal; 0 waits indefinitely",
    "          ",
    "          [default: 0]",
    "",
    "  -h, --help",
    "          Print help (see a summary with '-h')"]

def signalShort : String :=
  lines [
    "Waits for the first of one or more signals",
    "",
    "Usage: ndb-cli signal [OPTIONS] <SIGNAL>...",
    "",
    "Arguments:",
    "  <SIGNAL>...  Signals to wait for",
    "",
    "Options:",
    "      --output <OUTPUT>    Controls how results are rendered on stdout [default: human] [possible values: human, json]",
    "      --timeout <SECONDS>  Seconds to wait; 0 waits indefinitely [default: 0]",
    "  -h, --help               Print help (see more with '--help')"]

def signalLong : String :=
  lines [
    "Waits for the first of one or more signals",
    "",
    "Usage: ndb-cli signal [OPTIONS] <SIGNAL>...",
    "",
    "Arguments:",
    "  <SIGNAL>...",
    "          Signals to wait for",
    "",
    "Options:",
    "      --output <OUTPUT>",
    "          Controls how results are rendered on stdout",
    "",
    "          Possible values:",
    "          - human: Space-separated values, one result per line",
    "          - json:  One JSON document per result",
    "          ",
    "          [default: human]",
    "",
    "      --timeout <SECONDS>",
    "          Seconds to wait; 0 waits indefinitely",
    "          ",
    "          [default: 0]",
    "",
    "  -h, --help",
    "          Print help (see a summary with '-h')"]

def apiShort : String :=
  lines [
    "Lists the methods and signals the remote object publishes",
    "",
    "Usage: ndb-cli api [OPTIONS]",
    "",
    "Options:",
    "      --output <OUTPUT>  Controls how results are rendered on stdout [default: human] [possible values: human, json]",
    "  -h, --help             Print help (see more with '--help')"]

def apiLong : String :=
  lines [
    "Lists the methods and signals the remote object publishes",
    "",
    "Usage: ndb-cli api [OPTIONS]",
    "",
    "Options:",
    "      --output <OUTPUT>",
    "          Controls how results are rendered on stdout",
    "",
    "          Possible values:",
    "          - human: Space-separated values, one result per line",
    "          - json:  One JSON document per result",
    "          ",
    "          [default: human]",
    "",
    "  -h, --help",
    "          Print help (see a summary with '-h')"]

def text (topic : HelpTopic) (long : Bool) : String :=
  match topic, long with
  | .program, false => programShort
  | .program, true => programLong
  | .method, false => methodShort
  | .method, true => methodLong
  | .signal, false => signalShort
  | .signal, true => signalLong
  | .api, false => apiShort
  | .api, true => apiLong

def version : String :=
  "ndb-cli 0.1.0\n"

end Help

end CommandLine

end BusBridge
