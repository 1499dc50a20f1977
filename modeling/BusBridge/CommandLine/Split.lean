import BusBridge.Text.RawText

/-!
# Configuration flags before the command

The configuration is changed by flags that stand before everything else on the
command line.  They are split off word by word, a flag with the value that follows
it, up to the first word that is no such flag.
-/

namespace BusBridge

namespace CommandLine

def configFlags : List String :=
  ["--config-path", "--bus", "--log-filter", "--log-format"]

/-- How a word begins or makes up the group of a configuration flag. -/
inductive FlagShape
  /-- The flag and its value in one word. -/
  | complete
  /-- The flag; its value is the next word. -/
  | needsValue
  | none
deriving DecidableEq, Repr

def flagShape (word : RawText) : FlagShape :=
  let (name, value?) := RawText.splitAtEquals word.bytes
  if configFlags.any fun flag => RawText.ofString flag = ⟨name⟩ then
    if value?.isSome then .complete else .needsValue
  else .none

/-- The words of the configuration flags at the beginning, and the words after them. -/
def splitWords : List RawText → List RawText × List RawText
  | [] => ([], [])
  | [word] => if flagShape word = .none then ([], [word]) else ([word], [])
  | word :: second :: rest =>
    match flagShape word with
    | .none => ([], word :: second :: rest)
    | .complete =>
      let (config, command) := splitWords (second :: rest)
      (word :: config, command)
    | .needsValue =>
      let (config, command) := splitWords rest
      (word :: second :: config, command)

theorem splitWords_of_none {word : RawText} (shape : flagShape word = .none)
    (rest : List RawText) : splitWords (word :: rest) = ([], word :: rest) := by
  cases rest with
  | nil => rw [splitWords, if_pos shape]
  | cons second rest =>
      rw [splitWords, shape]

/-- A command line in two parts, each with the name of the program. -/
structure Split where
  configArguments : List RawText
  /-- The position of the first word after the configuration flags. -/
  commandStart : Nat
deriving DecidableEq, Repr

namespace Split

def ofArguments : List RawText → Split
  | [] => ⟨[], 0⟩
  | program :: rest =>
    let config := (splitWords rest).1
    ⟨program :: config, config.length + 1⟩

/-- The name of the program and the words from the command on. -/
def commandArguments (split : Split) (arguments : List RawText) : List RawText :=
  arguments.take 1 ++ arguments.drop split.commandStart

end Split

end CommandLine

end BusBridge
