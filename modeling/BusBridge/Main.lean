import BusBridge.World

/-!
# The program

The program reads the variables of its environment and the configuration files that a
run may look at, carries out the run and writes what it shows.  It has no connection to
a bus daemon of its own, so that a run that needs one ends with that failure.  Of the texts
of the libraries it has only the help.
-/

namespace BusBridge

namespace Program

def contents? (path : String) : IO (Option String) := do
  try
    return some (← IO.FS.readFile path)
  catch _ =>
    return none

/-- The variables in the form in which the system keeps them: one after another, each
ended by a zero byte. -/
def variablesOf (bytes : List UInt8) : List (String × String) :=
  (bytes.splitOn 0).filterMap fun entry =>
    match RawText.splitAtEquals entry with
    | (name, some value) => some (RawText.lossy ⟨name⟩, RawText.lossy ⟨value⟩)
    | (_, none) => none

def environment : IO (List (String × String)) := do
  try
    return variablesOf (← IO.FS.readBinFile "/proc/self/environ").toList
  catch _ =>
    return []

/-- The files that are known, by their paths. -/
abbrev Files : Type :=
  List (String × String)

/-- What surrounds the program as far as its files are known. -/
def surroundings (environment : List (String × String)) (directory : String) (files : Files) :
    ConfigFile.Surroundings :=
  ⟨environment, directory, fun path => files.lookup path⟩

def readFrom (environment : List (String × String)) (directory : String) :
    Nat → String → Files → IO Files
  | 0, _, files => return files
  | fuel + 1, path, files => do
    if (files.lookup path).isSome then return files
    match ← contents? path with
    | none => return files
    | some text =>
      let files := (path, text) :: files
      match ConfigFile.extended? (surroundings environment directory files) path with
      | some next => readFrom environment directory fuel next files
      | none => return files

/-- Read the files that a run with these flags may look at. -/
def readFiles (environment : List (String × String)) (directory : String)
    (arguments : List RawText) : IO Files := do
  let split := CommandLine.Split.ofArguments arguments
  let empty := surroundings environment directory []
  let required? := (Settings.loadFlags (split.configArguments.drop 1)).1.configPath?
  let paths := (required?.bind (ConfigFile.requiredPath empty)).toList ++
    ConfigFile.candidates empty
  paths.foldlM (fun files path =>
    readFrom environment directory ConfigFile.maxDepth path files) []

def name : String :=
  "ndb-cli"

/-- Carry out a run and write what it shows. -/
def run (words : List String) : IO UInt32 := do
  let arguments := (name :: words).map RawText.ofString
  let environment ← environment
  let directory := (← IO.currentDir).toString
  let files ← readFiles environment directory arguments
  let world := World.ofDaemon (surroundings environment directory files) none
  let run := Run.ofArguments world arguments (.empty none)
  let errors ← IO.getStderr
  for line in run.logLines do
    errors.putStrLn line
  (← IO.getStdout).write ⟨run.output.accepted.toArray⟩
  errors.putStr run.ending.standardError
  return if run.isSuccess then 0 else 1

end Program

end BusBridge

def main (words : List String) : IO UInt32 :=
  BusBridge.Program.run words
