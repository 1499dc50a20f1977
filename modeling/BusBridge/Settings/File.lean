import BusBridge.Settings.Layer
import BusBridge.Text.RawText
import BusBridge.Toml.Reader

/-!
# Settings from files

A configuration file is a TOML document.  It may name another file that it extends;
what it says itself goes on top of that.  Without a path on the command line the
first readable file of a list of usual places is taken.
-/

namespace BusBridge

namespace ConfigFile

/-- What surrounds the program: the variables of the environment, the working
directory, and the contents of the files by their absolute paths. -/
structure Surroundings where
  environment : List (String × String)
  directory : String
  contents? : String → Option String

inductive FileError
  | unreadable
  /-- The files extend each other in a circle. -/
  | cyclic
deriving DecidableEq, Repr

/-- The parts of a path between the slashes. -/
def parts (path : String) : List (List Char) :=
  path.toList.splitOn '/'

/-- Follow the parts of a path from the top: single dots and empty parts stay where
they are, two dots go up. -/
def follow : List (List Char) → List (List Char) → List (List Char)
  | place, [] => place
  | place, part :: rest =>
    if part = [] ∨ part = ['.'] then follow place rest
    else if part = ['.', '.'] then follow place.dropLast rest
    else follow (place ++ [part]) rest

def absolute (directory path : String) : String :=
  let whole := if path.toList.head? = some '/' then parts path else parts directory ++ parts path
  String.ofList ((follow [] whole).flatMap fun part => '/' :: part)

def directoryOf (path : String) : String :=
  String.ofList (['/'].intercalate (parts path).dropLast)

/-- The part of a file name after its last dot, in lower case.  A name that only
starts with a dot has no such part. -/
def suffix? (path : String) : Option String := do
  let name ← (parts path).getLast?
  let reversed := name.reverse
  let ending := reversed.takeWhile (· ≠ '.')
  let stem := reversed.drop (ending.length + 1)
  if stem.isEmpty then none else some (String.ofList (ending.reverse.map Char.toLower))

/-- The document of a file, if it can be read.  Some names are those of other
formats, which are not read. -/
def document? (surroundings : Surroundings) (path : String) : Option Toml.Entries := do
  let text ← surroundings.contents? path
  if (suffix? path).any fun suffix => ["json", "json5", "yaml", "yml"].contains suffix then none
  else Toml.read? text

def settingIn? (document : Toml.Entries) (key : String) : Option Entry :=
  match document.get? key with
  | none => none
  | some (.text value) => some (.text value)
  | some _ => some .other

/-- What a document gives for the settings. -/
def layer (document : Toml.Entries) : Layer :=
  ⟨settingIn? document "bus", settingIn? document "log_filter", settingIn? document "log_format"⟩

/-- The file that a document extends. -/
inductive Base
  | none
  | path (path : String)
  /-- What is said about it is no path. -/
  | invalid
deriving DecidableEq, Repr

/-- The file that a document extends, if there is one. -/
def base (document : Toml.Entries) : Base :=
  match document.get? "extends" with
  | Option.none => .none
  | some (.text path) => if path.isEmpty then .invalid else .path path
  | some _ => .invalid

/-- The path of the file that a file extends, if there is one. -/
def extended? (surroundings : Surroundings) (path : String) : Option String :=
  match (document? surroundings path).map base with
  | some (.path next) => some (absolute (directoryOf path) next)
  | _ => none

/-- The layer of a file together with the files that it extends.  The files on the
way are remembered, and each takes one unit of fuel. -/
def loadFrom (surroundings : Surroundings) : Nat → List String → String → Except FileError Layer
  | 0, _, _ => .error .cyclic
  | fuel + 1, visited, path =>
    if visited.contains path then .error .cyclic
    else match document? surroundings path with
      | none => .error .unreadable
      | some document =>
        match base document with
        | .none => .ok (layer document)
        | .invalid => .error .unreadable
        | .path next =>
          match loadFrom surroundings fuel (path :: visited)
              (absolute (directoryOf path) next) with
          | .error error => .error error
          | .ok lower => .ok ((layer document).onTopOf lower)

/-- The greatest number of files that extend one another. -/
def maxDepth : Nat :=
  1000

def load (surroundings : Surroundings) (path : String) : Except FileError Layer :=
  loadFrom surroundings maxDepth [] path

/-- The value of a variable that is not empty. -/
def valueOf? (surroundings : Surroundings) (name : String) : Option String :=
  (surroundings.environment.lookup name).filter fun value => !value.isEmpty

/-- The two usual places in a directory. -/
def placesIn (directory : String) : List String :=
  [directory ++ "/ndb/config.toml", directory ++ "/.ndb.toml"]

/-- The directories of a list with colons between them. -/
def directories (list : String) : List String :=
  ((list.toList.splitOn ':').map String.ofList).filter fun directory => !directory.isEmpty

/-- The places where a configuration file is looked for, in order. -/
def places (surroundings : Surroundings) : List String :=
  let shared := (valueOf? surroundings "XDG_CONFIG_DIRS").getD "/etc/xdg"
  (valueOf? surroundings "NDB_CONFIG_PATH").toList ++
    (valueOf? surroundings "XDG_CONFIG_HOME").toList.flatMap placesIn ++
    (directories shared).flatMap placesIn ++
    (valueOf? surroundings "HOME").toList.flatMap (fun home => placesIn (home ++ "/.config")) ++
    (valueOf? surroundings "HOME").toList.map (fun home => home ++ "/.ndb.toml") ++
    [surroundings.directory ++ "/.ndb.toml"]

/-- The places as absolute paths, each of them once. -/
def candidates (surroundings : Surroundings) : List String :=
  ((places surroundings).map (absolute surroundings.directory)).eraseDups

/-- What the files of the usual places give: the layer of the first that can be read,
and the errors of those before it that exist. -/
def loadFirst (surroundings : Surroundings) :
    List String → Option Layer × List FileError
  | [] => (none, [])
  | path :: paths =>
    match surroundings.contents? path with
    | none => loadFirst surroundings paths
    | some _ =>
      match load surroundings path with
      | .ok layer => (some layer, [])
      | .error error =>
        let (found, errors) := loadFirst surroundings paths
        (found, error :: errors)

def requiredPath (surroundings : Surroundings) (path : RawText) : Option String :=
  path.decode?.map (absolute surroundings.directory)

def loadRequired (surroundings : Surroundings) (path : RawText) : Except FileError Layer :=
  match requiredPath surroundings path with
  | some path => load surroundings path
  | none => .error .unreadable

/-- The layer of the usual places, and the errors that count: those of files that
could not be read, if no other file could be read either. -/
def discover (surroundings : Surroundings) (paths : List String) : Layer × List FileError :=
  match loadFirst surroundings paths with
  | (some layer, _) => (layer, [])
  | (none, errors) => (.empty, errors)

/-- What files give, with the errors that count.  A file that was asked for must be
readable; the usual places are tried only without it or after it has failed. -/
def gather (surroundings : Surroundings) (required? : Option RawText) : Layer × List FileError :=
  match required? with
  | none => discover surroundings (candidates surroundings)
  | some path =>
    match loadRequired surroundings path with
    | .ok layer => (layer, [])
    | .error error =>
      let others := (candidates surroundings).filter fun candidate =>
        some candidate != requiredPath surroundings path
      let (layer, errors) := discover surroundings others
      (layer, error :: errors)

end ConfigFile

end BusBridge
