import BusBridge.Log
import BusBridge.Scalar.Integer
import BusBridge.Text.Alphanumeric
import BusBridge.Text.Blank

/-!
# Log filters

A filter decides which events are written.  It is a list of directives with commas
between them.  A directive can name the part of the program that it is about, fields
that an event must have, and the level up to which events are written:
`bridge::bus[{path}]=debug`.  Of the directives that are about an event the most
specific one decides.

A directive can also be about what happens inside of a named span, or about the value
of a field there.  The program has no spans, so that such a directive admits nothing.
-/

namespace BusBridge

namespace Log

/-- One part of a filter. -/
structure Directive where
  /-- What the target of an event begins with. -/
  target? : Option String
  /-- The fields that an event has. -/
  fields : List String
  /-- The directive is about spans. -/
  spans : Bool
  /-- Events up to this verbosity are written. -/
  limit : Nat
deriving DecidableEq, Repr

namespace Directive

def everything : Nat :=
  Level.trace.verbosity

/-- The names of the limits, which can also be given as numbers. -/
def limitNames : List (String × Nat) :=
  [("off", 0), ("error", 1), ("warn", 2), ("info", 3), ("debug", 4), ("trace", 5)]

def numberedLimit? (word : String) : Option Nat :=
  match IntegerType.uint64.read word with
  | .ok number => if number.val.toNat ≤ everything then some number.val.toNat else none
  | .error _ => none

def limit? (word : String) : Option Nat :=
  (numberedLimit? word).or
    ((limitNames.find? fun entry => Text.equalIgnoringCase entry.1 word).map Prod.snd)

/-- A directive may begin with this character. -/
def isStart (character : Char) : Bool :=
  character = '[' || character = '-' || character = ':' || character = '_' ||
    Text.isAlphanumeric character

/-- A directive without brackets and without an equals sign: a limit for everything,
or else a target. -/
def ofWord (word : String) : Directive :=
  match limit? word with
  | some limit => ⟨none, [], false, limit⟩
  | none => ⟨some word, [], false, everything⟩

/-- The limit after an equals sign; no limit stands for everything. -/
def givenLimit? (word : List Char) : Option Nat :=
  if word.isEmpty then some everything else limit? (String.ofList word)

/-- The condition between braces: the name of a field, and whether a value for it
follows. -/
def field? (source : List Char) : Option (String × Bool) :=
  if source.isEmpty then none
  else some (String.ofList (source.takeWhile (· ≠ '=')), source.contains '=')

/-- What stands between brackets: a condition on fields and whether it is about spans. -/
def condition? (source : List Char) : Option (List String × Bool) :=
  let span := source.takeWhile (· ≠ '{')
  match source.dropWhile (· ≠ '{') with
  | [] => some ([], true)
  | _ :: braced =>
    if braced.dropWhile (· ≠ '}') = ['}'] then
      (field? (braced.takeWhile (· ≠ '}'))).map fun (name, hasValue) =>
        ([name], !span.isEmpty || hasValue)
    else none

/-- The end of the brackets that `source` begins inside of: what stands between them,
and what comes after them.  A closing bracket between braces does not count. -/
def splitBrackets? : Bool → List Char → Option (List Char × List Char)
  | _, [] => none
  | braced, character :: rest =>
    if character = ']' && !braced then some ([], rest)
    else
      let inside := if braced then character ≠ '}' else character = '{'
      (splitBrackets? inside rest).map fun (between, after) => (character :: between, after)

/-- A directive after its target: conditions between brackets, and a limit, which
`limitOf?` reads. -/
def ofBrackets? (limitOf? : List Char → Option Nat) (target? : Option String)
    (source : List Char) : Option Directive := do
  let (between, after) ← splitBrackets? false source
  let (fields, spans) ← condition? between
  match after with
  | [] => return ⟨target?, fields, spans, everything⟩
  | '=' :: word => return ⟨target?, fields, spans, ← limitOf? word⟩
  | _ => none

/-- A character after which a directive is more than one word. -/
def endsWord (character : Char) : Bool :=
  character = '=' || character = '['

def ofWords? (limitOf? : List Char → Option Nat) (source : List Char) : Option Directive :=
  let target := String.ofList (source.takeWhile fun character => !endsWord character)
  let target? := if target.isEmpty then none else some target
  match source.dropWhile fun character => !endsWord character with
  | '=' :: word => (limitOf? word).map fun limit => ⟨target?, [], false, limit⟩
  | '[' :: bracketed => ofBrackets? limitOf? target? bracketed
  | _ => none

/-- The same directive for a target that begins with a blank, which no target does. -/
def outOfPlace (directive : Directive) : Directive :=
  { directive with target? := some " " }

/-- A directive of more than one word with blanks around it.  The blanks belong to its
target and to its limit, and no limit has blanks. -/
def ofSpaced? (leading : Bool) (source : List Char) : Option Directive :=
  let directive? := ofWords? (fun _ => none) source
  if leading then directive?.map outOfPlace else directive?

/-- Read a directive.  A single word keeps the blanks around it. -/
def read? (source : List Char) : Option Directive :=
  let trimmed := Text.trimChars source
  if trimmed.head?.any isStart then
    if !trimmed.any endsWord then some (ofWord (String.ofList source))
    else if trimmed = source then ofWords? givenLimit? source
    else ofSpaced? (source.head?.any Text.isBlank) trimmed
  else none

def concerns (directive : Directive) (event : Event) : Bool :=
  !directive.spans &&
    (directive.target?.all fun target => target.toList.isPrefixOf event.target.toList) &&
    directive.fields.all fun name => name = "message" || (event.fields.lookup name).isSome

def targetSize (directive : Directive) : Nat :=
  match directive.target? with
  | none => 0
  | some target => target.utf8ByteSize + 1

/-- A longer target is more specific, then more fields are; between the same number of
fields the order of their names decides. -/
def isMoreSpecific (first second : Directive) : Bool :=
  if first.targetSize ≠ second.targetSize then decide (second.targetSize < first.targetSize)
  else if first.fields.length ≠ second.fields.length then
    decide (second.fields.length < first.fields.length)
  else decide (second.fields < first.fields)

/-- Of two directives that may be about an event, the one that decides; if neither is
more specific, the later one. -/
def prevailing (earlier? : Option Directive) (later : Directive) : Option Directive :=
  match earlier? with
  | some earlier => if isMoreSpecific earlier later then some earlier else some later
  | none => some later

end Directive

structure Filter where
  directives : List Directive
deriving DecidableEq, Repr

namespace Filter

def nothing : Filter :=
  ⟨[]⟩

/-- The filter that stands for an empty text: only errors are written. -/
def errorsOnly : Filter :=
  ⟨[⟨none, [], false, Level.error.verbosity⟩]⟩

/-- Read a filter.  Empty directives are passed over. -/
def read? (text : String) : Option Filter := do
  let sources := (text.toList.splitOn ',').filter fun source => !source.isEmpty
  let directives ← sources.mapM Directive.read?
  return if directives.isEmpty then errorsOnly else ⟨directives⟩

def decisive? (filter : Filter) (event : Event) : Option Directive :=
  (filter.directives.filter fun directive => directive.concerns event).foldl
    Directive.prevailing none

def admits (filter : Filter) (event : Event) : Bool :=
  (filter.decisive? event).any fun directive => decide (event.level.verbosity ≤ directive.limit)

end Filter

end Log

end BusBridge
