import BusBridge.Invocation

/-!
# What a listing says

The listing of an interface is a text with a line for every member.  Here it is read again, from
the text alone: the methods and the signals with their names and with the types in the entries of
their lines.  What a call comes to can be told from that.
-/

namespace BusBridge

/-- What the line of a member says. -/
structure ListedMember where
  name : String
  types : List String
deriving DecidableEq, Repr

/-- What a listing says. -/
structure Listing where
  methods : List ListedMember
  signals : List ListedMember
deriving DecidableEq, Repr

namespace ListedMember

/-- The type of an entry, which stands in angle brackets behind a blank.  After another blank a
name may follow. -/
def readType? : List Char → Option String
  | ' ' :: '<' :: rest =>
    match rest.dropWhile (· ≠ '>') with
    | ['>'] => some (.ofList (rest.takeWhile (· ≠ '>')))
    | '>' :: ' ' :: _ => some (.ofList (rest.takeWhile (· ≠ '>')))
    | _ => none
  | _ => none

/-- The types of all entries behind a name.  There are commas between them. -/
def readTypes? (entries : List Char) : Option (List String) :=
  if entries.isEmpty then some [] else (entries.splitOn ',').mapM readType?

/-- Read a line, which is indented by four blanks. -/
def read? : List Char → Option ListedMember
  | ' ' :: ' ' :: ' ' :: ' ' :: rest =>
    (readTypes? (rest.dropWhile (· ≠ ' '))).map (⟨.ofList (rest.takeWhile (· ≠ ' ')), ·⟩)
  | _ => none

/-- The member has this name and as many entries as there are arguments. -/
def Fits (member : ListedMember) (name : String) (arity : Nat) : Prop :=
  member.name = name ∧ member.types.length = arity

instance (member : ListedMember) (name : String) (arity : Nat) :
    Decidable (member.Fits name arity) :=
  inferInstanceAs (Decidable (_ ∧ _))

/-- The conversions of the tokens to the types of the entries, in order. -/
def conversions (member : ListedMember) (tokens : List String) :
    List (Except CoercionError Value) :=
  List.zipWith Value.coerce member.types tokens

end ListedMember

namespace Listing

def methodsHeading : String :=
  "The following methods and their arguments can be called:"

def signalsHeading : String :=
  "The following signals and their 'return' value can be waited for:"

/-- Read the lines of a listing: a heading, the methods, a blank line, another heading and the
signals.  The last line is ended like all others. -/
def readLines? : List (List Char) → Option Listing
  | first :: lines =>
    match lines.dropWhile (· ≠ []) with
    | [] :: second :: others =>
      if first = methodsHeading.toList ∧ second = signalsHeading.toList ∧
          others.getLast? = some [] then
        match (lines.takeWhile (· ≠ [])).mapM ListedMember.read?,
          others.dropLast.mapM ListedMember.read? with
        | some methods, some signals => some ⟨methods, signals⟩
        | _, _ => none
      else none
    | _ => none
  | [] => none

def read? (text : String) : Option Listing :=
  readLines? (text.toList.splitOn '\n')

/-- The arguments of the first member that takes all tokens, or all failures of all members. -/
def firstConverted (attempts : List (List (Except CoercionError Value))) :
    Except (List CoercionError) (List Value) :=
  match attempts.find? fun conversions => conversions.all Except.isOk with
  | some conversions => .ok (conversions.filterMap Invocation.accepted?)
  | none => .error (attempts.flatMap fun conversions => conversions.filterMap Invocation.rejected?)

/-- What a call comes to, as far as a listing tells it: the arguments that are sent, or why nothing
is sent. -/
def answer (listing : Listing) (name : String) (tokens : List String) :
    Except SessionError (List Value) :=
  let candidates := listing.methods.filter (·.Fits name tokens.length)
  match firstConverted (candidates.map (·.conversions tokens)) with
  | .ok arguments => .ok arguments
  | .error failures => .error (Invocation.rejection name tokens.length failures)

end Listing

end BusBridge
