/-!
# TOML documents

The tables of a TOML document, as far as it matters which keys there are and which
of them hold text.  A table knows how it came about, because that decides what may
still be added to it: a table that was only passed through by a header may get a
header of its own, and dotted keys may only go on where dotted keys began.
-/

namespace BusBridge

namespace Toml

/-- How a table came about. -/
inductive TableOrigin
  /-- It has a header of its own, or it is the top of the document. -/
  | header
  /-- A header passed through it. -/
  | passed
  /-- A dotted key passed through it. -/
  | dotted
  /-- It stands between braces. -/
  | inline
deriving DecidableEq, Repr

/-- What a key holds. -/
inductive Item
  | text (value : String)
  /-- A number, a truth value, a date, or a list. -/
  | plain
  | table (origin : TableOrigin) (entries : List (String × Item))
  /-- Several tables under one name, the last of them first. -/
  | tables (items : List (List (String × Item)))
deriving Repr

/-- The entries of a table, in order. -/
abbrev Entries : Type :=
  List (String × Item)

namespace Entries

/-- What a key holds. -/
def get? (entries : Entries) (key : String) : Option Item :=
  entries.lookup key

/-- Let a key hold something else. -/
def put (entries : Entries) (key : String) (item : Item) : Entries :=
  match entries with
  | [] => [(key, item)]
  | (other, old) :: rest =>
    if other = key then (key, item) :: rest else (other, old) :: put rest key item

/-- Change the table that a path leads to, given how the table at hand came about.
Tables on the way that do not exist are made; `dotted` tells that the path is that of
a dotted key, which may not enter a table that has a header or stands between
braces. -/
def change (dotted : Bool) (here : TableOrigin) (entries : Entries)
    (edit : TableOrigin → Entries → Option Entries) : List String → Option Entries
  | [] => edit here entries
  | key :: path =>
    match entries.get? key with
    | none =>
      let origin := if dotted then TableOrigin.dotted else .passed
      (change dotted origin [] edit path).map fun inner => entries.put key (.table origin inner)
    | some (.table origin inner) =>
      if origin = .inline || (dotted && origin = .header) then none
      else (change dotted origin inner edit path).map fun inner =>
        entries.put key (.table origin inner)
    | some (.tables (last :: others)) =>
      (change dotted .header last edit path).map fun inner =>
        entries.put key (.tables (inner :: others))
    | some _ => none

def add (entries : Entries) (key : String) (item : Item) : Option Entries :=
  match entries.get? key with
  | none => some (entries ++ [(key, item)])
  | some _ => none

/-- Set a dotted key in the table at hand.  The last table of the path must be one
that dotted keys made, and a key without dots goes into a table that they did not
make. -/
def assign (here : TableOrigin) (entries : Entries) (path : List String) (key : String)
    (item : Item) : Option Entries :=
  entries.change true here (fun origin inner =>
    if decide (origin = .dotted) == path.isEmpty then none else inner.add key item) path

def openTable (entries : Entries) (path : List String) (key : String) : Option Entries :=
  entries.change false .header (fun _ inner =>
    match inner.get? key with
    | none => some (inner ++ [(key, .table .header [])])
    | some (.table .passed old) => some (inner.put key (.table .header old))
    | some _ => none) path

/-- Open one more table of a header in double brackets. -/
def openTables (entries : Entries) (path : List String) (key : String) : Option Entries :=
  entries.change false .header (fun _ inner =>
    match inner.get? key with
    | none => some (inner ++ [(key, .tables [[]])])
    | some (.tables items) => some (inner.put key (.tables ([] :: items)))
    | some _ => none) path

/-- Set a dotted key in the table of a header. -/
def assignIn (entries : Entries) (header path : List String) (key : String) (item : Item) :
    Option Entries :=
  entries.change false .header (fun origin inner => inner.assign origin path key item) header

end Entries

end Toml

end BusBridge
