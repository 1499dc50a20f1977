import BusBridge.Interface
import BusBridge.Wire.Signature
import BusBridge.Xml.Reader

/-!
# Introspection

A remote object describes itself in XML: interfaces with methods and signals, and
these with arguments.  The description is read in the order of the document and then
turned into interfaces, in which every argument has a direction.
-/

namespace BusBridge

namespace Introspection

/-- An argument as it is described. -/
structure Argument where
  name? : Option String
  direction? : Option Direction
  type : String
deriving DecidableEq, Repr

/-- A method or a signal as it is described. -/
structure Member where
  name : String
  arguments : List Argument
deriving DecidableEq, Repr

/-- What stands in an interface. -/
inductive Item
  | method (member : Member)
  | signal (member : Member)
deriving DecidableEq, Repr

/-- An interface as it is described. -/
structure Description where
  name : String
  items : List Item
deriving DecidableEq, Repr

namespace Argument

/-- The parameter that an argument stands for, with the direction that it has where
none is given. -/
def parameter (implied : Direction) (argument : Argument) : Parameter :=
  ⟨argument.name?, argument.direction?.getD implied, argument.type⟩

end Argument

namespace Item

/-- The method that an item describes.  An argument without a direction is an input. -/
def method? : Item → Option Method
  | method member => some ⟨member.name, member.arguments.map (Argument.parameter .input)⟩
  | signal _ => none

/-- The signal that an item describes.  An argument without a direction is an output. -/
def signal? : Item → Option Signal
  | method _ => none
  | signal member => some ⟨member.name, member.arguments.map (Argument.parameter .output)⟩

end Item

namespace Description

def interface (description : Description) : Interface :=
  ⟨description.name, description.items.filterMap Item.method?,
    description.items.filterMap Item.signal?⟩

end Description

/-! ## Names -/

def maxNameLength : Nat :=
  255

/-- A character with which a part of a name may begin. -/
def isNameStart (character : Char) : Bool :=
  character.isAlpha || character = '_'

/-- A part of a name: letters, digits and underscores, and no digit first. -/
def isNamePart (characters : List Char) : Bool :=
  match characters with
  | [] => false
  | first :: rest =>
    isNameStart first && rest.all fun character => isNameStart character || character.isDigit

def isMemberName (name : String) : Bool :=
  isNamePart name.toList && decide (name.utf8ByteSize ≤ maxNameLength)

/-- The name of an interface: two or more parts with dots between them. -/
def isInterfaceName (name : String) : Bool :=
  let parts := name.toList.splitOn '.'
  decide (2 ≤ parts.length) && parts.all isNamePart && decide (name.utf8ByteSize ≤ maxNameLength)

def isPropertyName (name : String) : Bool :=
  !name.isEmpty && decide (name.utf8ByteSize ≤ maxNameLength)

/-! ## Reading a description -/

/-- The value of a required attribute, if it is as it should be. -/
def checked? (attributes : List Xml.Attribute) (key : String) (isGood : String → Bool) :
    Option String :=
  (Xml.required? attributes key).filter isGood

/-- The text of an element must be well-formed. -/
def checkText? : Xml.Content → Option Unit
  | .text source => (Xml.unescape? source).map fun _ => ()
  | .element _ _ _ => some ()

/-- An annotation must have a name and a value. -/
def checkAnnotation? (source : List Char) (children : List Xml.Content) : Option Unit := do
  let attributes ← Xml.attributes? source
  let _ ← Xml.required? attributes "name"
  let _ ← Xml.required? attributes "value"
  children.forM checkText?

/-- In an element that may hold annotations, check these and the texts. -/
def checkAnnotations? : Xml.Content → Option Unit
  | .element name source children =>
    if Xml.localName name = "annotation" then checkAnnotation? source children else some ()
  | text => checkText? text

def direction? (value? : Option String) : Option (Option Direction) :=
  match value? with
  | none => some none
  | some word =>
    if word.isEmpty then some none
    else if word = "in" then some (some .input)
    else if word = "out" then some (some .output)
    else none

def isType (text : String) : Bool :=
  (Signature.read? text).isSome

def argument? (source : List Char) (children : List Xml.Content) : Option Argument := do
  let attributes ← Xml.attributes? source
  let name? ← Xml.optional? attributes "name"
  let direction? ← direction? (← Xml.optional? attributes "direction")
  let type ← checked? attributes "type" isType
  children.forM checkAnnotations?
  return ⟨name?.filter fun name => !name.isEmpty, direction?, type⟩

/-- Read one piece of a method or of a signal: an argument, if it is one. -/
def memberPart? : Xml.Content → Option (Option Argument)
  | .element name source children =>
    if Xml.localName name = "arg" then (argument? source children).map some
    else (checkAnnotations? (.element name source children)).map fun _ => none
  | text => (checkText? text).map fun _ => none

def member? (source : List Char) (children : List Xml.Content) : Option Member := do
  let attributes ← Xml.attributes? source
  let name ← checked? attributes "name" isMemberName
  let parts ← children.mapM memberPart?
  return ⟨name, parts.filterMap id⟩

/-- A property must have a name, a type and an access. -/
def checkProperty? (source : List Char) (children : List Xml.Content) : Option Unit := do
  let attributes ← Xml.attributes? source
  let _ ← checked? attributes "name" isPropertyName
  let _ ← checked? attributes "type" isType
  let _ ← checked? attributes "access" fun access =>
    ["read", "write", "readwrite"].contains access
  children.forM checkAnnotations?

/-- Read one piece of an interface: a method or a signal, if it is one. -/
def item? : Xml.Content → Option (Option Item)
  | .element name source children =>
    let kind := Xml.localName name
    if kind = "method" then (member? source children).map fun member => some (.method member)
    else if kind = "signal" then (member? source children).map fun member => some (.signal member)
    else if kind = "property" then (checkProperty? source children).map fun _ => none
    else (checkAnnotations? (.element name source children)).map fun _ => none
  | text => (checkText? text).map fun _ => none

def description? (source : List Char) (children : List Xml.Content) : Option Description := do
  let attributes ← Xml.attributes? source
  let name ← checked? attributes "name" isInterfaceName
  let items ← children.mapM item?
  return ⟨name, items.filterMap id⟩

/-- The attributes of a node, of which only the name is looked at. -/
def checkNode? (source : List Char) : Option Unit := do
  let attributes ← Xml.attributes? source
  let _ ← Xml.optional? attributes "name"
  return ()

mutual

/-- Read one piece of a node.  A node inside it must be well-formed too, but its
interfaces do not count. -/
def described? : Xml.Content → Option (List Description)
  | .element name source children => do
    if Xml.localName name = "interface" then
      return [← description? source children]
    else if Xml.localName name = "node" then
      checkNode? source
      let _ ← descriptions? children
      return []
    else return []
  | .text source => do
    checkText? (.text source)
    return []

/-- Read the interfaces directly inside a node. -/
def descriptions? : List Xml.Content → Option (List Description)
  | [] => some []
  | first :: rest => do
    let here ← described? first
    return here ++ (← descriptions? rest)

end

def read? (document : String) : Option (List Description) := do
  match ← Xml.read? document with
  | .element _ source children =>
    checkNode? source
    descriptions? children
  | .text _ => none

/-- The interfaces of the remote object that a document describes. -/
def interfaces? (document : String) : Option (List Interface) :=
  (read? document).map (List.map Description.interface)

end Introspection

end BusBridge
