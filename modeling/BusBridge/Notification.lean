import BusBridge.Value

/-!
# Notifications

A signal as it arrives from the bus.  Its member name may be qualified by a
namespace; a wait goes by the part after the last dot.
-/

namespace BusBridge

def afterLastDot (characters : List Char) : List Char :=
  (characters.reverse.takeWhile (· ≠ '.')).reverse

/-- The part of a name after the last dot, or the whole name if it has none. -/
def shortName (name : String) : String :=
  String.ofList (afterLastDot name.toList)

structure Notification where
  member : String
  values : List Value
deriving DecidableEq, Repr, Inhabited

namespace Notification

def shortName (notification : Notification) : String :=
  BusBridge.shortName notification.member

end Notification

end BusBridge
