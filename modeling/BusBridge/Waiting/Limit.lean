/-!
# Limits on the length of a wait

A wait takes at most a positive number of whole seconds, or as long as it takes.
-/

namespace BusBridge

/-- How long a wait may take. -/
inductive WaitLimit
  | never
  | seconds (count : Nat) (positive : 0 < count)
deriving DecidableEq, Repr, Inhabited

namespace WaitLimit

/-- A limit of so many seconds; zero stands for no limit. -/
def ofSeconds (count : Nat) : WaitLimit :=
  if positive : 0 < count then .seconds count positive else .never

def seconds? : WaitLimit → Option Nat
  | never => none
  | seconds count _ => some count

theorem seconds?_ofSeconds (count : Nat) :
    (ofSeconds count).seconds? = if count = 0 then none else some count := by
  rw [ofSeconds]
  split
  · next positive => rw [if_neg (Nat.ne_of_gt positive), seconds?]
  · next zero => rw [if_pos (by omega), seconds?]

def milliseconds? (limit : WaitLimit) : Option Nat :=
  limit.seconds?.map (· * 1000)

def display : WaitLimit → String
  | never => "no timeout"
  | seconds count _ => s!"{count}s"

end WaitLimit

end BusBridge
