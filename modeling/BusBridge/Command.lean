import BusBridge.CommandLine.Request
import BusBridge.Waiting.Limit
import BusBridge.Waiting.SignalSet

/-!
# Commands

A command that can be carried out.  The names of a typed command lose the blanks
around them and must not be blank; its arguments stay as they are.
-/

namespace BusBridge

/-- What the program is asked to do. -/
inductive Command
  | method (name : String) (arguments : List String) (signals : SignalSet) (limit : WaitLimit)
  | signal (signals : SignalSet) (limit : WaitLimit)
  | api
deriving DecidableEq, Repr

/-- Why a typed command cannot be carried out. -/
inductive CommandError
  | missingMethod
  | missingSignal
deriving DecidableEq, Repr

namespace CommandError

def message : CommandError → String
  | missingMethod => "the method name must be provided"
  | missingSignal => "signal names must not be blank"

end CommandError

namespace Command

/-- The set of the names without the blanks around them, unless one is blank. -/
def signalSet (names : List String) : Except CommandError SignalSet :=
  let trimmed := names.map Text.trim
  if trimmed.any String.isEmpty then .error .missingSignal else .ok (.ofList trimmed)

def ofTyped : TypedCommand → Except CommandError Command
  | .method name arguments signals seconds =>
    if (Text.trim name).isEmpty then .error .missingMethod
    else match signalSet signals with
      | .error error => .error error
      | .ok signals => .ok (.method (Text.trim name) arguments signals (.ofSeconds seconds))
  | .signal names seconds =>
    match signalSet names with
    | .error error => .error error
    | .ok signals =>
      if signals.isEmpty then .error .missingSignal
      else .ok (.signal signals (.ofSeconds seconds))
  | .api => .ok .api

theorem signalSet_of_isBlank {names : List String} {name : String} (member : name ∈ names)
    (blank : Text.IsBlank name) : signalSet names = .error .missingSignal := by
  have found : (names.map Text.trim).any String.isEmpty = true := by
    refine List.any_eq_true.mpr ⟨Text.trim name, List.mem_map_of_mem member, ?_⟩
    rw [Text.trim_of_isBlank blank]
    rfl
  rw [signalSet]
  exact if_pos found

theorem signalSet_of_isTrimmed {names : List String}
    (trimmed : ∀ name ∈ names, Text.IsTrimmed name) : signalSet names = .ok (.ofList names) := by
  have same : names.map Text.trim = names :=
    calc names.map Text.trim = names.map id :=
          List.map_congr_left fun name member => Text.trim_of_isTrimmed (trimmed name member)
      _ = names := List.map_id names
  have filled : names.any String.isEmpty = false := by
    rw [List.any_eq_false]
    intro name member
    rw [String.isEmpty_iff]
    rintro rfl
    exact (trimmed "" member).ne_empty rfl
  rw [signalSet, same]
  exact if_neg (filled ▸ Bool.false_ne_true)

section Trimmed

variable {name : String} {names : List String} (seconds : Nat)

theorem ofTyped_method_of_isTrimmed (arguments : List String) (trimmed : Text.IsTrimmed name)
    (others : ∀ name ∈ names, Text.IsTrimmed name) :
    ofTyped (.method name arguments names seconds) =
      .ok (.method name arguments (.ofList names) (.ofSeconds seconds)) := by
  have filled : name.isEmpty = false := by
    rw [String.isEmpty_eq_false_iff]
    rintro rfl
    exact trimmed.ne_empty rfl
  rw [ofTyped, Text.trim_of_isTrimmed trimmed, filled, signalSet_of_isTrimmed others]
  rfl

theorem ofTyped_signal_of_isTrimmed (named : names ≠ [])
    (trimmed : ∀ name ∈ names, Text.IsTrimmed name) :
    ofTyped (.signal names seconds) = .ok (.signal (.ofList names) (.ofSeconds seconds)) := by
  rw [ofTyped, signalSet_of_isTrimmed trimmed]
  simp [SignalSet.isEmpty_ofList named]

end Trimmed

/-- One of the names that were typed is blank. -/
def HasBlankName : TypedCommand → Prop
  | .method name _ signals _ => Text.IsBlank name ∨ ∃ signal ∈ signals, Text.IsBlank signal
  | .signal names _ => ∃ name ∈ names, Text.IsBlank name
  | .api => False

theorem ofTyped_of_hasBlankName {typed : TypedCommand} (blank : HasBlankName typed) :
    ∃ error, ofTyped typed = .error error := by
  cases typed with
  | method name arguments signals seconds =>
      rw [ofTyped]
      split
      · exact ⟨.missingMethod, rfl⟩
      · next named =>
          rcases blank with blank | ⟨signal, member, blank⟩
          · rw [Text.trim_of_isBlank blank] at named
            exact absurd rfl named
          · rw [signalSet_of_isBlank member blank]
            exact ⟨.missingSignal, rfl⟩
  | signal names seconds =>
      obtain ⟨name, member, blank⟩ := blank
      rw [ofTyped, signalSet_of_isBlank member blank]
      exact ⟨.missingSignal, rfl⟩
  | api => exact blank.elim

end Command

end BusBridge
