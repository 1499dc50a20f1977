import BusBridge.Interface.Nickel
import BusBridge.Proofs.Session
import BusBridge.ScriptedBus

/-!
# Which requests reach the bus

An operation is checked before the bus hears of it: first the arguments, then the names
of the signals, then the subscription is requested, and the call is made last.  What
fails stops all that comes after it, so that the requests of an operation are known from
the first check that fails.
-/

namespace BusBridge

namespace Session

variable {σ : Type} {session : Session σ} {method : String} {tokens : List String}
  {signals : SignalSet} (limit : WaitLimit) (connection : Connection σ)

section Unarmed

/-- Arguments that no method takes stop everything, with names to wait for or without. -/
theorem invokeAndWait_of_prepare_eq_error {error : SessionError}
    (refused : session.prepare method tokens = .error error) :
    (session.invokeAndWait method tokens signals limit connection).1 = .failed error ∧
      connection.Reached (session.invokeAndWait method tokens signals limit connection).2 []
        connection.bus := by
  rw [invokeAndWait]
  cases asked : signals.isEmpty with
  | true =>
      obtain ⟨failed, reached⟩ := invoke_of_prepare_eq_error connection refused
      rw [if_pos rfl, invokeOnly_snd]
      exact ⟨invokeOnly_of_failed failed, reached⟩
  | false =>
      rw [if_neg Bool.false_ne_true, refused]
      exact ⟨rfl, ⟨by simp, rfl⟩⟩

/-- Without names there is only the call. -/
theorem invokeAndWait_of_isEmpty {prepared : PreparedCall} (unasked : signals.isEmpty = true)
    (chosen : session.prepare method tokens = .ok prepared) :
    connection.Reached (session.invokeAndWait method tokens signals limit connection).2
      [.call session.target (methodCall prepared)]
      (session.bus.call session.target (methodCall prepared) connection.bus).2 := by
  rw [invokeAndWait, if_pos unasked, invokeOnly_snd]
  exact invoke_of_prepare_eq_ok connection chosen

end Unarmed

section Armed

variable {α : Type} (go : ArmedWait → Connection σ → Outcome α × Connection σ)

/-- An unknown name is found before the bus hears of the operation. -/
theorem armThen_of_unknown
    (unknown : ∃ name ∈ signals.names, session.interface.hasSignal name = false) :
    (∃ name ∈ signals.names, session.interface.hasSignal name = false ∧
        (session.armThen signals go connection).1 = .failed (.signalNotFound name)) ∧
      connection.Reached (session.armThen signals go connection).2 [] connection.bus := by
  obtain ⟨name, member, missing⟩ := unknown
  obtain ⟨error, refused⟩ := exists_validate_eq_error member missing
  obtain ⟨first, found, unpublished, rfl⟩ := exists_unknown_of_validate_eq_error refused
  rw [armThen, arm_of_validate_eq_error connection refused]
  exact ⟨⟨first, found, unpublished, rfl⟩, ⟨by simp, rfl⟩⟩

variable (published : ∀ name ∈ signals.names, session.interface.hasSignal name = true)

include published

/-- A refused subscription stops what comes after it. -/
theorem armThen_of_refused {reason : String}
    (refused : (session.bus.subscribe session.target connection.bus).1 = .error reason) :
    (session.armThen signals go connection).1 = .failed (.subscription reason) ∧
      connection.Reached (session.armThen signals go connection).2
        [.subscribe session.target false]
        (session.bus.subscribe session.target connection.bus).2 := by
  obtain ⟨ending, reached⟩ :=
    arm_of_refused connection (validate_eq_ok_iff.mpr published) refused
  obtain ⟨failed, same⟩ := armThen_of_arm_eq_error connection go ending
  rw [same]
  exact ⟨failed, reached⟩

end Armed

section Refusing

end Refusing

end Session

end BusBridge
