import BusBridge.Command
import BusBridge.Interface.Nickel
import BusBridge.Proofs.Session
import BusBridge.ScriptedBus
import BusBridge.Text.RawText
import Mathlib.Data.List.Sort
import Mathlib.Data.String.Basic
import Mathlib.Tactic.MkIffOfInductiveProp
import Mathlib.Tactic.SplitIfs
import Mathlib.Tactic.Tauto

/-!
# The order of signal names

The names of the signals to wait for are kept in the order of their UTF-8 bytes, which is that
of their code points.  In which order they were given and how often cannot be seen, neither on
the bus nor in the name that is reported if some of them are not published.
-/

namespace BusBridge

namespace RawText

section Order

/-- A byte decides unless it is tied. -/
theorem ofNat_cons_lt {low high : Nat} {rest others : List UInt8} (small : high < 256)
    (order : low ≤ high) (tied : low = high → rest < others) :
    UInt8.ofNat low :: rest < UInt8.ofNat high :: others := by
  rw [List.cons_lt_cons_iff, UInt8.lt_iff_toNat_lt, UInt8.toNat_ofNat', UInt8.toNat_ofNat']
  rcases Nat.lt_or_eq_of_le order with below | rfl
  · left
    omega
  · exact .inr ⟨rfl, tied rfl⟩

/-- The order is decided within the bytes of the first characters that differ. -/
theorem utf8EncodeChar_append_lt {first second : Char} (order : first < second)
    (rest others : List UInt8) :
    String.utf8EncodeChar first ++ rest < String.utf8EncodeChar second ++ others := by
  have codes : first.val.toNat < second.val.toNat := order
  have top : second.val.toNat < 0x110000 := by
    have valid : second.val.toNat.isValidChar := second.valid
    unfold Nat.isValidChar at valid
    omega
  simp only [String.utf8EncodeChar]
  generalize first.val.toNat = low at codes ⊢
  generalize second.val.toNat = high at codes top ⊢
  -- A longer form starts with a greater byte; forms of one length differ in some digit to the
  -- base 64, and no digit before it differs.
  split_ifs
  all_goals
    simp only [List.cons_append, List.nil_append]
    repeat refine ofNat_cons_lt (by omega) (by omega) fun tied => ?_
    omega

theorem flatMap_utf8EncodeChar_lt {first second : List Char} (order : first < second) :
    first.flatMap String.utf8EncodeChar < second.flatMap String.utf8EncodeChar := by
  induction first generalizing second with
  | nil =>
      cases second with
      | nil => exact absurd order (List.lt_irrefl [])
      | cons other others =>
          obtain ⟨byte, bytes, encoded⟩ :=
            List.exists_cons_of_ne_nil (@String.utf8EncodeChar_ne_nil other)
          rw [List.flatMap_cons, encoded]
          exact List.nil_lt_cons _ _
  | cons character characters ih =>
      cases second with
      | nil => exact absurd order (List.not_lt_nil _)
      | cons other others =>
          rw [List.flatMap_cons, List.flatMap_cons]
          rcases List.cons_lt_cons_iff.mp order with below | ⟨rfl, later⟩
          · exact utf8EncodeChar_append_lt below _ _
          · exact List.append_left_lt (ih later)

end Order

end RawText

namespace Text

/-- The first text comes before the second in the order of their UTF-8 bytes. -/
def Precedes (first second : String) : Prop :=
  (RawText.ofString first).bytes < (RawText.ofString second).bytes

section Order

variable {first second : String}

instance : Decidable (Precedes first second) :=
  inferInstanceAs (Decidable (_ < _))

theorem precedes_of_lt (order : first < second) : Precedes first second := by
  rw [Precedes, RawText.bytes_eq_flatMap, RawText.bytes_eq_flatMap]
  exact RawText.flatMap_utf8EncodeChar_lt (String.lt_iff.mp order)

theorem precedes_iff_lt : Precedes first second ↔ first < second := by
  refine ⟨fun precedes => ?_, precedes_of_lt⟩
  rcases lt_trichotomy first second with below | rfl | above
  · exact below
  · exact absurd precedes (List.lt_irrefl _)
  · exact absurd precedes (List.lt_asymm (precedes_of_lt above))

theorem map_toNat_lt_iff {first second : List Char} :
    first.map Char.toNat < second.map Char.toNat ↔ first < second := by
  induction first generalizing second with
  | nil => cases second <;> simp
  | cons character characters ih =>
      cases second with
      | nil => simp
      | cons other others =>
          rw [List.map_cons, List.map_cons, List.cons_lt_cons_iff, List.cons_lt_cons_iff, ih,
            Char.toNat_inj]
          rfl

/-- The order of the bytes is that of the code points. -/
theorem precedes_iff_codes :
    Precedes first second ↔ first.toList.map Char.toNat < second.toList.map Char.toNat := by
  rw [precedes_iff_lt, map_toNat_lt_iff, String.lt_iff]

end Order

end Text

namespace SignalSet

theorem eq_of_contains {one other : SignalSet}
    (same : ∀ name, one.contains name = true ↔ other.contains name = true) : one = other := by
  obtain ⟨names, sorted⟩ := one
  obtain ⟨others, rising⟩ := other
  simp only [contains, List.contains_iff_mem] at same
  obtain rfl := sorted.eq_of_mem_iff rising same
  rfl

theorem mem_names_ofList {name : String} {names : List String} :
    name ∈ (ofList names).names ↔ name ∈ names := by
  rw [← @contains_ofList name names, contains, List.contains_iff_mem]

theorem ofList_eq_of_mem_iff {first second : List String}
    (same : ∀ name, name ∈ first ↔ name ∈ second) : ofList first = ofList second := by
  apply eq_of_contains
  intro name
  rw [contains_ofList, contains_ofList, same]

theorem pairwise_precedes (signals : SignalSet) : signals.names.Pairwise Text.Precedes :=
  signals.sorted.imp Text.precedes_of_lt

end SignalSet

namespace Interface

/-- There is a signal of this name in the interface. -/
def Publishes (interface : Interface) (name : String) : Prop :=
  ∃ signal ∈ interface.signals, signal.name = name

/-- Of the names that the interface does not publish this one comes before all others. -/
@[mk_iff]
structure FirstMissing (interface : Interface) (names : List String) (name : String) : Prop where
  mem : name ∈ names
  missing : ¬interface.Publishes name
  precedes : ∀ other ∈ names, ¬interface.Publishes other →
    other = name ∨ Text.Precedes name other

section Missing

variable {interface : Interface} {names : List String} {name other : String}

theorem hasSignal_iff : interface.hasSignal name = true ↔ interface.Publishes name := by
  rw [hasSignal, List.any_eq_true]
  simp only [decide_eq_true_eq, Publishes]

instance : Decidable (interface.Publishes name) :=
  decidable_of_iff _ hasSignal_iff

theorem FirstMissing.unique (first : interface.FirstMissing names name)
    (further : interface.FirstMissing names other) : name = other := by
  rcases first.precedes other further.mem further.missing with same | before
  · exact same.symm
  · rcases further.precedes name first.mem first.missing with same | after
    · exact same
    · exact absurd after (List.lt_asymm before)

end Missing

end Interface

namespace Command

variable {first second : List String}

theorem signalSet_eq_of_mem_iff (same : ∀ name, name ∈ first ↔ name ∈ second) :
    signalSet first = signalSet second := by
  have trimmed : ∀ name, name ∈ first.map Text.trim ↔ name ∈ second.map Text.trim := by
    intro name
    simp only [List.mem_map, same]
  have blank : (first.map Text.trim).any String.isEmpty =
      (second.map Text.trim).any String.isEmpty := by
    rw [Bool.eq_iff_iff, List.any_eq_true, List.any_eq_true]
    simp only [trimmed]
  rw [signalSet, signalSet, blank, SignalSet.ofList_eq_of_mem_iff trimmed]

end Command

namespace Session

section Validation

variable {σ τ : Type} {session : Session σ} {signals : SignalSet} {error : SessionError}

theorem firstMissing_of_validate_eq_error (refused : session.validate signals = .error error) :
    ∃ name, session.interface.FirstMissing signals.names name ∧ error = .signalNotFound name := by
  rw [validate] at refused
  cases unknown : signals.names.find? fun name => !session.interface.hasSignal name with
  | none => simp [unknown] at refused
  | some name =>
      rw [unknown] at refused
      obtain ⟨missing, before, after, split, known⟩ := List.find?_eq_some_iff_append.mp unknown
      refine ⟨name, ⟨List.mem_of_find?_eq_some unknown, ?_, fun other member absent => ?_⟩,
        (Except.error.inj refused).symm⟩
      · simpa [← Interface.hasSignal_iff] using missing
      · have rising := signals.pairwise_precedes
        rw [split] at member rising
        rcases List.mem_append.mp member with earlier | later
        · exact absurd (Interface.hasSignal_iff.mp (by simpa using known other earlier)) absent
        · rcases List.mem_cons.mp later with same | later
          · exact .inl same
          · obtain ⟨-, following, -⟩ := List.pairwise_append.mp rising
            exact .inr ((List.pairwise_cons.mp following).1 other later)

/-- The name that is reported is told by the set alone. -/
theorem validate_eq_error_iff :
    session.validate signals = .error error ↔
      ∃ name, session.interface.FirstMissing signals.names name ∧
        error = .signalNotFound name := by
  refine ⟨firstMissing_of_validate_eq_error, ?_⟩
  rintro ⟨name, first, rfl⟩
  have unknown : session.interface.hasSignal name = false :=
    Bool.eq_false_iff.mpr fun known => first.missing (Interface.hasSignal_iff.mp known)
  obtain ⟨error, refused⟩ := exists_validate_eq_error first.mem unknown
  obtain ⟨other, further, rfl⟩ := firstMissing_of_validate_eq_error refused
  rw [refused, first.unique further]

theorem validate_eq_ok_iff_publishes :
    session.validate signals = .ok () ↔
      ∀ name ∈ signals.names, session.interface.Publishes name := by
  simp only [validate_eq_ok_iff, Interface.hasSignal_iff]

/-- The order in which the interface lists its signals does not matter. -/
theorem validate_congr {other : Session τ}
    (same : ∀ name, other.interface.Publishes name ↔ session.interface.Publishes name) :
    other.validate signals = session.validate signals := by
  have alike (name : String) :
      other.interface.hasSignal name = session.interface.hasSignal name := by
    rw [Bool.eq_iff_iff, Interface.hasSignal_iff, Interface.hasSignal_iff, same]
  rw [validate, validate]
  simp only [alike]

end Validation

/-- Lists of names with the same elements give one set, in the order of the UTF-8 bytes and so of
the code points.  Commands with the one list and with the other are the same, and so are all
operations of a session with their effects on the bus.  The names are accepted if all of them are
published; otherwise the first one in that order is reported of those that are not, in whatever
order the names were given and the interface lists its signals. -/
theorem order_of_names_does_not_matter {first second : List String}
    (same : ∀ name, name ∈ first ↔ name ∈ second) :
    let signals := SignalSet.ofList first
    SignalSet.ofList second = signals ∧
      (∀ name, name ∈ signals.names ↔ name ∈ first) ∧
      signals.names.Pairwise Text.Precedes ∧
      (∀ one other : String, Text.Precedes one other ↔
        one.toList.map Char.toNat < other.toList.map Char.toNat) ∧
      (∀ (name : String) (arguments : List String) (seconds : Nat),
        Command.ofTyped (.method name arguments second seconds) =
          Command.ofTyped (.method name arguments first seconds)) ∧
      (∀ seconds : Nat, Command.ofTyped (.signal second seconds) =
        Command.ofTyped (.signal first seconds)) ∧
      ∀ {σ : Type} (session : Session σ),
        session.validate (.ofList second) = session.validate signals ∧
        (∀ connection : Connection σ,
          session.arm (.ofList second) connection = session.arm signals connection ∧
          ∀ limit : WaitLimit,
            session.wait (.ofList second) limit connection =
              session.wait signals limit connection ∧
            ∀ (method : String) (tokens : List String),
              session.invokeAndWait method tokens (.ofList second) limit connection =
                session.invokeAndWait method tokens signals limit connection) ∧
        (session.validate signals = .ok () ↔
          ∀ name ∈ first, session.interface.Publishes name) ∧
        (∀ error, session.validate signals = .error error ↔
          ∃ name, session.interface.FirstMissing first name ∧ error = .signalNotFound name) ∧
        ∀ {τ : Type} (other : Session τ),
          (∀ name, other.interface.Publishes name ↔ session.interface.Publishes name) →
          other.validate (.ofList second) = session.validate signals := by
  intro signals
  have sets : SignalSet.ofList second = signals :=
    SignalSet.ofList_eq_of_mem_iff fun name => (same name).symm
  have typed : Command.signalSet second = Command.signalSet first :=
    Command.signalSet_eq_of_mem_iff fun name => (same name).symm
  refine ⟨sets, fun name => SignalSet.mem_names_ofList, signals.pairwise_precedes,
    fun one other => Text.precedes_iff_codes, fun name arguments seconds => ?_,
    fun seconds => ?_, fun {σ} session => ?_⟩
  · rw [Command.ofTyped, Command.ofTyped, typed]
  · rw [Command.ofTyped, Command.ofTyped, typed]
  rw [sets]
  refine ⟨rfl, fun connection => ⟨rfl, fun limit => ⟨rfl, fun method tokens => rfl⟩⟩, ?_, ?_, ?_⟩
  · rw [validate_eq_ok_iff_publishes]
    simp only [signals, SignalSet.mem_names_ofList]
  · intro error
    rw [validate_eq_error_iff]
    simp only [signals, Interface.firstMissing_iff, SignalSet.mem_names_ofList]
  · intro τ other published
    exact validate_congr published

/-- Of the two names that are unknown the one is reported that comes first by code points; by the
units of UTF-16 it would be the other one. -/
theorem letter_before_face :
    let names := ["😀", "pfmDoneProcessing", "Ａ", "😀"]
    let others := ["Ａ", "😀", "pfmDoneProcessing", "Ａ"]
    let session : Session ScriptedBus :=
      ⟨ScriptedBus.bus, Target.nickel, Interface.nickel, .callFirst⟩
    (∀ name, name ∈ names ↔ name ∈ others) ∧
      SignalSet.ofList others = SignalSet.ofList names ∧
      session.validate (.ofList names) = .error (.signalNotFound "Ａ") := by
  intro names others session
  have same : ∀ name, name ∈ names ↔ name ∈ others := by
    intro name
    simp only [names, others, List.mem_cons, List.not_mem_nil, or_false]
    tauto
  obtain ⟨sets, -, -, -, -, -, operations⟩ := order_of_names_does_not_matter same
  obtain ⟨-, -, -, refused, -⟩ := operations session
  refine ⟨same, sets, (refused _).mpr ⟨"Ａ", ⟨by decide, ?_, ?_⟩, rfl⟩⟩
  · decide
  · decide

end Session

end BusBridge
