import BusBridge.Proofs.LimitedOutput
import BusBridge.Proofs.ListingReading
import BusBridge.Proofs.Rejections
import BusBridge.Proofs.SignalOrder

/-!
# What is listed can be done

The listing of an interface is held against the choice among overloads and against the check of
signal names.  Whether a call finds a method, which arguments it sends and why it is rejected can
be told from the lines of the methods, and what can be waited for from the lines of the signals.
-/

namespace BusBridge

namespace Method

theorem fits_listed_iff {method : Method} {name : String} {arity : Nat} :
    method.listed.Fits name arity ↔ method.Matches name arity := by
  rw [ListedMember.Fits, listed, List.length_map]
  rfl

theorem conversions_listed (method : Method) (tokens : List String) :
    method.listed.conversions tokens = Invocation.convert method.inputs tokens :=
  List.zipWith_map_left

end Method

namespace Listing

open Invocation

variable {first : List (Except CoercionError Value)}
  {others : List (List (Except CoercionError Value))}

theorem filterMap_rejected?_isEmpty (conversions : List (Except CoercionError Value)) :
    (conversions.filterMap rejected?).isEmpty = conversions.all Except.isOk := by
  rw [Bool.eq_iff_iff, List.isEmpty_iff, List.filterMap_eq_nil_iff, List.all_eq_true]
  refine forall₂_congr fun conversion _ => ?_
  cases conversion <;> simp [rejected?, Except.isOk, Except.toBool]

theorem firstConverted_cons_of_all (all : first.all Except.isOk = true) :
    firstConverted (first :: others) = .ok (first.filterMap accepted?) := by
  simp only [firstConverted, List.find?_cons, all]

theorem firstConverted_cons_of_not_all (refused : first.all Except.isOk = false) :
    firstConverted (first :: others) =
      match firstConverted others with
      | .ok arguments => .ok arguments
      | .error failures => .error (first.filterMap rejected? ++ failures) := by
  simp only [firstConverted, List.find?_cons, refused]
  cases others.find? fun conversions => conversions.all Except.isOk <;> rfl

/-- The candidates are tried as their lines say. -/
theorem map_arguments_firstAccepting (tokens : List String) (methods : List Method) :
    (firstAccepting tokens methods).map PreparedCall.arguments =
      firstConverted (methods.map fun method => method.listed.conversions tokens) := by
  induction methods with
  | nil => rfl
  | cons method others ih =>
      rw [List.map_cons, firstAccepting, coerceArguments, Method.conversions_listed]
      rw [filterMap_rejected?_isEmpty]
      cases all : (convert method.inputs tokens).all Except.isOk with
      | true =>
          rw [firstConverted_cons_of_all all]
          rfl
      | false =>
          rw [firstConverted_cons_of_not_all all, ← ih]
          cases firstAccepting tokens others <;> rfl

theorem map_arguments_prepare (interface : Interface) (name : String) (tokens : List String) :
    (prepare interface name tokens).map PreparedCall.arguments =
      interface.listed.answer name tokens := by
  have fitting : interface.listed.methods.filter (·.Fits name tokens.length) =
      (candidates interface name tokens.length).map Method.listed := by
    rw [candidates_eq_filter_matches, Interface.listed, List.filter_map]
    simp only [Function.comp_def, Method.fits_listed_iff]
  rw [answer, fitting, List.map_map, Function.comp_def, ← map_arguments_firstAccepting, prepare]
  cases firstAccepting tokens (candidates interface name tokens.length) <;> rfl

end Listing

namespace Invocation

variable {interface : Interface} {name : String} {tokens : List String}

/-- A method is not found only where there is none of this name and arity. -/
theorem prepare_eq_methodNotFound_iff :
    (∃ other arity, prepare interface name tokens = .error (.methodNotFound other arity)) ↔
      ∀ method ∈ interface.methods, ¬method.Matches name tokens.length := by
  constructor
  · rintro ⟨other, arity, missing⟩
    obtain ⟨diagnosis, refused⟩ := prepare_eq_error_iff.mp missing
    rcases rejection_cases name tokens.length
      ((misfits interface name tokens).map Misfit.failure) with
      ⟨none, -⟩ | ⟨tag, -, -, wrong⟩ | ⟨token, type, fault, -, wrong⟩
    · exact (misfits_eq_nil_iff refused).mp (List.map_eq_nil_iff.mp none)
    · cases diagnosis.trans wrong
    · cases diagnosis.trans wrong
  · intro unknown
    have refused : ∀ method ∈ interface.methods, method.Matches name tokens.length →
        failuresOf tokens method ≠ [] :=
      fun method declared fits => absurd fits (unknown method declared)
    refine ⟨name, tokens.length, prepare_eq_error_iff.mpr ⟨?_, refused⟩⟩
    rw [(misfits_eq_nil_iff refused).mpr unknown]
    rfl

end Invocation

namespace Listing

theorem exists_line_iff {β : Type} {write : β → List Char} {told : β → ListedMember}
    {written : List β} {P : ListedMember → Prop}
    (reads : ∀ item ∈ written, ListedMember.read? (write item) = some (told item)) :
    (∃ line ∈ written.map write, ∃ member, ListedMember.read? line = some member ∧ P member) ↔
      ∃ item ∈ written, P (told item) := by
  constructor
  · rintro ⟨_, listed, member, read, holds⟩
    obtain ⟨item, here, rfl⟩ := List.mem_map.mp listed
    obtain rfl := Option.some.inj ((reads item here).symm.trans read)
    exact ⟨item, here, holds⟩
  · rintro ⟨item, here, holds⟩
    exact ⟨write item, List.mem_map_of_mem here, told item, reads item here, holds⟩

theorem forall₂_lines {β : Type} {write : β → List Char} {told : β → ListedMember}
    {written : List β}
    (reads : ∀ item ∈ written, ListedMember.read? (write item) = some (told item)) :
    List.Forall₂ (fun item line => ListedMember.read? line = some (told item)) written
      (written.map write) := by
  rw [List.forall₂_map_right_iff, List.forall₂_same]
  exact reads

/-- The listing consists of a heading, a line for every method in the order of declaration, a blank
line, another heading and a line for every signal.  The line of a method tells its name and the
types of its inputs, and nothing of what it gives back.  A call finds a method if and only if there
is a line with its name and as many entries as there are tokens.  Its arguments, or the reasons why
it is rejected, are the conversions to the types of these lines.  A signal can be waited for if and
only if there is a line with its name. -/
theorem listing_tells_what_can_be_done {interface : Interface} (worded : interface.Worded) :
    ∃ (text : String) (methods signals : List (List Char)) (listing : Listing),
      ((Sink.empty none).write (Output.api .human interface)).2.accepted =
          (RawText.ofString text).bytes ∧
        text.toList.splitOn '\n' =
          [methodsHeading.toList] ++ methods ++ [[], signalsHeading.toList] ++ signals ++ [[]] ∧
        List.Forall₂ (fun (method : Method) line => ListedMember.read? line =
          some ⟨method.name, method.inputs.map Parameter.type⟩) interface.methods methods ∧
        List.Forall₂ (fun (signal : Signal) line => ListedMember.read? line =
          some ⟨signal.name, signal.parameters.map Parameter.type⟩) interface.signals signals ∧
        Listing.read? text = some listing ∧
        (∀ (name : String) (tokens : List String),
          ((∀ other arity, Invocation.prepare interface name tokens ≠
              .error (.methodNotFound other arity)) ↔
            ∃ line ∈ methods, ∃ member, ListedMember.read? line = some member ∧
              member.Fits name tokens.length) ∧
          (Invocation.prepare interface name tokens).map PreparedCall.arguments =
            listing.answer name tokens) ∧
        ∀ {σ : Type} (session : Session σ), session.interface = interface → ∀ name : String,
          session.validate (.ofList [name]) = .ok () ↔
            ∃ line ∈ signals, ∃ member, ListedMember.read? line = some member ∧
              member.name = name := by
  have methods := Output.read?_methodLine worded
  have signals := Output.read?_signalLine worded
  refine ⟨Output.listing interface, _, _, interface.listed, ?_, ?_, forall₂_lines methods,
    forall₂_lines signals, Output.read?_listing worded, fun name tokens => ⟨?_, ?_⟩, ?_⟩
  · rw [Output.accepted_unlimited]
    exact List.append_nil _
  · rw [Output.splitOn_listing worded, Output.listingLines]
    simp
  · rw [exists_line_iff methods]
    simp only [Method.fits_listed_iff]
    rw [← not_iff_not]
    push Not
    exact Invocation.prepare_eq_methodNotFound_iff
  · exact map_arguments_prepare interface name tokens
  · rintro σ session rfl name
    rw [Session.validate_eq_ok_iff_publishes, exists_line_iff signals]
    simp [SignalSet.mem_names_ofList, Interface.Publishes, Signal.listed]

/-- Both methods are listed with one entry; what they give back is not counted. -/
theorem overloads_are_listed :
    let byNumber : Method := ⟨"open", [⟨none, .output, "b"⟩, ⟨none, .input, "i"⟩]⟩
    let byTitle : Method := ⟨"open", [⟨some "title", .input, "s"⟩, ⟨none, .output, "b"⟩]⟩
    let shelf : Interface := ⟨"shelf", [byNumber, byTitle], [⟨"opened", []⟩]⟩
    let session : Session ScriptedBus := ⟨ScriptedBus.bus, Target.nickel, shelf, .callFirst⟩
    shelf.Worded ∧
      (∀ other arity, Invocation.prepare shelf "open" ["7th"] ≠
        .error (.methodNotFound other arity)) ∧
      session.validate (.ofList ["opened"]) = .ok () := by
  intro byNumber byTitle shelf session
  have worded : shelf.Worded := by decide +kernel
  obtain ⟨text, methods, signals, listing, -, -, called, waited, -, calls, waits⟩ :=
    listing_tells_what_can_be_done worded
  obtain ⟨line, others, shown, -, rfl⟩ := List.forall₂_cons_left_iff.mp called
  obtain ⟨other, further, told, -, rfl⟩ := List.forall₂_cons_left_iff.mp waited
  exact ⟨worded, (calls "open" ["7th"]).1.mpr ⟨line, List.mem_cons_self, _, shown, rfl, rfl⟩,
    (waits session rfl "opened").mpr ⟨other, List.mem_cons_self, _, told, rfl⟩⟩

end Listing

end BusBridge
