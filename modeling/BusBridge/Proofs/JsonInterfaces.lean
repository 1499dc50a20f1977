import BusBridge.Proofs.JsonLines

/-!
# Interfaces in JSON

The JSON form of an interface keeps everything: a line of output is the listing of one interface
only.  From the bytes the document is told, from the document the members, and from each member
its parameters.
-/

namespace BusBridge

open Function

theorem Direction.word_injective : Injective Direction.word := by
  intro first second same
  cases first with
  | input =>
      cases second with
      | input => rfl
      | output => exact absurd same (by decide)
  | output =>
      cases second with
      | input => exact absurd same (by decide)
      | output => rfl

namespace Parameter

/-- A parameter without a name has no such member, so it differs from one with an empty name. -/
theorem toJson_injective : Injective toJson := by
  rintro ⟨name, direction, type⟩ ⟨otherName, otherDirection, otherType⟩ same
  have members := Json.object.inj same
  cases name with
  | none =>
      cases otherName with
      | none =>
          simp only [List.nil_append, List.cons.injEq, Prod.mk.injEq, Json.string.injEq] at members
          obtain ⟨⟨-, words⟩, ⟨-, rfl⟩, -⟩ := members
          rw [Direction.word_injective words]
      | some other => simp at members
  | some text =>
      cases otherName with
      | none => simp at members
      | some other =>
          simp only [List.cons_append, List.nil_append, List.cons.injEq, Prod.mk.injEq,
            Json.string.injEq] at members
          obtain ⟨⟨-, rfl⟩, ⟨-, words⟩, ⟨-, rfl⟩, -⟩ := members
          rw [Direction.word_injective words]

theorem plain_toJson (parameter : Parameter) : parameter.toJson.Plain := by
  refine .object ?_
  rw [List.forall_mem_append]
  constructor
  · cases parameter.name with
    | none => nofun
    | some name => exact List.forall_mem_singleton.mpr (.string name)
  · simp only [List.forall_mem_cons]
    exact ⟨.string _, .string _, nofun⟩

end Parameter

namespace Method

theorem toJson_injective : Injective toJson := by
  rintro ⟨name, parameters⟩ ⟨other, others⟩ same
  simp only [toJson, Json.object.injEq, List.cons.injEq, Prod.mk.injEq, Json.string.injEq,
    Json.array.injEq] at same
  obtain ⟨⟨-, rfl⟩, ⟨-, items⟩, -⟩ := same
  rw [List.map_injective_iff.mpr Parameter.toJson_injective items]

theorem plain_toJson (method : Method) : method.toJson.Plain := by
  refine .object ?_
  simp only [List.forall_mem_cons]
  exact ⟨.string _, Json.plain_array fun parameter _ => parameter.plain_toJson, nofun⟩

end Method

namespace Signal

/-- In JSON a signal looks like a method. -/
theorem toJson_eq (signal : Signal) :
    signal.toJson = Method.toJson ⟨signal.name, signal.parameters⟩ :=
  rfl

theorem toJson_injective : Injective toJson := by
  rintro ⟨name, parameters⟩ ⟨other, others⟩ same
  rw [toJson_eq, toJson_eq] at same
  obtain ⟨rfl, rfl⟩ := Method.mk.inj (Method.toJson_injective same)
  rfl

theorem plain_toJson (signal : Signal) : signal.toJson.Plain := by
  rw [toJson_eq]
  exact Method.plain_toJson _

end Signal

namespace Interface

theorem toJson_injective : Injective toJson := by
  rintro ⟨name, methods, signals⟩ ⟨otherName, otherMethods, otherSignals⟩ same
  simp only [toJson, Json.object.injEq, List.cons.injEq, Prod.mk.injEq, Json.string.injEq,
    Json.array.injEq] at same
  obtain ⟨⟨-, rfl⟩, ⟨-, methods⟩, ⟨-, signals⟩, -⟩ := same
  rw [List.map_injective_iff.mpr Method.toJson_injective methods,
    List.map_injective_iff.mpr Signal.toJson_injective signals]

theorem plain_toJson (interface : Interface) : interface.toJson.Plain := by
  refine .object ?_
  simp only [List.forall_mem_cons]
  exact ⟨.string _, Json.plain_array fun method _ => method.plain_toJson,
    Json.plain_array fun signal _ => signal.plain_toJson, nofun⟩

end Interface

namespace Output

/-- A line stands for one document only. -/
theorem IsLine.unique {bytes : List UInt8} {document other : Json} (first : IsLine bytes document)
    (second : IsLine bytes other) : document = other := by
  obtain ⟨line, written, -, read⟩ := first
  obtain ⟨twin, same, -, further⟩ := second
  have texts := (List.append_inj' (written.symm.trans same) rfl).1
  obtain rfl : line = twin := RawText.ofString_injective (congrArg RawText.mk texts)
  exact Option.some.inj (read.symm.trans further)

theorem isLine_api (interface : Interface) :
    IsLine ((Sink.empty none).write (Output.api .json interface)).2.accepted interface.toJson := by
  rw [accepted_unlimited]
  exact isLine_document interface.plain_toJson

/-- Nothing is lost in the JSON form of an interface: it is written to one line, which is ended by
the only line break and reads back as its document, and no other interface is written to the same
bytes, whatever the texts in it. -/
theorem json_listing_tells_interface :
    (∀ interface : Interface,
      IsLine ((Sink.empty none).write (Output.api .json interface)).2.accepted interface.toJson) ∧
    ∀ first second : Interface,
      ((Sink.empty none).write (Output.api .json first)).2.accepted =
          ((Sink.empty none).write (Output.api .json second)).2.accepted ↔
        first = second := by
  refine ⟨isLine_api, fun first second => ⟨fun same => ?_, fun same => by rw [same]⟩⟩
  have told := isLine_api second
  rw [← same] at told
  exact Interface.toJson_injective ((isLine_api first).unique told)

/-- An absent name is not written like an empty one. -/
example :
    (Parameter.toJson ⟨none, .input, "s"⟩).write ≠
      (Parameter.toJson ⟨some "", .input, "s"⟩).write := by
  decide +kernel

end Output

end BusBridge
