import BusBridge.Output
import BusBridge.Proofs.CarriedElements
import Mathlib.Data.List.Forall2

/-!
# Variants around the elements of a message

How many variants stand around an element cannot be seen in what is read from it.  Two messages
that differ in nothing else mean the same, with one exception: a structure that makes up a whole
message is taken apart if no variant is around it, and is one element otherwise.
-/

namespace BusBridge

namespace WireValue

theorem toValue_iterate_variant (layers : Nat) (value : WireValue) :
    (variant^[layers] value).toValue = value.toValue := by
  rw [← toValue_core, core_iterate_variant, toValue_core]

theorem toValue_iterate_toWire {value : Value} (scalar : ∀ text, value ≠ .other text)
    (layers : Nat) : (variant^[layers] value.toWire).toValue = value := by
  rw [toValue_iterate_variant]
  cases value with
  | other text => exact absurd rfl (scalar text)
  | _ => rfl

theorem LayersApart.toValue_eq {first second : WireValue} (apart : LayersApart first second) :
    first.toValue = second.toValue := by
  rw [← first.toValue_core, layersApart_iff.mp apart, second.toValue_core]

theorem LayersApart.symm {first second : WireValue} (apart : LayersApart first second) :
    LayersApart second first :=
  layersApart_iff.mpr (layersApart_iff.mp apart).symm

theorem map_toValue_eq {first second : List WireValue}
    (apart : List.Forall₂ LayersApart first second) :
    first.map toValue = second.map toValue := by
  induction apart with
  | nil => rfl
  | cons here later ih => rw [List.map_cons, List.map_cons, here.toValue_eq, ih]

end WireValue

namespace MessageBody

variable {first second : MessageBody}

/-- The bodies have the same elements, with any number of variants around each. -/
def LayersApart (first second : MessageBody) : Prop :=
  List.Forall₂ WireValue.LayersApart first.fields second.fields

theorem LayersApart.symm (apart : first.LayersApart second) : second.LayersApart first :=
  apart.flip.imp fun _ _ => WireValue.LayersApart.symm

theorem values_of_not_isStructure (several : ¬first.IsStructure) :
    first.values = first.fields.map WireValue.toValue := by
  rw [values, contents_of_not_isStructure several]

/-- Where a structure makes up the whole body, with or without variants around it, the other body
has the same structure inside. -/
theorem LayersApart.exists_field (apart : first.LayersApart second) {fields : List WireValue}
    (whole : first.fields = [.tuple fields]) :
    ∃ field, second.fields = [field] ∧ field.core = .tuple fields := by
  rw [LayersApart, whole] at apart
  obtain ⟨field, rest, here, later, same⟩ := List.forall₂_cons_left_iff.mp apart
  obtain rfl := List.forall₂_nil_left_iff.mp later
  refine ⟨field, same, ?_⟩
  rw [← WireValue.layersApart_iff.mp here, WireValue.core_tuple]

/-- The text of a structure is longer than that of its only field. -/
theorem length_text_lt_tuple (field : WireValue) :
    field.core.text.length < (WireValue.tuple [field]).text.length := by
  have whole : (WireValue.tuple [field]).text = "(" ++ field.text ++ ",)" := by
    rw [WireValue.text, WireValue.render, WireValue.bracketed, String.intercalate_singleton]
    rfl
  have inner := field.length_text_core_le
  rw [whole, String.length_append, String.length_append]
  have brackets : "(".length + ",)".length = 3 := rfl
  omega

/-- A structure is never the same as its fields. -/
theorem map_toValue_ne_text (fields : List WireValue) :
    fields.map WireValue.toValue ≠ [.other (WireValue.tuple fields).text] := by
  intro same
  obtain ⟨field, rest, rfl, here, later⟩ := List.map_eq_cons_iff.mp same
  obtain rfl := List.map_eq_nil_iff.mp later
  have shorter := length_text_lt_tuple field
  have noScalar (type : ScalarType) : field.core.type ≠ .scalar type := by
    intro scalar
    have typed := (WireValue.toValue_of_core_scalar scalar).1
    rw [here] at typed
    cases typed
  have noPath : field.core.type ≠ .objectPath := by
    intro path
    obtain ⟨text, core⟩ := WireValue.exists_objectPath path
    rw [WireValue.toValue_of_core_objectPath core] at here
    cases here
  rw [WireValue.toValue_of_core_other noScalar noPath] at here
  rw [Value.other.inj here] at shorter
  exact Nat.lt_irrefl _ shorter

/-- A structure that makes up the whole body is told from the same structure inside a variant. -/
theorem LayersApart.values_ne (apart : first.LayersApart second) (whole : first.IsStructure)
    (inside : ¬second.IsStructure) : first.values ≠ second.values := by
  obtain ⟨fields, same⟩ := whole
  obtain ⟨field, single, core⟩ := apart.exists_field same
  have carried : field.toValue = .other (WireValue.tuple fields).text := by
    rw [← field.toValue_core, core, WireValue.toValue]
  rw [values, contents_of_fields same, values_of_not_isStructure inside, single,
    List.map_singleton, carried]
  exact map_toValue_ne_text fields

theorem LayersApart.values_eq_iff (apart : first.LayersApart second) :
    first.values = second.values ↔ (first.IsStructure ↔ second.IsStructure) := by
  by_cases firstWhole : first.IsStructure <;> by_cases secondWhole : second.IsStructure
  · obtain ⟨fields, same⟩ := firstWhole
    obtain ⟨others, sameToo⟩ := secondWhole
    obtain ⟨field, single, core⟩ := apart.exists_field same
    obtain rfl : field = .tuple others := by simpa using single.symm.trans sameToo
    obtain rfl := WireValue.tuple.inj ((WireValue.core_tuple others).symm.trans core)
    rw [values, values, contents_of_fields same, contents_of_fields sameToo]
    exact iff_of_true rfl (iff_of_true ⟨_, same⟩ ⟨_, sameToo⟩)
  · refine iff_of_false (apart.values_ne firstWhole secondWhole) ?_
    exact fun both => secondWhole (both.mp firstWhole)
  · refine iff_of_false (apart.symm.values_ne secondWhole firstWhole).symm ?_
    exact fun both => firstWhole (both.mpr secondWhole)
  · rw [values_of_not_isStructure firstWhole, values_of_not_isStructure secondWhole]
    exact iff_of_true (WireValue.map_toValue_eq apart) (iff_of_false firstWhole secondWhole)

end MessageBody

/-- Variants around an element cannot be seen.  What is inside any number of them is read as if
it stood alone, and a scalar that was put there comes back as it was, its very bits included.
So two messages that differ only in the variants around their elements have the same values, give
the same output in every form, and end a call in the same way; the one exception is a message
that is a single structure, which is read as its fields, while inside a variant it is one element.
-/
theorem variants_cannot_be_seen (first second : MessageBody) :
    (∀ (value : WireValue) (layers : Nat),
      (WireValue.variant^[layers] value).toValue = value.toValue) ∧
      (∀ value : Value, (∀ text, value ≠ .other text) →
        ∀ layers : Nat, (WireValue.variant^[layers] value.toWire).toValue = value) ∧
      (first.LayersApart second →
        (first.values = second.values ↔ (first.IsStructure ↔ second.IsStructure)) ∧
          ((first.IsStructure ↔ second.IsStructure) →
            (∀ format, Output.reply format first.values = Output.reply format second.values) ∧
              (∀ format signal, Output.arrival format ⟨signal, first.values⟩ =
                Output.arrival format ⟨signal, second.values⟩) ∧
              ∀ (session : Session DaemonBus) (connection other : Connection DaemonBus)
                name tokens prepared,
                session.bus = DaemonBus.bus → session.prepare name tokens = .ok prepared →
                  let method := prepared.method.name
                  connection.bus.daemon.errors.lookup method = none →
                    connection.bus.daemon.replies.lookup method = some first →
                      other.bus.daemon.errors.lookup method = none →
                        other.bus.daemon.replies.lookup method = some second →
                          (session.invoke name tokens connection).1 = .done first.values ∧
                            (session.invoke name tokens other).1 = .done first.values)) := by
  refine ⟨fun value layers => WireValue.toValue_iterate_variant layers value,
    fun _ => WireValue.toValue_iterate_toWire, fun apart => ?_⟩
  refine ⟨apart.values_eq_iff, fun alike => ?_⟩
  have same := apart.values_eq_iff.mpr alike
  refine ⟨fun format => by rw [same], fun format signal => by rw [same], ?_⟩
  intro session connection other name tokens prepared bus chosen method succeeds replies
    otherSucceeds otherReplies
  constructor
  · rw [Session.invoke_of_daemon bus chosen, Daemon.reply_of_body succeeds replies]
    rfl
  · rw [Session.invoke_of_daemon bus chosen, Daemon.reply_of_body otherSucceeds otherReplies, same]
    rfl

/-- A number inside three variants is that number; a structure is one element inside a variant,
and two without it, unless there is something beside it. -/
theorem number_and_structure_inside_variants :
    let seven : Value := .integer .int32 ⟨7, by decide⟩
    let pair : WireValue := .tuple [seven.toWire, .string "x"]
    (WireValue.variant^[3] seven.toWire).toValue = seven ∧
      (MessageBody.mk [pair]).LayersApart ⟨[.variant pair]⟩ ∧
      (MessageBody.mk [pair]).values = [seven, .string "x"] ∧
      (MessageBody.mk [.variant pair]).values = [.other "(7, \"x\")"] ∧
      ∀ target scheduler, looked target scheduler ⟨[pair, .variant pair]⟩ =
        looked target scheduler ⟨[.variant pair, pair]⟩ := by
  intro seven pair
  have around (value : WireValue) : WireValue.LayersApart value (.variant value) :=
    ⟨value, 0, 1, rfl, rfl⟩
  have bothWays : (MessageBody.mk [pair, .variant pair]).LayersApart ⟨[.variant pair, pair]⟩ :=
    .cons (around pair) (.cons (around pair).symm .nil)
  have several (first second : WireValue) : ¬(MessageBody.mk [first, second]).IsStructure := by
    rintro ⟨fields, single⟩
    cases single
  obtain ⟨-, inside, bodies⟩ :=
    variants_cannot_be_seen ⟨[pair, .variant pair]⟩ ⟨[.variant pair, pair]⟩
  obtain ⟨-, -, ended⟩ := (bodies bothWays).2 (iff_of_false (several _ _) (several _ _))
  refine ⟨inside seven nofun 3, .cons (around pair) .nil, by rfl, by decide +kernel, ?_⟩
  intro target scheduler
  have both := ended ⟨DaemonBus.bus, target, ⟨"shelf", [look], []⟩, scheduler⟩
    (.start (.ofDaemon (.answering "look" ⟨[pair, .variant pair]⟩)))
    (.start (.ofDaemon (.answering "look" ⟨[.variant pair, pair]⟩)))
    "look" [] ⟨look, []⟩ rfl (by rfl) rfl rfl rfl rfl
  exact both.1.trans both.2.symm

end BusBridge
