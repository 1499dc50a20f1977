import BusBridge.Introspection
import BusBridge.Proofs.Overloads
import BusBridge.Proofs.Session
import BusBridge.ScriptedBus

/-!
# Selection on the description of a remote object

Which interface a session is about, which method a call reaches and which signals can be
waited for is said here of the description itself, in the order of the document.  The
interfaces that are made of a description keep all that it says.
-/

namespace BusBridge

namespace Introspection

namespace Member

/-- The method that this member describes. -/
def method (member : Member) : Method :=
  ⟨member.name, member.arguments.map (Argument.parameter .input)⟩

/-- The signal that this member describes. -/
def signal (member : Member) : Signal :=
  ⟨member.name, member.arguments.map (Argument.parameter .output)⟩

/-- The arguments of a method that a caller gives: all that are not marked as outputs. -/
def given (member : Member) : List Argument :=
  member.arguments.filter fun argument => argument.direction? ≠ some .output

/-- The member has this name and as many arguments to give as there are tokens, and every
token converts to the type of the argument at its place. -/
structure Takes (member : Member) (name : String) (tokens : List String) : Prop where
  name_eq : member.name = name
  arity_eq : member.given.length = tokens.length
  converts : ∀ (index : Nat) (argument : Argument) (token : String),
    member.given[index]? = some argument → tokens[index]? = some token →
      ∃ value, Value.coerce argument.type token = .ok value

/-- The values are those of the tokens, each with the type of the argument at its place. -/
structure Converts (member : Member) (tokens : List String) (values : List Value) : Prop where
  length_eq : values.length = tokens.length
  value_at : ∀ (index : Nat) (argument : Argument) (token : String),
    member.given[index]? = some argument → tokens[index]? = some token →
      ∃ value, values[index]? = some value ∧ Value.coerce argument.type token = .ok value

variable {member : Member} {name : String} {tokens : List String}

/-- Without a direction an argument of a method is an input. -/
theorem inputs_method (member : Member) :
    member.method.inputs = member.given.map (Argument.parameter .input) := by
  have kept (argument : Argument) :
      decide ((argument.parameter .input).direction = .input) =
        decide (argument.direction? ≠ some .output) := by
    rw [Argument.parameter]
    rcases argument.direction? with _ | _ | _ <;> rfl
  rw [Method.inputs, method, List.filter_map, given]
  exact congrArg _ (List.filter_congr fun argument _ => kept argument)

theorem getElem?_inputs {index : Nat} {parameter : Parameter} :
    member.method.inputs[index]? = some parameter ↔
      ∃ argument, member.given[index]? = some argument ∧
        argument.parameter .input = parameter := by
  rw [inputs_method, List.getElem?_map, Option.map_eq_some_iff]

theorem takes_method_iff : member.method.Takes name tokens ↔ member.Takes name tokens := by
  have arity : member.method.arity = member.given.length := by
    rw [Method.arity, inputs_method, List.length_map]
  constructor
  · rintro ⟨named, counted, converts⟩
    refine ⟨named, arity.symm.trans counted, fun index argument token here given => ?_⟩
    exact converts index _ token (getElem?_inputs.mpr ⟨argument, here, rfl⟩) given
  · rintro ⟨named, counted, converts⟩
    refine ⟨named, arity.trans counted, fun index parameter token here given => ?_⟩
    obtain ⟨argument, described, rfl⟩ := getElem?_inputs.mp here
    exact converts index argument token described given

theorem converts_iff {values : List Value} (takes : member.Takes name tokens) :
    Invocation.coerceArguments member.method tokens = .ok values ↔
      member.Converts tokens values := by
  have arity := (takes_method_iff.mpr takes).arity_eq
  rw [Invocation.coerceArguments_eq_ok_iff, Invocation.convert_eq_map_ok_iff arity]
  constructor
  · rintro ⟨length, values⟩
    refine ⟨length, fun index argument token here given => ?_⟩
    exact values index _ token (getElem?_inputs.mpr ⟨argument, here, rfl⟩) given
  · rintro ⟨length, values⟩
    refine ⟨length, fun index parameter token here given => ?_⟩
    obtain ⟨argument, described, rfl⟩ := getElem?_inputs.mp here
    exact values index argument token described given

end Member

namespace Item

def isMethod : Item → Bool
  | method _ => true
  | signal _ => false

def isSignal : Item → Bool
  | method _ => false
  | signal _ => true

/-- The member is the first of these methods that takes the tokens. -/
def FirstTaking (items : List Item) (name : String) (tokens : List String) (member : Member) :
    Prop :=
  ∃ before after, items = before ++ .method member :: after ∧ member.Takes name tokens ∧
    ∀ earlier, .method earlier ∈ before → ¬ earlier.Takes name tokens

variable {items : List Item} {name : String} {tokens : List String} {member : Member}

theorem filterMap_method?_append_cons {before after : List Item} :
    (before ++ .method member :: after).filterMap method? =
      before.filterMap method? ++ member.method :: after.filterMap method? := by
  rw [List.filterMap_append]
  rfl

theorem mem_filterMap_method?_iff {chosen : Method} :
    chosen ∈ items.filterMap method? ↔ ∃ member, .method member ∈ items ∧
      member.method = chosen := by
  rw [List.mem_filterMap]
  constructor
  · rintro ⟨_ | _, known, described⟩
    · exact ⟨_, known, Option.some.inj described⟩
    · cases described
  · rintro ⟨member, known, rfl⟩
    exact ⟨_, known, rfl⟩

/-- Every method of the interface stands in the description. -/
theorem exists_split {chosen : Method} {earlier later : List Method}
    (listed : items.filterMap method? = earlier ++ chosen :: later) :
    ∃ before member after, items = before ++ .method member :: after ∧
      member.method = chosen ∧ before.filterMap method? = earlier := by
  obtain ⟨front, back, rfl, same, rest⟩ := List.filterMap_eq_append_iff.mp listed
  obtain ⟨others, item, after, rfl, none, described, -⟩ := List.filterMap_eq_cons_iff.mp rest
  cases item with
  | signal member => cases described
  | method member =>
      refine ⟨front ++ others, member, after, (List.append_assoc ..).symm,
        Option.some.inj described, ?_⟩
      rw [List.filterMap_append, same, List.filterMap_eq_nil_iff.mpr none, List.append_nil]

theorem firstTaking_iff {chosen : Method} :
    (∃ member, FirstTaking items name tokens member ∧ member.method = chosen) ↔
      chosen.Takes name tokens ∧ ∃ earlier later,
        items.filterMap method? = earlier ++ chosen :: later ∧
          ∀ other ∈ earlier, ¬ other.Takes name tokens := by
  constructor
  · rintro ⟨member, ⟨before, after, rfl, takes, refused⟩, rfl⟩
    refine ⟨Member.takes_method_iff.mpr takes, _, _, filterMap_method?_append_cons, ?_⟩
    intro other known
    obtain ⟨described, stands, rfl⟩ := mem_filterMap_method?_iff.mp known
    exact fun takes => refused described stands (Member.takes_method_iff.mp takes)
  · rintro ⟨takes, earlier, later, listed, refused⟩
    obtain ⟨before, member, after, rfl, rfl, rfl⟩ := exists_split listed
    refine ⟨member, ⟨before, after, rfl, Member.takes_method_iff.mp takes, ?_⟩, rfl⟩
    intro other known takes
    exact refused other.method (mem_filterMap_method?_iff.mpr ⟨other, known, rfl⟩)
      (Member.takes_method_iff.mpr takes)

theorem isSome_method? (item : Item) : item.method?.isSome = item.isMethod := by
  cases item <;> rfl

theorem isSome_signal? (item : Item) : item.signal?.isSome = item.isSignal := by
  cases item <;> rfl

/-- What an item describes comes after what the items before it describe. -/
theorem getElem?_filterMap {α : Type} {kind : Item → Option α} {before after : List Item}
    {item : Item} {value : α} (described : kind item = some value) :
    ((before ++ item :: after).filterMap kind)[before.countP fun other =>
      (kind other).isSome]? = some value := by
  rw [List.filterMap_append, List.filterMap_cons_some described,
    ← List.length_filterMap_eq_countP, List.getElem?_append_right (Nat.le_refl _),
    Nat.sub_self, List.getElem?_cons_zero]

theorem hasSignal_iff {description : Description} :
    description.interface.hasSignal name = true ↔
      ∃ member, .signal member ∈ description.items ∧ member.name = name := by
  rw [Interface.hasSignal, List.any_eq_true]
  constructor
  · rintro ⟨published, known, named⟩
    obtain ⟨item, stands, described⟩ := List.mem_filterMap.mp known
    cases item with
    | method member => cases described
    | signal member =>
        obtain rfl := Option.some.inj described
        exact ⟨member, stands, of_decide_eq_true named⟩
  · rintro ⟨member, stands, named⟩
    refine ⟨member.signal, List.mem_filterMap.mpr ⟨.signal member, stands, rfl⟩, ?_⟩
    exact decide_eq_true named

end Item

namespace Member

/-- These parameters are the arguments of the member, all of them and in their order.  An
argument without a direction has the direction that is implied. -/
structure Lists (member : Member) (implied : Direction) (parameters : List Parameter) :
    Prop where
  length_eq : parameters.length = member.arguments.length
  parameter_at : ∀ (index : Nat) (argument : Argument), member.arguments[index]? = some argument →
    parameters[index]? =
      some ⟨argument.name?, argument.direction?.getD implied, argument.type⟩

theorem lists_map (member : Member) (implied : Direction) :
    member.Lists implied (member.arguments.map (Argument.parameter implied)) where
  length_eq := List.length_map _
  parameter_at index argument here := by
    rw [List.getElem?_map, here]
    rfl

end Member

namespace Description

/-- The interface has what is described, all of it and in its order: every method and every
signal stands where as many stand before it as in the description. -/
structure Renders (description : Description) (interface : Interface) : Prop where
  name_eq : interface.name = description.name
  methods_length : interface.methods.length = description.items.countP Item.isMethod
  signals_length : interface.signals.length = description.items.countP Item.isSignal
  method_at : ∀ (before after : List Item) (member : Member),
    description.items = before ++ .method member :: after →
      ∃ method, interface.methods[before.countP Item.isMethod]? = some method ∧
        method.name = member.name ∧ member.Lists .input method.parameters
  signal_at : ∀ (before after : List Item) (member : Member),
    description.items = before ++ .signal member :: after →
      ∃ signal, interface.signals[before.countP Item.isSignal]? = some signal ∧
        signal.name = member.name ∧ member.Lists .output signal.parameters

theorem renders_interface (description : Description) :
    description.Renders description.interface where
  name_eq := rfl
  methods_length := by
    rw [interface, List.length_filterMap_eq_countP]
    exact List.countP_congr fun item _ => by rw [Item.isSome_method?]
  signals_length := by
    rw [interface, List.length_filterMap_eq_countP]
    exact List.countP_congr fun item _ => by rw [Item.isSome_signal?]
  method_at before after member split := by
    refine ⟨member.method, ?_, rfl, member.lists_map .input⟩
    have here := @Item.getElem?_filterMap _ Item.method? before after (.method member) _ rfl
    simp only [Item.isSome_method?] at here
    rw [interface, split]
    exact here
  signal_at before after member split := by
    refine ⟨member.signal, ?_, rfl, member.lists_map .output⟩
    have here := @Item.getElem?_filterMap _ Item.signal? before after (.signal member) _ rfl
    simp only [Item.isSome_signal?] at here
    rw [interface, split]
    exact here

/-- The description is the first one with this name. -/
def FirstNamed (tree : List Description) (name : String) (description : Description) : Prop :=
  ∃ before after, tree = before ++ description :: after ∧ description.name = name ∧
    ∀ earlier ∈ before, earlier.name ≠ name

theorem find?_interface_iff {tree : List Description} {name : String} {interface : Interface} :
    Interface.find? (tree.map Description.interface) name = some interface ↔
      ∃ description, FirstNamed tree name description ∧ description.interface = interface := by
  have first (description : Description) :
      tree.find? (fun other => other.name = name) = some description ↔
        FirstNamed tree name description := by
    rw [List.find?_eq_some_iff_append]
    constructor
    · rintro ⟨named, before, after, rfl, others⟩
      exact ⟨before, after, rfl, of_decide_eq_true named, by simpa using others⟩
    · rintro ⟨before, after, rfl, named, others⟩
      exact ⟨decide_eq_true named, before, after, rfl, by simpa using others⟩
  rw [Interface.find?, List.find?_map, Option.map_eq_some_iff]
  simp only [← first]
  rfl

section Selection

variable {σ : Type} {bus : Bus σ} {scheduler : Scheduler} {target : Target}
  {connection : Connection σ} {tree : List Description}

/-- Of the interfaces that a bus describes the session is about the first with the name. -/
theorem resolve_eq_ok_iff {session : Session σ}
    (answers : (bus.introspect target connection.bus).1 = .ok (tree.map Description.interface)) :
    (Session.resolve bus scheduler target connection).1 = .ok session ↔
      ∃ description, FirstNamed tree target.interface description ∧
        session = ⟨bus, target, description.interface, scheduler⟩ := by
  constructor
  · intro resolved
    cases found : Interface.find? (tree.map Description.interface) target.interface with
    | none =>
        rw [Session.resolve_of_missing answers found] at resolved
        cases resolved
    | some interface =>
        rw [Session.resolve_of_found answers found] at resolved
        obtain ⟨description, first, rfl⟩ := find?_interface_iff.mp found
        exact ⟨description, first, (Except.ok.inj resolved).symm⟩
  · rintro ⟨description, first, rfl⟩
    exact Session.resolve_of_found answers (find?_interface_iff.mpr ⟨description, first, rfl⟩)

theorem prepare_interface_iff {description : Description} {name : String} {tokens : List String}
    {prepared : PreparedCall} :
    Invocation.prepare description.interface name tokens = .ok prepared ↔
      ∃ member, Item.FirstTaking description.items name tokens member ∧
        prepared.method = member.method ∧ member.Converts tokens prepared.arguments := by
  rw [Invocation.prepare_eq_ok_iff]
  constructor
  · rintro ⟨accepted, first⟩
    obtain ⟨member, first, chosen⟩ := Item.firstTaking_iff.mpr first
    obtain ⟨before, after, -, takes, -⟩ := id first
    rw [← chosen, Member.converts_iff takes] at accepted
    exact ⟨member, first, chosen.symm, accepted⟩
  · rintro ⟨member, first, chosen, converts⟩
    obtain ⟨before, after, -, takes, -⟩ := id first
    refine ⟨?_, Item.firstTaking_iff.mp ⟨member, first, chosen.symm⟩⟩
    rw [chosen]
    exact (Member.converts_iff takes).mpr converts

theorem validate_interface_iff {description : Description} {session : Session σ}
    {signals : SignalSet} (about : session.interface = description.interface) :
    session.validate signals = .ok () ↔
      ∀ name ∈ signals.names, ∃ member, .signal member ∈ description.items ∧
        member.name = name := by
  rw [Session.validate_eq_ok_iff, about]
  simp only [Item.hasSignal_iff]

theorem interfaces?_of_read? {document : String} (read : read? document = some tree) :
    interfaces? document = some (tree.map Description.interface) := by
  rw [interfaces?, read, Option.map_some]

/-- The choices that the program makes are those that can be read off the description.  A
session is about the first interface with exactly the name; a call reaches the first method
there that takes the tokens, where only arguments that are marked as outputs do not count;
and a signal can be waited for if it is described there.  Nothing of the interface is lost on
the way or changes its place, and what else is described makes no difference. -/
theorem selection_refines_description (scheduler : Scheduler)
    (answers : (bus.introspect target connection.bus).1 = .ok (tree.map Description.interface)) :
    (∀ document, read? document = some tree →
        interfaces? document = some (tree.map Description.interface)) ∧
      (∀ session, (Session.resolve bus scheduler target connection).1 = .ok session ↔
        ∃ description, FirstNamed tree target.interface description ∧
          session = ⟨bus, target, description.interface, scheduler⟩) ∧
      ∀ (description : Description) (session : Session σ),
        FirstNamed tree target.interface description →
        session = ⟨bus, target, description.interface, scheduler⟩ →
        description.Renders session.interface ∧
        (∀ (name : String) (tokens : List String) (prepared : PreparedCall),
          session.prepare name tokens = .ok prepared ↔
            ∃ member, Item.FirstTaking description.items name tokens member ∧
              prepared.method = member.method ∧ member.Converts tokens prepared.arguments) ∧
        (∀ signals : SignalSet, session.validate signals = .ok () ↔
          ∀ name ∈ signals.names, ∃ member, .signal member ∈ description.items ∧
            member.name = name) ∧
        ∀ (other : List Description) (further : Connection σ),
          (bus.introspect target further.bus).1 = .ok (other.map Description.interface) →
          FirstNamed other target.interface description →
            (Session.resolve bus scheduler target further).1 = .ok session := by
  refine ⟨fun document read => interfaces?_of_read? read,
    fun session => resolve_eq_ok_iff answers, ?_⟩
  rintro description session first rfl
  refine ⟨description.renders_interface, fun name tokens prepared => prepare_interface_iff,
    fun signals => validate_interface_iff rfl, fun other further answers first => ?_⟩
  exact (resolve_eq_ok_iff answers).mpr ⟨description, first, rfl⟩

/-- A shelf that opens a book by its number or by its title. -/
def shelf : Description :=
  ⟨"org.shelf",
    [.method ⟨"open", [⟨none, none, "i"⟩]⟩, .signal ⟨"opened", [⟨none, none, "s"⟩]⟩,
      .method ⟨"open", [⟨none, some .output, "b"⟩, ⟨some "title", none, "s"⟩]⟩]⟩

/-- A second interface of the same name does not count. -/
theorem shelf_opens_by_title :
    ∃ session, (Session.resolve ScriptedBus.bus .callFirst ⟨"org.shelf", "/shelf", "org.shelf"⟩
        (.start (.ofScript (.publishing ([shelf, ⟨"org.shelf", [.signal ⟨"closed", []⟩]⟩].map
          Description.interface))))).1 = .ok session ∧
      (∃ prepared, session.prepare "open" ["7th"] = .ok prepared ∧
        prepared.arguments = [.string "7th"]) ∧
      session.validate (.ofList ["opened"]) = .ok () ∧
      session.validate (.ofList ["closed"]) ≠ .ok () := by
  let tree : List Description := [shelf, ⟨"org.shelf", [.signal ⟨"closed", []⟩]⟩]
  let target : Target := ⟨"org.shelf", "/shelf", "org.shelf"⟩
  let connection : Connection ScriptedBus :=
    .start (.ofScript (.publishing (tree.map Description.interface)))
  have answers : (ScriptedBus.bus.introspect target connection.bus).1 =
      .ok (tree.map Description.interface) := rfl
  have first : FirstNamed tree "org.shelf" shelf :=
    ⟨[], _, rfl, rfl, List.forall_mem_nil _⟩
  obtain ⟨-, resolved, choices⟩ := selection_refines_description .callFirst answers
  obtain ⟨-, -, validated, -⟩ := choices shelf _ first rfl
  refine ⟨_, (resolved _).mpr ⟨shelf, first, rfl⟩, ⟨_, rfl, rfl⟩, ?_, ?_⟩
  · rw [validated]
    intro name member
    obtain rfl := List.mem_singleton.mp member
    exact ⟨⟨"opened", [⟨none, none, "s"⟩]⟩, by decide, rfl⟩
  · rw [Ne, validated]
    intro described
    obtain ⟨member, stands, named⟩ := described "closed" List.mem_cons_self
    have absent : ∀ item ∈ shelf.items, item.signal?.map Signal.name ≠ some "closed" := by decide
    exact absent _ stands (congrArg some named)

end Selection

end Description

end Introspection

end BusBridge
