import BusBridge.Invocation

/-!
# The choice among overloads

Several methods may have one name and take the same number of arguments.  The choice among
them is described here without the way in which it is made: by the methods that take the
tokens, and by the order in which they are declared.
-/

namespace BusBridge

/-- The method has this name and as many parameters to give as there are tokens, and every
token converts to the type of the parameter at its place. -/
structure Method.Takes (method : Method) (name : String) (tokens : List String) : Prop where
  name_eq : method.name = name
  arity_eq : method.arity = tokens.length
  converts : ∀ (index : Nat) (parameter : Parameter) (token : String),
    method.inputs[index]? = some parameter → tokens[index]? = some token →
      ∃ value, Value.coerce parameter.type token = .ok value

/-- What a method offers to a caller. -/
def Method.offer (method : Method) : String × List Parameter :=
  (method.name, method.inputs)

/-- A choice without what only the remote object has to know. -/
def PreparedCall.offer (prepared : PreparedCall) : (String × List Parameter) × List Value :=
  (prepared.method.offer, prepared.arguments)

namespace Invocation

section Conversion

variable {method : Method} {tokens : List String} {arguments : List Value}

theorem filterMap_rejected?_eq_nil_iff {conversions : List (Except CoercionError Value)} :
    conversions.filterMap rejected? = [] ↔
      conversions = (conversions.filterMap accepted?).map .ok := by
  induction conversions with
  | nil => simp
  | cons conversion rest ih =>
      cases conversion with
      | ok value => simpa [rejected?, accepted?] using ih
      | error failure =>
          constructor
          · intro none
            cases none
          · intro same
            have member : Except.error failure ∈
                ((Except.error failure :: rest).filterMap accepted?).map Except.ok :=
              same ▸ List.mem_cons_self
            obtain ⟨value, -, wrong⟩ := List.mem_map.mp member
            cases wrong

theorem coerceArguments_eq_ok_iff :
    coerceArguments method tokens = .ok arguments ↔
      convert method.inputs tokens = arguments.map .ok := by
  rw [coerceArguments]
  constructor
  · intro converted
    split at converted
    · next none =>
        obtain rfl := Except.ok.inj converted
        exact filterMap_rejected?_eq_nil_iff.mp (List.isEmpty_iff.mp none)
    · cases converted
  · intro converted
    have accepted : (arguments.map Except.ok).filterMap accepted? = arguments := by
      rw [List.filterMap_map]
      exact List.filterMap_some
    have none : (convert method.inputs tokens).filterMap rejected? = [] := by
      rw [filterMap_rejected?_eq_nil_iff, converted, accepted]
    rw [none, converted, accepted]
    rfl

theorem getElem?_convert {parameters : List Parameter} {index : Nat} {parameter : Parameter}
    {token : String} (here : parameters[index]? = some parameter)
    (given : tokens[index]? = some token) :
    (convert parameters tokens)[index]? = some (Value.coerce parameter.type token) := by
  rw [convert, List.getElem?_zipWith, here, given]

theorem length_convert (arity : method.arity = tokens.length) :
    (convert method.inputs tokens).length = tokens.length := by
  rw [Method.arity] at arity
  rw [convert, List.length_zipWith, arity, Nat.min_self]

/-- Every place has a parameter and a token, or neither. -/
theorem exists_parameter (arity : method.arity = tokens.length) {index : Nat} {token : String}
    (given : tokens[index]? = some token) :
    ∃ parameter, method.inputs[index]? = some parameter := by
  rw [Method.arity] at arity
  obtain ⟨inside, -⟩ := List.getElem?_eq_some_iff.mp given
  exact ⟨method.inputs[index], List.getElem?_eq_getElem (arity ▸ inside)⟩

/-- The arguments stand in the places of the tokens. -/
theorem convert_eq_map_ok_iff (arity : method.arity = tokens.length) :
    convert method.inputs tokens = arguments.map .ok ↔
      arguments.length = tokens.length ∧
        ∀ (index : Nat) (parameter : Parameter) (token : String),
          method.inputs[index]? = some parameter → tokens[index]? = some token →
            ∃ value, arguments[index]? = some value ∧
              Value.coerce parameter.type token = .ok value := by
  have length := length_convert arity
  constructor
  · intro converted
    rw [converted, List.length_map] at length
    refine ⟨length, fun index parameter token here given => ?_⟩
    have conversion := getElem?_convert here given
    rw [converted, List.getElem?_map, Option.map_eq_some_iff] at conversion
    obtain ⟨value, placed, same⟩ := conversion
    exact ⟨value, placed, same.symm⟩
  · rintro ⟨same, converts⟩
    apply List.ext_getElem?
    intro index
    rw [List.getElem?_map]
    cases given : tokens[index]? with
    | none =>
        rw [List.getElem?_eq_none_iff] at given
        rw [List.getElem?_eq_none (by omega), List.getElem?_eq_none (by omega), Option.map_none]
    | some token =>
        obtain ⟨parameter, here⟩ := exists_parameter arity given
        obtain ⟨value, placed, conversion⟩ := converts index parameter token here given
        rw [getElem?_convert here given, placed, conversion, Option.map_some]

/-- A method of the right name and arity takes the tokens if its arguments can be had. -/
theorem takes_iff {name : String} :
    method.Takes name tokens ↔
      method.name = name ∧ method.arity = tokens.length ∧
        ∃ arguments, coerceArguments method tokens = .ok arguments := by
  constructor
  · rintro ⟨named, arity, converts⟩
    refine ⟨named, arity, (convert method.inputs tokens).filterMap accepted?, ?_⟩
    rw [coerceArguments_eq_ok_iff, ← filterMap_rejected?_eq_nil_iff, List.filterMap_eq_nil_iff]
    intro conversion member
    -- Every conversion stands at a place that has a token and so, as there are as many of
    -- them, a parameter.
    obtain ⟨index, inside, rfl⟩ := List.mem_iff_getElem.mp member
    have known : index < tokens.length := length_convert arity ▸ inside
    have given : tokens[index]? = some tokens[index] := List.getElem?_eq_getElem known
    obtain ⟨parameter, here⟩ := exists_parameter arity given
    obtain ⟨value, converted⟩ := converts index parameter _ here given
    have conversion := getElem?_convert here given
    rw [List.getElem?_eq_getElem inside, converted] at conversion
    rw [Option.some.inj conversion]
    rfl
  · rintro ⟨named, arity, arguments, accepted⟩
    refine ⟨named, arity, fun index parameter token here given => ?_⟩
    rw [coerceArguments_eq_ok_iff, convert_eq_map_ok_iff arity] at accepted
    obtain ⟨value, -, converted⟩ := accepted.2 index parameter token here given
    exact ⟨value, converted⟩

end Conversion

section Choice

variable {interface other : Interface} {name : String} {tokens : List String}
  {methods others : List Method} {prepared : PreparedCall}

theorem candidates_eq_filter (interface : Interface) (name : String) (arity : Nat) :
    candidates interface name arity =
      interface.methods.filter fun method => method.name = name ∧ method.arity = arity := by
  rw [candidates, Interface.methodsNamed, List.filter_filter]
  refine List.filter_congr fun method _ => ?_
  rw [← Bool.decide_and, decide_eq_decide, and_comm]

theorem prepare_eq_ok_iff_firstAccepting :
    prepare interface name tokens = .ok prepared ↔
      firstAccepting tokens (candidates interface name tokens.length) = .ok prepared := by
  rw [prepare]
  cases firstAccepting tokens (candidates interface name tokens.length) with
  | ok chosen => rw [Except.ok.injEq, Except.ok.injEq]
  | error failures => exact ⟨nofun, nofun⟩

theorem firstAccepting_eq_ok_iff :
    firstAccepting tokens methods = .ok prepared ↔
      coerceArguments prepared.method tokens = .ok prepared.arguments ∧
        methods.find? (fun method => (coerceArguments method tokens).isOk) =
          some prepared.method := by
  induction methods with
  | nil => simp [firstAccepting]
  | cons method rest ih =>
      rw [firstAccepting]
      cases converted : coerceArguments method tokens with
      | ok arguments =>
          rw [List.find?_cons_of_pos (by rw [converted]; rfl)]
          constructor
          · intro chosen
            obtain rfl := Except.ok.inj chosen
            exact ⟨converted, rfl⟩
          · rintro ⟨accepted, chosen⟩
            obtain rfl := Option.some.inj chosen
            rw [converted] at accepted
            obtain rfl := Except.ok.inj accepted
            rfl
      | error failures =>
          rw [List.find?_cons_of_neg (by rw [converted]; exact Bool.false_ne_true), ← ih]
          cases firstAccepting tokens rest with
          | ok chosen => exact Iff.rfl
          | error further => exact ⟨nofun, nofun⟩

/-- The method that is called is the first of all that take the tokens. -/
theorem prepare_eq_ok_iff :
    prepare interface name tokens = .ok prepared ↔
      coerceArguments prepared.method tokens = .ok prepared.arguments ∧
        prepared.method.Takes name tokens ∧
        ∃ before after, interface.methods = before ++ prepared.method :: after ∧
          ∀ earlier ∈ before, ¬ earlier.Takes name tokens := by
  -- The name, the arity and the conversions are asked for one after the other; together
  -- they say that the method takes the tokens.
  have accepts (method : Method) :
      ((method.name = name ∧ method.arity = tokens.length) ∧
        (coerceArguments method tokens).isOk = true) ↔ method.Takes name tokens := by
    rw [takes_iff, and_assoc]
    cases coerceArguments method tokens with
    | ok arguments => simp [Except.isOk, Except.toBool]
    | error failures => simp [Except.isOk, Except.toBool]
  rw [prepare_eq_ok_iff_firstAccepting, firstAccepting_eq_ok_iff, candidates_eq_filter,
    List.find?_filter, List.find?_eq_some_iff_append]
  simp only [decide_eq_true_eq, Bool.not_eq_true', decide_eq_false_iff_not, accepts]

theorem exists_prepare_iff :
    (∃ prepared, prepare interface name tokens = .ok prepared) ↔
      ∃ method ∈ interface.methods, method.Takes name tokens := by
  classical
  constructor
  · rintro ⟨prepared, chosen⟩
    obtain ⟨-, takes, before, after, declared, -⟩ := prepare_eq_ok_iff.mp chosen
    exact ⟨prepared.method, by simp [declared], takes⟩
  · rintro ⟨method, member, takes⟩
    have found : (interface.methods.find? (·.Takes name tokens)).isSome := by
      rw [List.find?_isSome]
      exact ⟨method, member, decide_eq_true takes⟩
    obtain ⟨first, chosen⟩ := Option.isSome_iff_exists.mp found
    obtain ⟨takes, before, after, declared, none⟩ := List.find?_eq_some_iff_append.mp chosen
    obtain ⟨-, -, arguments, accepted⟩ := takes_iff.mp (of_decide_eq_true takes)
    refine ⟨⟨first, arguments⟩, prepare_eq_ok_iff.mpr ⟨accepted, of_decide_eq_true takes,
      before, after, declared, fun earlier known => ?_⟩⟩
    simpa using none earlier known

/-- Only the methods of the name and of the arity matter, in their order. -/
theorem prepare_congr
    (same : (other.methods.filter fun method =>
        method.name = name ∧ method.arity = tokens.length) =
      interface.methods.filter fun method =>
        method.name = name ∧ method.arity = tokens.length) :
    prepare other name tokens = prepare interface name tokens := by
  rw [prepare, prepare, candidates_eq_filter, candidates_eq_filter, same]

end Choice

section Offers

variable {interface other : Interface} {name : String} (tokens : List String)
  {methods others : List Method}

theorem firstAccepting_of_offers (same : methods.map Method.offer = others.map Method.offer) :
    (firstAccepting tokens methods).map PreparedCall.offer =
      (firstAccepting tokens others).map PreparedCall.offer := by
  induction methods generalizing others with
  | nil =>
      obtain rfl := List.map_eq_nil_iff.mp same.symm
      rfl
  | cons method rest ih =>
      obtain ⟨twin, further, rfl, twins, remaining⟩ := List.map_eq_cons_iff.mp same.symm
      have inputs : twin.inputs = method.inputs := congrArg Prod.snd twins
      have converted : coerceArguments twin tokens = coerceArguments method tokens := by
        rw [coerceArguments, coerceArguments, inputs]
      have later := ih remaining.symm
      rw [firstAccepting, firstAccepting, converted]
      cases coerceArguments method tokens with
      | ok arguments =>
          change Except.ok (method.offer, arguments) = Except.ok (twin.offer, arguments)
          rw [twins]
      | error failures =>
          revert later
          cases firstAccepting tokens rest <;> cases firstAccepting tokens further <;> intro later
          · obtain rfl := Except.error.inj later
            rfl
          · cases later
          · cases later
          · exact later

/-- What a method gives back does not matter for the choice. -/
theorem prepare_of_offers
    (same : other.methods.map Method.offer = interface.methods.map Method.offer) :
    (prepare other name tokens).map PreparedCall.offer =
      (prepare interface name tokens).map PreparedCall.offer := by
  have offered (interface : Interface) : (candidates interface name tokens.length).map
      Method.offer = (interface.methods.map Method.offer).filter fun offer =>
        offer.1 = name ∧ offer.2.length = tokens.length := by
    rw [candidates_eq_filter, List.filter_map]
    rfl
  have chosen := firstAccepting_of_offers tokens
    ((offered other).trans ((congrArg _ same).trans (offered interface).symm))
  rw [prepare, prepare]
  revert chosen
  cases firstAccepting tokens (candidates other name tokens.length) <;>
    cases firstAccepting tokens (candidates interface name tokens.length) <;> intro chosen
  · obtain rfl := Except.error.inj chosen
    rfl
  · cases chosen
  · cases chosen
  · exact congrArg Except.ok (Except.ok.inj chosen)

end Offers

/-- The choice among overloads is right and local.  It succeeds if and only if some method
takes the tokens; then the first of these is chosen, with one argument for each token, and
whatever is declared after it makes no difference.  Methods of another name or arity never
make a difference, and neither do output parameters, wherever they stand. -/
theorem prepare_chooses_first_that_takes (interface : Interface) (name : String)
    (tokens : List String) :
    ((∃ prepared, prepare interface name tokens = .ok prepared) ↔
        ∃ method ∈ interface.methods, method.Takes name tokens) ∧
      (∀ prepared, prepare interface name tokens = .ok prepared →
        prepared.method.Takes name tokens ∧
        (∃ before after, interface.methods = before ++ prepared.method :: after ∧
          (∀ earlier ∈ before, ¬ earlier.Takes name tokens) ∧
          ∀ (other : Interface) (further : List Method),
            other.methods = before ++ prepared.method :: further →
              prepare other name tokens = .ok prepared) ∧
        prepared.arguments.length = tokens.length ∧
        ∀ (index : Nat) (parameter : Parameter) (token : String),
          prepared.method.inputs[index]? = some parameter → tokens[index]? = some token →
            ∃ value, prepared.arguments[index]? = some value ∧
              Value.coerce parameter.type token = .ok value) ∧
      (∀ other : Interface,
        (other.methods.filter fun method =>
            method.name = name ∧ method.arity = tokens.length) =
          (interface.methods.filter fun method =>
            method.name = name ∧ method.arity = tokens.length) →
        prepare other name tokens = prepare interface name tokens) ∧
      ∀ other : Interface,
        other.methods.map Method.offer = interface.methods.map Method.offer →
          (prepare other name tokens).map PreparedCall.offer =
            (prepare interface name tokens).map PreparedCall.offer := by
  refine ⟨exists_prepare_iff, ?_, fun other same => prepare_congr same,
    fun other same => prepare_of_offers tokens same⟩
  intro prepared chosen
  obtain ⟨accepted, takes, before, after, declared, refused⟩ := prepare_eq_ok_iff.mp chosen
  rw [coerceArguments_eq_ok_iff, convert_eq_map_ok_iff takes.arity_eq] at accepted
  refine ⟨takes, ⟨before, after, declared, refused, ?_⟩, accepted⟩
  intro other further appended
  refine prepare_eq_ok_iff.mpr ⟨?_, takes, before, further, appended, refused⟩
  exact (prepare_eq_ok_iff.mp chosen).1

/-- The first method takes the token only if it is a number; what it gives back stands
before its parameter and does not count. -/
example :
    let given : Parameter := ⟨none, .input, "i"⟩
    let told : Parameter := ⟨none, .output, "b"⟩
    let byNumber : Method := ⟨"open", [told, given]⟩
    let byName : Method := ⟨"open", [{ given with type := "s" }]⟩
    let shelf : Interface := ⟨"shelf", [byNumber, byName], []⟩
    prepare shelf "open" ["7"] = .ok ⟨byNumber, [.integer .int32 ⟨7, by decide⟩]⟩ ∧
      prepare shelf "open" ["7th"] = .ok ⟨byName, [.string "7th"]⟩ :=
  ⟨by rfl, by rfl⟩

end Invocation

end BusBridge
