import BusBridge.Proofs.Overloads

/-!
# The diagnosis of a rejected call

A call that no overload takes is answered with one error.  Which error it is, and what it
lists, is described here by the places where a token does not convert: the position of an
overload among the declared methods and the position of the token.  Nothing that went wrong
is left out, and nothing is reported twice.
-/

namespace BusBridge

namespace Value

variable {tag token : String} {failure : CoercionError}

/-- A conversion fails because of its type, or because of its token. -/
theorem coerce_eq_error_iff :
    coerce tag token = .error failure ↔
      (failure = .unsupportedType tag ∧ ∀ type : ScalarType, tag ≠ String.singleton type.tag) ∨
        ∃ (type : ScalarType) (fault : CoercionFault), tag = String.singleton type.tag ∧
          read type token = .error fault ∧ failure = .invalidArgument token type fault := by
  rw [coerce]
  cases named : ScalarType.ofTag? tag with
  | none =>
      have unknown (type : ScalarType) : tag ≠ String.singleton type.tag := by
        intro spelled
        rw [ScalarType.ofTag?_eq_some_iff.mpr spelled] at named
        cases named
      constructor
      · intro failed
        exact .inl ⟨(Except.error.inj failed).symm, unknown⟩
      · rintro (⟨rfl, -⟩ | ⟨type, fault, spelled, -⟩)
        · rfl
        · exact absurd spelled (unknown type)
  | some type =>
      have spelled := ScalarType.ofTag?_eq_some_iff.mp named
      constructor
      · intro failed
        cases denoted : read type token with
        | ok value => simp [denoted] at failed
        | error fault =>
            refine .inr ⟨type, fault, spelled, denoted, ?_⟩
            simpa [denoted, eq_comm] using failed
      · rintro (⟨-, unknown⟩ | ⟨other, fault, same, denoted, rfl⟩)
        · exact absurd spelled (unknown type)
        · rw [ScalarType.ofTag?_eq_some_iff.mpr same] at named
          obtain rfl := Option.some.inj named
          simp [denoted]

end Value

/-- The method has this name and takes this many arguments. -/
def Method.Matches (method : Method) (name : String) (arity : Nat) : Prop :=
  method.name = name ∧ method.arity = arity

instance (method : Method) (name : String) (arity : Nat) :
    Decidable (method.Matches name arity) :=
  inferInstanceAs (Decidable (_ ∧ _))

/-- A token that does not convert. -/
structure Misfit where
  /-- The position of the overload among all methods. -/
  method : Nat
  /-- The position of the token, and of the parameter that it was meant for. -/
  token : Nat
  failure : CoercionError

namespace Misfit

/-- First by the declaration of the methods, then by the place of the tokens. -/
def Before (earlier later : Misfit) : Prop :=
  earlier.method < later.method ∨
    earlier.method = later.method ∧ earlier.token < later.token

/-- The method at this position matches the request, and the token at that position fails in
this way to convert to the type of its parameter. -/
def Occurs (misfit : Misfit) (interface : Interface) (name : String) (tokens : List String) :
    Prop :=
  ∃ (method : Method) (parameter : Parameter) (token : String),
    interface.methods[misfit.method]? = some method ∧ method.Matches name tokens.length ∧
      method.inputs[misfit.token]? = some parameter ∧ tokens[misfit.token]? = some token ∧
        Value.coerce parameter.type token = .error misfit.failure

/-- These are all the misfits of a request, each of them once, in order. -/
structure Lists (interface : Interface) (name : String) (tokens : List String)
    (misfits : List Misfit) : Prop where
  ordered : misfits.Pairwise Before
  mem_iff : ∀ misfit, misfit ∈ misfits ↔ misfit.Occurs interface name tokens

end Misfit

namespace Invocation

/-- The failures of one method, in the order of its parameters. -/
def failuresOf (tokens : List String) (method : Method) : List CoercionError :=
  (convert method.inputs tokens).filterMap rejected?

/-- The failures of one method with their positions. -/
def misfitsOf (tokens : List String) (position : Nat) (method : Method) : List Misfit :=
  (convert method.inputs tokens).zipIdx.filterMap fun (conversion, place) =>
    (rejected? conversion).map (Misfit.mk position place)

/-- The misfits of all methods that match. -/
def misfits (interface : Interface) (name : String) (tokens : List String) : List Misfit :=
  interface.methods.zipIdx.flatMap fun (method, position) =>
    if method.Matches name tokens.length then misfitsOf tokens position method else []

section Failures

variable {name : String} {tokens : List String} {method : Method} {methods : List Method}
  {failures : List CoercionError}

theorem coerceArguments_eq_error_iff :
    coerceArguments method tokens = .error failures ↔
      failures = failuresOf tokens method ∧ failures ≠ [] := by
  rw [coerceArguments, failuresOf]
  cases found : (convert method.inputs tokens).filterMap rejected? with
  | nil => simp
  | cons first rest =>
      constructor
      · intro failed
        obtain rfl := Except.error.inj failed
        exact ⟨rfl, List.cons_ne_nil _ _⟩
      · rintro ⟨rfl, -⟩
        rfl

/-- A method fails exactly where some token does not convert. -/
theorem failuresOf_eq_nil_iff :
    failuresOf tokens method = [] ↔ ∃ arguments, coerceArguments method tokens = .ok arguments := by
  constructor
  · intro none
    exact ⟨_, coerceArguments_eq_ok_iff.mpr (filterMap_rejected?_eq_nil_iff.mp none)⟩
  · rintro ⟨arguments, accepted⟩
    by_cases some : failuresOf tokens method = []
    · exact some
    · rw [coerceArguments_eq_error_iff.mpr ⟨rfl, some⟩] at accepted
      cases accepted

/-- When no candidate is left, the failures of all of them have been put together. -/
theorem firstAccepting_eq_error_iff :
    firstAccepting tokens methods = .error failures ↔
      failures = methods.flatMap (failuresOf tokens) ∧
        ∀ method ∈ methods, failuresOf tokens method ≠ [] := by
  induction methods generalizing failures with
  | nil =>
      constructor
      · intro failed
        obtain rfl := Except.error.inj failed
        exact ⟨rfl, List.forall_mem_nil _⟩
      · rintro ⟨rfl, -⟩
        rfl
  | cons method rest ih =>
      rw [firstAccepting, List.flatMap_cons, List.forall_mem_cons]
      cases converted : coerceArguments method tokens with
      | ok arguments =>
          constructor
          · intro failed
            cases failed
          · rintro ⟨-, some, -⟩
            exact absurd (failuresOf_eq_nil_iff.mpr ⟨arguments, converted⟩) some
      | error here =>
          obtain ⟨rfl, some⟩ := coerceArguments_eq_error_iff.mp converted
          cases tried : firstAccepting tokens rest with
          | ok prepared =>
              constructor
              · intro failed
                cases failed
              · rintro ⟨-, -, all⟩
                rw [ih.mpr ⟨rfl, all⟩] at tried
                cases tried
          | error further =>
              obtain ⟨rfl, all⟩ := ih.mp tried
              constructor
              · intro failed
                exact ⟨(Except.error.inj failed).symm, some, all⟩
              · rintro ⟨rfl, -⟩
                rfl

end Failures

section Misfits

variable {interface : Interface} {name : String} {tokens : List String} {method : Method}
  {misfit : Misfit} {position : Nat}

theorem rejected?_eq_some_iff {conversion : Except CoercionError Value}
    {failure : CoercionError} :
    rejected? conversion = some failure ↔ conversion = .error failure := by
  cases conversion with
  | ok value => exact ⟨nofun, nofun⟩
  | error other => rw [rejected?, Option.some.injEq, Except.error.injEq]

theorem mem_misfitsOf_iff :
    misfit ∈ misfitsOf tokens position method ↔
      misfit.method = position ∧ ∃ (parameter : Parameter) (token : String),
        method.inputs[misfit.token]? = some parameter ∧ tokens[misfit.token]? = some token ∧
          Value.coerce parameter.type token = .error misfit.failure := by
  rw [misfitsOf, List.mem_filterMap]
  constructor
  · rintro ⟨⟨conversion, place⟩, member, made⟩
    obtain ⟨failure, rejected, rfl⟩ := Option.map_eq_some_iff.mp made
    obtain rfl := rejected?_eq_some_iff.mp rejected
    have here := List.mk_mem_zipIdx_iff_getElem?.mp member
    exact ⟨rfl, List.getElem?_zipWith_eq_some.mp here⟩
  · rintro ⟨rfl, failed⟩
    have here := List.getElem?_zipWith_eq_some.mpr failed
    exact ⟨_, List.mk_mem_zipIdx_iff_getElem?.mpr here, rfl⟩

/-- The positions of a list rise. -/
theorem pairwise_zipIdx {α : Type} (items : List α) :
    items.zipIdx.Pairwise fun earlier later => earlier.2 < later.2 := by
  apply List.pairwise_map.mp
  rw [List.zipIdx_map_snd]
  exact List.pairwise_lt_range'

theorem pairwise_misfitsOf (tokens : List String) (position : Nat) (method : Method) :
    (misfitsOf tokens position method).Pairwise Misfit.Before := by
  apply (pairwise_zipIdx (convert method.inputs tokens)).filterMap
  intro earlier later rising first here second there
  obtain ⟨_, -, rfl⟩ := Option.map_eq_some_iff.mp here
  obtain ⟨_, -, rfl⟩ := Option.map_eq_some_iff.mp there
  exact .inr ⟨rfl, rising⟩

theorem map_failure_misfitsOf (tokens : List String) (position : Nat) (method : Method) :
    (misfitsOf tokens position method).map Misfit.failure = failuresOf tokens method := by
  have forget : (fun place : Except CoercionError Value × Nat =>
      ((rejected? place.1).map (Misfit.mk position place.2)).map Misfit.failure) =
        rejected? ∘ Prod.fst := by
    funext place
    rw [Option.map_map, Function.comp_apply]
    exact Option.map_id'
  calc (misfitsOf tokens position method).map Misfit.failure
      = (convert method.inputs tokens).zipIdx.filterMap (rejected? ∘ Prod.fst) := by
        rw [misfitsOf, List.map_filterMap]
        exact congrArg (List.filterMap · _) forget
    _ = ((convert method.inputs tokens).zipIdx.map Prod.fst).filterMap rejected? := by
        rw [List.filterMap_map]
    _ = failuresOf tokens method := by
        rw [List.zipIdx_map_fst, failuresOf]

/-- All places where a token does not convert are listed. -/
theorem lists_misfits (interface : Interface) (name : String) (tokens : List String) :
    Misfit.Lists interface name tokens (misfits interface name tokens) where
  ordered := by
    rw [misfits, List.pairwise_flatMap]
    constructor
    · rintro ⟨method, position⟩ -
      dsimp only
      split
      · exact pairwise_misfitsOf tokens position method
      · exact .nil
    · apply (pairwise_zipIdx interface.methods).imp
      rintro ⟨method, position⟩ ⟨other, further⟩ rising first here second there
      dsimp only at here there
      split at here
      · split at there
        · obtain ⟨rfl, -⟩ := mem_misfitsOf_iff.mp here
          obtain ⟨rfl, -⟩ := mem_misfitsOf_iff.mp there
          exact .inl rising
        · cases there
      · cases here
  mem_iff misfit := by
    rw [misfits, List.mem_flatMap]
    constructor
    · rintro ⟨⟨method, position⟩, member, here⟩
      have declared := List.mk_mem_zipIdx_iff_getElem?.mp member
      dsimp only at here
      split at here
      · next fits =>
          obtain ⟨rfl, parameter, token, failed⟩ := mem_misfitsOf_iff.mp here
          exact ⟨method, parameter, token, declared, fits, failed⟩
      · cases here
    · rintro ⟨method, parameter, token, declared, fits, failed⟩
      refine ⟨(method, misfit.method), List.mk_mem_zipIdx_iff_getElem?.mpr declared, ?_⟩
      dsimp only
      rw [if_pos fits]
      exact mem_misfitsOf_iff.mpr ⟨rfl, parameter, token, failed⟩

theorem candidates_eq_filter_matches (interface : Interface) (name : String) (arity : Nat) :
    candidates interface name arity = interface.methods.filter (·.Matches name arity) :=
  candidates_eq_filter interface name arity

/-- The failures come from the candidates one after the other. -/
theorem map_failure_misfits (interface : Interface) (name : String) (tokens : List String) :
    (misfits interface name tokens).map Misfit.failure =
      (candidates interface name tokens.length).flatMap (failuresOf tokens) := by
  let failuresIf (method : Method) : List CoercionError :=
    if method.Matches name tokens.length then failuresOf tokens method else []
  have chosen (methods : List Method) : methods.flatMap failuresIf =
      (methods.filter (·.Matches name tokens.length)).flatMap (failuresOf tokens) := by
    induction methods with
    | nil => rfl
    | cons method rest ih =>
        by_cases fits : method.Matches name tokens.length
        · simpa [failuresIf, fits] using ih
        · simpa [failuresIf, fits] using ih
  have forget : (fun place : Method × Nat =>
      (if place.1.Matches name tokens.length then misfitsOf tokens place.2 place.1
        else []).map Misfit.failure) = failuresIf ∘ Prod.fst := by
    funext place
    simp only [Function.comp_apply, failuresIf]
    split
    · exact map_failure_misfitsOf tokens place.2 place.1
    · rfl
  calc (misfits interface name tokens).map Misfit.failure
      = interface.methods.zipIdx.flatMap (failuresIf ∘ Prod.fst) := by
        rw [misfits, List.map_flatMap]
        exact congrArg (List.flatMap · _) forget
    _ = (interface.methods.zipIdx.map Prod.fst).flatMap failuresIf := by
        rw [List.flatMap_map]
        rfl
    _ = (candidates interface name tokens.length).flatMap (failuresOf tokens) := by
        rw [List.zipIdx_map_fst, chosen, candidates_eq_filter_matches]

end Misfits

section Diagnosis

variable {interface : Interface} {name : String} {tokens : List String} {error : SessionError}

/-- The three ways in which failures are put into one error. -/
theorem rejection_cases (name : String) (arity : Nat) (failures : List CoercionError) :
    (failures = [] ∧ rejection name arity failures = .methodNotFound name arity) ∨
      (∃ tag, failures.head? = some (.unsupportedType tag) ∧
        (∀ failure ∈ failures, ∃ other, failure = .unsupportedType other) ∧
        rejection name arity failures = .unsupportedType name tag) ∨
      (∃ token type fault, .invalidArgument token type fault ∈ failures ∧
        rejection name arity failures = .invalidArguments name failures) := by
  by_cases all : ∀ failure ∈ failures, ∃ other, failure = .unsupportedType other
  · cases failures with
    | nil => exact .inl ⟨rfl, rfl⟩
    | cons first rest =>
        obtain ⟨tag, rfl⟩ := all first List.mem_cons_self
        have unsupported : (CoercionError.unsupportedType tag :: rest).all
            CoercionError.isUnsupported = true := by
          rw [List.all_eq_true]
          intro failure member
          obtain ⟨other, rfl⟩ := all failure member
          rfl
        refine .inr (.inl ⟨tag, rfl, all, ?_⟩)
        rw [rejection, unsupported]
        rfl
  · have mixed : failures.all CoercionError.isUnsupported = false := by
      rw [← Bool.not_eq_true, List.all_eq_true]
      intro unsupported
      apply all
      intro failure member
      cases failure with
      | unsupportedType tag => exact ⟨tag, rfl⟩
      | invalidArgument token type fault => cases unsupported _ member
    obtain ⟨failure, member, supported⟩ := List.all_eq_false.mp mixed
    cases failure with
    | unsupportedType tag => exact absurd rfl supported
    | invalidArgument token type fault =>
        refine .inr (.inr ⟨token, type, fault, member, ?_⟩)
        have some : failures.isEmpty = false :=
          List.isEmpty_eq_false_iff.mpr (List.ne_nil_of_mem member)
        rw [rejection, some, mixed]
        cases failures.findSome? unsupportedTag? <;> rfl

/-- A rejected call has been refused by every candidate. -/
theorem prepare_eq_error_iff :
    prepare interface name tokens = .error error ↔
      error = rejection name tokens.length ((misfits interface name tokens).map Misfit.failure) ∧
        ∀ method ∈ interface.methods, method.Matches name tokens.length →
          failuresOf tokens method ≠ [] := by
  have matching : (∀ method ∈ candidates interface name tokens.length,
        failuresOf tokens method ≠ []) ↔
      ∀ method ∈ interface.methods, method.Matches name tokens.length →
        failuresOf tokens method ≠ [] := by
    simp only [candidates_eq_filter_matches, List.mem_filter, decide_eq_true_eq, and_imp]
  rw [prepare, map_failure_misfits, ← matching]
  cases tried : firstAccepting tokens (candidates interface name tokens.length) with
  | ok prepared =>
      constructor
      · intro failed
        cases failed
      · rintro ⟨-, refused⟩
        rw [firstAccepting_eq_error_iff.mpr ⟨rfl, refused⟩] at tried
        cases tried
  | error failures =>
      obtain ⟨rfl, refused⟩ := firstAccepting_eq_error_iff.mp tried
      constructor
      · intro failed
        exact ⟨(Except.error.inj failed).symm, refused⟩
      · rintro ⟨rfl, -⟩
        rfl

/-- Every candidate that was refused has its part in the diagnosis. -/
theorem exists_misfit {position : Nat} {method : Method}
    (declared : interface.methods[position]? = some method)
    (fits : method.Matches name tokens.length) (refused : failuresOf tokens method ≠ []) :
    ∃ misfit ∈ misfits interface name tokens, misfit.method = position := by
  obtain ⟨failure, member⟩ := List.exists_mem_of_ne_nil _ refused
  rw [← map_failure_misfitsOf tokens position, List.mem_map] at member
  obtain ⟨misfit, here, -⟩ := member
  obtain ⟨rfl, parameter, token, failed⟩ := mem_misfitsOf_iff.mp here
  have occurs : misfit.Occurs interface name tokens :=
    ⟨method, parameter, token, declared, fits, failed⟩
  exact ⟨misfit, ((lists_misfits interface name tokens).mem_iff misfit).mpr occurs, rfl⟩

/-- No failure stands for no candidate. -/
theorem misfits_eq_nil_iff
    (refused : ∀ method ∈ interface.methods, method.Matches name tokens.length →
      failuresOf tokens method ≠ []) :
    misfits interface name tokens = [] ↔
      ∀ method ∈ interface.methods, ¬ method.Matches name tokens.length := by
  constructor
  · intro none method member fits
    obtain ⟨position, declared⟩ := List.mem_iff_getElem?.mp member
    obtain ⟨misfit, listed, -⟩ := exists_misfit declared fits (refused method member fits)
    rw [none] at listed
    cases listed
  · intro unknown
    apply List.eq_nil_iff_forall_not_mem.mpr
    intro misfit listed
    obtain ⟨method, parameter, token, declared, fits, -⟩ :=
      ((lists_misfits interface name tokens).mem_iff misfit).mp listed
    exact unknown method (List.mem_of_getElem? declared) fits

/-- Without tokens nothing can be wrong with them. -/
theorem misfits_nil (interface : Interface) (name : String) : misfits interface name [] = [] := by
  apply List.eq_nil_iff_forall_not_mem.mpr
  intro misfit listed
  obtain ⟨method, parameter, token, -, -, -, given, -⟩ :=
    ((lists_misfits interface name []).mem_iff misfit).mp listed
  cases given

end Diagnosis

end Invocation

/-- A misfit that is about a token names it, and the type that it was meant for. -/
theorem Misfit.Occurs.of_invalidArgument {misfit : Misfit} {interface : Interface}
    {name : String} {tokens : List String} {token : String} {type : ScalarType}
    {fault : CoercionFault} (occurs : misfit.Occurs interface name tokens)
    (failure : misfit.failure = .invalidArgument token type fault) :
    ∃ (method : Method) (parameter : Parameter),
      interface.methods[misfit.method]? = some method ∧
        method.inputs[misfit.token]? = some parameter ∧
        tokens[misfit.token]? = some token ∧ parameter.type = String.singleton type.tag := by
  obtain ⟨method, parameter, given, declared, -, here, there, failed⟩ := occurs
  rw [failure] at failed
  rcases Value.coerce_eq_error_iff.mp failed with ⟨wrong, -⟩ | ⟨_, _, spelled, -, same⟩
  · cases wrong
  · obtain ⟨rfl, rfl, rfl⟩ := CoercionError.invalidArgument.inj same
    exact ⟨method, parameter, declared, here, there, spelled⟩

namespace Invocation

/-- A rejected call is diagnosed exactly.  The method is not found if and only if none has the
name and takes as many arguments; nothing else can be said of a call without tokens.  Otherwise
all misfits count, and every matching method has some.  If all of them are types that cannot
be converted to, the first type is reported; if not, the failures are reported as they are,
and one of them names a token and the type that it was meant for. -/
theorem rejected_call_is_diagnosed (interface : Interface) (name : String)
    (tokens : List String) {error : SessionError}
    (rejected : prepare interface name tokens = .error error) :
    (error = .methodNotFound name tokens.length ↔
        ∀ method ∈ interface.methods, ¬ method.Matches name tokens.length) ∧
      (tokens = [] → error = .methodNotFound name 0) ∧
      ∃ misfits, Misfit.Lists interface name tokens misfits ∧
        (∀ (position : Nat) (method : Method), interface.methods[position]? = some method →
          method.Matches name tokens.length → ∃ misfit ∈ misfits, misfit.method = position) ∧
        ((∃ method ∈ interface.methods, method.Matches name tokens.length) →
          (∀ tag, error = .unsupportedType name tag ↔
            (∀ misfit ∈ misfits, ∃ other, misfit.failure = .unsupportedType other) ∧
              misfits.head?.map Misfit.failure = some (.unsupportedType tag)) ∧
          ((∃ misfit ∈ misfits, ∀ other, misfit.failure ≠ .unsupportedType other) →
            error = .invalidArguments name (misfits.map Misfit.failure) ∧
              ∃ misfit ∈ misfits, ∃ (method : Method) (parameter : Parameter) (token : String)
                (type : ScalarType) (fault : CoercionFault),
                interface.methods[misfit.method]? = some method ∧
                  method.inputs[misfit.token]? = some parameter ∧
                  tokens[misfit.token]? = some token ∧
                  parameter.type = String.singleton type.tag ∧
                  misfit.failure = .invalidArgument token type fault)) := by
  obtain ⟨rfl, refused⟩ := prepare_eq_error_iff.mp rejected
  have lists := lists_misfits interface name tokens
  have none_iff := misfits_eq_nil_iff refused
  have part (position : Nat) (method : Method)
      (declared : interface.methods[position]? = some method)
      (fits : method.Matches name tokens.length) :=
    exists_misfit declared fits (refused method (List.mem_of_getElem? declared) fits)
  have empty (without : tokens = []) : misfits interface name tokens = [] := by
    rw [without, misfits_nil]
  rcases rejection_cases name tokens.length ((misfits interface name tokens).map Misfit.failure)
    with ⟨none, diagnosis⟩ | ⟨tag, first, all, diagnosis⟩ | ⟨token, type, fault, wrong, diagnosis⟩
  · have unknown := none_iff.mp (List.map_eq_nil_iff.mp none)
    rw [diagnosis]
    refine ⟨iff_of_true rfl unknown, fun without => by rw [without]; rfl, _, lists, part, ?_⟩
    rintro ⟨method, member, fits⟩
    exact absurd fits (unknown method member)
  · have some : misfits interface name tokens ≠ [] := by
      intro none
      rw [none] at first
      cases first
    rw [diagnosis]
    refine ⟨iff_of_false nofun (mt none_iff.mpr some), fun without => absurd (empty without) some,
      _, lists, part, fun _ => ⟨fun other => ?_, ?_⟩⟩
    · rw [← List.head?_map, first, SessionError.unsupportedType.injEq, Option.some.injEq,
        CoercionError.unsupportedType.injEq]
      constructor
      · rintro ⟨-, rfl⟩
        exact ⟨fun misfit listed => all _ (List.mem_map_of_mem listed), rfl⟩
      · rintro ⟨-, rfl⟩
        exact ⟨rfl, rfl⟩
    · rintro ⟨misfit, listed, supported⟩
      obtain ⟨other, same⟩ := all _ (List.mem_map_of_mem listed)
      exact absurd same (supported other)
  · obtain ⟨misfit, listed, failure⟩ := List.mem_map.mp wrong
    have some := List.ne_nil_of_mem listed
    rw [diagnosis]
    refine ⟨iff_of_false nofun (mt none_iff.mpr some), fun without => absurd (empty without) some,
      _, lists, part, fun _ => ⟨fun other => iff_of_false nofun ?_, fun _ => ⟨rfl, ?_⟩⟩⟩
    · rintro ⟨all, -⟩
      obtain ⟨tag, unsupported⟩ := all misfit listed
      rw [failure] at unsupported
      cases unsupported
    · obtain ⟨method, parameter, named⟩ :=
        ((lists.mem_iff misfit).mp listed).of_invalidArgument failure
      obtain ⟨declared, here, given, spelled⟩ := named
      exact ⟨misfit, listed, method, parameter, token, type, fault, declared, here, given,
        spelled, failure⟩

/-- One overload has a type that no token converts to, the other is given no number; both
failures are reported. -/
theorem both_overloads_are_diagnosed :
    let listed : Method := ⟨"open", [⟨none, .input, "as"⟩]⟩
    let counted : Method := ⟨"open", [⟨none, .input, "i"⟩]⟩
    let shelf : Interface := ⟨"shelf", [listed, counted], []⟩
    let failures : List CoercionError :=
      [.unsupportedType "as", .invalidArgument "x" (.integer .int32) (.integer .invalidDigit)]
    prepare shelf "open" ["x"] = .error (.invalidArguments "open" failures) ∧
      ∃ misfits, Misfit.Lists shelf "open" ["x"] misfits ∧
        ∃ misfit ∈ misfits, misfit.method = 1 := by
  intro listed counted shelf failures
  have rejected : prepare shelf "open" ["x"] = .error (.invalidArguments "open" failures) := by
    rfl
  obtain ⟨-, -, misfits, lists, part, -⟩ := rejected_call_is_diagnosed shelf "open" ["x"] rejected
  exact ⟨rejected, misfits, lists, part 1 counted rfl ⟨rfl, rfl⟩⟩

end Invocation

end BusBridge
