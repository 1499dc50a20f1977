import BusBridge.Command
import BusBridge.Proofs.LevelReading
import BusBridge.Run.Stages

/-!
# Written requests are read back

A request that was put on a command line in the standard way is understood as it was meant,
whatever its arguments look like.
-/

namespace BusBridge

namespace CommandLine

section Commands

variable (options : List (OptionName × RawText))

/-- After the two dashes nothing but the name and the arguments is seen. -/
theorem readFrom_method (name : String) (arguments : List String) :
    methodLevel.readFrom ⟨options, [], .nothing, true⟩ ((name :: arguments).map .ofString) =
      .ok ⟨options, (name :: arguments).map .ofString, .nothing, true⟩ := by
  let named : Progress :=
    ⟨options, [], .words ⟨"<METHOD>", true, false, false⟩ [.ofString name], true⟩
  have first : methodLevel.step ⟨options, [], .nothing, true⟩ (.ofString name) = .ok named := by
    rw [step_of_terminated rfl]
    exact readPlain_first rfl rfl _
  rw [List.map_cons, Level.readFrom_cons first]
  cases arguments with
  | nil =>
      have only := @Level.readFrom_nil methodLevel named _ [name] rfl rfl
      simpa [named] using only
  | cons argument rest =>
      let given : Progress := ⟨options, [.ofString name],
        .words ⟨"[ARG]...", false, true, true⟩ [.ofString argument], true⟩
      -- The place of the name is full, so the first argument begins the other place.
      have second : methodLevel.step named (.ofString argument) = .ok given := by
        rw [step_of_terminated rfl]
        simp [Level.readPlain, Level.place?, methodLevel, Progress.wordCount, Progress.resolve,
          Level.orUsage, named, given]
      rw [List.map_cons, Level.readFrom_cons second]
      have others := @Level.readFrom_lastPlace methodLevel given _ [argument] rest
        rfl rfl rfl rfl (Nat.le_refl 2)
      simpa [given] using others

theorem readFrom_signal {names : List String} (named : names ≠ []) :
    signalLevel.readFrom ⟨options, [], .nothing, true⟩ (names.map .ofString) =
      .ok ⟨options, names.map .ofString, .nothing, true⟩ := by
  obtain ⟨name, rest, rfl⟩ := List.exists_cons_of_ne_nil named
  let given : Progress :=
    ⟨options, [], .words ⟨"<SIGNAL>...", true, true, false⟩ [.ofString name], true⟩
  have first : signalLevel.step ⟨options, [], .nothing, true⟩ (.ofString name) = .ok given := by
    rw [step_of_terminated rfl]
    exact readPlain_first rfl rfl _
  rw [List.map_cons, Level.readFrom_cons first]
  have others := @Level.readFrom_lastPlace signalLevel given _ [name] rest
    rfl rfl rfl rfl (Nat.le_refl 1)
  simpa [given] using others

variable {options}

theorem readFrom_plain {command : TypedCommand} (writable : command.IsWritable) :
    command.commandName.level.readFrom ⟨options, [], .nothing, true⟩
        (command.parts.2.map .ofString) =
      .ok ⟨options, command.parts.2.map .ofString, .nothing, true⟩ := by
  cases command with
  | method name arguments signals seconds => exact readFrom_method options name arguments
  | signal names seconds => exact readFrom_signal options writable.1
  | api => rfl

theorem check_output (format : OutputFormat) :
    outputOption.rule.check outputOption.usage (.ofString format.word) = .ok () := by
  cases format <;> simp [outputOption, ValueRule.check, OutputFormat.word]

theorem givable_method (signals : List String) {seconds : Nat} (below : seconds < Nat.pow 2 64) :
    Givable methodLevel
      (signals.map (signalOption, ·) ++ [(signalTimeoutOption, toString seconds)]) := by
  induction signals with
  | nil =>
      exact .cons (by simp [methodLevel]) (ValueRule.check_seconds _ below)
        (List.forall_mem_nil _) (.nil _)
  | cons signal rest ih =>
      refine .cons (by simp [methodLevel]) (ValueRule.check_text _ signal) ?_ ih
      -- The option may be repeated, and the option after all of them is another one.
      intro later member same
      rcases List.mem_append.mp member with member | member
      · obtain ⟨other, -, rfl⟩ := List.mem_map.mp member
        rfl
      · obtain rfl := List.mem_singleton.mp member
        cases same

theorem name_ne_output {command : TypedCommand} {entry : OptionSpec × String}
    (member : entry ∈ command.parts.1) : entry.1.name ≠ .output := by
  cases command with
  | method name arguments signals seconds =>
      rcases List.mem_append.mp member with member | member
      · obtain ⟨signal, -, rfl⟩ := List.mem_map.mp member
        exact nofun
      · obtain rfl := List.mem_singleton.mp member
        exact nofun
  | signal names seconds =>
      obtain rfl := List.mem_singleton.mp member
      exact nofun
  | api => cases member

theorem givable_options {request : TypedRequest} (writable : request.command.IsWritable) :
    Givable request.command.commandName.level request.options := by
  obtain ⟨command, format⟩ := request
  have listed : outputOption ∈ command.commandName.level.options := by
    cases command <;> exact List.mem_cons_self
  have further : Givable command.commandName.level command.parts.1 := by
    cases command with
    | method name arguments signals seconds => exact givable_method signals writable
    | signal names seconds =>
        exact .cons (by simp [signalLevel, TypedCommand.commandName, CommandName.level])
          (ValueRule.check_seconds _ writable.2) (List.forall_mem_nil _) (.nil _)
    | api => exact .nil _
  refine .cons listed (check_output format) (fun later member same => ?_) further
  exact absurd same.symm (name_ne_output member)

/-- The words after the command are read as the options and the plain words. -/
theorem read_level {request : TypedRequest} (writable : request.command.IsWritable) :
    request.command.commandName.level.read (request.words.tail.map .ofString) =
      .ok ⟨request.options.map taken, request.command.parts.2.map .ofString, .nothing, true⟩ := by
  let level := request.command.commandName.level
  let filled : Progress := ⟨request.options.map taken, [], .nothing, false⟩
  have given : (request.options.map fun entry =>
      RawText.ofString (entry.1.assign entry.2)).foldlM level.step .start = .ok filled := by
    exact @foldlM_assign level request.options .start (legible_level _)
      (givable_options writable) nofun rfl rfl
  have dashes : level.step filled (.ofString "--") = .ok { filled with terminated := true } := by
    rfl
  have words : request.words.tail.map RawText.ofString =
      request.options.map (fun entry => RawText.ofString (entry.1.assign entry.2)) ++
        .ofString "--" :: request.command.parts.2.map .ofString := by
    simp [TypedRequest.words]
  rw [words, Level.read_eq_readFrom, Level.readFrom_append given, Level.readFrom_cons dashes]
  exact readFrom_plain writable

section Meaning

variable {given : List (OptionSpec × String)} {words : List RawText} {ended : Bool}

theorem values_taken (name : OptionName) :
    Progress.values ⟨given.map taken, words, .nothing, ended⟩ name =
      (given.filter fun entry => entry.1.name = name).map fun entry => .ofString entry.2 := by
  rw [Progress.values, List.filter_map, List.map_map]
  rfl

theorem textsOf_taken (name : OptionName) :
    textsOf ⟨given.map taken, words, .nothing, ended⟩ name =
      (given.filter fun entry => entry.1.name = name).map Prod.snd := by
  rw [textsOf, values_taken, ← RawText.filterMap_decode?_ofString ((given.filter _).map _),
    List.map_map]
  rfl

theorem secondsOf_taken {name : OptionName} {option : OptionSpec} {seconds : Nat}
    (below : seconds < Nat.pow 2 64)
    (chosen : (given.filter fun entry => entry.1.name = name) = [(option, toString seconds)]) :
    secondsOf ⟨given.map taken, words, .nothing, true⟩ name = seconds := by
  have read := IntegerType.read_toString ⟨seconds, IntegerType.contains_uint64 below⟩ seconds rfl
  rw [secondsOf, values_taken, chosen]
  simp only [List.map_cons, List.map_nil, List.getLast?_singleton, Option.bind_some,
    RawText.decode?_ofString, read]
  exact Int.toNat_natCast seconds

theorem formatOf?_taken (request : TypedRequest) :
    formatOf? ⟨request.options.map taken, words, .nothing, true⟩ = some request.format := by
  have chosen : (request.options.filter fun entry => entry.1.name = .output) =
      [(outputOption, request.format.word)] := by
    obtain ⟨command, format⟩ := request
    cases command <;> simp [TypedRequest.options, TypedCommand.parts, outputOption, signalOption,
      signalTimeoutOption, timeoutOption]
  rw [formatOf?, textsOf_taken, chosen]
  cases request.format <;> rfl

theorem typedCommand_taken {request : TypedRequest} (writable : request.command.IsWritable) :
    typedCommand request.command.commandName
        ⟨request.options.map taken, request.command.parts.2.map .ofString, .nothing, true⟩ =
      request.command := by
  obtain ⟨command, format⟩ := request
  cases command with
  | method name arguments signals seconds =>
      let request : TypedRequest := ⟨.method name arguments signals seconds, format⟩
      have limit : (request.options.filter fun entry => entry.1.name = .signalTimeout) =
          [(signalTimeoutOption, toString seconds)] := by
        simp [request, TypedRequest.options, TypedCommand.parts, outputOption, signalOption,
          signalTimeoutOption]
      have awaited : (request.options.filter fun entry => entry.1.name = .signal).map Prod.snd =
          signals := by
        simp [request, TypedRequest.options, TypedCommand.parts, outputOption, signalOption,
          signalTimeoutOption, List.filter_map, Function.comp_def]
      rw [TypedCommand.commandName, typedCommand, textsOf_taken, awaited,
        secondsOf_taken writable limit, wordsOf, RawText.filterMap_decode?_ofString]
      rfl
  | signal names seconds =>
      let request : TypedRequest := ⟨.signal names seconds, format⟩
      have limit : (request.options.filter fun entry => entry.1.name = .timeout) =
          [(timeoutOption, toString seconds)] := by
        simp [request, TypedRequest.options, TypedCommand.parts, outputOption, timeoutOption]
      rw [TypedCommand.commandName, typedCommand, secondsOf_taken writable.2 limit, wordsOf,
        RawText.filterMap_decode?_ofString]
      rfl
  | api => rfl

end Meaning

theorem CommandName.ofWord_word (name : CommandName) :
    Token.ofWord (.ofString name.word) = .plain := by
  cases name <;> decide +kernel

theorem CommandName.ofWord?_word (name : CommandName) :
    CommandName.ofWord? (.ofString name.word) = some name := by
  cases name <;> simp [CommandName.ofWord?, CommandName.all, CommandName.word]

theorem readHeading_word (name : CommandName) (rest : List RawText) :
    readHeading .start (.ofString name.word :: rest) = .ok (.command .start name rest) := by
  rw [readHeading, name.ofWord_word, name.ofWord?_word]
  rfl

/-- What was written is read back, behind any name of the program. -/
theorem read_line {request : TypedRequest} (writable : request.command.IsWritable)
    (program : RawText) : CommandLine.read (request.line program) = .ok request := by
  have words : request.words.map RawText.ofString =
      .ofString request.command.commandName.word :: request.words.tail.map .ofString := by
    rfl
  rw [TypedRequest.line, CommandLine.read, List.tail_cons, words, readWords, readHeading_word]
  simp only [read_level writable, Progress.resolve, Progress.start, typedCommand_taken writable,
    formatOf?_taken]
  rfl

end Commands

end CommandLine

namespace Run

open CommandLine

section Lines

variable {request : TypedRequest} (program : RawText)

theorem flagShape_word (name : CommandName) : flagShape (.ofString name.word) = .none := by
  cases name <;> decide +kernel

/-- There are no configuration flags before the command. -/
theorem splitWords_words (request : TypedRequest) :
    splitWords (request.words.map .ofString) = ([], request.words.map .ofString) :=
  splitWords_of_none (flagShape_word request.command.commandName) _

theorem flags_line : flags (request.line program) = [program] := by
  rw [flags, TypedRequest.line, Split.ofArguments, splitWords_words]

theorem commandArguments_line :
    (Split.ofArguments (request.line program)).commandArguments (request.line program) =
      request.line program := by
  rw [TypedRequest.line, Split.ofArguments, splitWords_words]
  rfl

theorem asked_line (writable : request.command.IsWritable) :
    asked (request.line program) = .ok request := by
  rw [asked, words, commandArguments_line, read_line writable]

end Lines

/-- Every request can be written on a command line and is read back as it was meant.  The
options stand in one word each with their values, and behind two dashes the arguments may
look like anything: like options, like commands, or like nothing at all. -/
theorem written_requests_are_read_back (program : RawText) (format : OutputFormat)
    {seconds : Nat} (below : seconds < Nat.pow 2 64) :
    (∀ (name : String) (arguments signals : List String), Text.IsTrimmed name →
      (∀ signal ∈ signals, Text.IsTrimmed signal) →
        let line := program :: (["method", "--output=" ++ format.word] ++
          signals.map (fun signal => "--signal=" ++ signal) ++
          ["--signal-timeout=" ++ toString seconds, "--", name] ++ arguments).map RawText.ofString
        flags line = [program] ∧ (Split.ofArguments line).commandArguments line = line ∧
          ∃ (typed : TypedRequest) (set : SignalSet) (limit : WaitLimit),
            asked line = .ok typed ∧ typed.format = format ∧
              Command.ofTyped typed.command = .ok (.method name arguments set limit) ∧
              (∀ signal, set.contains signal = true ↔ signal ∈ signals) ∧
              limit.seconds? = if seconds = 0 then none else some seconds) ∧
      ∀ names : List String, names ≠ [] → (∀ name ∈ names, Text.IsTrimmed name) →
        let line := program :: (["signal", "--output=" ++ format.word,
          "--timeout=" ++ toString seconds, "--"] ++ names).map RawText.ofString
        flags line = [program] ∧ (Split.ofArguments line).commandArguments line = line ∧
          ∃ (typed : TypedRequest) (set : SignalSet) (limit : WaitLimit),
            asked line = .ok typed ∧ typed.format = format ∧
              Command.ofTyped typed.command = .ok (.signal set limit) ∧
              (∀ name, set.contains name = true ↔ name ∈ names) ∧
              limit.seconds? = if seconds = 0 then none else some seconds := by
  constructor
  · intro name arguments signals trimmed others line
    let request : TypedRequest := ⟨.method name arguments signals seconds, format⟩
    have written : line = request.line program := by
      simp [line, request, TypedRequest.line, TypedRequest.words, TypedRequest.options,
        TypedCommand.parts, TypedCommand.commandName, CommandName.word, OptionSpec.assign,
        outputOption, signalOption, signalTimeoutOption]
    rw [written]
    have understood := Command.ofTyped_method_of_isTrimmed seconds arguments trimmed others
    exact ⟨flags_line program, commandArguments_line program, request, _, _,
      asked_line program below, rfl, understood, fun _ => SignalSet.contains_ofList,
      WaitLimit.seconds?_ofSeconds seconds⟩
  · intro names named trimmed line
    let request : TypedRequest := ⟨.signal names seconds, format⟩
    have written : line = request.line program := by
      simp [line, request, TypedRequest.line, TypedRequest.words, TypedRequest.options,
        TypedCommand.parts, TypedCommand.commandName, CommandName.word, OptionSpec.assign,
        outputOption, timeoutOption]
    rw [written]
    have understood := Command.ofTyped_signal_of_isTrimmed seconds named trimmed
    exact ⟨flags_line program, commandArguments_line program, request, _, _,
      asked_line program ⟨named, below⟩, rfl, understood,
      fun _ => SignalSet.contains_ofList, WaitLimit.seconds?_ofSeconds seconds⟩

theorem arguments_like_options_are_read_back :
    let arguments := ["", "-5", "--", "--signal=x", "api", " "]
    let line := RawText.ofString "ndb-cli" :: (["method", "--output=json", "--signal=done",
      "--signal-timeout=0", "--", "--open"] ++ arguments).map RawText.ofString
    ∃ (typed : TypedRequest) (set : SignalSet) (limit : WaitLimit),
      asked line = .ok typed ∧
        Command.ofTyped typed.command = .ok (.method "--open" arguments set limit) ∧
        set.contains "done" = true ∧ limit.seconds? = none := by
  intro arguments line
  have name : Text.IsTrimmed "--open" := by
    refine ⟨by decide, ?_, ?_⟩ <;> rintro _ ⟨⟩ <;> rfl
  have signal : Text.IsTrimmed "done" := by
    refine ⟨by decide, ?_, ?_⟩ <;> rintro _ ⟨⟩ <;> rfl
  obtain ⟨method, -⟩ := written_requests_are_read_back (.ofString "ndb-cli") .json
    (show 0 < Nat.pow 2 64 by decide)
  obtain ⟨-, -, typed, set, limit, read, -, command, known, never⟩ :=
    method "--open" arguments ["done"] name (by simpa using signal)
  exact ⟨typed, set, limit, read, command, (known "done").mpr List.mem_cons_self, never⟩

end Run

end BusBridge
