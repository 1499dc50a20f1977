import BusBridge.Proofs.ContinuedReading
import BusBridge.Settings.Sources

/-!
# Flags after the words that name a file

The flags give the same settings with a configuration file named in front of them as without
it, unless they name a file themselves.
-/

namespace BusBridge

namespace CommandLine

namespace Level

variable {level : Level} {progress : Progress} {error : UsageError}

/-- Where what is pending cannot be taken in, no option can be met. -/
theorem meet_ne_ok (failed : progress.resolve = .error error) (option : OptionSpec)
    (value? : Option RawText) (next : Progress) : meet progress option value? ≠ .ok next := by
  rw [meet, failed]
  intro same
  cases same

theorem display_ne_ok (failed : progress.resolve = .error error) (request : Interruption)
    (next : Progress) : display progress request ≠ .ok next := by
  rw [display, failed]
  intro same
  cases same

theorem readLong_ne_ok (failed : progress.resolve = .error error) (name : RawText)
    (value? : Option RawText) (next : Progress) :
    level.readLong progress name value? ≠ .ok next := by
  unfold readLong
  dsimp only
  split
  · intro same
    cases same
  split
  · exact meet_ne_ok failed _ value? next
  split
  · split
    · intro same
      cases same
    · exact display_ne_ok failed _ next
  split
  · split
    · intro same
      cases same
    · exact display_ne_ok failed _ next
  · intro same
    cases same

theorem readShort_ne_ok (failed : progress.resolve = .error error) (lead : UInt8)
    (rest : List UInt8) (next : Progress) :
    level.readShort progress (lead :: rest) ≠ .ok next := by
  dsimp only [readShort]
  split
  · intro same
    cases same
  split
  · exact meet_ne_ok failed _ _ next
  split
  · exact display_ne_ok failed _ next
  split
  · exact display_ne_ok failed _ next
  · intro same
    cases same

/-- An option that awaits its value takes a plain word, and nothing else. -/
theorem step_awaiting {option : OptionSpec} {word : RawText} {next : Progress}
    (noPlaces : level.places = []) (awaiting : progress.pending = .awaiting option)
    (going : progress.terminated = false) (stepped : level.step progress word = .ok next) :
    next = { progress with terminated := true } ∨
      next = { progress with pending := .value option word } := by
  have failed : progress.resolve = .error (.invalidValue option.usage "") := by
    rw [Progress.resolve, awaiting]
  have noNumbers : level.allowsNegativeNumber progress = false := by
    simp [allowsNegativeNumber, place?, noPlaces]
  have plain : level.readPlain progress word =
      .ok { progress with pending := .value option word } := by
    rw [readPlain, awaiting, going]
  rw [step, going, if_neg Bool.false_ne_true] at stepped
  cases token : Token.ofWord word with
  | terminator =>
      rw [token] at stepped
      exact .inl (Except.ok.inj stepped).symm
  | long name value? =>
      rw [token] at stepped
      exact absurd stepped (readLong_ne_ok failed name value? next)
  | short cluster =>
      obtain ⟨lead, rest, rfl⟩ := Token.exists_cons_of_short token
      rw [token] at stepped
      simp only [noNumbers, Bool.and_false, Bool.false_eq_true, if_false] at stepped
      exact absurd stepped (readShort_ne_ok failed lead rest next)
  | plain =>
      rw [token] at stepped
      exact .inr (Except.ok.inj (plain.symm.trans stepped)).symm

end Level

end CommandLine

namespace Flags

open CommandLine

/-- The option that names a file. -/
def pathOption : OptionSpec :=
  level.options.get ⟨3, by decide⟩

theorem legible_level : level.Legible where
  plain := by decide +kernel
  found := by decide

theorem pathOption_mem : pathOption ∈ level.options := by
  decide

theorem read_eq_ok_iff {words : List RawText} {given : Given} :
    Flags.read words = .ok given ↔
      ∃ progress, level.read words = .ok progress ∧ Flags.given progress = given := by
  unfold Flags.read
  cases level.read words <;> simp

theorem accept_path {progress : Progress} {path : RawText}
    (accepted : Progress.start.accept pathOption path = .ok progress) :
    progress = Progress.start.after [(.configPath, path)] :=
  (legal_of_accept accepted).2

theorem step_joined_path (path : RawText) :
    level.step .start ⟨(RawText.ofString "--config-path").bytes ++ 0x3D :: path.bytes⟩ =
      Level.orUsage (Progress.start.accept pathOption path) := by
  have dashes : (RawText.ofString "--config-path").bytes =
      Token.dash :: Token.dash :: (RawText.ofString pathOption.long).bytes := by decide +kernel
  rw [dashes]
  exact step_joined legible_level pathOption_mem rfl path.bytes

theorem step_pathOption :
    level.step .start (.ofString "--config-path") =
      .ok { Progress.start with pending := .awaiting pathOption } := by
  have token : Token.ofWord (.ofString "--config-path") = .long (.ofString "config-path") none := by
    decide +kernel
  have found : level.longOption? "config-path" = some pathOption := by decide
  have going : Progress.start.terminated = false := rfl
  rw [Level.step, going, if_neg Bool.false_ne_true, token]
  simp [Level.readLong, found, Level.meet, Progress.resolve, Progress.start, Level.orUsage]

/-- The words that name a file, if they can be read, give its path and nothing else. -/
theorem read_namedFile {file : NamedFile} {progress : Progress}
    (read : level.read file.words = .ok progress) :
    progress = Progress.start.after [(.configPath, file.path)] := by
  obtain ⟨pending, stepped, resolved⟩ := (Level.read_eq_ok_iff rfl).mp read
  unfold NamedFile.words at stepped
  split at stepped
  · rw [List.foldlM_cons, step_joined_path] at stepped
    cases accepted : Progress.start.accept pathOption file.path with
    | error error =>
        rw [accepted] at stepped
        cases stepped
    | ok next =>
        rw [accepted] at stepped
        obtain rfl := Except.ok.inj stepped
        obtain rfl := accept_path accepted
        exact (Except.ok.inj resolved).symm
  · rw [List.foldlM_cons, step_pathOption] at stepped
    cases taken : level.step { Progress.start with pending := .awaiting pathOption } file.path with
    | error stop =>
        simp only [bind, Except.bind, List.foldlM_cons, taken] at stepped
        cases stepped
    | ok next =>
        simp only [bind, Except.bind, List.foldlM_cons, taken] at stepped
        obtain rfl := Except.ok.inj stepped
        rcases Level.step_awaiting rfl rfl rfl taken with rfl | rfl
        · cases resolved
        · exact accept_path resolved

section Named

variable {words : List RawText} {given own : Given} {progress : Progress} {path : RawText}
  {file : NamedFile}

theorem avoids_of_pathless (pathless : (Flags.given progress).configPath? = none) :
    progress.Avoids [(.configPath, path)] := by
  intro old member entry taken same
  obtain rfl := List.mem_singleton.mp member
  have listed : entry.2 ∈ progress.values .configPath := by
    refine List.mem_map_of_mem (List.mem_filter.mpr ⟨taken, ?_⟩)
    exact decide_eq_true same
  rw [List.getLast?_eq_none_iff.mp pathless] at listed
  cases listed

theorem given_after_path (pathless : (Flags.given progress).configPath? = none) :
    Flags.given (progress.after [(.configPath, path)]) =
      ⟨(Flags.given progress).layer, some path⟩ := by
  have unnamed : progress.values .configPath = [] := List.getLast?_eq_none_iff.mp pathless
  have others (name : OptionName) (different : name ≠ .configPath) :
      (progress.after [(.configPath, path)]).values name = progress.values name := by
    simp [Progress.values, Progress.after, different.symm]
  have named : (progress.after [(.configPath, path)]).values .configPath = [path] := by
    have rest : progress.options.filter (fun entry => entry.1 = .configPath) = [] :=
      List.map_eq_nil_iff.mp unnamed
    simp [Progress.values, Progress.after, rest]
  simp only [Flags.given, nameOf?, textOf?, named, others .bus (by decide),
    others .logFilter (by decide), others .logFormat (by decide)]
  rfl

/-- Flags that name no file give the same after the words that name one. -/
theorem read_append_named (named : Flags.read file.words = .ok own)
    (read : Flags.read words = .ok given) (pathless : given.configPath? = none) :
    Flags.read (file.words ++ words) = .ok ⟨given.layer, some file.path⟩ := by
  obtain ⟨first, firstRead, -⟩ := read_eq_ok_iff.mp named
  obtain ⟨pending, stepped, resolved⟩ := (Level.read_eq_ok_iff rfl).mp firstRead
  obtain ⟨progress, later, rfl⟩ := read_eq_ok_iff.mp read
  rw [read_namedFile firstRead] at resolved
  refine read_eq_ok_iff.mpr ⟨_, ?_, given_after_path pathless⟩
  exact Level.read_append rfl stepped resolved later (avoids_of_pathless pathless)

/-- The words that name a file say nothing else. -/
theorem given_of_named (named : Flags.read file.words = .ok own) :
    own = ⟨.empty, some file.path⟩ := by
  have nothing : Flags.read [] = .ok .nothing := rfl
  have alone := read_append_named named nothing rfl
  rw [List.append_nil] at alone
  exact Except.ok.inj (named.symm.trans alone)

end Named

end Flags

end BusBridge
