import BusBridge.Proofs.LevelReading

/-!
# Words in front of other words

How a level is read does not depend on what was taken in before, as long as no option is taken
in again.  So words that can be read on their own can also be read after other ones, and they
give the same.
-/

namespace BusBridge

namespace CommandLine

namespace Progress

variable {earlier : List (OptionName × RawText)} {progress next : Progress}

/-- The same progress, with options that were taken in before. -/
def after (earlier : List (OptionName × RawText)) (progress : Progress) : Progress :=
  { progress with options := earlier ++ progress.options }

/-- No option of these was taken in. -/
def Avoids (progress : Progress) (earlier : List (OptionName × RawText)) : Prop :=
  ∀ old ∈ earlier, ∀ entry ∈ progress.options, entry.1 ≠ old.1

@[simp]
theorem pending_after : (progress.after earlier).pending = progress.pending :=
  rfl

@[simp]
theorem terminated_after : (progress.after earlier).terminated = progress.terminated :=
  rfl

@[simp]
theorem wordCount_after : (progress.after earlier).wordCount = progress.wordCount :=
  rfl

end Progress

/-- A reading does not depend on options that were taken in before, unless it comes upon one of
them again. -/
def Independent {ε : Type} (earlier : List (OptionName × RawText))
    (reading : Progress → Except ε Progress) : Prop :=
  ∀ progress next, reading progress = .ok next → next.Avoids earlier →
    progress.Avoids earlier ∧ reading (progress.after earlier) = .ok (next.after earlier)

namespace Independent

variable {ε : Type} {earlier : List (OptionName × RawText)}
  {first second : Progress → Except ε Progress}

/-- One reading after another. -/
theorem bind {whole : Progress → Except ε Progress} (fore : Independent earlier first)
    (aft : Independent earlier second)
    (fails : ∀ {progress stop}, first progress = .error stop → whole progress = .error stop)
    (goes : ∀ {progress middle}, first progress = .ok middle → whole progress = second middle) :
    Independent earlier whole := by
  intro progress next read avoids
  cases begun : first progress with
  | error stop =>
      rw [fails begun] at read
      cases read
  | ok middle =>
      rw [goes begun] at read
      obtain ⟨middleAvoids, continued⟩ := aft middle next read avoids
      obtain ⟨startAvoids, started⟩ := fore progress middle begun middleAvoids
      exact ⟨startAvoids, (goes started).trans continued⟩

/-- What leaves the options alone and does not look at them. -/
theorem update {change : Progress → Progress}
    (kept : ∀ progress, (change progress).options = progress.options)
    (blind : ∀ progress, change (progress.after earlier) = (change progress).after earlier) :
    Independent earlier fun progress => (.ok (change progress) : Except ε Progress) := by
  intro progress next read avoids
  obtain rfl := Except.ok.inj read
  refine ⟨?_, congrArg Except.ok (blind progress)⟩
  intro old member entry taken
  exact avoids old member entry (by rwa [kept])

theorem failure (error : ε) :
    Independent earlier fun _ => (.error error : Except ε Progress) :=
  fun _ _ read => nomatch read

theorem orUsage {reading : Progress → Except UsageError Progress}
    (independent : Independent earlier reading) :
    Independent earlier fun progress => Level.orUsage (reading progress) := by
  intro progress next read avoids
  cases begun : reading progress with
  | error stop =>
      simp only [begun] at read
      cases read
  | ok reached =>
      simp only [begun] at read
      obtain rfl := Except.ok.inj read
      obtain ⟨startAvoids, started⟩ := independent progress reached begun avoids
      refine ⟨startAvoids, ?_⟩
      dsimp only
      rw [started]
      rfl

theorem accept (option : OptionSpec) (value : RawText) :
    Independent earlier fun progress => progress.accept option value := by
  intro progress next read avoids
  dsimp only [Progress.accept] at read
  split at read
  · cases read
  next single =>
  split at read
  · cases read
  next legal =>
  obtain rfl := Except.ok.inj read
  have known : ∀ old ∈ earlier, ∀ entry ∈ progress.options, entry.1 ≠ old.1 :=
    fun old member entry taken => avoids old member entry (List.mem_append_left _ taken)
  -- The option itself is among the options afterwards, so it is none of the earlier ones.
  have fresh : ∀ old ∈ earlier, option.name ≠ old.1 :=
    fun old member => avoids old member _ (List.mem_append_right _ (List.mem_singleton_self _))
  have unmet : earlier.any (fun entry => entry.1 = option.name) = false := by
    rw [List.any_eq_false]
    intro old member same
    exact fresh old member (of_decide_eq_true same).symm
  refine ⟨known, ?_⟩
  have same : (progress.after earlier).options.any (fun entry => entry.1 = option.name) =
      progress.options.any fun entry => entry.1 = option.name := by
    rw [Progress.after, List.any_append, unmet, Bool.false_or]
  dsimp only [Progress.accept]
  rw [same, if_neg single, legal]
  simp [Progress.after]

theorem resolve : Independent earlier Progress.resolve := by
  intro progress next read avoids
  rw [Progress.resolve] at read ⊢
  rw [Progress.pending_after]
  split at read
  · obtain rfl := Except.ok.inj read
    exact ⟨avoids, rfl⟩
  · cases read
  next option value waiting => exact accept option value progress next read avoids
  next words waiting =>
  split at read
  next readable =>
    obtain rfl := Except.ok.inj read
    exact ⟨avoids, if_pos readable⟩
  · cases read

end Independent

theorem Token.exists_cons_of_short {word : RawText} {cluster : List UInt8}
    (token : Token.ofWord word = .short cluster) : ∃ lead rest, cluster = lead :: rest := by
  unfold Token.ofWord at token
  split at token
  next first second rest _ =>
    split at token
    · split at token
      · split at token <;> cases token
      · obtain rfl := Token.short.inj token
        exact ⟨second, rest, rfl⟩
    · cases token
  · cases token

namespace Level

variable {level : Level} {earlier : List (OptionName × RawText)}

theorem independent_resolve : Independent earlier fun progress => orUsage progress.resolve :=
  Independent.resolve.orUsage

theorem independent_meet (option : OptionSpec) (value? : Option RawText) :
    Independent earlier fun progress => meet progress option value? := by
  have fails {progress : Progress} {stop : Interruption}
      (failed : orUsage progress.resolve = .error stop) :
      meet progress option value? = .error stop := by
    rw [meet, failed]
  cases value? with
  | some value =>
      refine independent_resolve.bind (Independent.accept option value).orUsage fails ?_
      intro progress middle resolved
      rw [meet, resolved]
  | none =>
      let await (progress : Progress) : Progress := { progress with pending := .awaiting option }
      have waits : Independent earlier fun progress =>
          (.ok (await progress) : Except Interruption Progress) :=
        .update (fun _ => rfl) fun _ => rfl
      refine independent_resolve.bind waits fails ?_
      intro progress middle resolved
      rw [meet, resolved]

theorem independent_display (request : Interruption) :
    Independent earlier fun progress => display progress request := by
  refine independent_resolve.bind (.failure request) ?_ ?_
  · intro progress stop failed
    rw [display, failed]
  · intro progress middle resolved
    rw [display, resolved]

theorem independent_readLong (name : RawText) (value? : Option RawText) :
    Independent earlier fun progress => level.readLong progress name value? := by
  unfold readLong
  dsimp only
  split
  · exact .failure _
  split
  · exact independent_meet _ value?
  split
  · split
    · exact .failure _
    · exact independent_display _
  split
  · split
    · exact .failure _
    · exact independent_display _
  · exact .failure _

theorem independent_readShort (cluster : List UInt8) :
    Independent earlier fun progress => level.readShort progress cluster := by
  unfold readShort
  split
  · exact .update (fun _ => rfl) fun _ => rfl
  split
  · exact .failure _
  split
  · exact independent_meet _ _
  split
  · exact independent_display _
  split
  · exact independent_display _
  · exact .failure _

/-- A plain word begins a place when what was pending is taken in. -/
theorem independent_begin (place : PlaceSpec) (word : RawText) :
    Independent earlier fun progress =>
      match orUsage progress.resolve with
      | .error stop => .error stop
      | .ok resolved => .ok { resolved with pending := .words place [word] } := by
  let begin (progress : Progress) : Progress := { progress with pending := .words place [word] }
  have begins : Independent earlier fun progress =>
      (.ok (begin progress) : Except Interruption Progress) :=
    .update (fun _ => rfl) fun _ => rfl
  refine independent_resolve.bind begins ?_ ?_
  · intro progress stop failed
    rw [failed]
  · intro progress middle resolved
    rw [resolved]

theorem independent_readPlain (word : RawText) :
    Independent earlier fun progress => level.readPlain progress word := by
  intro progress next read avoids
  dsimp only [readPlain] at read ⊢
  rw [Progress.pending_after, Progress.terminated_after, Progress.wordCount_after]
  split at read
  · obtain rfl := Except.ok.inj read
    exact ⟨avoids, rfl⟩
  split at read
  · cases read
  split at read
  next place here _ current words waiting =>
    split at read
    next same =>
      obtain rfl := Except.ok.inj read
      exact ⟨avoids, if_pos same⟩
    next different =>
      rw [if_neg different]
      exact independent_begin place word progress next read avoids
  next place here _ _ =>
    exact independent_begin place word progress next read avoids

theorem independent_step (level : Level) (word : RawText) :
    Independent earlier fun progress => level.step progress word := by
  intro progress next read avoids
  dsimp only [step] at read ⊢
  rw [Progress.terminated_after]
  split at read
  next ended =>
    rw [if_pos ended]
    exact independent_readPlain word progress next read avoids
  next going =>
    rw [if_neg going]
    split at read
    · obtain rfl := Except.ok.inj read
      exact ⟨avoids, rfl⟩
    · exact independent_readLong _ _ progress next read avoids
    · have allows : level.allowsNegativeNumber (progress.after earlier) =
          level.allowsNegativeNumber progress := rfl
      rw [allows]
      split at read
      next number =>
        rw [if_pos number]
        exact independent_readPlain word progress next read avoids
      next letters =>
        rw [if_neg letters]
        exact independent_readShort _ progress next read avoids
    · exact independent_readPlain word progress next read avoids

theorem independent_steps (level : Level) (words : List RawText) :
    Independent earlier fun progress => words.foldlM level.step progress := by
  induction words with
  | nil => exact .update (fun _ => rfl) fun _ => rfl
  | cons word rest ih =>
      refine (independent_step level word).bind ih ?_ ?_
      · intro progress stop failed
        rw [List.foldlM_cons, failed]
        rfl
      · intro progress middle stepped
        rw [List.foldlM_cons, stepped]
        rfl

theorem missing_after (level : Level) (progress : Progress) :
    level.missing (progress.after earlier) = level.missing progress :=
  rfl

theorem independent_finish (level : Level) :
    Independent earlier fun progress => level.finish progress := by
  intro progress next read avoids
  dsimp only [finish] at read ⊢
  cases resolved : progress.resolve with
  | error error =>
      rw [resolved] at read
      cases read
  | ok settled =>
      rw [resolved] at read
      dsimp only at read
      split at read
      next complete =>
        obtain rfl := Except.ok.inj read
        obtain ⟨startAvoids, resolvedAfter⟩ := Independent.resolve progress _ resolved avoids
        refine ⟨startAvoids, ?_⟩
        rw [resolvedAfter]
        dsimp only
        rw [missing_after, complete]
      · cases read

theorem independent_readFrom (level : Level) (words : List RawText) :
    Independent earlier fun progress => level.readFrom progress words := by
  refine (level.independent_steps words).bind level.independent_finish.orUsage ?_ ?_
  · intro progress stop failed
    rw [readFrom, failed]
  · intro progress middle stepped
    rw [readFrom, stepped]

section Pending

variable {pending settled : Progress} {words : List RawText}

/-- Nothing is left to take in afterwards, and nothing else has changed. -/
theorem settled_of_resolve (resolved : pending.resolve = .ok settled) :
    settled.pending = .nothing ∧ settled.terminated = pending.terminated ∧
      ({ pending with terminated := true } : Progress).resolve =
        .ok { settled with terminated := true } := by
  unfold Progress.resolve at resolved
  split at resolved
  next nothing =>
    obtain rfl := Except.ok.inj resolved
    exact ⟨nothing, rfl, by simp only [Progress.resolve, nothing]⟩
  · cases resolved
  next option value waiting =>
    unfold Progress.accept at resolved
    split at resolved
    · cases resolved
    next single =>
    split at resolved
    · cases resolved
    next legal =>
    obtain rfl := Except.ok.inj resolved
    refine ⟨rfl, rfl, ?_⟩
    simp only [Progress.resolve, waiting, Progress.accept]
    rw [if_neg single, legal]
  next words waiting =>
    split at resolved
    next readable =>
      obtain rfl := Except.ok.inj resolved
      refine ⟨rfl, rfl, ?_⟩
      simp only [Progress.resolve, waiting]
      rw [if_pos readable]
    · cases resolved

theorem resolve_settled (resolved : pending.resolve = .ok settled) :
    settled.resolve = .ok settled := by
  rw [Progress.resolve, (settled_of_resolve resolved).1]

/-- It makes no difference to an option whether what is pending has been taken in already. -/
theorem meet_settled (resolved : pending.resolve = .ok settled) (option : OptionSpec)
    (value? : Option RawText) : meet pending option value? = meet settled option value? := by
  rw [meet, meet, resolved, resolve_settled resolved]

theorem display_settled (resolved : pending.resolve = .ok settled) (request : Interruption) :
    display pending request = display settled request := by
  rw [display, display, resolved, resolve_settled resolved]

theorem readPlain_of_noPlaces (noPlaces : level.places = [])
    (resolved : pending.resolve = .ok settled) (word : RawText) :
    level.readPlain pending word = .error (.usage (.unknownArgument word.lossy)) := by
  have nowhere : level.place? pending.wordCount = none := by
    simp [place?, noPlaces]
  unfold readPlain
  split
  next option waiting _ =>
    rw [Progress.resolve, waiting] at resolved
    cases resolved
  · rw [nowhere]

/-- A word that is read in the same way either way. -/
theorem step_settled (noPlaces : level.places = []) (resolved : pending.resolve = .ok settled)
    {word : RawText} (goesOn : pending.terminated = true ∨ Token.ofWord word ≠ .terminator) :
    level.step pending word = level.step settled word := by
  have plain : level.readPlain pending word = level.readPlain settled word := by
    rw [readPlain_of_noPlaces noPlaces resolved,
      readPlain_of_noPlaces noPlaces (resolve_settled resolved)]
  have noNumbers (progress : Progress) : level.allowsNegativeNumber progress = false := by
    simp [allowsNegativeNumber, place?, noPlaces]
  rw [step, step, (settled_of_resolve resolved).2.1, plain]
  cases ended : pending.terminated with
  | true => rfl
  | false =>
      rw [if_neg Bool.false_ne_true, if_neg Bool.false_ne_true]
      cases token : Token.ofWord word with
      | terminator => simp [token, ended] at goesOn
      | long name value? =>
          simp only [readLong, meet_settled resolved, display_settled resolved]
      | short cluster =>
          obtain ⟨lead, rest, rfl⟩ := Token.exists_cons_of_short token
          simp only [noNumbers, readShort, meet_settled resolved, display_settled resolved]
      | plain => rfl

theorem step_terminator {progress : Progress} {word : RawText}
    (going : progress.terminated = false) (dashes : Token.ofWord word = .terminator) :
    level.step progress word = .ok { progress with terminated := true } := by
  rw [step, going, if_neg Bool.false_ne_true, dashes]

/-- Where there are no places for words, what is pending may be taken in at any time. -/
theorem readFrom_settled (noPlaces : level.places = [])
    (resolved : pending.resolve = .ok settled) :
    level.readFrom pending words = level.readFrom settled words := by
  induction words generalizing pending settled with
  | nil =>
      change orUsage (level.finish pending) = orUsage (level.finish settled)
      rw [finish, finish, resolved, resolve_settled resolved]
  | cons word rest ih =>
      obtain ⟨-, sameState, resolvedAfter⟩ := settled_of_resolve resolved
      by_cases stops : pending.terminated = false ∧ Token.ofWord word = .terminator
      · -- The two dashes take nothing in: what is pending stays so.
        obtain ⟨going, dashes⟩ := stops
        rw [readFrom_cons (step_terminator going dashes),
          readFrom_cons (step_terminator (sameState.trans going) dashes)]
        exact ih resolvedAfter
      · have goesOn : pending.terminated = true ∨ Token.ofWord word ≠ .terminator := by
          cases ended : pending.terminated with
          | true => exact .inl rfl
          | false => exact .inr fun dashes => stops ⟨ended, dashes⟩
        rw [readFrom, readFrom, List.foldlM_cons, List.foldlM_cons,
          step_settled noPlaces resolved goesOn]

theorem finish_of_noPlaces (noPlaces : level.places = []) (progress : Progress) :
    level.finish progress = progress.resolve := by
  have complete (resolved : Progress) : level.missing resolved = [] :=
    missing_of_full (by simp [noPlaces])
  rw [finish]
  cases progress.resolve with
  | error error => rfl
  | ok resolved =>
      dsimp only
      rw [complete]

/-- All that was read is taken in at the end. -/
theorem read_eq_ok_iff (noPlaces : level.places = []) :
    level.read words = .ok settled ↔
      ∃ pending, words.foldlM level.step .start = .ok pending ∧ pending.resolve = .ok settled := by
  unfold read
  cases stepped : words.foldlM level.step .start with
  | error stop => simp
  | ok pending =>
      simp only [finish_of_noPlaces noPlaces]
      cases resolved : pending.resolve <;> simp [orUsage, resolved]

end Pending

/-- Words that can be read on their own give the same after others, if these do not give any of
the options that they give. -/
theorem read_append {words further : List RawText} {pending given : Progress}
    (noPlaces : level.places = []) (reached : words.foldlM level.step .start = .ok pending)
    (resolved : pending.resolve = .ok (Progress.start.after earlier))
    (read : level.read further = .ok given) (avoids : given.Avoids earlier) :
    level.read (words ++ further) = .ok (given.after earlier) := by
  obtain ⟨-, continued⟩ := level.independent_readFrom further .start given read avoids
  rw [read_eq_readFrom, readFrom_append reached, readFrom_settled noPlaces resolved]
  exact continued

end Level

end CommandLine

end BusBridge
