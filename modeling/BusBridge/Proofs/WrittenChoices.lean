import BusBridge.Proofs.SettingFlags
import BusBridge.Proofs.WrittenDocument
import BusBridge.Settings.Choices

/-!
# Reading written choices

Each source says of a setting what was chosen for it there, and nothing where nothing was chosen.
-/

namespace BusBridge

namespace Settings.Key

theorem isBare_name (key : Key) : Toml.IsBare key.name where
  ne_empty := by cases key <;> decide
  bare := by
    have all : key.name.toList.all Toml.isBareChar = true := by cases key <;> decide
    exact List.all_eq_true.mp all

theorem name_injective {first second : Key} (same : first.name = second.name) :
    first = second := by
  cases first <;> cases second <;> first | rfl | exact absurd same (by decide)

open CommandLine

/-- The option of a setting. -/
def option : Key → OptionSpec
  | .bus => Flags.level.options.get ⟨0, by decide⟩
  | .logFilter => Flags.level.options.get ⟨1, by decide⟩
  | .logFormat => Flags.level.options.get ⟨2, by decide⟩

theorem option_mem (key : Key) : key.option ∈ Flags.level.options := by
  cases key <;> decide

theorem assign_option (key : Key) (text : String) :
    key.option.assign text = key.flag ++ "=" ++ text := by
  cases key <;> rfl

theorem name_option_injective {first second : Key}
    (same : first.option.name = second.option.name) : first = second := by
  cases first <;> cases second <;> first | rfl | cases same

end Settings.Key

namespace Layer

theorem setting?_set (layer : Layer) (given : Settings.Key) (entry : Entry) (key : Settings.Key) :
    (layer.set given.name entry).setting? key =
      if given = key then some entry else layer.setting? key := by
  cases given <;> cases key <;> rfl

end Layer

namespace Choices

variable {choices : Choices} {key : Settings.Key}

theorem pairwise_listed (choices : Choices) (source : Source) :
    (choices.listed source).Pairwise fun first second => first.1 ≠ second.1 := by
  have distinct : Settings.Key.all.Pairwise fun first second => first ≠ second := by decide
  refine List.Pairwise.filterMap _ ?_ distinct
  intro first second different one chosen other known
  obtain ⟨text, -, rfl⟩ := Option.map_eq_some_iff.mp chosen
  obtain ⟨text, -, rfl⟩ := Option.map_eq_some_iff.mp known
  exact different

section File

open ConfigFile

/-- The entries of the written document. -/
def entries (choices : Choices) : Toml.Entries :=
  Toml.texts ((choices.listed .file).map fun entry => (entry.1.name, entry.2))

theorem read?_document (choices : Choices) :
    Toml.read? choices.document = some choices.entries := by
  apply Toml.read?_write
  · intro entry member
    obtain ⟨chosen, -, rfl⟩ := List.mem_map.mp member
    exact Settings.Key.isBare_name chosen.1
  · refine List.pairwise_map.mpr ((pairwise_listed choices .file).imp ?_)
    exact fun different same => different (Settings.Key.name_injective same)

theorem get?_texts_filterMap (chosen : Settings.Key → Option String) (keys : List Settings.Key)
    (key : Settings.Key) :
    (Toml.texts ((keys.filterMap fun other => (chosen other).map fun text => (other, text)).map
      fun entry => (entry.1.name, entry.2))).get? key.name =
        if key ∈ keys then (chosen key).map .text else none := by
  induction keys with
  | nil => rfl
  | cons first rest ih =>
      cases here : chosen first with
      | none =>
          rw [List.filterMap_cons_none (by rw [here]; rfl), ih]
          by_cases same : key = first
          · simp [same, here]
          · simp [same]
      | some text =>
          rw [List.filterMap_cons_some (by rw [here]; rfl)]
          by_cases same : key = first
          · simp [Toml.texts, Toml.Entries.get?, same, here]
          · have different : (key.name == first.name) = false :=
              beq_eq_false_iff_ne.mpr fun named => same (Settings.Key.name_injective named)
            rw [Toml.texts, Toml.Entries.get?] at ih ⊢
            rw [List.map_cons, List.map_cons, List.lookup_cons, different, ih]
            simp [same]

theorem get?_entries (choices : Choices) (key : Settings.Key) :
    choices.entries.get? key.name = (choices .file key).map .text := by
  rw [entries, listed, get?_texts_filterMap, if_pos key.mem_all]

theorem base_entries (choices : Choices) : base choices.entries = .none := by
  have unextended : choices.entries.get? "extends" = none := by
    rw [Toml.Entries.get?, List.lookup_eq_none_iff]
    intro entry member
    obtain ⟨line, listed, rfl⟩ := List.mem_map.mp member
    obtain ⟨chosen, -, rfl⟩ := List.mem_map.mp listed
    have different : ∀ given : Settings.Key, "extends" ≠ given.name := by
      intro given
      cases given <;> decide
    exact bne_iff_ne.mpr (different chosen.1)
  rw [base, unextended]

theorem setting?_layer_entries (choices : Choices) (key : Settings.Key) :
    (layer choices.entries).setting? key = (choices .file key).map .text := by
  have setting : settingIn? choices.entries key.name = (choices .file key).map .text := by
    rw [settingIn?, get?_entries]
    cases choices .file key <;> rfl
  cases key <;> exact setting

variable {surroundings : Surroundings} {place : String}

theorem document?_written (here : surroundings.contents? place = some choices.document)
    {document : Toml.Entries} (read : document? surroundings place = some document) :
    document = choices.entries := by
  rw [document?, here, Option.bind_eq_bind, Option.bind_some] at read
  split at read
  · cases read
  · exact (Option.some.inj ((read?_document choices).symm.trans read)).symm

/-- A file that extends no other gives what its document gives. -/
theorem load_written (here : surroundings.contents? place = some choices.document)
    {layer : Layer} (loaded : load surroundings place = .ok layer) :
    layer = ConfigFile.layer choices.entries := by
  rw [load, maxDepth, loadFrom, List.contains_nil, if_neg Bool.false_ne_true] at loaded
  cases read : document? surroundings place with
  | none =>
      rw [read] at loaded
      cases loaded
  | some document =>
      obtain rfl := document?_written here read
      rw [read] at loaded
      dsimp only at loaded
      rw [base_entries] at loaded
      exact (Except.ok.inj loaded).symm

/-- If the written file can be loaded, it says what was chosen. -/
theorem setting?_file {location : Location} {layer : Layer}
    (loaded : loadRequired (choices.write location).surroundings location.path = .ok layer)
    (key : Settings.Key) :
    layer.setting? key = (choices .file key).map (Source.file.entryFor key) := by
  unfold loadRequired at loaded
  split at loaded
  next place required =>
    have here : (choices.write location).surroundings.contents? place = some choices.document :=
      if_pos required
    rw [load_written here loaded, setting?_layer_entries]
    rfl
  · cases loaded

end File

section Environment

theorem addVariable_name (layer : Layer) (given : Settings.Key) (text : String) :
    Environment.addVariable layer (given.variableName, text) =
      layer.set given.name (Environment.readValue (Text.trim text).toList) := by
  have parts : Environment.keyParts? given.variableName = some [given.name] := by
    cases given <;> decide +kernel
  rw [Environment.addVariable, parts]

theorem setting?_environment (choices : Choices) (key : Settings.Key) :
    (Environment.layer choices.variableEntries).setting? key =
      (choices .environment key).map (Source.environment.entryFor key) := by
  unfold variableEntries listed
  cases bus : choices .environment .bus <;> cases filter : choices .environment .logFilter <;>
    cases format : choices .environment .logFormat <;> cases key <;>
    simp [Settings.Key.all, Environment.layer, addVariable_name, Layer.setting?_set,
      Source.entryFor, *] <;>
    rfl

end Environment

section Flags

open CommandLine

/-- The flags with their values. -/
def assignments (choices : Choices) : List (OptionSpec × String) :=
  (choices.listed .flags).map fun entry => (entry.1.option, entry.2)

theorem flags_eq_assignments (choices : Choices) :
    choices.flags = choices.assignments.map fun entry => .ofString (entry.1.assign entry.2) := by
  simp only [flags, assignments, List.map_map]
  refine List.map_congr_left fun entry _ => congrArg RawText.ofString ?_
  exact (Settings.Key.assign_option entry.1 entry.2).symm

theorem givable_assignments {settled : Progress}
    (read : Flags.level.read choices.flags = .ok settled) :
    Givable Flags.level choices.assignments ∧
      settled = { Progress.start with options := choices.assignments.map taken } := by
  obtain ⟨pending, stepped, resolved⟩ := (Level.read_eq_ok_iff rfl).mp read
  rw [flags_eq_assignments] at stepped
  have listed : ∀ entry ∈ choices.assignments, entry.1 ∈ Flags.level.options := by
    intro entry member
    obtain ⟨chosen, -, rfl⟩ := List.mem_map.mp member
    exact Settings.Key.option_mem chosen.1
  have once : choices.assignments.Pairwise fun first second =>
      first.1.name = second.1.name → second.1.repeatable = true := by
    refine List.pairwise_map.mpr ((pairwise_listed choices .flags).imp ?_)
    intro first second different same
    exact absurd (Settings.Key.name_option_injective same) different
  have legal := legal_of_foldlM_assign Flags.legible_level listed rfl rfl stepped
  have givable : Givable Flags.level choices.assignments := ⟨listed, legal, once⟩
  refine ⟨givable, ?_⟩
  have taken := @foldlM_assign Flags.level choices.assignments .start Flags.legible_level givable
    nofun rfl rfl
  obtain rfl := Except.ok.inj (taken.symm.trans stepped)
  exact (Except.ok.inj resolved).symm

theorem mem_assignments {text : String} (chosen : choices .flags key = some text) :
    (key.option, text) ∈ choices.assignments := by
  have listed : (key, text) ∈ choices.listed .flags :=
    List.mem_filterMap.mpr ⟨key, key.mem_all, by rw [chosen]; rfl⟩
  exact List.mem_map_of_mem listed

theorem textOf?_assignments (choices : Choices) (key : Settings.Key) :
    Flags.textOf? { Progress.start with options := choices.assignments.map taken }
      key.option.name = choices .flags key := by
  unfold assignments listed
  cases bus : choices .flags .bus <;> cases filter : choices .flags .logFilter <;>
    cases format : choices .flags .logFormat <;> cases key <;>
    simp [Settings.Key.all, Flags.textOf?, Progress.values, taken, Settings.Key.option,
      Flags.level, *]

/-- A word that is accepted in any case stands for one of the values. -/
theorem exists_ofNameInAnyCase?_of_check {α : Type} {names : NamedChoices α} {usage text : String}
    (legal : (ValueRule.wordInAnyCase names.names).check usage (.ofString text) = .ok ()) :
    ∃ found, names.ofNameInAnyCase? text = some found := by
  rw [ValueRule.check, RawText.decode?_ofString] at legal
  dsimp only at legal
  split at legal
  next listed =>
    rw [← Option.isSome_iff_exists, NamedChoices.ofNameInAnyCase?, List.find?_isSome]
    obtain ⟨word, member, same⟩ := List.any_eq_true.mp listed
    obtain ⟨one, known, rfl⟩ := List.mem_map.mp member
    refine ⟨one, known, ?_⟩
    rw [Text.equalIgnoringCase, beq_iff_eq] at same ⊢
    exact same.symm
  · cases legal

/-- A flag that is given by name passes the name on in its own spelling. -/
theorem nameOf?_assignments {α : Type} {names : NamedChoices α} {key : Settings.Key}
    (rule : key.option.rule = .wordInAnyCase names.names)
    (givable : Givable Flags.level choices.assignments) :
    Flags.nameOf? names { Progress.start with options := choices.assignments.map taken }
        key.option.name =
      (choices .flags key).map fun text => .text (names.spelling text) := by
  rw [Flags.nameOf?, textOf?_assignments]
  cases chosen : choices .flags key with
  | none => rfl
  | some text =>
      have legal := givable.legal _ (mem_assignments chosen)
      rw [rule] at legal
      obtain ⟨value, found⟩ := exists_ofNameInAnyCase?_of_check legal
      simp [NamedChoices.spelling, found]

/-- If the written flags can be read, they say what was chosen, names in their own spelling. -/
theorem setting?_flags {given : Flags.Given} (read : Flags.read choices.flags = .ok given)
    (key : Settings.Key) :
    given.layer.setting? key = (choices .flags key).map (Source.flags.entryFor key) := by
  obtain ⟨settled, levelRead, rfl⟩ := Flags.read_eq_ok_iff.mp read
  obtain ⟨givable, rfl⟩ := givable_assignments levelRead
  cases key with
  | bus =>
      have rule : Settings.Key.bus.option.rule = .wordInAnyCase BusKind.choices.names := rfl
      exact nameOf?_assignments rule givable
  | logFilter =>
      change (Flags.textOf? _ Settings.Key.logFilter.option.name).map _ = _
      rw [textOf?_assignments]
      rfl
  | logFormat =>
      have rule : Settings.Key.logFormat.option.rule = .wordInAnyCase LogFormat.choices.names := rfl
      exact nameOf?_assignments rule givable

end Flags

end Choices

end BusBridge
