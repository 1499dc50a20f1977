import BusBridge.Proofs.JsonReading
import BusBridge.Proofs.SingleSettings
import BusBridge.Settings.Document

/-!
# Spellings of names

The bus and the log format are chosen by name.  There are two readers for such a name: one takes
its letters in any case, the other only in the spelling that is written.  A variable, a file and a
JSON document all go through the second one, so a name with capital letters means nothing there.
-/

namespace BusBridge

section AnyCase

variable {text : String}

/-- What a text means to a reader that takes names in any case, and to one that takes them only in
their own spelling. -/
structure NameReadings {α : Type} (name : α → String) (text : String)
    (anyCase? own? : Option α) : Prop where
  anyCase_iff : ∀ value, anyCase? = some value ↔ Text.equalIgnoringCase (name value) text = true
  exact_iff : ∀ value, own? = some value ↔ text = name value

namespace NameReadings

variable {α : Type} {name : α → String} {anyCase? own? : Option α}

theorem anyCase_of_exact (readings : NameReadings name text anyCase? own?) {value : α}
    (read : own? = some value) : anyCase? = some value := by
  rw [readings.anyCase_iff, (readings.exact_iff value).mp read]
  exact Text.equalIgnoringCase_refl _

theorem of_choices (choices : NamedChoices α) (exact_eq : own? = choices.ofName? text) :
    NameReadings choices.name text (choices.ofNameInAnyCase? text) own? where
  anyCase_iff _ := choices.ofNameInAnyCase?_eq_some_iff
  exact_iff _ := by rw [exact_eq, choices.ofName?_eq_some_iff]

/-- The two readers part where a name is written with capital letters, and only there. -/
theorem ne_iff (readings : NameReadings name text anyCase? own?) :
    anyCase? ≠ own? ↔
      ∃ value, Text.equalIgnoringCase (name value) text = true ∧ text ≠ name value := by
  constructor
  · intro different
    cases parsed : anyCase? with
    | some value =>
        refine ⟨value, (readings.anyCase_iff value).mp parsed, fun spelled => different ?_⟩
        rw [parsed, (readings.exact_iff value).mpr spelled]
    | none =>
        cases read : own? with
        | none => exact absurd (parsed.trans read.symm) different
        | some value => exact absurd ((readings.anyCase_of_exact read).symm.trans parsed) nofun
  · rintro ⟨value, alike, different⟩ same
    rw [(readings.anyCase_iff value).mpr alike] at same
    exact different ((readings.exact_iff value).mp same.symm)

end NameReadings

end AnyCase

namespace Settings

open ConfigFile

variable {key : Key} {text : String}

/-- The settings where only this text is given, for this setting. -/
def alone? (key : Key) (text : String) : Option Settings :=
  (Layer.empty.set key.name (.text text)).settings?

theorem alone?_bus (text : String) :
    alone? .bus text = (BusKind.ofName? text).map fun kind => { default with bus := kind } := by
  change (Layer.settings? ⟨some (.text text), none, none⟩) = _
  cases known : BusKind.ofName? text <;> simp [Layer.settings?, Layer.readEntry, known, default]

theorem alone?_logFormat (text : String) :
    alone? .logFormat text =
      (LogFormat.ofName? text).map fun format => { default with logFormat := format } := by
  change (Layer.settings? ⟨none, none, some (.text text)⟩) = _
  cases known : LogFormat.ofName? text <;>
    simp [Layer.settings?, Layer.readEntry, known, default]

theorem readings_bus (text : String) :
    NameReadings BusKind.name text (BusKind.ofNameInAnyCase? text)
      ((alone? .bus text).map Settings.bus) :=
  .of_choices BusKind.choices (by rw [alone?_bus, Option.map_map]; exact Option.map_id')

theorem readings_logFormat (text : String) :
    NameReadings LogFormat.name text (LogFormat.ofNameInAnyCase? text)
      ((alone? .logFormat text).map Settings.logFormat) :=
  .of_choices LogFormat.choices (by rw [alone?_logFormat, Option.map_map]; exact Option.map_id')

theorem ofJson?_alone (key : Key) (text : String) :
    ofJson? (.object [(key.name, .string text)]) = alone? key text := by
  cases key with
  | bus =>
      rw [alone?_bus]
      change (((BusKind.ofName? text).map fun bus => { Partial.empty with bus? := some bus }).bind
        some).map Partial.complete = _
      cases BusKind.ofName? text <;> rfl
  | logFilter => rfl
  | logFormat =>
      rw [alone?_logFormat]
      change (((LogFormat.ofName? text).map fun format =>
        { Partial.empty with logFormat? := some format }).bind some).map Partial.complete = _
      cases LogFormat.ofName? text <;> rfl

/-- A name is read in two ways.  A parser of its own takes every spelling of it up to the case of
ASCII letters, and nothing else.  As the value of a setting it is taken in its own spelling only:
whatever it is that has this text for its value, a JSON document, a variable, or a file in a usual
place or one that is named, the settings are the same, and they are none where the text is not the
very name.  So all that is taken as the value of a setting is parsed to the same choice, and the
two part exactly where some letter of a name is a capital. -/
theorem names_are_read_in_two_ways (text : String) (program : RawText) (directory : String)
    {before after : List (String × String)} (silent : Environment.Silent (before ++ after)) :
    let beside (contents? : String → Option String) : Surroundings :=
      ⟨before ++ after, directory, contents?⟩
    let bus? := (alone? .bus text).map Settings.bus
    let format? := (alone? .logFormat text).map Settings.logFormat
    NameReadings BusKind.name text (BusKind.ofNameInAnyCase? text) bus? ∧
      NameReadings LogFormat.name text (LogFormat.ofNameInAnyCase? text) format? ∧
      (BusKind.ofNameInAnyCase? text ≠ bus? ↔
        ∃ kind : BusKind, Text.equalIgnoringCase kind.name text = true ∧ text ≠ kind.name) ∧
      (LogFormat.ofNameInAnyCase? text ≠ format? ↔
        ∃ format : LogFormat,
          Text.equalIgnoringCase format.name text = true ∧ text ≠ format.name) ∧
      ∀ key : Key,
        read? (Json.object [(key.name, .string text)]).compact = alone? key text ∧
        (∀ source, Json.read? source = some (.object [(key.name, .string text)]) →
          read? source = alone? key text) ∧
        (∀ value, Environment.readValue (Text.trim value).toList = .text text →
          load ⟨before ++ (key.variableName, value) :: after, directory, fun _ => none⟩
              [program] = loaded (alone? key text)) ∧
        (∃ document, Toml.read? (Toml.write [(key.name, text)]) = some document ∧
          GivesAlone document key text) ∧
        ∀ contents? place document, document? (beside contents?) place = some document →
          GivesAlone document key text →
          (place ∈ candidates (beside contents?) →
            (∀ other, other ≠ place → contents? other = none) →
              load (beside contents?) [program] = loaded (alone? key text)) ∧
          ∀ path, path.bytes ≠ [] → requiredPath (beside contents?) path = some place →
            load (beside contents?)
                [program, ⟨(RawText.ofString "--config-path").bytes ++ 0x3D :: path.bytes⟩] =
              loaded (alone? key text) := by
  intro beside bus? format?
  refine ⟨readings_bus text, readings_logFormat text, (readings_bus text).ne_iff,
    (readings_logFormat text).ne_iff, fun key => ?_⟩
  have document (source : String)
      (reads : Json.read? source = some (.object [(key.name, .string text)])) :
      read? source = alone? key text := by
    rw [read?, reads, Option.bind_some, ofJson?_alone]
  refine ⟨document _ (Json.read?_compact ?_), document, ?_, givesAlone_write key text, ?_⟩
  · refine .object fun member listed => ?_
    obtain rfl := List.mem_singleton.mp listed
    exact .string text
  · intro value reads
    rw [load_environment fun _ => rfl, Environment.layer_variable silent, reads]
    rfl
  · intro contents? place document found gives
    have same : (layer document).settings? = alone? key text := by
      rw [gives.layer_eq, alone?]
    rw [← same]
    constructor
    · exact load_usual_file silent found gives.unextended
    · intro path
      exact load_named_file silent found gives.unextended

/-- The session bus in capitals is known to the parser, and to nothing that gives settings. -/
theorem session_in_capitals :
    Environment.Silent [("HOME", "/home/reader")] ∧
      Environment.readValue (Text.trim "SESSION").toList = .text "SESSION" ∧
      BusKind.ofNameInAnyCase? "SESSION" = some .session ∧
      read? (Json.object [("bus", .string "SESSION")]).compact = none ∧
      load ⟨[("HOME", "/home/reader"), ("NDB_BUS", "SESSION")], "/", fun _ => none⟩
          [.ofString "ndb-cli"] = .error .merge := by
  have silent : Environment.Silent ([("HOME", "/home/reader")] ++ []) := by
    intro entry member
    obtain rfl := List.mem_singleton.mp member
    decide +kernel
  have plain : Environment.readValue (Text.trim "SESSION").toList = .text "SESSION" := by
    decide +kernel
  obtain ⟨bus, -, -, -, sources⟩ :=
    names_are_read_in_two_ways "SESSION" (.ofString "ndb-cli") "/" silent
  obtain ⟨document, -, exported, -⟩ := sources .bus
  have unknown : alone? .bus "SESSION" = none := by decide
  rw [unknown] at document exported
  exact ⟨silent, plain, (bus.anyCase_iff .session).mpr (by decide), document,
    exported "SESSION" plain⟩

end Settings

end BusBridge
