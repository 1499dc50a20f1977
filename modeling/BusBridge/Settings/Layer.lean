import BusBridge.Settings

/-!
# Layers of settings

A source of settings gives some of them, as text or as something that no setting can
be.  Layers are put on top of each other key by key, and only what is left at the end
is read, so a bad value does no harm below a good one.
-/

namespace BusBridge

/-- What a source gives for one setting. -/
inductive Entry
  | text (value : String)
  /-- A number, a truth value, a list or a table. -/
  | other
deriving DecidableEq, Repr

/-- What a source gives for each of the settings. -/
structure Layer where
  bus? : Option Entry
  logFilter? : Option Entry
  logFormat? : Option Entry
deriving DecidableEq, Repr

namespace Layer

def empty : Layer :=
  ⟨none, none, none⟩

def onTopOf (upper lower : Layer) : Layer :=
  ⟨upper.bus?.or lower.bus?, upper.logFilter?.or lower.logFilter?,
    upper.logFormat?.or lower.logFormat?⟩

/-- Give an entry for the setting with this key, in place of what was given before.
Other keys say nothing. -/
def set (layer : Layer) (key : String) (entry : Entry) : Layer :=
  if key = "bus" then { layer with bus? := some entry }
  else if key = "log_filter" then { layer with logFilter? := some entry }
  else if key = "log_format" then { layer with logFormat? := some entry }
  else layer

/-- The value that an entry gives, or the default where there is no entry. -/
def readEntry {α : Type} (read? : String → Option α) (default : α) : Option Entry → Option α
  | none => some default
  | some (.text value) => read? value
  | some .other => none

/-- The settings that a layer gives, with defaults for what it does not give. -/
def settings? (layer : Layer) : Option Settings := do
  return ⟨← readEntry BusKind.ofName? Settings.default.bus layer.bus?,
    ← readEntry some Settings.default.logFilter layer.logFilter?,
    ← readEntry LogFormat.ofName? Settings.default.logFormat layer.logFormat?⟩

end Layer

end BusBridge
