import BusBridge.Daemon
import BusBridge.Run
import BusBridge.ScriptedBus

/-!
# Worlds for a run

The world of the program itself has a bus daemon, or none, and a log.  A rehearsed
world has a scripted bus that takes every connection or refuses all of them, and no
log.  Of the texts of the libraries these worlds have only the help.
-/

namespace BusBridge

namespace World

/-- The world of the program. -/
def ofDaemon (surroundings : ConfigFile.Surroundings) (daemon? : Option Daemon) :
    World DaemonBus where
  load := Settings.load surroundings
  logging? := Logging.ofSettings?
  install _ := .ok ()
  startRuntime := .ok ()
  connect := DaemonBus.connect daemon?
  connecting kind := [DaemonBus.connectedReport kind]
  bus := DaemonBus.bus
  scheduler := .callFirst
  wording := .helpOnly

def rehearsed (load : List RawText → Except SettingsError Settings) (script : Script)
    (refusal? : Option String) : World ScriptedBus where
  load := load
  logging? _ := some .silent
  install _ := .ok ()
  startRuntime := .ok ()
  connect _ :=
    match refusal? with
    | some reason => .error reason
    | none => .ok (.ofScript script)
  connecting _ := []
  bus := ScriptedBus.bus
  scheduler := .callFirst
  wording := .helpOnly

def withoutLog {σ : Type} (world : World σ) : World σ :=
  { world with logging? := fun _ => some .silent }

/-- The same world with libraries that show these texts. -/
def withWording {σ : Type} (world : World σ) (wording : Wording) : World σ :=
  { world with wording }

end World

end BusBridge
