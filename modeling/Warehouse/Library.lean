import Warehouse.Log.Setup
import Warehouse.Settings.File

/-! # Loading the library

When the library is loaded, the settings are read from the environment and from the
settings file, and the logger is set up as they say. This happens once: what the
settings are is not asked again, and without settings there is no library. How a field
is read is left to a reader of settings. -/

namespace Warehouse

/-- Reads the settings from the variables of an environment and the file at a place. -/
structure SettingsReader where
  read : Variables → FilePath → Except (List SettingsFault) Settings

/-- What the library meets where it is loaded: a reader of settings, a sink for log
records, the date, and the handlers that its logger already has. -/
structure Host where
  reader : SettingsReader
  sink : Log.Sink
  day : String
  handlers : List Log.Handler

/-- The library once it is loaded. -/
structure Library where
  settings : Settings
  logging : Log.Setup

/-- Loads the library in an environment. -/
def Host.load (host : Host) (environment : Variables) : Except Failure Library := do
  let place ← settingsFile environment
  match host.reader.read environment place with
  | .ok settings => return ⟨settings, .ofSettings settings host.day host.handlers⟩
  | .error faults => throw (.settings faults)

end Warehouse
