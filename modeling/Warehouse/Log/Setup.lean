import Warehouse.Settings.Basic

/-! # Where log records go

The logger of the library gets the level of the settings. Unless somebody gave it
a handler before, its records go to the console and, if the settings say so, to a
file that is changed at midnight and kept for a month. -/

namespace Warehouse.Log

/-- The level of a handler, which may let everything pass. -/
inductive Threshold where
  | unset
  | least (level : Level)
deriving DecidableEq, Repr

/-- The name of a threshold. -/
def Threshold.name : Threshold → String
  | unset => "NOTSET"
  | least level => level.name

/-- A file to which records go. -/
structure FileTarget where
  path : String
  rotation : String
  keptFiles : Nat
  encoding : String
deriving DecidableEq, Repr

/-- A handler of records: one that drops them, the console, or a file. -/
inductive Handler where
  | discard (threshold : Threshold)
  | console (threshold : Threshold)
  | file (threshold : Threshold) (target : FileTarget)
deriving DecidableEq, Repr

/-- The level and the handlers of the logger of the library. -/
structure Setup where
  level : Level
  handlers : List Handler
deriving DecidableEq, Repr

/-- The file for the records of a day. -/
def fileTarget (directory day : String) : FileTarget where
  path := directory ++ "/table-backend-utils-" ++ day ++ ".log"
  rotation := "MIDNIGHT"
  keptFiles := 30
  encoding := "utf-8"

/-- The logger under given settings, with the handlers that it had before. -/
def Setup.ofSettings (settings : Settings) (day : String) (existing : List Handler) : Setup where
  level := settings.level
  handlers :=
    if existing = [] then
      .console (.least settings.level) ::
        (if settings.toFile then
          [.file (.least settings.level) (fileTarget settings.directory day)]
         else [])
    else existing

end Warehouse.Log
