import Warehouse.Failure
import Warehouse.Settings.Basic

/-! # Where the settings file is

The settings file stands beside the project unless a variable names another place:
an absolute path, a path in the home directory, or a path from the project on.
Paths are kept as parts, in which doubled slashes and single dots have no place;
double dots stay. Home directories of users other than the administrator are not
known. -/

namespace Warehouse

/-- A path of parts; an absolute one begins with one or two slashes. -/
structure FilePath where
  root : String
  parts : List String
deriving DecidableEq, Repr

namespace FilePath

/-- The characters between slashes. -/
def segments : List Char → List (List Char)
  | [] => [[]]
  | c :: rest =>
      if c = '/' then [] :: segments rest
      else match segments rest with
        | [] => [[c]]
        | segment :: others => (c :: segment) :: others

/-- The slashes with which an absolute path begins: exactly two stay two, any
other number counts as one. -/
def rootOf (chars : List Char) : String :=
  match (chars.takeWhile (· = '/')).length with
  | 0 => ""
  | 2 => "//"
  | _ => "/"

/-- The path that a text writes. -/
def ofText (text : String) : FilePath where
  root := rootOf text.toList
  parts := ((segments text.toList).map String.ofList).filter fun part => part ≠ "" && part ≠ "."

/-- The path begins with slashes. -/
def isAbsolute (path : FilePath) : Bool := path.root ≠ ""

/-- The home directory that a text names. It must not begin with the sign for a home
directory itself. -/
def ofHome? (home : String) : Option FilePath :=
  let stripped := (home.toList.reverse.dropWhile (· = '/')).reverse
  match stripped with
  | [] => some (ofText "/")
  | '~' :: _ => none
  | _ => some (ofText (String.ofList stripped))

/-- The home directory of the administrator. -/
def administratorHome : String := "/root"

/-- The text for the home directory of a user. Without a name the user is the one
whose home is given, or else the administrator. -/
def homeOf? (home : Option String) (user : String) : Option String :=
  if user = "" then some (home.getD administratorHome)
  else if user = "root" then some administratorHome
  else none

/-- The path, from a home directory on if it begins with the sign for one. There is
none if the home directory is not known. -/
def expandHome? (home : Option String) (path : FilePath) : Option FilePath :=
  match path.root, path.parts with
  | "", first :: rest =>
      match first.toList with
      | '~' :: user => do
          let directory ← ofHome? (← homeOf? home (String.ofList user))
          return { directory with parts := directory.parts ++ rest }
      | _ => some path
  | _, _ => some path

/-- The text of a path below a directory of the given name. -/
def textBelow (directory : String) (path : FilePath) : String :=
  if path.isAbsolute then path.root ++ "/".intercalate path.parts
  else "/".intercalate (directory :: path.parts)

end FilePath

/-- The place of the settings file, which is relative if it is to be looked for
from the project on. -/
def settingsFile (environment : Variables) : Except Failure FilePath :=
  match environment.lookup "TBU_ENV_FILE" with
  | none | some "" => .ok ⟨"", [".env"]⟩
  | some given =>
      match (FilePath.ofText given).expandHome? (environment.lookup "HOME") with
      | some path => .ok path
      | none => .error (.usage .unknownHome)

end Warehouse
