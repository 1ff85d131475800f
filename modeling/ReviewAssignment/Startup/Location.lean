import ReviewAssignment.Startup.Migration
import ReviewAssignment.Startup.Path

/-!
# Where the database is

The database is a file.  A directory stands for the file with the standard name in it.  Opening creates
the file and the directories above it if they are missing, and then brings the database up to date.
Some paths are refused whatever there is: no file can have the names in them, or a directory on the way
is where the database or one of its companions, the files beside it, has to be.
-/

namespace ReviewAssignment.Startup

/-! ### The schema -/

abbrev Schema := List String

def Schema.ensure (names : List String) (schema : Schema) : Schema :=
  names.foldl (fun schema name => if name ∈ schema then schema else schema ++ [name]) schema

def migrations : List (Migration Schema) :=
  [⟨"0001_initial_schema", fun schema => .ok (schema.ensure
    ["users", "teams", "team_members", "idx_team_members_team", "pull_requests",
     "pull_request_reviewers", "idx_pull_request_reviewers_reviewer"])⟩]

def recordTable : String := "_migrations"

/-- The names of the tables and indexes of a database in order, with the table of its migrations. -/
def Database.names (database : Database Schema) : List String :=
  (recordTable :: database.content).mergeSort

/-! ### Places -/

inductive Place where
  | nothing
  | directory (standard : Place)
  /-- A file, with the database in it; an empty file holds an empty database. -/
  | file (database : Option (Database Schema))
  /-- What should be the directory of the file is a file itself. -/
  | blocked
deriving DecidableEq, Repr, Inhabited

def standardName : String := "review-roster.db"

/-- The longest path that can be looked at or made, in bytes, as it is written. -/
def maxPathLength : Nat := 4095

/-- The path of the file that a path stands for, and what there is.  A directory is not seen at a path
that is too long. -/
def locate (path : String) : Place → String × Place
  | .directory standard =>
    if maxPathLength < path.utf8ByteSize then (path, .directory standard)
    else if path.isEmpty || path.endsWith "/" then (path ++ standardName, standard)
    else (path ++ "/" ++ standardName, standard)
  | place => (path, place)

inductive OpeningFault where
  | unusable (reason : String)
  | migration (reason : String)
deriving DecidableEq, Repr, Inhabited

def OpeningFault.message : OpeningFault → String
  | .unusable reason => "SQLite error: " ++ reason
  | .migration reason => "Migration error: " ++ reason

def OpeningFault.failure (fault : OpeningFault) : Failure :=
  .database fault.message

def unusableReason (code : Nat) (reason : String) : String :=
  "error returned from database: (code: " ++ toString code ++ ") " ++ reason

def unopened : OpeningFault :=
  .unusable (unusableReason 14 "unable to open database file")

def unmade (reason : String) : OpeningFault :=
  .migration ("Failed to create database directory: " ++ reason)

/-! ### Names -/

/-- The longest name of a file or directory, in bytes. -/
def maxNameLength : Nat := 255

/-- The longest path of a place that the way to a database leads through, in bytes. -/
def maxWayLength : Nat := 511

/-- The longest path of the place of a database, in bytes. -/
def maxTargetLength : Nat := 504

/-- What follows the name of the database in the name of the file beside it that keeps a change until
it is complete. -/
def journalEnding : String := "-journal"

/-- What follows the name of the database in the names of its companions: the file that keeps a change,
the log of changes and the index of the log. -/
def companionEndings : List String := [journalEnding, "-wal", "-shm"]

def hasNul (name : String) : Bool :=
  name.toList.contains '\x00'

def directoryFault? (name : String) : Option OpeningFault :=
  if hasNul name then some (unmade "file name contained an unexpected NUL byte")
  else if maxNameLength < name.utf8ByteSize then some (unmade "File name too long (os error 36)")
  else none

/-- Why a database cannot have a name.  There has to be room for the file beside it. -/
def fileFault? (name : String) : Option OpeningFault :=
  if hasNul name then
    some (.unusable
      "error communicating with database: filename passed to SQLite must not contain nul bytes")
  else if maxNameLength < (name ++ journalEnding).utf8ByteSize then some unopened
  else none

def companions (place : List String) : List (List String) :=
  companionEndings.map fun ending => place.dropLast ++ [place.getLastD "" ++ ending]

/-- Whether a path leads where no database can be opened, once its directory is there: to a directory
on its way, to a file with such a directory for a companion, or too far. -/
def leadsAstray (path : String) : Bool :=
  Path.leadsBack path || (companions (Path.target path)).any (Path.way path).contains ||
    (Path.way path).any (fun place => maxWayLength < Path.size place) ||
    maxTargetLength < Path.size (Path.target path)

example : (["q-wal/../q", "q-wal/q", "a/q-shm/../../a/q", "q-WAL/../q"].map leadsAstray) =
    [true, false, true, false] := by
  decide +kernel

/-- Why no database can be at a path, whatever there is.  The directories are made first. -/
def pathFault? (path : String) : Option OpeningFault :=
  if maxPathLength < (Path.directory path).utf8ByteSize then
    some (unmade "File name too long (os error 36)")
  else
    (Path.directoryParts path).findSome? directoryFault? <|> fileFault? (Path.last path) <|>
      if leadsAstray path then some unopened else none

/-! ### Opening -/

structure Opening where
  place : Place
  result : Except OpeningFault (Database Schema)
  log : List Log.Entry

def Opening.ofDatabase (database : Database Schema) : Opening :=
  let migrated := migrate migrations database
  { place := .file migrated.database
    result :=
      match migrated.fault with
      | some reason => .error (.migration reason)
      | none => .ok migrated.database
    log := migrated.log }

def Place.prepare (path : String) (place : Place) : Opening :=
  match place, pathFault? path with
  | .blocked, _ => ⟨.blocked, .error (unmade "File exists (os error 17)"), []⟩
  | place, some fault => ⟨place, .error fault, []⟩
  | .nothing, none => .ofDatabase ⟨[], []⟩
  | .file (some database), none => .ofDatabase database
  | .file none, none =>
    ⟨.file none, .error (.unusable (unusableReason 26 "file is not a database")), []⟩
  | .directory standard, none => ⟨.directory standard, .error unopened, []⟩

end ReviewAssignment.Startup
