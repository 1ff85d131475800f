import ReviewAssignment.Log

/-!
# Migrations

A database grows by migrations: each has a name and a script, and the database records the names of those
that it went through.  `migrate` carries out the ones that are not recorded, in order.  A script and its
record are one unit: if the script fails, nothing of it stays, and no later migration is tried.
-/

namespace ReviewAssignment.Startup

/-- A step in the growth of a database with contents of a certain kind. -/
structure Migration (Content : Type) where
  name : String
  script : Content → Except String Content

structure Database (Content : Type) where
  content : Content
  /-- The names of the migrations that it went through, in order. -/
  recorded : List String
deriving DecidableEq, Repr, Inhabited

structure Migrated (Content : Type) where
  database : Database Content
  fault : Option String
  log : List Log.Entry

variable {Content : Type}

def Migration.carryOut (migration : Migration Content) (database : Database Content) :
    Except String (Database Content) :=
  match migration.script database.content with
  | .ok content => .ok ⟨content, database.recorded ++ [migration.name]⟩
  | .error cause => .error (migration.name ++ ": " ++ cause)

/-- Carries out the migrations that are not recorded, up to the first that fails. -/
def migrate : List (Migration Content) → Database Content → Migrated Content
  | [], database => ⟨database, none, []⟩
  | migration :: rest, database =>
    if migration.name ∈ database.recorded then migrate rest database
    else
      let entry := Log.Entry.info ("Applying migration " ++ migration.name)
      match migration.carryOut database with
      | .ok database =>
        let migrated := migrate rest database
        { migrated with log := entry :: migrated.log }
      | .error cause => ⟨database, some cause, [entry]⟩

end ReviewAssignment.Startup
