import ReviewAssignment.Failure

/-!
# The log

Operations note what they are about to do and how they ended.  An entry is a level and a text, and
is written as one line, level first.
-/

namespace ReviewAssignment.Log

inductive Level where
  | error
  | warn
  | info
  | debug
deriving DecidableEq, Repr, Inhabited

def Level.label : Level → String
  | .error => "ERROR"
  | .warn => "WARN"
  | .info => "INFO"
  | .debug => "DEBUG"

def Level.rank : Level → Nat
  | .error => 0
  | .warn => 1
  | .info => 2
  | .debug => 3

/-- The least important level that a filter lets through.  A filter is the name of a level in either
case, perhaps after the name of the program and an equals sign. -/
def Level.ofFilter? (filter : String) : Option Level :=
  let name := (filter.toList.reverse.takeWhile (· != '=')).reverse.map Char.toUpper
  [error, warn, info, debug].find? fun level => level.label.toList == name

structure Entry where
  level : Level
  text : String
deriving DecidableEq, Repr, Inhabited

def Entry.line (entry : Entry) : String :=
  entry.level.label ++ " " ++ entry.text

/-- Whether a filter lets an entry through; a filter without a level lets errors through. -/
def Entry.passes (filter : String) (entry : Entry) : Bool :=
  entry.level.rank ≤ ((Level.ofFilter? filter).getD .error).rank

def Entry.info (text : String) : Entry :=
  ⟨.info, text⟩

def Entry.debug (text : String) : Entry :=
  ⟨.debug, text⟩

/-- How the named operation ended when it did not succeed: rejected, as the caller's mistake, or
failed. -/
def ending (operation : String) (cause : Failure) : Entry :=
  if cause.isRejection then
    ⟨.warn, "[" ++ operation ++ "] rejected (" ++ cause.code ++ "): " ++ cause.message⟩
  else
    ⟨.error, "[" ++ operation ++ "] failed (" ++ cause.code ++ "): " ++ cause.message⟩

end ReviewAssignment.Log
