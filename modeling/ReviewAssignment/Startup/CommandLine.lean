import ReviewAssignment.Operation.Request
import ReviewAssignment.Startup.Address

/-!
# The command line

Every option takes a value, as the next argument or after an equals sign.  Arguments are taken from left
to right.  The value of an option is read when something else follows it, so an argument that is not
known at all is refused first.  An option that is not on the command line takes its value from its
variable in the environment, and otherwise has its default.
-/

namespace ReviewAssignment.Startup

structure Options where
  address : Address
  database : String
  logFilter : String
  settings : Settings
deriving DecidableEq, Repr, Inhabited

inductive Flag where
  | address
  | database
  | logFilter
  | deadline
  | maxReviewers
deriving DecidableEq, Repr, Inhabited

namespace Flag

def all : List Flag :=
  [.address, .database, .logFilter, .deadline, .maxReviewers]

def name : Flag → String
  | .address => "addr"
  | .database => "db"
  | .logFilter => "log"
  | .deadline => "op-timeout-ms"
  | .maxReviewers => "max-reviewers"

def environmentName : Flag → String
  | .address => "REVIEW_ROSTER_ADDR"
  | .database => "REVIEW_ROSTER_DB"
  | .logFilter => "REVIEW_ROSTER_LOG"
  | .deadline => "REVIEW_ROSTER_OP_TIMEOUT_MS"
  | .maxReviewers => "REVIEW_ROSTER_MAX_REVIEWERS"

end Flag

inductive Stop where
  | help
  | version
  | badValue (flag : Flag) (value : String)
  /-- An option has no value, or an empty one that it does not allow. -/
  | noValue (flag : Flag)
  | unknownArgument (argument : String)
  | repeatedFlag (flag : Flag)
  | unwantedValue (argument : String)
deriving DecidableEq, Repr, Inhabited

/-! ### Values -/

structure Chosen where
  address : Option Address
  database : Option String
  logFilter : Option String
  deadline : Option Nat
  maxReviewers : Option Nat
deriving DecidableEq, Repr, Inhabited

/-- Reads a number of 64 bits: digits, perhaps after a plus. -/
def readNumber? (text : String) : Option Nat :=
  let digits := match text.toList with
    | '+' :: rest => rest
    | digits => digits
  let n := Decimal.value digits
  if !digits.isEmpty && digits.all Decimal.isDigit && decide (n < Nat.pow 2 64) then some n else none

namespace Chosen

def none : Chosen :=
  ⟨.none, .none, .none, .none, .none⟩

def has (chosen : Chosen) : Flag → Bool
  | .address => chosen.address.isSome
  | .database => chosen.database.isSome
  | .logFilter => chosen.logFilter.isSome
  | .deadline => chosen.deadline.isSome
  | .maxReviewers => chosen.maxReviewers.isSome

def valid {α : Type} (flag : Flag) (text : String) (value : Option α) : Except Stop α :=
  match value with
  | some value => .ok value
  | .none => .error (.badValue flag text)

/-- Gives an option its value.  A database cannot have an empty name, and a deadline is not zero. -/
def read (chosen : Chosen) (flag : Flag) (text : String) : Except Stop Chosen :=
  match flag with
  | .address => do return { chosen with address := ← valid flag text (Address.read? text) }
  | .database =>
    if text.isEmpty then .error (.noValue flag) else return { chosen with database := text }
  | .logFilter => return { chosen with logFilter := text }
  | .deadline => do
    let deadline ← valid flag text ((readNumber? text).filter (0 < ·))
    return { chosen with deadline := deadline }
  | .maxReviewers => do
    return { chosen with maxReviewers := ← valid flag text (readNumber? text) }

/-- Gives an option its value, unless it has one. -/
def add (chosen : Chosen) (flag : Flag) (text : String) : Except Stop Chosen :=
  if chosen.has flag then .error (.repeatedFlag flag) else chosen.read flag text

def complete (environment : String → Option String) (chosen : Chosen) : Except Stop Chosen :=
  Flag.all.foldlM
    (fun chosen flag =>
      match environment flag.environmentName with
      | some text => if chosen.has flag then .ok chosen else chosen.read flag text
      | .none => .ok chosen)
    chosen

def orDefault (chosen : Chosen) : Options :=
  { address := chosen.address.getD ⟨.v4 0 0 0 0, 8080, 0⟩
    database := chosen.database.getD "review-roster.db"
    logFilter := chosen.logFilter.getD "info"
    settings :=
      { maxReviewers := chosen.maxReviewers.getD defaultMaxReviewers
        deadline := chosen.deadline.getD defaultDeadline } }

end Chosen

/-! ### Arguments -/

inductive Argument where
  | option (flag : Flag)
  | assigned (flag : Flag) (value : String)
  | question (answer : Stop)
  | separator
  | value
  | refused (cause : Stop)
deriving DecidableEq, Repr, Inhabited

def Argument.ofLong (name : String) (value : Option String) : Argument :=
  match name, value with
  | "help", none => .question .help
  | "version", none => .question .version
  | "help", some _ => .refused (.unwantedValue "--help")
  | "version", some _ => .refused (.unwantedValue "--version")
  | name, value =>
    match Flag.all.find? fun flag => flag.name == name with
    | none => .refused (.unknownArgument ("--" ++ name))
    | some flag =>
      match value with
      | none => .option flag
      | some value => .assigned flag value

/-- What an argument is.  Of letters after one dash the first decides. -/
def Argument.ofChars : List Char → Argument
  | ['-', '-'] => .separator
  | '-' :: '-' :: text =>
    let name := text.takeWhile (· != '=')
    Argument.ofLong (String.ofList name)
      (if name.length < text.length then some (String.ofList (text.drop (name.length + 1))) else none)
  | '-' :: 'h' :: _ => .question .help
  | '-' :: 'V' :: _ => .question .version
  | '-' :: letter :: rest => .refused (.unknownArgument (String.ofList ('-' :: letter :: rest)))
  | _ => .value

/-! ### The whole command line -/

/-- What is known after some arguments: the options that are settled, and the last option with the
value that it got, if any. -/
structure Progress where
  chosen : Chosen
  pending : Option (Flag × Option String)
deriving Inhabited

def Progress.settle (progress : Progress) : Except Stop Chosen :=
  match progress.pending with
  | none => .ok progress.chosen
  | some (flag, none) => .error (.noValue flag)
  | some (flag, some value) => progress.chosen.add flag value

def Progress.take (progress : Progress) : List String → Except Stop Chosen
  | [] => progress.settle
  | argument :: rest =>
    match Argument.ofChars argument.toList with
    | .option flag => do Progress.take ⟨← progress.settle, some (flag, none)⟩ rest
    | .assigned flag value => do
      Progress.take ⟨← (← progress.settle).add flag value, none⟩ rest
    | .question answer => do
      let _ ← progress.settle
      .error answer
    | .separator =>
      match rest with
      | [] => progress.settle
      | argument :: _ => .error (.unknownArgument argument)
    | .value =>
      match progress.pending with
      | some (flag, none) => Progress.take ⟨progress.chosen, some (flag, some argument)⟩ rest
      | _ => .error (.unknownArgument argument)
    | .refused cause => .error cause

def Options.read (arguments : List String) (environment : String → Option String) :
    Except Stop Options := do
  let chosen ← Progress.take ⟨.none, none⟩ arguments
  return (← chosen.complete environment).orDefault

example : (Options.read ["--max-reviewers", "+3"] fun _ => none).toOption =
    some ⟨⟨.v4 0 0 0 0, 8080, 0⟩, "review-roster.db", "info", ⟨3, 5000⟩⟩ := by
  decide +kernel

example : (Options.read ["--log", "x", "--log=y"] fun _ => none).toOption = none := by
  decide +kernel

end ReviewAssignment.Startup
