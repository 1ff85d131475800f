/-!
# The symbols of a JSON text

A text is read from bytes that need not be UTF-8, so a symbol is a character or a byte that belongs to
none.  A position in a text is told as a line and a column; columns count bytes, and a position may lie
inside a character.
-/

namespace ReviewAssignment.Json

/-- A character of the text, or a byte that is part of none. -/
abbrev Symbol := Option Char

/-- The length of a symbol, in bytes. -/
def Symbol.size : Symbol → Nat
  | some c => c.utf8Size
  | none => 1

def textSize (text : List Symbol) : Nat :=
  text.foldl (fun bytes symbol => bytes + symbol.size) 0

def isSpace (c : Char) : Bool :=
  c == ' ' || c == '\n' || c == '\t' || c == '\r'

def dropSpace (text : List Symbol) : List Symbol :=
  text.dropWhile fun symbol => symbol.any isSpace

structure Position where
  line : Nat
  column : Nat
deriving DecidableEq, Repr, Inhabited

namespace Position

def start : Position := ⟨1, 0⟩

def after (position : Position) (symbol : Symbol) : Position :=
  if symbol = some '\n' then ⟨position.line + 1, 0⟩
  else ⟨position.line, position.column + symbol.size⟩

/-- The position a number of bytes later, or the end of the text if there are fewer. -/
def forward (position : Position) (bytes : Nat) : List Symbol → Position
  | [] => position
  | symbol :: rest =>
    if symbol.size ≤ bytes then (position.after symbol).forward (bytes - symbol.size) rest
    else ⟨position.line, position.column + bytes⟩

def write (position : Position) : String :=
  "line " ++ toString position.line ++ " column " ++ toString position.column

example : ([0, 2, 3, 4, 9].map fun bytes => start.forward bytes [some 'é', some '\n', none]) =
    [⟨1, 0⟩, ⟨1, 2⟩, ⟨2, 0⟩, ⟨2, 1⟩, ⟨2, 1⟩] := by
  decide +kernel

end Position

end ReviewAssignment.Json
