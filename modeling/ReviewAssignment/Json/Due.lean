import ReviewAssignment.Json.Flaw

/-!
# What a text has to go on with

Wherever a text that is no JSON breaks off or goes wrong, something is due: a value, a name, a comma.
`Due.defect` says what is wrong with the text that is there instead.
-/

namespace ReviewAssignment.Json

inductive Due where
  | value (wanted : Bool)
  | item
  | itemEnd
  | arrayEnd
  | firstName
  | name
  | skippedName
  | colon
  | memberEnd
  | nothing
deriving DecidableEq, Repr, Inhabited

/-- What is wrong if a mark is due: one flaw at the end of the text and another before it. -/
def markDefect (atEnd other : Flaw) (text : List Symbol) : Defect :=
  if text.isEmpty then ⟨atEnd, 0⟩ else ⟨other, 1⟩

def nameDefect (wanted : Bool) (atEnd : Flaw) : List Symbol → Defect
  | some '"' :: rest => textDefect wanted false 1 rest
  | rest => markDefect atEnd .noName rest

def beginsWith (c : Char) (text : List Symbol) : Bool :=
  text.head? == some (some c)

/-- What is wrong with a text, which does not begin with what is due nor with white space. -/
def Due.defect (due : Due) (text : List Symbol) : Defect :=
  match due with
  | .value wanted => valueDefect wanted text
  | .item => if beginsWith ']' text then ⟨.commaAtEnd, 1⟩ else valueDefect true text
  | .itemEnd => markDefect .unfinishedArray .noCommaInArray text
  | .arrayEnd =>
    if beginsWith ',' text then
      let tail := dropSpace (text.drop 1)
      ⟨if beginsWith ']' tail then .commaAtEnd else .surplus, text.length - tail.length + 1⟩
    else markDefect .unfinishedArray .surplus text
  | .firstName => nameDefect true .unfinishedObject text
  | .name =>
    if beginsWith '\x7d' text then ⟨.commaAtEnd, 1⟩ else nameDefect true .unfinishedValue text
  | .skippedName => nameDefect false .unfinishedObject text
  | .colon => markDefect .unfinishedObject .noColon text
  | .memberEnd => markDefect .unfinishedObject .noCommaInObject text
  | .nothing => ⟨.surplus, 1⟩

example : ([", ]", ", 1", "", "x"].map fun text => Due.arrayEnd.defect (text.toList.map some)) =
    [⟨.commaAtEnd, 3⟩, ⟨.surplus, 3⟩, ⟨.unfinishedArray, 0⟩, ⟨.surplus, 1⟩] := by
  decide +kernel

end ReviewAssignment.Json
