import ReviewAssignment.Text.Characters

/-!
# Network addresses

An address to listen on: `a.b.c.d:port`, or `[v6]:port` with an optional `%scope` before the closing
bracket.  Names of hosts are not looked up.  Of an address of version 6 the longest run of zero groups
may be left out between two colons, and the last two groups may be written like an address of version 4.
It is printed with the first of its longest runs left out, if that run has two groups or more.
-/

namespace ReviewAssignment.Startup

inductive Ip where
  | v4 (a b c d : Nat)
  | v6 (groups : List Nat)
deriving DecidableEq, Repr, Inhabited

structure Address where
  ip : Ip
  port : Nat
  /-- The interface that an address of version 6 is valid on, or zero. -/
  scope : Nat
deriving DecidableEq, Repr, Inhabited

namespace Address

/-! ### Reading -/

def spanDigits (base : Nat) : List Char → List Nat × List Char
  | [] => ([], [])
  | c :: rest =>
    match Text.hexValue? c with
    | some digit =>
      if digit < base then
        let spanned := spanDigits base rest
        (digit :: spanned.1, spanned.2)
      else ([], c :: rest)
    | none => ([], c :: rest)

def takeNumber (base bound : Nat) (acceptable : List Nat → Bool) (text : List Char) :
    Option (Nat × List Char) :=
  let (digits, rest) := spanDigits base text
  let n := digits.foldl (fun n digit => base * n + digit) 0
  if !digits.isEmpty && acceptable digits && decide (n < bound) then some (n, rest) else none

/-- Takes a byte: at most three digits, without leading zeros. -/
def takeByte : List Char → Option (Nat × List Char) :=
  takeNumber 10 256 fun digits => digits.length ≤ 3 && (digits.length == 1 || digits.head? != some 0)

/-- Takes a group of 16 bits: at most four digits. -/
def takeGroup : List Char → Option (Nat × List Char) :=
  takeNumber 16 65536 fun digits => digits.length ≤ 4

def takeChar (expected : Char) : List Char → Option (List Char)
  | c :: rest => if c = expected then some rest else none
  | [] => none

def takeV4 (text : List Char) : Option ((Nat × Nat × Nat × Nat) × List Char) := do
  let (a, rest) ← takeByte text
  let (b, rest) ← takeByte (← takeChar '.' rest)
  let (c, rest) ← takeByte (← takeChar '.' rest)
  let (d, rest) ← takeByte (← takeChar '.' rest)
  return ((a, b, c, d), rest)

/-- Takes up to `room` groups with colons between them, as many as there are.  Where two groups fit, an
address of version 4 stands for both and ends the groups; the second part says whether one did. -/
def takeGroups : Nat → Bool → List Char → List Nat × Bool × List Char
  | 0, _, text => ([], false, text)
  | room + 1, isFirst, text =>
    match if isFirst then some text else takeChar ':' text with
    | none => ([], false, text)
    | some inner =>
      match if room = 0 then none else takeV4 inner with
      | some ((a, b, c, d), rest) => ([256 * a + b, 256 * c + d], true, rest)
      | none =>
        match takeGroup inner with
        | none => ([], false, text)
        | some (group, rest) =>
          let (groups, mixed, rest) := takeGroups room false rest
          (group :: groups, mixed, rest)

/-- Takes an address of version 6.  Two colons stand for at least one group, and an address of version 4
does not stand before them. -/
def takeV6 (text : List Char) : Option (List Nat × List Char) :=
  let (head, mixed, rest) := takeGroups 8 true text
  if head.length = 8 then some (head, rest)
  else if mixed then none
  else do
    let rest ← takeChar ':' (← takeChar ':' rest)
    let (tail, _, rest) := takeGroups (7 - head.length) true rest
    return (head ++ List.replicate (8 - head.length - tail.length) 0 ++ tail, rest)

def takePort (text : List Char) : Option (Nat × List Char) := do
  takeNumber 10 65536 (fun _ => true) (← takeChar ':' text)

/-- Takes a scope after its percent sign; without one it is zero. -/
def takeScope (text : List Char) : Nat × List Char :=
  ((takeChar '%' text).bind (takeNumber 10 (Nat.pow 2 32) fun _ => true)).getD (0, text)

def readV4? (text : List Char) : Option Address := do
  let ((a, b, c, d), rest) ← takeV4 text
  let (port, rest) ← takePort rest
  if rest.isEmpty then some ⟨.v4 a b c d, port, 0⟩ else none

def readV6? (text : List Char) : Option Address := do
  let (groups, rest) ← takeV6 (← takeChar '[' text)
  let (scope, rest) := takeScope rest
  let (port, rest) ← takePort (← takeChar ']' rest)
  if rest.isEmpty then some ⟨.v6 groups, port, scope⟩ else none

def read? (text : String) : Option Address :=
  (readV4? text.toList).or (readV6? text.toList)

/-! ### Printing -/

def leadingZeros (groups : List Nat) : Nat :=
  (groups.takeWhile (· == 0)).length

/-- The first of the longest runs of zeros: its start and its length. -/
def longestZeros (groups : List Nat) : Nat × Nat :=
  (List.range groups.length).foldl
    (fun longest start =>
      let length := leadingZeros (groups.drop start)
      if longest.2 < length then (start, length) else longest)
    (0, 0)

def writeGroups (groups : List Nat) : String :=
  ":".intercalate (groups.map fun group => String.ofList (Nat.toDigits 16 group))

def writeV4 (a b c d : Nat) : String :=
  ".".intercalate ([a, b, c, d].map toString)

/-- The address of a host.  An address of version 4 inside one of version 6 is written as such. -/
def writeIp : Ip → String
  | .v4 a b c d => writeV4 a b c d
  | .v6 [0, 0, 0, 0, 0, 0xFFFF, high, low] =>
    "::ffff:" ++ writeV4 (high / 256) (high % 256) (low / 256) (low % 256)
  | .v6 groups =>
    let (start, length) := longestZeros groups
    if length ≤ 1 then writeGroups groups
    else writeGroups (groups.take start) ++ "::" ++ writeGroups (groups.drop (start + length))

def write (address : Address) : String :=
  let ip := writeIp address.ip
  let host :=
    match address.ip with
    | .v4 .. => ip
    | .v6 _ =>
      if address.scope = 0 then "[" ++ ip ++ "]" else "[" ++ ip ++ "%" ++ toString address.scope ++ "]"
  host ++ ":" ++ toString address.port

example : (read? "[2001:DB8:0:0:1::1%7]:080").map write = some "[2001:db8::1:0:0:1%7]:80" := by
  decide +kernel

example : (["1.2.3.04:1", "[::1.2.3.4:5]:1", "[1:2:3:4:5:6:7:8::]:1", "host:1"].map read?) =
    [none, none, none, none] := by
  decide +kernel

end Address

end ReviewAssignment.Startup
