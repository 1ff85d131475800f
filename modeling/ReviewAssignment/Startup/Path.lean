/-!
# Paths of files

A path is cut at its slashes into parts.  An empty part and a single point stay where the parts before
them lead, two points lead to the directory above, and any other part is the name of something there.
A place is given by the names on the way to it from where the path starts.

`directory` is the path of the directory that a file is in.  It is found by the last part that leads
somewhere, also if that part is two points; so making the directory first can turn the path itself into
that of a directory, which `leadsBack` tells.
-/

namespace ReviewAssignment.Startup.Path

def leads (part : String) : Bool :=
  part != "" && part != "."

def dropEnd (parts : List String) : List String :=
  (parts.reverse.dropWhile (!leads ·)).reverse

def split (path : String) : List String :=
  (path.toList.splitOn '/').map String.ofList

def join (parts : List String) : String :=
  String.ofList (['/'].intercalate (parts.map String.toList))

/-- The parts of a path up to the last one that leads anywhere. -/
def parts (path : String) : List String :=
  dropEnd (split path)

def directoryParts (path : String) : List String :=
  dropEnd (parts path).dropLast

def directory (path : String) : String :=
  join (directoryParts path)

def last (path : String) : String :=
  (parts path).getLastD ""

def tidy (path : String) : String :=
  join ((parts path).dropWhile (!leads ·))

def step (place : List String) (part : String) : List String :=
  if part == ".." then place.dropLast
  else if leads part then place ++ [part]
  else place

/-- The places that parts lead to one after the other, with the one that they start from. -/
def places (place : List String) : List String → List (List String)
  | [] => [place]
  | part :: rest => place :: places (step place part) rest

/-- The places on the way to the directory of a file, up to the directory. -/
def way (path : String) : List (List String) :=
  places [] (directoryParts path)

def target (path : String) : List String :=
  (parts path).foldl step []

/-- Whether a path leads back to a directory on its own way. -/
def leadsBack (path : String) : Bool :=
  (way path).contains (target path)

/-- The length of a place, in bytes, as a path with a slash before each name. -/
def size (place : List String) : Nat :=
  place.foldl (fun bytes name => bytes + (name.utf8ByteSize + 1)) 0

example : (["./q.db", "a/./..//.", "."].map tidy) = ["q.db", "a/./..", ""] := by
  decide +kernel

example : (directory "/a/b/./../c//", target "/a/b/./../c//") = ("/a/b/./..", ["a", "c"]) := by
  decide +kernel

example : (["a/..", "a/../a", "a/../b"].map leadsBack) = [true, true, false] := by
  decide +kernel

end ReviewAssignment.Startup.Path
