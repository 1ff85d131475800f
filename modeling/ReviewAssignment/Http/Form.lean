import ReviewAssignment.Text.Characters
import ReviewAssignment.Text.Utf8

/-!
# Form fields

A query string is a list of fields, `name=value` with `&` between them.  In names and values a plus
stands for a space and `%` with two hexadecimal digits for a byte; a `%` without them stands for itself.
The plus is replaced first, so an escaped plus stays one.  The bytes are read as UTF-8.
-/

namespace ReviewAssignment.Http.Form

def unescape : List Char → List UInt8
  | [] => []
  | '+' :: rest => 0x20 :: unescape rest
  | '%' :: high :: low :: rest =>
    match Text.hexValue? high, Text.hexValue? low with
    | some h, some l => (16 * h + l).toUInt8 :: unescape rest
    | _, _ => 0x25 :: unescape (high :: low :: rest)
  | c :: rest => Text.Utf8.encodeChar c ++ unescape rest

def decodePart (part : List Char) : String :=
  Text.Utf8.decodeLossy (unescape part)

/-- A field: its name ends before the first `=`, and without one the value is empty. -/
def decodeField (field : List Char) : String × String :=
  (decodePart (field.takeWhile (· != '=')), decodePart ((field.dropWhile (· != '=')).drop 1))

/-- The fields of a query string.  Nothing between two `&` is no field. -/
def decode (query : String) : List (String × String) :=
  ((query.toList.splitOn '&').filter fun field => !field.isEmpty).map decodeField

def values (name : String) (fields : List (String × String)) : List String :=
  (fields.filter fun field => field.1 == name).map Prod.snd

example : decode "a=1&&b%20c=x+%2B%&d" = [("a", "1"), ("b c", "x +%"), ("d", "")] := by
  decide +kernel

end ReviewAssignment.Http.Form
