import Roster.Text.Escaped

/-!
What can be wrong with a JSON document that is read as a payload. A document is read from left to
right, and the first problem met is the one reported.
-/

namespace Roster.Json

/-- A value as it stands in a document, where another kind of value was expected. -/
inductive Found where
  | null
  | flag (value : Bool)
  | integer (value : Int)
  /-- A number with a fraction or an exponent, or out of the range of 64 bits. -/
  | decimal (digits : String)
  | text (value : String)
  | sequence
  | map
  deriving DecidableEq

inductive Expected where
  | text
  | flag
  | sequence
  /-- A whole number that is not negative and fits the given number of bits. -/
  | word (bits : Nat)
  | record (name : String)
  deriving DecidableEq

inductive DecodeError where
  /-- The text is no JSON. -/
  | malformed
  /-- The text stops too early. -/
  | unexpectedEnd
  | wrongKind (found : Found) (expected : Expected)
  | outOfRange (found : Int) (expected : Expected)
  /-- A record of `fields` fields, written as a sequence, stops after `length` of them. -/
  | tooShort (length : Nat) (record : String) (fields : Nat)
  | missingField (key : String)
  | repeatedField (key : String)
  deriving DecidableEq

def Found.message : Found → String
  | .null => "null"
  | .flag value => "boolean `" ++ (if value then "true" else "false") ++ "`"
  | .integer value => "integer `" ++ toString value ++ "`"
  | .decimal digits => "floating point `" ++ digits ++ "`"
  | .text value => "string " ++ Text.escaped value
  | .sequence => "sequence"
  | .map => "map"

def Expected.message : Expected → String
  | .text => "a string"
  | .flag => "a boolean"
  | .sequence => "a sequence"
  | .word bits => "u" ++ toString bits
  | .record name => "struct " ++ name

def DecodeError.message : DecodeError → String
  | .malformed => "malformed"
  | .unexpectedEnd => "unexpected end"
  | .wrongKind found expected =>
    "invalid type: " ++ found.message ++ ", expected " ++ expected.message
  | .outOfRange found expected =>
    "invalid value: integer `" ++ toString found ++ "`, expected " ++ expected.message
  | .tooShort length record fields =>
    "invalid length " ++ toString length ++ ", expected struct " ++ record ++ " with " ++
      toString fields ++ (if fields = 1 then " element" else " elements")
  | .missingField key => "missing field `" ++ key ++ "`"
  | .repeatedField key => "duplicate field `" ++ key ++ "`"

end Roster.Json
