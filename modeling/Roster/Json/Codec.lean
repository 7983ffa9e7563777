import Roster.Json.Quoted
import Roster.Json.Reader

/-!
A codec is a reader and a writer for one kind of value. Documents are written without white space.
-/

namespace Roster.Json

structure Codec (α : Type) where
  reader : Reader α
  write : α → List Char

namespace Codec

def encode {α : Type} (c : Codec α) (a : α) : String :=
  String.ofList (c.write a)

/-- Reads a document. Only white space may follow the value. -/
def decode {α : Type} (c : Codec α) (s : String) : Except DecodeError α :=
  match c.reader.run s.toList with
  | .error e => .error e
  | .ok (a, rest) => if (skipSpace rest).isEmpty then .ok a else .error .malformed

/-- The codec of a type that wraps another one. -/
def wrap {α β : Type} (c : Codec α) (wrapped : α → β) (bare : β → α) : Codec β where
  reader := c.reader.map wrapped
  write b := c.write (bare b)

def text : Codec String where
  reader := .text
  write := quoted

def flag : Codec Bool where
  reader := .flag
  write b := if b then ['t', 'r', 'u', 'e'] else ['f', 'a', 'l', 's', 'e']

def word (bits : Nat) : Codec (BitVec bits) where
  reader := .word bits
  write w := Nat.toDigits 10 w.toNat

def optional {α : Type} (c : Codec α) : Codec (Option α) where
  reader := .optional c.reader
  write
    | none => ['n', 'u', 'l', 'l']
    | some a => c.write a

def sequence {α : Type} (c : Codec α) : Codec (List α) where
  reader := .sequence c.reader
  write items := '[' :: separated ',' (items.map c.write) ++ [']']

end Codec

end Roster.Json
