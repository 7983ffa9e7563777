import Roster.Identity

/-!
Uids drawn at random, for clusters that are created without one. They are written as UUIDs of
version 4: 32 lower-case hexadecimal digits in groups of 8, 4, 4, 4 and 12, of which the
thirteenth is the version and the seventeenth is one of `8`, `9`, `a` and `b`.
-/

namespace Roster

/-- The digits of a UUID of version 4 in their groups, from 32 numbers below 16. -/
def ClusterUid.ofNibbles (nibbles : Fin 32 → Fin 16) : ClusterUid :=
  let digit (i : Fin 32) : Char := Nat.digitChar <|
    if i = 12 then 4 else if i = 16 then 8 + (nibbles i).val % 4 else (nibbles i).val
  let digits := (List.finRange 32).map digit
  let group (start count : Nat) := (digits.drop start).take count
  .mk <| String.ofList <|
    group 0 8 ++ '-' :: group 8 4 ++ '-' :: group 12 4 ++ '-' :: group 16 4 ++ '-' :: group 20 12

/-- Draws 32 numbers below 16, the first one for the last digit. -/
def drawNibbles {γ : Type} [RandomGen γ] (source : γ) : (Fin 32 → Fin 16) × γ :=
  let (nibbles, source) := (List.range 32).foldl (fun (drawn, source) _ =>
    let (n, source) := randNat source 0 15
    (Fin.ofNat 16 n :: drawn, source)) (([] : List (Fin 16)), source)
  (fun i => nibbles[i.val]?.getD 0, source)

def ClusterUid.random {γ : Type} [RandomGen γ] (source : γ) : ClusterUid × γ :=
  let (nibbles, source) := drawNibbles source
  (.ofNibbles nibbles, source)

/-- The form that `ClusterUid.random` gives. -/
def ClusterUid.isVersion4 (uid : ClusterUid) : Bool :=
  let cs := uid.text.toList
  let hex (c : Char) : Bool := c.isDigit || ('a' ≤ c && c ≤ 'f')
  cs.length = 36 && cs.zipIdx.all fun (c, i) =>
    if i = 8 || i = 13 || i = 18 || i = 23 then c = '-'
    else if i = 14 then c = '4'
    else if i = 19 then c = '8' || c = '9' || c = 'a' || c = 'b'
    else hex c

end Roster
