/-!
# JSON values

The values of the data format. Numbers keep their numeral. A string literal may name half of a
surrogate pair; such a literal is well formed but holds no text, and is kept apart.
-/
namespace HostStorage

/-- A JSON value; the members of an object stay in the order in which they are written. -/
inductive Json where
  | null
  | bool (b : Bool)
  | number (numeral : String)
  | text (s : String)
  | halfPair
  | list (items : List Json)
  | object (members : List (Option String × Json))

namespace Json

def texts (items : List String) : Json := .list (items.map .text)

def natural (n : Nat) : Json := .number (toString n)

def record (fields : List (String × Json)) : Json := .object (fields.map fun f => (some f.1, f.2))

def text? : Json → Option String
  | .text s => some s
  | _ => none

/-- The 64-bit number of a numeral without sign, fraction and exponent. -/
def word? : Json → Option Nat
  | .number numeral =>
    if numeral.toList.all Char.isDigit then
      let n := Nat.ofDigitChars 10 numeral.toList 0
      if n < UInt64.size then some n else none
    else none
  | _ => none

def texts? : Json → Option (List String)
  | .list items => items.mapM text?
  | _ => none

def named (members : List (Option String × Json)) (name : String) : List Json :=
  (members.filter fun m => m.1 == some name).map (·.2)

/-- The values of the named fields of a record, each present or not. A record is written as an
object, in which other members are ignored and no field occurs twice, or as a list of the values of
the first fields. -/
def fields? (names : List String) : Json → Option (List (Option Json))
  | .object members =>
    if members.any (·.1.isNone) then none
    else names.mapM fun name =>
      match named members name with
      | [] => some none
      | [v] => some (some v)
      | _ => none
  | .list items =>
    if items.length ≤ names.length then
      some (items.map some ++ List.replicate (names.length - items.length) none)
    else none
  | _ => none

end Json
end HostStorage
