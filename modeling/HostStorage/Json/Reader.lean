import HostStorage.Text.Hex
import HostStorage.Json.Value

/-!
# Reading JSON

A recursive descent over the characters. Each function returns a value with the characters after
it. The number of nested calls is bounded by the length of the text, since every call consumes a
character.
-/
namespace HostStorage.Json

def isSpace (c : Char) : Bool := c == ' ' || c == '\n' || c == '\t' || c == '\r'

def skipSpace (cs : List Char) : List Char := cs.dropWhile isSpace

/-- The number that four hexadecimal digits write. -/
def unit? (a b c d : Char) : Option Nat := Text.hexNumber? [a, b, c, d]

def shortEscape? (c : Char) : Option Char :=
  match c with
  | '"' => some '"' | '\\' => some '\\' | '/' => some '/'
  | 'b' => some (Char.ofNat 8) | 'f' => some (Char.ofNat 12)
  | 'n' => some '\n' | 'r' => some '\r' | 't' => some '\t'
  | _ => none

def isHighHalf (n : Nat) : Bool := 0xd800 ≤ n && n ≤ 0xdbff

def isLowHalf (n : Nat) : Bool := 0xdc00 ≤ n && n ≤ 0xdfff

/-- The code points of a string literal up to its closing quote; the opening one is read already.
Halves of a pair are joined later. -/
def codes : List Char → Option (List Nat × List Char)
  | [] => none
  | '"' :: r => some ([], r)
  | '\\' :: 'u' :: a :: b :: c :: d :: r =>
    match unit? a b c d, codes r with
    | some n, some (rest, after) => some (n :: rest, after)
    | _, _ => none
  | '\\' :: c :: r =>
    match shortEscape? c, codes r with
    | some e, some (rest, after) => some (e.toNat :: rest, after)
    | _, _ => none
  | c :: r =>
    if c.toNat < 0x20 then none
    else (codes r).map fun p => (c.toNat :: p.1, p.2)

/-- Joins halves that stand side by side; `none` if one stands alone. -/
def pairHalves : List Nat → Option (List Char)
  | [] => some []
  | [n] => if isHighHalf n || isLowHalf n then none else some [Char.ofNat n]
  | n :: m :: r =>
    if isHighHalf n && isLowHalf m then
      (pairHalves r).map (Char.ofNat (0x10000 + (n - 0xd800) * 0x400 + (m - 0xdc00)) :: ·)
    else if isHighHalf n || isLowHalf n then none
    else (pairHalves (m :: r)).map (Char.ofNat n :: ·)

/-- A string literal without its opening quote; its text is absent if it names half of a pair. -/
def literal? (cs : List Char) : Option (Option String × List Char) :=
  (codes cs).map fun p => ((pairHalves p.1).map String.ofList, p.2)

def digits (cs : List Char) : List Char × List Char := cs.span Char.isDigit

/-- The digits of a whole part: no zero in front of another digit. -/
def whole? (cs : List Char) : Option (List Char × List Char) :=
  match cs with
  | '0' :: r => match r with
    | c :: _ => if c.isDigit then none else some (['0'], r)
    | [] => some (['0'], [])
  | _ => match digits cs with
    | ([], _) => none
    | p => some p

def fraction? : List Char → Option (List Char × List Char)
  | '.' :: r => match digits r with
    | ([], _) => none
    | (ds, after) => some ('.' :: ds, after)
  | cs => some ([], cs)

def sign : List Char → List Char × List Char
  | '+' :: r => (['+'], r)
  | '-' :: r => (['-'], r)
  | cs => ([], cs)

def exponent? (cs : List Char) : Option (List Char × List Char) :=
  match cs with
  | c :: r =>
    if c = 'e' ∨ c = 'E' then
      match digits (sign r).2 with
      | ([], _) => none
      | (ds, after) => some (c :: (sign r).1 ++ ds, after)
    else some ([], cs)
  | [] => some ([], [])

def numeral? (cs : List Char) : Option (List Char × List Char) := do
  let (minus, cs) := match cs with
    | '-' :: r => (['-'], r)
    | _ => ([], cs)
  let (w, cs) ← whole? cs
  let (f, cs) ← fraction? cs
  let (e, cs) ← exponent? cs
  return (minus ++ w ++ f ++ e, cs)

mutual

def value? : Nat → List Char → Option (Json × List Char)
  | 0, _ => none
  | fuel + 1, cs =>
    match skipSpace cs with
    | 'n' :: 'u' :: 'l' :: 'l' :: r => some (.null, r)
    | 't' :: 'r' :: 'u' :: 'e' :: r => some (.bool true, r)
    | 'f' :: 'a' :: 'l' :: 's' :: 'e' :: r => some (.bool false, r)
    | '"' :: r => (literal? r).map fun p => (p.1.elim .halfPair .text, p.2)
    | '[' :: r =>
      match skipSpace r with
      | ']' :: after => some (.list [], after)
      | _ => (items? fuel r).map fun p => (.list p.1, p.2)
    | '\x7b' :: r =>
      match skipSpace r with
      | '\x7d' :: after => some (.object [], after)
      | _ => (members? fuel r).map fun p => (.object p.1, p.2)
    | cs => (numeral? cs).map fun p => (.number (String.ofList p.1), p.2)

/-- The items of a list up to its closing bracket. -/
def items? : Nat → List Char → Option (List Json × List Char)
  | 0, _ => none
  | fuel + 1, cs => do
    let (v, r) ← value? fuel cs
    match skipSpace r with
    | ',' :: r => (items? fuel r).map fun p => (v :: p.1, p.2)
    | ']' :: r => some ([v], r)
    | _ => none

def members? : Nat → List Char → Option (List (Option String × Json) × List Char)
  | 0, _ => none
  | fuel + 1, cs =>
    match skipSpace cs with
    | '"' :: r => do
      let (name, r) ← literal? r
      match skipSpace r with
      | ':' :: r => do
        let (v, r) ← value? fuel r
        match skipSpace r with
        | ',' :: r => (members? fuel r).map fun p => ((name, v) :: p.1, p.2)
        | '\x7d' :: r => some ([(name, v)], r)
        | _ => none
      | _ => none
    | _ => none

end

/-- The value of a text that holds one value and white space. -/
def parse? (s : String) : Option Json :=
  match value? (2 * s.length + 2) s.toList with
  | some (v, rest) => if (skipSpace rest).isEmpty then some v else none
  | none => none

end HostStorage.Json
