import HostStorage.Text.Split
import HostStorage.Text.Quoted
import HostStorage.Json.Value

/-!
# Writing JSON

Values over several lines with two blanks of indent per level. In strings only the quote, the
backslash and the control characters below the blank are escaped.
-/
namespace HostStorage.Json

def escapeChar (c : Char) : List Char :=
  match c with
  | '"' => ['\\', '"'] | '\\' => ['\\', '\\']
  | '\n' => ['\\', 'n'] | '\r' => ['\\', 'r'] | '\t' => ['\\', 't']
  | c =>
    if c.toNat = 8 then ['\\', 'b']
    else if c.toNat = 12 then ['\\', 'f']
    else if c.toNat < 0x20 then ['\\', 'u'] ++ Text.hexPadded 4 c.toNat
    else [c]

def literal (s : String) : String :=
  String.ofList ('"' :: (s.toList.flatMap escapeChar ++ ['"']))

mutual

/-- The value over several lines, `margin` standing before each line but the first. -/
def pretty (margin : String) : Json → String
  | .null => "null"
  | .bool b => if b then "true" else "false"
  | .number numeral => numeral
  | .text s => literal s
  | .halfPair => literal "\ufffd"
  | .list items =>
    if items.isEmpty then "[]"
    else "[\n" ++ prettyItems (margin ++ "  ") items ++ "\n" ++ margin ++ "]"
  | .object members =>
    if members.isEmpty then "\x7b\x7d"
    else "\x7b\n" ++ prettyMembers (margin ++ "  ") members ++ "\n" ++ margin ++ "\x7d"

def prettyItems (margin : String) : List Json → String
  | [] => ""
  | item :: rest =>
    margin ++ pretty margin item ++ (if rest.isEmpty then "" else ",\n") ++
      prettyItems margin rest

def prettyMembers (margin : String) : List (Option String × Json) → String
  | [] => ""
  | (name, value) :: rest =>
    margin ++ literal (name.getD "\ufffd") ++ ": " ++ pretty margin value ++
      (if rest.isEmpty then "" else ",\n") ++ prettyMembers margin rest

end

end HostStorage.Json
