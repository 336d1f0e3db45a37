import HostStorage.Text.Split
import HostStorage.Text.Quoted

/-!
# Listings of values

How results and errors are shown to a person: atoms, quoted text, and groups of items between an
opening and a closing mark. A listing is written on one line or indented with one item per line,
each followed by a comma.
-/
namespace HostStorage

/-- The shape of a shown value. A spaced group has a blank inside its marks on one line. -/
inductive Listing where
  | atom (text : String)
  | labelled (label : String) (value : Listing)
  | group (opening closing : String) (spaced : Bool) (items : List Listing)

namespace Listing

def text (s : String) : Listing := .atom (Text.quoted s)

def number (n : Nat) : Listing := .atom (toString n)

def list (items : List Listing) : Listing := .group "[" "]" false items

def texts (items : List String) : Listing := list (items.map text)

/-- Values in parentheses after a name, which may be empty. -/
def tuple (name : String) (items : List Listing) : Listing := .group (name ++ "(") ")" false items

def record (name : String) (fields : List (String × Listing)) : Listing :=
  .group (name ++ " \x7b") "\x7d" true (fields.map fun f => .labelled f.1 f.2)

def dictionary (entries : List (String × String)) : Listing :=
  .group "\x7b" "\x7d" false (entries.map fun e => .labelled (Text.quoted e.1) (text e.2))

mutual

def inline : Listing → String
  | .atom s => s
  | .labelled label value => label ++ ": " ++ inline value
  | .group opening closing spaced items =>
    let gap := if spaced then " " else ""
    opening ++ gap ++ Text.joined ", " (inlineAll items) ++ gap ++ closing

def inlineAll : List Listing → List String
  | [] => []
  | item :: rest => inline item :: inlineAll rest

end

mutual

/-- The listing over several lines, `margin` standing before each line but the first. -/
def indented (margin : String) : Listing → String
  | .atom s => s
  | .labelled label value => label ++ ": " ++ indented margin value
  | .group opening closing _ items =>
    if items.isEmpty then opening ++ closing
    else opening ++ "\n" ++ indentedAll (margin ++ "    ") items ++ margin ++ closing

/-- Each item on lines of its own, with a comma after it. -/
def indentedAll (margin : String) : List Listing → String
  | [] => ""
  | item :: rest => margin ++ indented margin item ++ ",\n" ++ indentedAll margin rest

end

end Listing
end HostStorage
