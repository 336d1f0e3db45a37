import HostStorage.Text.Hex
import HostStorage.Text.Printable

/-!
# Quoted text

Text between double quotes, as error messages and record listings show it. The double quote, the
backslash, tab, newline, carriage return and NUL have short escapes; every other character that
does not show on its own is written as its code point in lower-case hexadecimal.
-/
namespace HostStorage.Text

def quoteChar (c : Char) : List Char :=
  if c = '"' then ['\\', '"']
  else if c = '\\' then ['\\', '\\']
  else if c = '\t' then ['\\', 't']
  else if c = '\n' then ['\\', 'n']
  else if c = '\r' then ['\\', 'r']
  else if c.toNat = 0 then ['\\', '0']
  else if isShown c then [c]
  else ['\\', 'u', '\x7b'] ++ hex c.toNat ++ ['\x7d']

def quote (cs : List Char) : List Char := '"' :: (cs.flatMap quoteChar ++ ['"'])

def quoted (s : String) : String := String.ofList (quote s.toList)

end HostStorage.Text
