import ObjectAccess.Text.Concealed
import ObjectAccess.Text.Hex

/-!
# Quoted text

Texts are shown in double quotes.  A quote or a backslash inside gets a backslash,
NUL, tab, line feed and carriage return their letters, and a character that cannot be shown its
code point in lower-case hexadecimal between braces.
-/

namespace ObjectAccess.Text

set_option autoImplicit false

/-- One character inside quotes. -/
def quoteChar (c : Char) : List Char :=
  if c = '"' then ['\\', '"']
  else if c = '\\' then ['\\', '\\']
  else if c = '\x00' then ['\\', '0']
  else if c = '\t' then ['\\', 't']
  else if c = '\n' then ['\\', 'n']
  else if c = '\r' then ['\\', 'r']
  else if isConcealed c then ['\\', 'u', '\x7b'] ++ Hex.ofNat c.toNat ++ ['\x7d']
  else [c]

/-- A text in quotes. -/
def quote (text : String) : String :=
  String.ofList ('"' :: (text.toList.flatMap quoteChar ++ ['"']))

end ObjectAccess.Text
