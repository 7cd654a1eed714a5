import Scanout.Text.Hex
import Scanout.Text.Shown

/-!
# Quoted text

A message that shows a piece of text of someone else's puts it between double quotes and escapes
what would be misread or not be seen.
-/

namespace Scanout.Text

/-- The escape that begins with a backslash and names the code point. -/
def codePointEscape (c : Char) : List Char :=
  '\\' :: 'u' :: '\x7b' :: (hexDigits c.toNat ++ ['\x7d'])

/-- **How one character stands in quoted text**: NUL, tab, line ends, the quote and the backslash
have short escapes; whatever has no image of its own is named by its code point. -/
def quotedChar (c : Char) : List Char :=
  if c = '\x00' then ['\\', '0']
  else if c = '\t' then ['\\', 't']
  else if c = '\r' then ['\\', 'r']
  else if c = '\n' then ['\\', 'n']
  else if c = '"' then ['\\', '"']
  else if c = '\\' then ['\\', '\\']
  else if isShown c then [c]
  else codePointEscape c

/-- **Text between double quotes.** -/
def quoted (s : String) : String :=
  String.ofList ('"' :: (s.toList.flatMap quotedChar ++ ['"']))

end Scanout.Text
