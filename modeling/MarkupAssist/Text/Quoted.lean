import MarkupAssist.Text.Combining
import MarkupAssist.Text.Unprintable

/-!
# Quoted text

A text between double quotes for a message: quotes, backslashes and line controls are
escaped by a letter, and what would not show on its own is given by its number.
-/

namespace MarkupAssist
namespace Text

def hexDigits (n : Nat) : List Char :=
  Nat.toDigits 16 n

def escapedChar (c : Char) : List Char :=
  if c = '\x00' then ['\\', '0']
  else if c = '\t' then ['\\', 't']
  else if c = '\r' then ['\\', 'r']
  else if c = '\n' then ['\\', 'n']
  else if c = '"' || c = '\\' then ['\\', c]
  else if isCombining c || !isPrintable c then
    ['\\', 'u', '\x7b'] ++ hexDigits c.toNat ++ ['\x7d']
  else [c]

def quoted (s : String) : String :=
  String.ofList ('"' :: (s.toList.flatMap escapedChar ++ ['"']))

end Text
end MarkupAssist
