import TunnelControl.Text.Hex
import TunnelControl.Text.Visible

/-!
# Quoted text in messages

A text that a message quotes stands between quotation marks, with an escape for each character that
would not show as itself: `quoteText`, and `quoteChar` for a single character.
-/

namespace TunnelControl

/-- a character in quoted text; `mark` is the quotation mark around it -/
def escapeIn (mark c : Char) : List Char :=
  if c = '\x00' then ['\\', '0']
  else if c = '\t' then ['\\', 't']
  else if c = '\r' then ['\\', 'r']
  else if c = '\n' then ['\\', 'n']
  else if c = '\\' || c = mark then ['\\', c]
  else if isVisible c then [c]
  else ['\\', 'u', '\x7b'] ++ hexDigits c.toNat ++ ['\x7d']

def quoteText (s : String) : String :=
  String.ofList ('"' :: s.toList.flatMap (escapeIn '"') ++ ['"'])

def quoteChar (c : Char) : String := String.ofList ('\'' :: escapeIn '\'' c ++ ['\''])

end TunnelControl
