import RemoteDesktop.Text.Numeral
import RemoteDesktop.Text.Visible

/-!
# Quoted text

How messages show a text of unknown content: between double quotes, with escapes for double quotes,
backslashes and all characters that are not visible.
-/

namespace RemoteDesktop.Text

/-- How a character is shown between quotes. -/
def quotedChar (c : Char) : List Char :=
  match c with
  | '\x00' => ['\\', '0']
  | '\t' => ['\\', 't']
  | '\n' => ['\\', 'n']
  | '\r' => ['\\', 'r']
  | '"' => ['\\', '"']
  | '\\' => ['\\', '\\']
  | c =>
    if isVisible c then [c]
    else ['\\', 'u', '\x7b'] ++ Numeral.write 16 c.toNat ++ ['\x7d']

/-- A text between quotes. -/
def quoted (s : String) : String := String.ofList ('"' :: s.toList.flatMap quotedChar ++ ['"'])

end RemoteDesktop.Text
