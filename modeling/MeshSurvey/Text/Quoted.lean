import MeshSurvey.Text.Combining
import MeshSurvey.Text.Printable

/-!
# Quoted text

Messages show foreign text between double quotes so that blanks, controls and quotes in it can be
told apart. Quotes, backslashes and the common controls have short escapes; any other character that
cannot be shown, or that would join the character before it, is spelled by its number; everything
else stands for itself.
-/

namespace MeshSurvey.Text

/-- The form of one character inside quotes. -/
def escapeChar (c : Char) : List Char :=
  if c = '\x00' then ['\\', '0']
  else if c = '\t' then ['\\', 't']
  else if c = '\n' then ['\\', 'n']
  else if c = '\r' then ['\\', 'r']
  else if c = '"' then ['\\', '"']
  else if c = '\\' then ['\\', '\\']
  else if isCombining c || !isPrintable c then
    ['\\', 'u', '\x7b'] ++ Nat.toDigits 16 c.toNat ++ ['\x7d']
  else [c]

/-- The text between double quotes, with the characters that cannot be shown escaped. -/
def quoted (text : String) : String :=
  String.ofList ('"' :: text.toList.flatMap escapeChar ++ ['"'])

/-- A list of texts, each quoted, between square brackets. -/
def quotedList (texts : List String) : String :=
  "[" ++ ", ".intercalate (texts.map quoted) ++ "]"

end MeshSurvey.Text
