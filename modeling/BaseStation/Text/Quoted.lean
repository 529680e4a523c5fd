import BaseStation.Text.Digits
import BaseStation.Text.Printable

/-!
Quoted text, in which a character that cannot be shown stands as an escape.
-/

namespace BaseStation.Text

def numericEscape (c : Char) : String := "\\u\x7b" ++ hex 1 c.toNat ++ "\x7d"

/-- A character as it stands between quotes. -/
def quotedChar (c : Char) : String :=
  match c with
  | '\x00' => "\\0"
  | '\t' => "\\t"
  | '\n' => "\\n"
  | '\r' => "\\r"
  | '"' => "\\\""
  | '\\' => "\\\\"
  | c => if isPrintable c then String.singleton c else numericEscape c

def quoted (s : String) : String := "\"" ++ String.join (s.toList.map quotedChar) ++ "\""

def quotedList (xs : List String) : String := "[" ++ ", ".intercalate (xs.map quoted) ++ "]"

end BaseStation.Text
