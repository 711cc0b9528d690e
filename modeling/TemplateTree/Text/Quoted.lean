import TemplateTree.Text.Digit
import TemplateTree.Text.Visible

/-!
# Text in quotation marks

How messages show a piece of text: between quotation marks, with a backslash
before a quotation mark or a backslash, with `\t`, `\r`, `\n` and `\0` for
four controls, and with the code point in braces for every other character
that does not show.
-/

namespace TemplateTree.Text

/-- One character between quotation marks. -/
def quotedChar (c : Char) : String :=
  match c with
  | '"' => "\\\""
  | '\\' => "\\\\"
  | '\t' => "\\t"
  | '\r' => "\\r"
  | '\n' => "\\n"
  | '\x00' => "\\0"
  | c => if isVisible c then c.toString else "\\u\x7b" ++ hex c.toNat ++ "\x7d"

def quoted (s : String) : String :=
  "\"" ++ s.toList.foldl (fun shown c => shown ++ quotedChar c) "" ++ "\""

end TemplateTree.Text
