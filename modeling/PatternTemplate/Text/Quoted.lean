import PatternTemplate.Text.Printable

/-!
# Quoted text

Messages show text that comes from outside in double quotes, so that its ends and its invisible
characters can be seen. Quote and backslash are escaped by a backslash, the four controls with a
usual short form are written in it, and every other character that is not printable is written by
its code point in hexadecimal. Everything else stands for itself.
-/

namespace PatternTemplate

namespace Text

/-- A character by its code point: lower-case hexadecimal digits in braces, without padding. -/
def codePointEscape (c : Char) : String :=
  "\\u\x7b" ++ String.ofList (Nat.toDigits 16 c.toNat) ++ "\x7d"

def quotedChar (c : Char) : String :=
  match c with
  | '"' => "\\\""
  | '\\' => "\\\\"
  | '\n' => "\\n"
  | '\r' => "\\r"
  | '\t' => "\\t"
  | '\x00' => "\\0"
  | c => if isPrintable c then c.toString else codePointEscape c

def quoted (s : String) : String :=
  "\"" ++ String.join (s.toList.map quotedChar) ++ "\""

end Text

end PatternTemplate
