import CCheck.Text.Printable

/-! # Quoted text

Two ways to write a string between double quotes: `quoted` for descriptions of tokens
and trees, `json` for reports. -/

set_option autoImplicit false

namespace CCheck.Text

def hexText (n:Nat) : String := String.ofList (Nat.toDigits 16 n)

/-- A character of a quoted string: quote, backslash and the common controls by a
letter, whatever does not print by its code. -/
def quotedChar (c:Char) : String :=
 match c with
 | '"' => "\\\""
 | '\\' => "\\\\"
 | '\n' => "\\n"
 | '\r' => "\\r"
 | '\t' => "\\t"
 | '\x00' => "\\0"
 | c => if isPrintable c then c.toString else "\\u\x7b" ++ hexText c.toNat ++ "\x7d"

def quoted (s:String) : String :=
 "\"" ++ String.join (s.toList.map quotedChar) ++ "\""

def jsonChar (c:Char) : String :=
 match c with
 | '"' => "\\\""
 | '\\' => "\\\\"
 | '\n' => "\\n"
 | '\r' => "\\r"
 | '\t' => "\\t"
 | '\x08' => "\\b"
 | '\x0c' => "\\f"
 | c =>
  if c.toNat < 16 then "\\u000" ++ hexText c.toNat
  else if c.toNat < 32 then "\\u00" ++ hexText c.toNat
  else c.toString

def json (s:String) : String :=
 "\"" ++ String.join (s.toList.map jsonChar) ++ "\""

end CCheck.Text
