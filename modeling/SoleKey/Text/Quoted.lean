import SoleKey.Text.Unprintable

set_option autoImplicit false

namespace SoleKey.Text

def hexDigits (value : Nat) : String :=
  String.ofList (Nat.toDigits 16 value)

def escapeChar (char : Char) : String :=
  match char with
  | '\x00' => "\\0"
  | '\t' => "\\t"
  | '\n' => "\\n"
  | '\r' => "\\r"
  | '"' => "\\\""
  | '\\' => "\\\\"
  | _ =>
    if isUnprintable char then "\\u\x7b" ++ hexDigits char.toNat ++ "\x7d" else char.toString

def quoted (text : String) : String :=
  "\"" ++ String.join (text.toList.map escapeChar) ++ "\""

end SoleKey.Text
