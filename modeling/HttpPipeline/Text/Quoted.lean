import HttpPipeline.Text.Printable

/-!
# Quoted texts

Error messages quote the text they are about. Inside the quotes a quote, a backslash
and the common control characters are written as a backslash and a letter. Any other
character that does not show by itself is written as its number in hexadecimal.
-/

namespace HttpPipeline.Text

/-- The digits of a number in hexadecimal, as few as it has. -/
def shortHex (n : Nat) : List Char := Nat.toDigits 16 n

/-- One character inside quotes. -/
def quoteChar (c : Char) : List Char :=
  match c with
  | '\x00' => ['\\', '0']
  | '\t' => ['\\', 't']
  | '\n' => ['\\', 'n']
  | '\r' => ['\\', 'r']
  | '"' => ['\\', '"']
  | '\\' => ['\\', '\\']
  | c =>
    if isPrintable c then [c]
    else ['\\', 'u', '\x7b'] ++ shortHex c.toNat ++ ['\x7d']

/-- A text in quotes. -/
def quoted (s : String) : String :=
  String.ofList ('"' :: (s.toList.flatMap quoteChar ++ ['"']))

end HttpPipeline.Text
