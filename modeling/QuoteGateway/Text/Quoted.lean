import QuoteGateway.Text.VisibleTable

/-!
# Texts quoted in messages

A message shows a text between double quotes, with escapes for the quote, the backslash, line
controls and every character that has no shape of its own.
-/

namespace QuoteGateway.Text

def quotedChar (c : Char) : List Char :=
  match c with
  | '\x00' => ['\\', '0']
  | '\t' => ['\\', 't']
  | '\r' => ['\\', 'r']
  | '\n' => ['\\', 'n']
  | '\\' => ['\\', '\\']
  | '"' => ['\\', '"']
  | c =>
    if invisibleRanges.any fun range => range.1 ≤ c.toNat && c.toNat ≤ range.2 then
      ['\\', 'u', '{'] ++ Nat.toDigits 16 c.toNat ++ ['}']
    else [c]

/-- A text as messages show it. -/
def quoted (s : String) : String :=
  String.ofList ('"' :: s.toList.flatMap quotedChar ++ ['"'])

end QuoteGateway.Text
