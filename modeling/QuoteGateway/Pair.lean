import QuoteGateway.Text.Pieces
import QuoteGateway.Text.WhiteSpace

/-!
# Currency pairs

An ordered pair of currencies, written with one underscore between the two names. The names keep
their letters as they were written.
-/

namespace QuoteGateway

structure CurrencyPair where
  base : String
  target : String
deriving DecidableEq

namespace CurrencyPair

def separator : Char := '_'

def text (pair : CurrencyPair) : String :=
  pair.base ++ String.ofList [separator] ++ pair.target

/-- The pair of a text with exactly two pieces, neither of them empty. -/
def parse? (s : String) : Option CurrencyPair :=
  match Text.pieces separator s.toList with
  | [base, target] =>
    if base.isEmpty || target.isEmpty then none
    else some ⟨String.ofList base, String.ofList target⟩
  | _ => none

/-- The items of a list of pairs: what stands between commas, trimmed, without the blank ones. -/
def listItems (s : String) : List String :=
  (((Text.pieces ',' s.toList).map Text.trim).filter (!·.isEmpty)).map String.ofList

end CurrencyPair

end QuoteGateway
