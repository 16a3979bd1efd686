/-!
# Octets in lines

Texts as octets in UTF-8, and octets divided into lines by a carriage return and a line feed.
-/

namespace QuoteGateway.Net

def octetsOf (s : String) : List UInt8 := s.toUTF8.toList

def lineEnd : List UInt8 := [13, 10]

def firstLine? : List UInt8 → Option (List UInt8 × List UInt8)
  | [] => none
  | 13 :: 10 :: rest => some ([], rest)
  | octet :: rest => (firstLine? rest).map fun (line, after) => (octet :: line, after)

def decodedText? (octets : List UInt8) : Option String :=
  String.fromUTF8? ⟨octets.toArray⟩

/-- The characters of octets in UTF-8 from a position on, with others in place of each octet that
belongs to no character. -/
def mendedFrom (stray : List Char) (octets : ByteArray) (i : Nat) : List Char :=
  if i < octets.size then
    match octets.utf8DecodeChar? i with
    | some c => c :: mendedFrom stray octets (i + c.utf8Size)
    | none => stray ++ mendedFrom stray octets (i + 1)
  else []
termination_by octets.size - i
decreasing_by
  · have := c.utf8Size_pos
    omega
  · omega

end QuoteGateway.Net
