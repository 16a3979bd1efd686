import QuoteGateway.Calendar.Stamp

/-!
# Stamps of fetched rates

The source of rates reports when they were updated as `YYYY-MM-DD HH:MM:SS` in universal time.
-/

namespace QuoteGateway.Calendar

/-- The unix second of a stamp. White space may stand before each number, and none is needed
between the date and the time. -/
def readUpdatedStamp (s : String) : Except StampError Int := do
  let (date, rest) ← datePart id s.toList
  let (clock, rest) ← clockPart id (skipWhite rest)
  if rest.isEmpty then secondsOf date clock else .error .trailing

end QuoteGateway.Calendar
