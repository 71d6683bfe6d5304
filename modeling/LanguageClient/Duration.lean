/-!
# Durations

A duration is a number of nanoseconds. Its text uses the largest unit that fits into it, with the
rest as a decimal fraction.
-/

namespace LanguageClient

/-- A span of time. -/
structure Duration where
  /-- Its length in nanoseconds. -/
  nanoseconds : Nat
deriving Repr, DecidableEq

namespace Duration

/-- A number of seconds and nanoseconds. -/
def ofParts (seconds nanoseconds : Nat) : Duration := ⟨seconds * 1000000000 + nanoseconds⟩

/-- A number of seconds. -/
def ofSeconds (seconds : Nat) : Duration := ofParts seconds 0

/-- A number of milliseconds. -/
def ofMilliseconds (milliseconds : Nat) : Duration := ⟨milliseconds * 1000000⟩

/-- A fraction with a number of digits after the point, without trailing zeros. -/
def fraction (digits rest : Nat) : String :=
  let spelled := Nat.toDigits 10 rest
  let padded := List.replicate (digits - spelled.length) '0' ++ spelled
  let shown := (padded.reverse.dropWhile (· = '0')).reverse
  if shown.isEmpty then "" else "." ++ String.ofList shown

/-- A number of nanoseconds in a unit of some size, a power of ten with a number of zeros. -/
def inUnit (nanoseconds size zeros : Nat) (unit : String) : String :=
  toString (nanoseconds / size) ++ fraction zeros (nanoseconds % size) ++ unit

/-- The duration as a text. -/
def text (duration : Duration) : String :=
  let n := duration.nanoseconds
  if 1000000000 ≤ n then inUnit n 1000000000 9 "s"
  else if 1000000 ≤ n then inUnit n 1000000 6 "ms"
  else if 1000 ≤ n then inUnit n 1000 3 "µs"
  else inUnit n 1 0 "ns"

end Duration

end LanguageClient
