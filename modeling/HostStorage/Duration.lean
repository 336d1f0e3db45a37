/-!
# Spans of time

Whole seconds and nanoseconds, written in the largest unit that keeps the whole part non-zero, with
the digits after the point that are needed and no more.
-/
namespace HostStorage

/-- A span of time; the nanoseconds are less than one second. -/
structure Duration where
  seconds : Nat
  nanos : Nat
  nanos_lt : nanos < 1000000000 := by omega

namespace Duration

/-- A span from seconds and any number of nanoseconds. -/
def ofParts (seconds nanos : Nat) : Duration :=
  ⟨seconds + nanos / 1000000000, nanos % 1000000000, Nat.mod_lt _ (by omega)⟩

def ofMillis (n : Nat) : Duration := ofParts 0 (n * 1000000)

def ofSeconds (n : Nat) : Duration := ofParts n 0

def isZero (d : Duration) : Bool := d.seconds == 0 && d.nanos == 0

/-- `whole` and `part / 10 ^ width` in decimal, without trailing zeros after the point. -/
def decimal (whole part width : Nat) : String :=
  if part = 0 then toString whole
  else
    let digits := Nat.toDigits 10 part
    let padded := List.replicate (width - digits.length) '0' ++ digits
    toString whole ++ "." ++ String.ofList (padded.reverse.dropWhile (· == '0')).reverse

def text (d : Duration) : String :=
  if 0 < d.seconds then decimal d.seconds d.nanos 9 ++ "s"
  else if 1000000 ≤ d.nanos then decimal (d.nanos / 1000000) (d.nanos % 1000000) 6 ++ "ms"
  else if 1000 ≤ d.nanos then decimal (d.nanos / 1000) (d.nanos % 1000) 3 ++ "µs"
  else toString d.nanos ++ "ns"

end Duration
end HostStorage
