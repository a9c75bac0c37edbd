/-!
# Durations

Whole seconds and nanoseconds, written in the largest unit that leaves a whole part.
-/

namespace TestDouble

structure Duration where
  seconds : Nat
  nanos : Nat
  nanos_lt : nanos < 1000000000
  deriving DecidableEq

namespace Duration

/-- Nanoseconds beyond a second are carried. -/
def ofParts (seconds nanos : Nat) : Duration :=
  ⟨seconds + nanos / 1000000000, nanos % 1000000000, Nat.mod_lt _ (by decide)⟩

def ofMillis (ms : Nat) : Duration := ofParts (ms / 1000) (ms % 1000 * 1000000)

def zero : Duration := ofParts 0 0

/-- The length in nanoseconds. -/
def toNanos (d : Duration) : Nat := d.seconds * 1000000000 + d.nanos

def compare (a b : Duration) : Ordering := Ord.compare a.toNanos b.toNanos

/-- `whole` and a fraction of `places` digits, without trailing zeros. -/
def decimalText (whole fraction places : Nat) : String :=
  let digits := Nat.toDigits 10 fraction
  let padded := List.replicate (places - digits.length) '0' ++ digits
  let shown := (padded.reverse.dropWhile (· == '0')).reverse
  toString whole ++ String.ofList (if shown.isEmpty then [] else '.' :: shown)

def text (d : Duration) : String :=
  if 0 < d.seconds then decimalText d.seconds d.nanos 9 ++ "s"
  else if 1000000 ≤ d.nanos then decimalText (d.nanos / 1000000) (d.nanos % 1000000) 6 ++ "ms"
  else if 1000 ≤ d.nanos then decimalText (d.nanos / 1000) (d.nanos % 1000) 3 ++ "µs"
  else toString d.nanos ++ "ns"

end Duration

end TestDouble
