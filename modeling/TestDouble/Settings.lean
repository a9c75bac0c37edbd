import TestDouble.Duration
import TestDouble.Json
import TestDouble.Text.CodePoints

/-!
# Settings

Settings shared by a registry and the sessions over it.
-/

namespace TestDouble

structure Settings where
  /-- Least number of rounds a block is run for. -/
  minRounds : Nat := 2
  /-- Greatest number of rounds a block is run for. -/
  maxRounds : Nat := 16
  /-- Fixes the stand-in values. -/
  seed : Option Nat := none
  /-- Pause between two attempts of a verification with a deadline. -/
  pollInterval : Duration := .ofMillis 10
  /-- Log the calls that a mock makes on itself while it answers. -/
  logSelfCalls : Bool := true
  deriving DecidableEq

namespace Settings

/-- At least one round, and no maximum below the minimum. -/
def normalized (s : Settings) : Settings :=
  let least := max s.minRounds 1
  { s with minRounds := least, maxRounds := max s.maxRounds least }

def withMinRounds (s : Settings) (n : Nat) : Settings := { s with minRounds := n }.normalized

def withMaxRounds (s : Settings) (n : Nat) : Settings := { s with maxRounds := n }.normalized

def withSeed (s : Settings) (n : Nat) : Settings := { s with seed := some n }

def withPollInterval (s : Settings) (d : Duration) : Settings := { s with pollInterval := d }

def withLogSelfCalls (s : Settings) (b : Bool) : Settings := { s with logSelfCalls := b }

/-- Decimal digits, perhaps after a plus sign, of a number below 2^64. -/
def readWord? (digits : List Char) : Option Nat :=
  let digits := match digits with
    | '+' :: rest => rest
    | _ => digits
  let n := digits.foldl (fun n c => 10 * n + (c.toNat - '0'.toNat)) 0
  if !digits.isEmpty && digits.all Char.isDigit && n < 1 <<< 64 then some n else none

/-- The defaults, with the seed and the least number of rounds that two texts give; a text that is no
number is ignored. -/
def ofEnvironment (seed rounds : Option String) : Settings :=
  let read := fun (text : Option String) => text.bind fun t => readWord? (Text.trimmed t)
  { ({} : Settings) with
    seed := read seed
    minRounds := (read rounds).getD ({} : Settings).minRounds }.normalized

def durationToJson (d : Duration) : Json :=
  .obj [("secs", .nat d.seconds), ("nanos", .nat d.nanos)]

/-- Nanoseconds beyond a second are carried as long as the seconds fit a word; no other field is
allowed. -/
def durationOfJson? (j : Json) : Option Duration := do
  if let .obj fields := j then
    if fields.any fun f => f.1 != "secs" && f.1 != "nanos" then failure
  let [some secs, some nanos] ← j.members? ["secs", "nanos"] | none
  let d := Duration.ofParts (← secs.word?) (← nanos.natBelow? (1 <<< 32))
  if d.seconds < 1 <<< 64 then some d else none

def toJson (s : Settings) : Json :=
  .obj [("min_rounds", .nat s.minRounds), ("max_rounds", .nat s.maxRounds),
    ("signature_seed", (s.seed.map Json.nat).getD .null),
    ("verify_poll_interval", durationToJson s.pollInterval),
    ("record_self_calls", .bool s.logSelfCalls)]

/-- Only the seed may be absent, or null. -/
def ofJson? (j : Json) : Option Settings := do
  let [some least, some most, seed, some interval, some self] ←
    j.members? ["min_rounds", "max_rounds", "signature_seed", "verify_poll_interval",
      "record_self_calls"] | none
  let seed ← match seed with
    | none | some .null => some none
    | some seed => seed.word?.map some
  some { minRounds := ← least.word?, maxRounds := ← most.word?, seed,
         pollInterval := ← durationOfJson? interval, logSelfCalls := ← self.bool? }

end Settings

end TestDouble
