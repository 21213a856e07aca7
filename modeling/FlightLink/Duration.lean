/-! Spans of time in whole nanoseconds, and their text: the largest unit that
fits, with as many decimal places as the remainder needs. -/

namespace FlightLink

structure Duration where
  nanoseconds : Nat
  deriving DecidableEq, Repr, Inhabited

namespace Duration

def ofMillis (count : Nat) : Duration := ⟨count * 1000000⟩

/-- Whole milliseconds, rounded up. -/
def ceilMillis (span : Duration) : Nat := (span.nanoseconds + 999999) / 1000000

/-- The milliseconds that a sleep of `count` milliseconds lasts: thirty years of 365
days at most. -/
def sleepMillis (count : Nat) : Nat := min count (30 * 365 * 86400000)

def add (first second : Duration) : Duration := ⟨first.nanoseconds + second.nanoseconds⟩

/-- The time from `start` to `finish`, none when `finish` is not later. -/
def since (finish start : Duration) : Duration := ⟨finish.nanoseconds - start.nanoseconds⟩

instance : Add Duration := ⟨add⟩

instance : LT Duration := ⟨fun first second => first.nanoseconds < second.nanoseconds⟩

instance : LE Duration := ⟨fun first second => first.nanoseconds ≤ second.nanoseconds⟩

instance (first second : Duration) : Decidable (first < second) :=
  inferInstanceAs (Decidable (first.nanoseconds < second.nanoseconds))

instance (first second : Duration) : Decidable (first ≤ second) :=
  inferInstanceAs (Decidable (first.nanoseconds ≤ second.nanoseconds))

/-- A remainder as decimal places, without trailing zeros. -/
def places (digits remainder : Nat) : String :=
  let shown := toString remainder
  let padded := List.replicate (digits - shown.length) '0' ++ shown.toList
  let kept := (padded.reverse.dropWhile (· == '0')).reverse
  if kept.isEmpty then "" else "." ++ String.ofList kept

def text (span : Duration) : String :=
  let count := span.nanoseconds
  if 1000000000 ≤ count then
    s!"{count / 1000000000}{places 9 (count % 1000000000)}s"
  else if 1000000 ≤ count then
    s!"{count / 1000000}{places 6 (count % 1000000)}ms"
  else if 1000 ≤ count then
    s!"{count / 1000}{places 3 (count % 1000)}µs"
  else
    s!"{count}ns"

end Duration
end FlightLink
