/-
This file defines spans of time with nanosecond resolution and writes them exactly.
A span shows its largest unit with a fraction that has no trailing zero.
-/

namespace NodeBridge

/-- The fraction of a second is below one second. -/
structure Duration where
  seconds : Nat
  nanoseconds : Nat
  bounded : nanoseconds < 1000000000 := by omega
  deriving DecidableEq

namespace Duration

def ofSeconds (seconds : Nat) : Duration := ⟨seconds, 0, by omega⟩

def ofMilliseconds (milliseconds : Nat) : Duration :=
  ⟨milliseconds / 1000, milliseconds % 1000 * 1000000, by omega⟩

def zero : Duration := ofSeconds 0

/-- Spans are compared by all their nanoseconds. -/
def toNanoseconds (duration : Duration) : Nat :=
  duration.seconds * 1000000000 + duration.nanoseconds

instance : LT Duration := ⟨fun first second => first.toNanoseconds < second.toNanoseconds⟩

instance : LE Duration := ⟨fun first second => first.toNanoseconds ≤ second.toNanoseconds⟩

instance (first second : Duration) : Decidable (first < second) :=
  inferInstanceAs (Decidable (first.toNanoseconds < second.toNanoseconds))

instance (first second : Duration) : Decidable (first ≤ second) :=
  inferInstanceAs (Decidable (first.toNanoseconds ≤ second.toNanoseconds))

/-- The fraction keeps `width` digits and drops the zeros at the end. -/
def fraction (width part : Nat) : String :=
  let digits := (Nat.toDigits 10 part).reverse.dropWhile (· = '0')
  let digits := digits.reverse
  let leading := width - (Nat.toDigits 10 part).length
  if part = 0 then "" else "." ++ String.ofList (List.replicate leading '0' ++ digits)

/-- The largest unit that the span fills is the one shown, and nothing is rounded. -/
def text (duration : Duration) : String :=
  let nanoseconds := duration.nanoseconds
  if 0 < duration.seconds then
    toString duration.seconds ++ fraction 9 nanoseconds ++ "s"
  else if 1000000 ≤ nanoseconds then
    toString (nanoseconds / 1000000) ++ fraction 6 (nanoseconds % 1000000) ++ "ms"
  else if 1000 ≤ nanoseconds then
    toString (nanoseconds / 1000) ++ fraction 3 (nanoseconds % 1000) ++ "µs"
  else toString nanoseconds ++ "ns"

/-- Timers count whole milliseconds, and so that none goes off too early the rest of a millisecond
counts as a whole one. -/
def milliseconds (duration : Duration) : Nat :=
  duration.seconds * 1000 + duration.nanoseconds / 1000000 + min 1 (duration.nanoseconds % 1000000)

end Duration

end NodeBridge
