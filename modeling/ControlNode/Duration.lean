/-!
# Durations

A span of time in whole nanoseconds. `Duration.text` writes it in the largest unit that leaves a
whole part, with the digits of the fraction that are not trailing zeros: `5s`, `20ms`, `1.5s`.
-/

namespace ControlNode

structure Duration where
  nanoseconds : Nat
deriving DecidableEq, Repr

namespace Duration

def ofSeconds (n : Nat) : Duration := ⟨n * 1000000000⟩

def ofMilliseconds (n : Nat) : Duration := ⟨n * 1000000⟩

def seconds (d : Duration) : Nat := d.nanoseconds / 1000000000

/-- The nanoseconds beyond the whole seconds. -/
def subsecond (d : Duration) : Nat := d.nanoseconds % 1000000000

@[simp] theorem seconds_ofSeconds (n : Nat) : (ofSeconds n).seconds = n := by
  simp [seconds, ofSeconds]

@[simp] theorem subsecond_ofSeconds (n : Nat) : (ofSeconds n).subsecond = 0 := by
  simp [subsecond, ofSeconds]

/-- The digits of `n` in `width` places, without the zeros at the end. -/
def fraction (width n : Nat) : String :=
  let digits := (toString n).toList
  let padded := List.replicate (width - digits.length) '0' ++ digits
  String.ofList (padded.reverse.dropWhile (· = '0')).reverse

/-- The quotient of `n` by ten to the `places`, as a decimal number. -/
def scaled (places n : Nat) : String :=
  let rest := fraction places (n % Nat.pow 10 places)
  toString (n / Nat.pow 10 places) ++ if rest = "" then "" else "." ++ rest

def text (d : Duration) : String :=
  if 1000000000 ≤ d.nanoseconds then scaled 9 d.nanoseconds ++ "s"
  else if 1000000 ≤ d.nanoseconds then scaled 6 d.nanoseconds ++ "ms"
  else if 1000 ≤ d.nanoseconds then scaled 3 d.nanoseconds ++ "µs"
  else toString d.nanoseconds ++ "ns"

end Duration

end ControlNode
