/-!
# Durations

## Main definitions

* `Duration`: a time span in milliseconds
* `Duration.text`: its notation in the largest unit that leaves at least one
-/

namespace VmProvisioning

/-- **A time span** in whole milliseconds. -/
structure Duration where
  milliseconds : Nat
deriving DecidableEq, Repr

namespace Duration

/-- The milliseconds of a second. -/
def millisecondsPerSecond : Nat :=
  1000

/-- A number of seconds. -/
def ofSeconds (seconds : Nat) : Duration :=
  ⟨seconds * millisecondsPerSecond⟩

/-- The digits after the point of a number of milliseconds, without zeros at the end. -/
def fraction (milliseconds : Nat) : List Char :=
  let rest := milliseconds % millisecondsPerSecond
  let digits := (Nat.toDigits 10 (millisecondsPerSecond + rest)).drop 1
  (digits.reverse.dropWhile (· == '0')).reverse

/-- **The notation of a time span**, such as `30s`, `1.5s` or `250ms`. -/
def text (duration : Duration) : String :=
  let milliseconds := duration.milliseconds
  if milliseconds = 0 then "0ns"
  else if milliseconds < millisecondsPerSecond then toString milliseconds ++ "ms"
  else
    let seconds := toString (milliseconds / millisecondsPerSecond)
    match fraction milliseconds with
    | [] => seconds ++ "s"
    | digits => seconds ++ "." ++ String.ofList digits ++ "s"

end Duration

end VmProvisioning
