import UiLang.Files.Host

/-!
# Stage timings

With progress on, a stage prints `<Stage>...` when it starts and
`✓ <Stage> done (<elapsed>)` when it finishes; a stage that fails prints no
done line. An elapsed time is written as a duration in milliseconds: `0s`,
`12ms`, `1.5s`, `2m3.004s`, `1h0m0s`.
-/

namespace UiLang.Project

open Files

/-- The decimal digits of `n`, `width` of them, leading zeros kept. -/
def paddedDigits (width n : Nat) : String :=
  let s := toString n
  String.ofList (List.replicate (width - s.length) '0') ++ s

/-- Seconds with their milliseconds, trailing zeros of the fraction dropped:
`1.5s`, `2s`. -/
def secondsText (s ms : Nat) : String :=
  let frac := (paddedDigits 3 ms).toList.reverse.dropWhile (· == '0') |>.reverse
  toString s ++ (if frac.isEmpty then "" else "." ++ String.ofList frac) ++ "s"

/-- A duration of `ms` milliseconds as written in a stage line. -/
def durationText (ms : Nat) : String :=
  if ms == 0 then "0s"
  else if ms < 1000 then toString ms ++ "ms"
  else
    let s := ms / 1000
    let rest := secondsText (s % 60) (ms % 1000)
    if s < 60 then rest
    else if s < 3600 then toString (s / 60) ++ "m" ++ rest
    else toString (s / 3600) ++ "h" ++ toString (s / 60 % 60) ++ "m" ++ rest

/-- Announces a stage and returns the time it started. -/
def startStage {m : Type → Type} [Monad m] [Host m] (verbose : Bool) (stage : String) : m Nat := do
  if verbose then Host.out (stage ++ "...\n")
  Host.clock

/-- Reports a stage that started at `start` as finished. -/
def finishStage {m : Type → Type} [Monad m] [Host m] (verbose : Bool) (stage : String)
    (start : Nat) : m Unit := do
  if verbose then
    let now ← Host.clock
    Host.out ("✓ " ++ stage ++ " done (" ++ durationText (now - start) ++ ")\n")

end UiLang.Project
