import Concord.Binary64.Text
import Concord.Document.Basic

/-!
# Gauges

Four numbers about the last correction are offered to a metrics collector, in its text format: two
lines that describe a gauge and one with its value. Large positive values are written with an
exponent (`Gauges.sampleText`).
-/

namespace Concord

/-- What is measured, in seconds. -/
structure Gauges where
  /-- The wait until the next round. -/
  pollInterval : Binary64 := .zero
  /-- The delay of the reference. -/
  delay : Binary64 := .zero
  /-- The offset of the reference. -/
  offset : Binary64 := .zero
  /-- The deviation of the samples of the reference's peer. -/
  dispersion : Binary64 := .zero
deriving DecidableEq

namespace Gauges

/-- The longest text in front of the point that is written without an exponent. -/
def wholeDigits : Nat := 6

/-- The digits of a number without the point in front of an exponent: a point after the first digit,
and no zeros or points at the end. -/
def mantissa (whole places : List Char) : List Char :=
  let digits := whole.take 1 ++ '.' :: whole.drop 1 ++ places
  (digits.reverse.dropWhile fun c => c = '0' || c = '.').reverse

/-- The value of a gauge. A positive one with more than `wholeDigits` digits in front of the point
is written with an exponent of at least two digits. -/
def sampleText (x : Binary64) : String :=
  match x with
  | .nan => "NaN"
  | .infinite false => "+Inf"
  | .infinite true => "-Inf"
  | .finite negative _ =>
    let chars := x.text.toList
    let whole := chars.takeWhile (· ≠ '.')
    if !negative && '.' ∈ chars && wholeDigits < whole.length then
      String.ofList (mantissa whole (chars.drop (whole.length + 1))) ++ "e+" ++
        zeroPadded 2 (whole.length - 1)
    else x.text

/-- The lines of one gauge. -/
def lines (name description : String) (value : Binary64) : String :=
  "# HELP " ++ name ++ " " ++ description ++ "\n# TYPE " ++ name ++ " gauge\n" ++
    name ++ " " ++ sampleText value ++ "\n"

/-- All gauges in the text format of the collector. -/
def exposition (g : Gauges) : String :=
  lines "ntpd_poll_interval_seconds" "Wait before the next polling round" g.pollInterval ++
    lines "ntpd_delay_seconds" "Round-trip delay to the chosen reference" g.delay ++
    lines "ntpd_offset_seconds" "Clock offset of the chosen reference" g.offset ++
    lines "ntpd_dispersion_seconds" "Dispersion of the chosen reference" g.dispersion

end Gauges

end Concord
