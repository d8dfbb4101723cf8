import Concord.Setting

/-!
# Samples

A sample is what one answer of a time source says. Some samples are rejected by themselves; the
samples of one source and round are judged together by their deviation (`deviation?`), which is
computed exactly and rounded once. The main statement is `deviation?_eq_none_iff`: only offsets that
are not finite have no deviation.
-/

namespace Concord

/-- The stratum from which on a source is not synchronized. -/
def invalidStratum : Int := 16

/-- The leap indicator of a source that is not synchronized. -/
def leapAlarm : Int := 3

/-- One answer of a time source. A positive offset says that the local clock is behind. -/
structure Sample where
  /-- Seconds to add to the local clock. -/
  offset : Binary64
  /-- The distance of the source from a reference clock. -/
  stratum : Int
  /-- The leap second that the source announces. -/
  leap : Int
  /-- The time that the exchange spent on the network. -/
  delay : Binary64
  /-- The delay between the source and its reference clock. -/
  rootDelay : Binary64
  /-- The dispersion between the source and its reference clock. -/
  rootDispersion : Binary64
  /-- The identifier of the source's own reference. -/
  refId : Int
  /-- The time at which the source answered. -/
  sentAt : Binary64
deriving DecidableEq

/-- Why a sample is rejected. -/
inductive Rejection where
  | kissOfDeath
  | stratum (n : Int)
  | unsynchronized
deriving DecidableEq

/-- The text of a rejection. -/
def Rejection.message : Rejection → String
  | kissOfDeath => "kiss-of-death"
  | stratum n => "stratum " ++ toString n
  | unsynchronized => "server unsynchronized"

/-- Why a sample may not be kept, if so. -/
def Sample.rejection? (s : Sample) : Option Rejection :=
  if s.stratum = 0 then some .kissOfDeath
  else if invalidStratum ≤ s.stratum then some (.stratum s.stratum)
  else if s.leap = leapAlarm then some .unsynchronized
  else none

/-! ## Deviation -/

/-- The sum of integers. -/
def total (values : List Int) : Int := values.foldl (· + ·) 0

/-- The number of values times the sum of their squares, less the square of their sum: the variance
times the square of their number. -/
def scaledVariance (values : List Int) : Int :=
  values.length * total (values.map fun x => x * x) - total values * total values

/-- The population standard deviation of numbers, the root of the exact variance rounded once. -/
def deviation? (offsets : List Binary64) : Option Binary64 :=
  (offsets.mapM Binary64.units?).map fun values =>
    .ofUnitRoot (scaledVariance values).toNat (values.length * values.length)

/-- Why the samples of one source are of no use. -/
inductive Unusable where
  | noSamples
  | spread (deviation : Binary64) (limit : Number)

/-- The text of a judgement against the samples of one source. -/
def Unusable.message : Unusable → String
  | noSamples => "no valid samples"
  | spread deviation limit =>
    "sample deviation " ++ deviation.fixed 6 ++ "s > " ++ limit.toBinary64.fixed 6 ++ "s"

/-- The judgement on a deviation. One that exceeds the limit is reported together with it, for which
the limit has to be in the range of binary64. -/
def judgeDeviation (deviation : Binary64) (limit : Number) : Except Fault (Option Unusable) :=
  if limit.lt (.real deviation) then
    if limit.isTooLarge then .error .tooLarge else .ok (some (.spread deviation limit))
  else .ok none

/-- The judgement on the samples of one source: at least one is needed, and the deviation of two or
more may not exceed the limit. -/
def judge (offsets : List Binary64) (limit : Document) : Except Fault (Option Unusable) :=
  match offsets with
  | [] => .ok (some .noSamples)
  | [_] => .ok none
  | _ =>
    match deviation? offsets with
    | none => .error .deviation
    | some deviation => (limit.limitFor ">").bind (judgeDeviation deviation)

/-- Only offsets that are not finite have no deviation. -/
theorem deviation?_eq_none_iff (offsets : List Binary64) :
    deviation? offsets = none ↔ ∃ x ∈ offsets, x.units? = none := by
  rw [deviation?, Option.map_eq_none_iff]
  induction offsets with
  | nil => simp [pure]
  | cons x rest ih =>
    cases hx : x.units? with
    | none => simp [hx]
    | some u => cases h : List.mapM Binary64.units? rest <;> simp_all

end Concord
