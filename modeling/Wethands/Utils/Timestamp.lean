import Mathlib.Data.Int.Basic

/-!
# Timestamps

A timestamp is a number of microseconds since the epoch.
-/

namespace Wethands
namespace Utils

abbrev Timestamp : Type := Int

namespace Timestamp

def kMicrosecondsPerSecond : Int := 1000000

def kNanosecondsPerMicrosecond : Int := 1000

def Invalid : Timestamp := 0

end Timestamp

structure Timespec where
  tv_sec : Int
  tv_nsec : Int
deriving DecidableEq

/--
A `double` number of seconds.  The code tests its sign and truncates its
product with a million, and looks at nothing else.
-/
structure Seconds where
  positive : Bool
  micros : Int
  micros_nonneg : positive = true -> 0 ≤ micros

def TimeDifference (high low : Timestamp) : Timespec :=
  let msDiff := high - low
  { tv_sec := msDiff.tdiv Timestamp.kMicrosecondsPerSecond
    tv_nsec := msDiff.tmod Timestamp.kMicrosecondsPerSecond *
      Timestamp.kNanosecondsPerMicrosecond }

def AddSeconds (timestamp : Timestamp) (seconds : Seconds) : Timestamp :=
  timestamp + seconds.micros

def Timespec.Nanoseconds (ts : Timespec) : Int :=
  ts.tv_sec * 1000000000 + ts.tv_nsec

def Timespec.Valid (ts : Timespec) : Prop :=
  0 ≤ ts.tv_sec ∧ 0 ≤ ts.tv_nsec ∧ ts.tv_nsec < 1000000000

instance (ts : Timespec) : Decidable ts.Valid :=
  inferInstanceAs (Decidable (_ ∧ _ ∧ _))

theorem timeDifference_nanoseconds (high low : Timestamp) :
    (TimeDifference high low).Nanoseconds = (high - low) * 1000 := by
  have h := Int.mul_tdiv_add_tmod (high - low) 1000000
  simp only [Timespec.Nanoseconds, TimeDifference,
    Timestamp.kMicrosecondsPerSecond, Timestamp.kNanosecondsPerMicrosecond]
  omega

theorem timeDifference_valid {high low : Timestamp} (h : low ≤ high) :
    (TimeDifference high low).Valid := by
  have hnonneg : 0 ≤ high - low := by lia
  have hsec : 0 ≤ (high - low).tdiv 1000000 :=
    Int.tdiv_nonneg hnonneg (by decide)
  have hmod : 0 ≤ (high - low).tmod 1000000 := Int.tmod_nonneg _ hnonneg
  have hlt : (high - low).tmod 1000000 < 1000000 :=
    Int.tmod_lt_of_pos _ (by decide)
  simp only [Timespec.Valid, TimeDifference,
    Timestamp.kMicrosecondsPerSecond, Timestamp.kNanosecondsPerMicrosecond]
  omega

end Utils
end Wethands
