import Mathlib.Algebra.Order.Field.Rat
import Mathlib.Tactic.NormNum
import Wethands.Utils.Timestamp

/-!
# Seconds, days and local time

The calendar of the C library is a parameter: what `localtime_r` and `mktime`
make of a number of seconds.
-/

namespace Wethands
namespace Utils

/--
`Midnight` is `mktime` of the local time with its hour, minute and second set to
zero, and `Format` prints the local time down to the second.
-/
structure LocalTime where
  Midnight : Int -> Int
  Format : Int -> String

namespace Timestamp

def SecondsSinceEpoch (timestamp : Timestamp) : Int :=
  timestamp.tdiv kMicrosecondsPerSecond

def RoundByDay (zone : LocalTime) (timestamp : Timestamp) : Timestamp :=
  kMicrosecondsPerSecond * zone.Midnight (SecondsSinceEpoch timestamp)

def ToFormattedString (zone : LocalTime) (timestamp : Timestamp) : String :=
  zone.Format (SecondsSinceEpoch timestamp)

end Timestamp

def Utc : LocalTime where
  Midnight := fun seconds => seconds - seconds % 86400
  Format := fun seconds => toString seconds

/--
The code computes in `double`, whose rounding is monotone and exact for whole
numbers of seconds, and only compares the result with such numbers.
-/
def SecondsDifference (high low : Timestamp) : Rat :=
  ((high - low : Int) : Rat) / (Timestamp.kMicrosecondsPerSecond : Rat)

theorem secondsDifference_lt {high low : Timestamp} (n : Int) :
    SecondsDifference high low < n <->
      high - low < n * Timestamp.kMicrosecondsPerSecond := by
  rw [SecondsDifference,
    div_lt_iff₀ (by norm_num [Timestamp.kMicrosecondsPerSecond])]
  exact_mod_cast Iff.rfl

theorem secondsDifference_lt_one {high low : Timestamp} :
    SecondsDifference high low < 1 <->
      high < low + Timestamp.kMicrosecondsPerSecond := by
  have h := @secondsDifference_lt high low 1
  rw [Int.cast_one, one_mul] at h
  rw [h]
  exact sub_lt_iff_lt_add'

theorem secondsSinceEpoch_lt {low high : Timestamp} (hlow : 0 ≤ low)
    (h : low + Timestamp.kMicrosecondsPerSecond ≤ high) :
    Timestamp.SecondsSinceEpoch low < Timestamp.SecondsSinceEpoch high := by
  simp only [Timestamp.SecondsSinceEpoch, Timestamp.kMicrosecondsPerSecond]
    at h ⊢
  rw [Int.tdiv_eq_ediv_of_nonneg hlow,
    Int.tdiv_eq_ediv_of_nonneg (by lia)]
  lia

end Utils
end Wethands
