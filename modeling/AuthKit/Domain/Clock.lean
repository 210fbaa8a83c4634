/-!
# Wall-clock time

`chrono::DateTime<Utc>` and `chrono::Duration` as the session store uses them, in
nanoseconds. Both types are bounded: `DateTime + Duration` panics when the sum leaves
the representable range.
-/
namespace AuthKit

/-- `DateTime::<Utc>::MIN_UTC`, midnight of January 1 in the year -262143. -/
def minUtc : Int := -8334601228800 * 1000000000

/-- `DateTime::<Utc>::MAX_UTC`, the last nanosecond of the year 262142. -/
def maxUtc : Int := 8210266876799 * 1000000000 + 999999999

structure DateTime where
  nanos : Int
  inRange : minUtc ≤ nanos ∧ nanos ≤ maxUtc
  deriving DecidableEq

/-- `TimeDelta::MAX`: `i64::MAX` milliseconds. `TimeDelta::MIN` is its negation. -/
def maxDelta : Int := 9223372036854775807 * 1000000

structure Duration where
  nanos : Int
  inRange : -maxDelta ≤ nanos ∧ nanos ≤ maxDelta
  deriving DecidableEq

/-- `Duration::minutes`. -/
def Duration.minutes (count : Int)
    (inRange : -maxDelta ≤ count * 60000000000 ∧ count * 60000000000 ≤ maxDelta := by decide) :
    Duration := ⟨count * 60000000000, inRange⟩

namespace DateTime

instance : LT DateTime := ⟨fun a b => a.nanos < b.nanos⟩

instance (a b : DateTime) : Decidable (a < b) := inferInstanceAs (Decidable (a.nanos < b.nanos))

instance : LE DateTime := ⟨fun a b => a.nanos ≤ b.nanos⟩

instance (a b : DateTime) : Decidable (a ≤ b) := inferInstanceAs (Decidable (a.nanos ≤ b.nanos))

theorem lt_of_le_of_lt {a b c : DateTime} (le : a ≤ b) (lt : b < c) : a < c :=
  Int.lt_of_le_of_lt le lt

/-- A reading the given number of seconds after the epoch. -/
def ofSeconds (count : Int)
    (inRange : minUtc ≤ count * 1000000000 ∧ count * 1000000000 ≤ maxUtc := by decide) :
    DateTime := ⟨count * 1000000000, inRange⟩

/-- `DateTime::checked_add_signed`; the operator `+` panics where this is `none`. -/
def checkedAdd (t : DateTime) (d : Duration) : Option DateTime :=
  if inRange : minUtc ≤ t.nanos + d.nanos ∧ t.nanos + d.nanos ≤ maxUtc then
    some ⟨t.nanos + d.nanos, inRange⟩
  else none

end DateTime

end AuthKit
