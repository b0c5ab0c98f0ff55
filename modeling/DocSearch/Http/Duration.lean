/-!
# Durations

Lengths of time in whole nanoseconds.
-/
namespace DocSearch

structure Duration where
  nanos : Nat
  deriving DecidableEq, Repr, Inhabited

namespace Duration

/-- The nanoseconds of a second. -/
def perSecond : Nat := 1000000000

/-- The nanoseconds of a millisecond. -/
def perMilli : Nat := 1000000

def ofSeconds (n : Nat) : Duration := ⟨n * perSecond⟩

def ofMillis (n : Nat) : Duration := ⟨n * perMilli⟩

/-- The whole seconds. -/
def seconds (d : Duration) : Nat := d.nanos / perSecond

/-- The nanoseconds beyond the whole seconds. -/
def subsecond (d : Duration) : Nat := d.nanos % perSecond

end Duration
end DocSearch
