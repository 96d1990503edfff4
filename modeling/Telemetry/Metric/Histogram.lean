/-
Histograms.

A histogram keeps the sum and the number of its observations, and counts each of them
in the first bucket, in the order in which the bounds were given, whose bound is at
least the observed value.  Behind the given bounds there is one more, the largest
finite number.  What belongs in no bucket, such as a value that is not a number,
still counts as an observation.
-/
namespace Telemetry

/-- How many observations fell between a bound and the bounds before it. -/
structure Bucket where
  bound : Float
  count : Nat
deriving DecidableEq

/-- What is kept of a series of observations. -/
structure Histogram where
  sum : Float
  count : Nat
  buckets : List Bucket
deriving DecidableEq

namespace Bucket

/-- The bound behind all given bounds: the largest finite number. -/
def lastBound : Float := Float.ofBits 0x7FEFFFFFFFFFFFFF

/-- Counts a value in the first bucket that has room for it. -/
def fill (value : Float) : List Bucket → List Bucket
  | [] => []
  | bucket :: rest =>
    if value ≤ bucket.bound then { bucket with count := bucket.count + 1 } :: rest
    else bucket :: fill value rest

/-- For each bucket its bound, and the count of it and the buckets before it on top
of `below`. -/
def cumulativeFrom (below : Nat) : List Bucket → List (Float × Nat)
  | [] => []
  | bucket :: rest =>
    (bucket.bound, below + bucket.count) :: cumulativeFrom (below + bucket.count) rest

end Bucket

namespace Histogram

/-- The histogram of no observation with these bounds. -/
def new (bounds : List Float) : Histogram where
  sum := 0
  count := 0
  buckets := (bounds ++ [Bucket.lastBound]).map fun bound => ⟨bound, 0⟩

/-- The histogram with one more observation. -/
def observe (histogram : Histogram) (value : Float) : Histogram where
  sum := histogram.sum + value
  count := histogram.count + 1
  buckets := Bucket.fill value histogram.buckets

/-- The bounds of the buckets, each with the number of observations counted up to it. -/
def cumulative (histogram : Histogram) : List (Float × Nat) :=
  Bucket.cumulativeFrom 0 histogram.buckets

end Histogram

end Telemetry
