import FilterList.Decimal.Fixed
import FilterList.Sampling

/-!
What measuring a set of requests gave.
-/

namespace FilterList

/-- The place in a sorted list of `count` values below which the share `share` of them lies. -/
def percentileIndex (count : Nat) (share : Float) : Nat :=
  min ((Float.ofNat count * share).ceil.toUInt64.toNat - 1) (count - 1)

/-- The value at that place, or `zero` where there are no values. -/
def percentile (zero : α) (values : List α) (share : Float) : α :=
  values.getD (percentileIndex values.length share) zero

/-- Times are in milliseconds or microseconds, as the field names say. -/
structure Measurement where
  operations : Nat
  blocked : Nat
  totalMs : Float
  averageUs : Float
  p50Us : Float
  p95Us : Float
  p99Us : Float
  operationsPerSecond : Nat

namespace Measurement

/-- The measurement of `operations` decisions that took the given times, in microseconds. -/
def ofLatencies (operations blocked : Nat) (latencies : List Float) : Measurement :=
  let sorted := latencies.mergeSort (· ≤ ·)
  let total := sorted.foldl (· + ·) 0
  let count := Float.ofNat sorted.length
  { operations, blocked
    totalMs := total / 1000
    averageUs := if sorted.isEmpty then 0 else total / count
    p50Us := percentile 0 sorted 0.5
    p95Us := percentile 0 sorted 0.95
    p99Us := percentile 0 sorted 0.99
    operationsPerSecond := if total > 0 then (count / (total / 1000000)).toUInt64.toNat else 0 }

/-- Every request is decided once in each pass, with the same result. -/
def ofPasses (subscriptions : Subscriptions) (probes : List Probe) (passes : Nat)
    (latencies : List Float) : Measurement :=
  ofLatencies (passes * probes.length) (passes * subscriptions.countBlocked probes) latencies

def render (name : String) (measurement : Measurement) : String :=
  "\n".intercalate [
    name ++ ":",
    "  Operations:  " ++ toString measurement.operations ++ " (" ++
      toString measurement.blocked ++ " blocked)",
    "  Total time:  " ++ Decimal.ofFloat 2 measurement.totalMs ++ "ms",
    "  Avg latency: " ++ Decimal.ofFloat 2 measurement.averageUs ++ "μs",
    "  P50 latency: " ++ Decimal.ofFloat 2 measurement.p50Us ++ "μs",
    "  P95 latency: " ++ Decimal.ofFloat 2 measurement.p95Us ++ "μs",
    "  P99 latency: " ++ Decimal.ofFloat 2 measurement.p99Us ++ "μs",
    "  Throughput:  " ++ toString measurement.operationsPerSecond ++ " ops/sec"]

end Measurement

end FilterList
