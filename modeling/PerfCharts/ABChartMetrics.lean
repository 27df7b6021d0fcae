import Mathlib.Data.Rat.Defs
import PerfCharts.ABChartArgs

/-! The result documents `main` loads, `extract_metric`, and the bar heights of the three
charts, as `main` computes them from the two documents. -/
namespace PerfCharts.ABChart

/-- A value `json.load` returns: `None`, a `bool`, a number (an `int`, or a finite `float` by
its exact value), a `str`, a `list`, or a `dict` given by its items. The `NaN` and `Infinity`
that `json.load` also accepts are left out. -/
inductive PyValue where
  | none
  | bool (b : Bool)
  | num (x : ℚ)
  | str (s : String)
  | list (xs : List PyValue)
  | dict (items : List (String × PyValue))

/-- The value of `key` in a `dict`: the last binding wins, as `json.load` keeps the last of
duplicate keys. -/
def lookup (items : List (String × PyValue)) (key : String) : Option PyValue :=
  items.reverse.lookup key

/-- `d.get(key, default)`: only a `dict` has `.get`, anything else raises `AttributeError`. -/
def get (d : PyValue) (key : String) (default : PyValue) : Except PyError PyValue :=
  match d with
  | .dict items => .ok ((lookup items key).getD default)
  | _ => .error .attributeError

/-- `extract_metric(data, metric_name, stat)`. -/
def extractMetric (data : PyValue) (metricName stat : String) : Except PyError PyValue := do
  let metrics ← get data "metrics" (.dict [])
  let metric ← get metrics metricName (.dict [])
  let values ← get metric "values" (.dict [])
  get values stat .none

/-- Python's truth value. -/
def PyValue.truthy : PyValue → Bool
  | .none => false
  | .bool b => b
  | .num x => x != 0
  | .str s => s != ""
  | .list xs => !xs.isEmpty
  | .dict items => !items.isEmpty

def PyValue.isNone : PyValue → Bool
  | .none => true
  | _ => false

/-- A bar height whose drawing the model follows: a number that rounds to a finite float.
What matplotlib does with anything else (`None`, a `bool`, a `str`, a `list`, a `dict`, or a
number too large for a float) is left out. -/
def PyValue.isBarHeight : PyValue → Bool
  | .num x => decide (-(2 ^ 1024 - 2 ^ 970) < x ∧ x < 2 ^ 1024 - 2 ^ 970)
  | _ => false

/-- `v or 0`. -/
def orZero (v : PyValue) : PyValue := if v.truthy then v else .num 0

/-- `v * 100`: a number or `bool` multiplies, a `str` or `list` repeats, and `None` or a
`dict` raises `TypeError`. The product is exact, where Python rounds a `float` product to a
double. -/
def times100 : PyValue → Except PyError PyValue
  | .num x => .ok (.num (x * 100))
  | .bool b => .ok (.num (if b then 100 else 0))
  | .str s => .ok (.str (String.join (List.replicate 100 s)))
  | .list xs => .ok (.list (List.replicate 100 xs).flatten)
  | .none | .dict _ => .error .typeError

/-- The `metrics` list of chart 1: metric key and display name. -/
def latencyMetrics : List (String × String) :=
  [("http_req_duration", "HTTP Overall"), ("order_create_duration", "Order Create"),
    ("stock_reserve_duration", "Stock Reserve"), ("customer_create_duration", "Customer Create")]

/-- One entry of `labels`, `vals_a` and `vals_b` in chart 1. -/
structure Row where
  label : String
  a : PyValue
  b : PyValue

/-- The loop of chart 1: a row for each metric with a p95 on either side, a missing side
drawn as `0`. -/
def latencyRows (dataA dataB : PyValue) : List (String × String) → Except PyError (List Row)
  | [] => .ok []
  | (key, name) :: ms => do
    let p95A ← extractMetric dataA key "p(95)"
    let p95B ← extractMetric dataB key "p(95)"
    let rows ← latencyRows dataA dataB ms
    if !p95A.isNone || !p95B.isNone then pure (⟨name, orZero p95A, orZero p95B⟩ :: rows)
    else pure rows

/-- The bars of chart 2: `[iter_rate_a, iter_rate_b]` and `[http_rate_a, http_rate_b]`. -/
def throughputRates (dataA dataB : PyValue) : Except PyError (List PyValue × List PyValue) := do
  let iterA ← extractMetric dataA "iterations" "rate"
  let iterB ← extractMetric dataB "iterations" "rate"
  let httpA ← extractMetric dataA "http_reqs" "rate"
  let httpB ← extractMetric dataB "http_reqs" "rate"
  pure ([orZero iterA, orZero iterB], [orZero httpA, orZero httpB])

/-- `(extract_metric(data, metric, "rate") or 0) * 100`. -/
def ratePercent (data : PyValue) (metric : String) : Except PyError PyValue := do
  let r ← extractMetric data metric "rate"
  times100 (orZero r)

/-- The bars of chart 3: `err_a = [http_fail_a, mixed_err_a]` and
`err_b = [http_fail_b, mixed_err_b]`. -/
def errorRates (dataA dataB : PyValue) : Except PyError (List PyValue × List PyValue) := do
  let failA ← ratePercent dataA "http_req_failed"
  let failB ← ratePercent dataB "http_req_failed"
  let mixedA ← ratePercent dataA "mixed_workload_errors"
  let mixedB ← ratePercent dataB "mixed_workload_errors"
  pure ([failA, mixedA], [failB, mixedB])

def PyValue.isDict : PyValue → Bool
  | .dict _ => true
  | _ => false

/-- The value of `key` in a `dict`, and nothing for any other value. -/
def PyValue.field : PyValue → String → Option PyValue
  | .dict items, key => lookup items key
  | _, _ => Option.none

/-- `data["metrics"][m]`, when both keys are there. -/
def metricOf (data : PyValue) (m : String) : Option PyValue :=
  (data.field "metrics").bind (·.field m)

/-- `data["metrics"][m]["values"]`, when every key on the way is there. -/
def valuesOf (data : PyValue) (m : String) : Option PyValue :=
  (metricOf data m).bind (·.field "values")

/-- The statistic `stat` of metric `m`, when every key on the way is there. -/
def statValue (data : PyValue) (m stat : String) : Option PyValue :=
  (valuesOf data m).bind (·.field stat)

/-- Each level on the way to the values of metric `m` is a `dict` where it is there. -/
def WellShapedAt (data : PyValue) (m : String) : Prop :=
  data.isDict ∧ (∀ v ∈ data.field "metrics", v.isDict) ∧ (∀ v ∈ metricOf data m, v.isDict) ∧
    ∀ v ∈ valuesOf data m, v.isDict

theorem get_eq (d : PyValue) (key : String) (default : PyValue) :
    get d key default =
      if d.isDict then .ok ((d.field key).getD default) else .error .attributeError := by
  cases d <;> rfl

@[simp] theorem isDict_getD_empty (o : Option PyValue) :
    (o.getD (.dict [])).isDict ↔ ∀ x ∈ o, x.isDict := by
  cases o <;> simp [PyValue.isDict]

@[simp] theorem field_getD_empty (o : Option PyValue) (k : String) :
    (o.getD (.dict [])).field k = o.bind (·.field k) := by
  cases o <;> rfl

theorem get_bind {α : Type} (d : PyValue) (key : String) (f : PyValue → Except PyError α) :
    (get d key (.dict []) >>= f) =
      if d.isDict then f ((d.field key).getD (.dict [])) else .error .attributeError := by
  cases d <;> rfl

theorem extractMetric_of_wellShapedAt {data : PyValue} {m : String} (h : WellShapedAt data m)
    (stat : String) : extractMetric data m stat = .ok ((statValue data m stat).getD .none) := by
  obtain ⟨h0, h1, h2, h3⟩ := h
  rw [← isDict_getD_empty] at h1 h2 h3
  simp only [metricOf, valuesOf] at h2 h3
  simp only [extractMetric, get_bind, field_getD_empty, h0, h1, h2, h3, if_true]
  rw [get_eq, if_pos h3, field_getD_empty]
  rfl

theorem extractMetric_of_not_wellShapedAt {data : PyValue} {m : String}
    (h : ¬WellShapedAt data m) (stat : String) :
    extractMetric data m stat = .error .attributeError := by
  simp only [WellShapedAt, ← isDict_getD_empty, metricOf, valuesOf, not_and_or,
    Bool.not_eq_true] at h
  simp only [extractMetric, get_bind, field_getD_empty]
  simp only [get_eq]
  rcases h with h | h | h | h <;> simp [h]

/-- `extract_metric` in closed form: on a document whose levels on the way are `dict`s where
present, it returns the statistic, and `None` when any key on the way is missing; a level
that is present but not a `dict` raises `AttributeError`. -/
theorem extractMetric_spec (data : PyValue) (m stat : String) :
    (WellShapedAt data m → extractMetric data m stat = .ok ((statValue data m stat).getD .none)) ∧
      (¬WellShapedAt data m → extractMetric data m stat = .error .attributeError) :=
  ⟨fun h => extractMetric_of_wellShapedAt h stat, fun h => extractMetric_of_not_wellShapedAt h stat⟩

end PerfCharts.ABChart
