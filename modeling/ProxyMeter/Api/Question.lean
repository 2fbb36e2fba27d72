import ProxyMeter.Api.Query
import ProxyMeter.Api.TimeRange
import ProxyMeter.Store.Repository

/-!
# Questions to the store

What can be asked of the store, and how it is asked. A limit that is not given has a default, and
any limit is brought between one and one thousand.
-/

namespace ProxyMeter.Api

open Calendar Store Traffic

/-- Why a question has no answer. -/
inductive QuestionFault where
  | range (fault : RangeFault)
  | store (fault : Store.Fault)
  deriving DecidableEq, Repr

/-- The words for a question without an answer. -/
def QuestionFault.message : QuestionFault → String
  | .range fault => fault.message
  | .store fault => "Database error: " ++ fault.message

/-- The greatest limit (`MAX_LIMIT`). -/
def greatestLimit : Nat := 1000

/-- A limit between one and the greatest one (`clamp_limit`). -/
def clampedLimit (limit : Option Nat) (default : Nat) : Nat :=
  min greatestLimit (max 1 (limit.getD default))

/-- How many groups are listed by default (`DEFAULT_TOP_LIMIT`). -/
def defaultTop : Nat := 10

/-- How many rows are listed by default (`DEFAULT_PAGE_LIMIT`). -/
def defaultPage : Nat := 100

/-- Some rows, and where they stand in the list of all (`TrafficPage`). -/
structure Page where
  rows : List Row
  limit : Nat
  offset : Nat

/-- A page in JSON. -/
def Page.toJson (p : Page) : Json.Value :=
  .record [("logs", .array (p.rows.map Row.toJson)), ("limit", .nat p.limit),
    ("offset", .nat p.offset)]

/-- What a repository says. -/
def ofStore {α : Type} : Except Store.Fault α → Except QuestionFault α
  | .ok a => .ok a
  | .error fault => .error (.store fault)

/-- The range that is asked for, or the fault of `resolve_range`. -/
def rangeOf (q : Query) (now : Instant) : Except QuestionFault TimeRange :=
  match resolveRange q.start q.stop now with
  | .ok range => .ok range
  | .error fault => .error (.range fault)

variable {σ : Type} [Repository σ]

/-- The largest groups (`top_domains` and `top_source_ips` of the interface). -/
def top (g : Grouping) (q : Query) (store : σ) : Except QuestionFault (List Ranked) :=
  ofStore (Repository.top g (clampedLimit q.limit defaultTop) store)

/-- The summary of a range (`traffic_stats` of the interface). -/
def summary (q : Query) (now : Instant) (store : σ) : Except QuestionFault Summary := do
  let range ← rangeOf q now
  ofStore (Repository.summary range store)

/-- Some rows of a range (`traffic_logs`). -/
def page (q : Query) (now : Instant) (store : σ) : Except QuestionFault Page := do
  let range ← rangeOf q now
  let limit := clampedLimit q.limit defaultPage
  let offset := q.offset.getD 0
  let rows ← ofStore (Repository.page range limit offset store)
  return { rows, limit, offset }

end ProxyMeter.Api
