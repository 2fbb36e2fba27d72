import ProxyMeter.Decimal.Compensated
import ProxyMeter.Store.Memory
import ProxyMeter.Store.Repository
import ProxyMeter.Store.Transaction

/-!
# The store in a database

A database answers queries about the rows of its table. Times are kept as text and compared as text.
Numbers of rows to give or to pass over have to fit a signed word; sums that do not fit one are
faults, while means go on in floats.
-/

namespace ProxyMeter.Store

open Calendar Traffic

namespace Database

/-- Takes records in a transaction, on a connection that nothing troubles
(`SqliteRepository.save_batch`). -/
def save (records : List Record) (d : Database) : Except Fault Database :=
  ((Connection.saveBatch {} records).outcome { committed := d }).map Connection.committed

/-- Takes one record, on a connection that nothing troubles (`SqliteRepository.save_one`). -/
def saveOne (r : Record) (d : Database) : Except Fault Database :=
  ((Connection.saveOne none r).outcome { committed := d }).map Connection.committed

/-- The rows of the table. -/
def rows (d : Database) : Except Fault (List Row) :=
  match d.table with
  | none => .error .noTableToRead
  | some t => .ok t.rows

/-- The sum of words as a float, if some partial sum does not fit a word: exact up to there, and
compensated from there on. -/
def overflowingSum : Int → List Int → Option Float
  | _, [] => none
  | sum, x :: rest =>
    if leastWord ≤ sum + x ∧ sum + x ≤ greatestWord then overflowingSum (sum + x) rest
    else some (rest.foldl Decimal.Compensated.addWord
      ((Decimal.Compensated.ofWord sum).addWord x)).total

/-- The mean of words, zero if there are none (`AVG` in the queries). -/
def average (xs : List Int) : Float :=
  match sumWithin? xs, overflowingSum 0 xs with
  | some sum, _ => mean sum xs.length
  | none, some sum => sum / Float.ofNat xs.length
  | none, none => 0

/-- The summary of rows, unless a sum of bytes does not fit (`SqliteRepository.traffic_stats`). -/
def summarise (rows : List Row) : Except Fault Summary :=
  match sumWithin? (bytesIn rows), sumWithin? (bytesOut rows) with
  | some into, some out => .ok ⟨rows.length, into, out, average (latencies rows)⟩
  | _, _ => .error .sumOutOfRange

/-- Whether a number of rows fits a signed word. -/
def isWord (n : Nat) : Bool := n ≤ greatestWord

/-- The largest groups (`SqliteRepository.top_domains` and `top_source_ips`). Where none are wanted,
none are looked at. -/
def top (g : Grouping) (limit : Nat) (d : Database) : Except Fault (List Ranked) := do
  if !isWord limit then throw .brokenOff
  let rows ← d.rows
  if limit = 0 then return []
  let groups ← (grouped g.key (g.members rows)).mapM fun (key, rows) =>
    (summarise rows).map (Ranked.mk key)
  return (ranked groups).take limit

/-- The rows in a range in the order of their times, those of one time in the order of their
numbers. -/
def within (range : TimeRange) (rows : List Row) : List Row :=
  let timed := rows.map fun r => (r.record.event.timestamp.stored, r)
  let first := range.start.stored
  let last := range.stop.stored
  let inside := timed.filter fun e => decide (first ≤ e.1) && decide (e.1 ≤ last)
  (inside.mergeSort fun a b => decide (a.1 ≤ b.1)).map (·.2)

/-- Some of the rows in a range, the latest first, of one time those with the greatest number
(`SqliteRepository.traffic_by_time_range`). -/
def page (range : TimeRange) (limit offset : Nat) (d : Database) : Except Fault (List Row) := do
  if !isWord limit || !isWord offset then throw .brokenOff
  let rows ← d.rows
  return ((within range rows).reverse.drop offset).take limit

instance : Repository Database where
  saveOne := saveOne
  save := save
  top := top
  summary range d := d.rows >>= fun rows => summarise (within range rows)
  page := page

end Database

end ProxyMeter.Store
