import ProxyMeter.Api.Site
import ProxyMeter.Proofs.Api.Paging
import ProxyMeter.Proofs.Store.Unbroken

/-!
# Every question is answered

A request is broken off only if the store breaks off a query. Limits are brought into a small range
first, but offsets are passed on as they are. So as long as totals fit a signed word and offsets do,
each request gets its answer, or the words for what went wrong.
-/

namespace ProxyMeter.Api

open Calendar Json Store

/-- The response of a record in JSON with these members. -/
def okResponse (members : List (String × Value)) : Response :=
  .content 200 "application/json" (Value.record members).render

/-- The response to a question is an envelope: of the data of its answer, or of the words for its
fault and no data. -/
def Enveloped {α : Type} (toJson : α → Value) (said : Except QuestionFault α)
    (response : Option Response) : Prop :=
  match said with
  | .ok answer => response = some (okResponse
      [("success", .boolean true), ("data", toJson answer), ("message", .text "Success")])
  | .error fault => response = some (okResponse
      [("success", .boolean false), ("data", .null), ("message", .text fault.message)])

/-- What a site says to the questions of a query, with offsets that are taken. -/
structure Answered {σ : Type} [Repository σ] (site : Site σ) (q : Query) (now : Instant)
    (taken : Nat → Prop) : Prop where
  top : ∀ g, Enveloped (.array <| ·.map fun r => .record (Ranked.members g r))
    (top g q site.store) (site.ask (.top g) q now).response
  summary : Enveloped (fun s => .record (Summary.members "total_connections" s))
    (summary q now site.store) (site.ask .summary q now).response
  page : taken (q.offset.getD 0) →
    Enveloped Page.toJson (page q now site.store) (site.ask .page q now).response

/-- A question that is not broken off gets an envelope. -/
theorem enveloped_outcome {α : Type} (e : Endpoint) (toJson : α → Value)
    {said : Except QuestionFault α} (h : said ≠ .error (.store .brokenOff)) :
    Enveloped toJson said (e.outcome toJson said).response := by
  cases said with
  | ok answer => rfl
  | error fault =>
    cases fault with
    | range fault => rfl
    | store fault =>
      cases fault with
      | brokenOff => exact absurd rfl h
      | _ => rfl

theorem ofStore_ne_brokenOff {α : Type} {said : Except Store.Fault α}
    (h : said ≠ .error .brokenOff) : ofStore said ≠ .error (.store .brokenOff) := by
  cases said with
  | ok a => exact ok_ne_error _ _
  | error fault =>
    intro same
    cases same
    exact h rfl

theorem rangeOf_ne_brokenOff (q : Query) (now : Instant) :
    rangeOf q now ≠ .error (.store .brokenOff) := by
  rw [rangeOf]
  split <;> simp

/-- A store that breaks off no query has a site that breaks off no question. -/
theorem answered_of_unbroken {σ : Type} [Repository σ] {site : Site σ} {taken : Nat → Prop}
    (h : Unbroken site.store taken) (q : Query) (now : Instant) : Answered site q now taken where
  top g := enveloped_outcome _ _ (ofStore_ne_brokenOff (h.top g _ (clampedLimit_bounds _ _).2))
  summary := enveloped_outcome _ _ <| bind_ne_error (rangeOf_ne_brokenOff q now) fun range =>
    ofStore_ne_brokenOff (h.summary range)
  page offset := enveloped_outcome _ _ <| bind_ne_error (rangeOf_ne_brokenOff q now) fun range =>
    bind_ne_error (ofStore_ne_brokenOff (h.page range _ _ (clampedLimit_bounds _ _).2 offset))
      fun _ => ok_ne_error _ _

theorem Enveloped.ne_none {α : Type} {toJson : α → Value} {said : Except QuestionFault α}
    {response : Option Response} (h : Enveloped toJson said response) : response ≠ none := by
  intro none
  cases said with
  | ok answer => cases h.symm.trans none
  | error fault => cases h.symm.trans none

/-- With a database, a request is broken off if it has a range and an offset that no signed word
is. -/
theorem response_eq_none_iff (d : Database) (metrics : Option Metrics) (q : Query)
    (now : Instant) : ((⟨d, metrics⟩ : Site Database).ask .page q now).response = none ↔
      2 ^ 63 ≤ q.offset.getD 0 ∧ ∃ range, rangeOf q now = .ok range := by
  constructor
  · intro none
    refine ⟨?_, ?_⟩
    · by_contra small
      have answered : Answered (⟨d, metrics⟩ : Site Database) q now (· < 2 ^ 63) :=
        answered_of_unbroken (Database.unbroken d) q now
      exact (answered.page (by omega)).ne_none none
    · cases asked : rangeOf q now with
      | ok range => exact ⟨range, rfl⟩
      | error fault =>
        have said : page q now d = .error fault := by
          rw [page, asked]
          rfl
        have other : page q now d ≠ .error (.store .brokenOff) := by
          intro same
          cases said.symm.trans same
          exact rangeOf_ne_brokenOff q now asked
        exact absurd none (enveloped_outcome .page Page.toJson other).ne_none
  · rintro ⟨large, range, asked⟩
    have said : page q now d = .error (.store .brokenOff) := by
      rw [page, asked]
      show (ofStore (Repository.page range _ (q.offset.getD 0) d)).bind _ = _
      rw [Database.page_brokenOff d range _ large]
      rfl
    rw [Site.ask, said]
    rfl

/-- No question crashes a site. Each request gets an envelope with what the question came to, from
the store in memory if totals fit a signed word, from a database whatever it holds if an offset fits
one; a greater offset is broken off there. The day before the end of a range is one that the
calendar has. -/
theorem questions_answered (q : Query) (now : Instant) :
    (∀ (m : Memory) (metrics : Option Metrics), TotalsFit m.rows →
      Answered ⟨m, metrics⟩ q now fun _ => True) ∧
    (∀ (d : Database) (metrics : Option Metrics), Answered ⟨d, metrics⟩ q now (· < 2 ^ 63) ∧
      (((⟨d, metrics⟩ : Site Database).ask .page q now).response = none ↔
        2 ^ 63 ≤ q.offset.getD 0 ∧ ∃ range, rangeOf q now = .ok range)) ∧
    (IsPresent now → ∀ last, endOf q.stop now = .ok last →
      Rfc3339.isReachable (last.shift (-Instant.day)).year = true) := by
  refine ⟨fun m metrics fit => ?_, fun d metrics => ⟨?_, ?_⟩, fun present last ended => ?_⟩
  · exact answered_of_unbroken (Memory.unbroken fit) q now
  · exact answered_of_unbroken (Database.unbroken d) q now
  · exact response_eq_none_iff d metrics q now
  · exact isReachable_shift_neg_day present ended

theorem questions_answered_march :
    let now : Instant := ⟨1740830400, 0⟩
    let q : Query := { stop := some "noon", offset := some (2 ^ 63 - 1) }
    let refused := okResponse [("success", .boolean false), ("data", .null),
      ("message", .text "参数 end 不是合法的 RFC 3339 时间: premature end of input")]
    ((⟨{ rows := marchRows }, none⟩ : Site Memory).ask .summary q now).response = some refused ∧
      ((⟨Database.migrateUp {}, none⟩ : Site Database).ask .page q now).response = some refused ∧
      Rfc3339.isReachable (Instant.shift now (-Instant.day)).year = true := by
  have present : IsPresent ⟨1740830400, 0⟩ := ⟨by decide, by decide, by decide⟩
  have fit : TotalsFit marchRows := .of_addable (by decide)
  have asked : rangeOf { stop := some "noon", offset := some (2 ^ 63 - 1) } ⟨1740830400, 0⟩ =
    .error (.range (.notATime "end" .tooShort)) := by decide +kernel
  obtain ⟨memory, database, -⟩ :=
    questions_answered { stop := some "noon", offset := some (2 ^ 63 - 1) } ⟨1740830400, 0⟩
  obtain ⟨-, -, day⟩ := questions_answered {} ⟨1740830400, 0⟩
  have summary := (memory { rows := marchRows } none fit).summary
  have page := (database (Database.migrateUp {}) none).1.page (by decide)
  rw [Api.summary, asked] at summary
  rw [Api.page, asked] at page
  exact ⟨summary, page, day present _ rfl⟩

/-- A request for a page that no row comes to is broken off by a database, empty as it is. -/
theorem ask_unsignedOffset : 2 ^ 63 ≤ Query.greatest ∧
    ((⟨Database.migrateUp {}, none⟩ : Site Database).ask .page { offset := some (2 ^ 63) }
      ⟨1740830400, 0⟩).response = none := by
  decide +kernel

end ProxyMeter.Api
