import ProxyMeter.Api.Site
import ProxyMeter.Proofs.Api.TimeRange
import ProxyMeter.Proofs.Calendar.Strict
import ProxyMeter.Proofs.Chains
import ProxyMeter.Proofs.Json.RoundTrip
import ProxyMeter.Proofs.Store.Agreement
import ProxyMeter.Traffic.RecordReader

/-!
# Instants that come back as questions

The time of a row goes into the text of an answer, and the text may be asked for as both ends of a
range. It is then read as the very instant, so that either store gives the rows of this instant and
no others. How an instant is spelled in a question makes no difference.
-/

namespace ProxyMeter.Api

open Calendar Json Store Traffic

/-! ### Times that are printed -/

/-- The numbers of the rows that an answer lists, and the texts of their times. -/
def printed? (body : String) : Option (List (Value × String)) := do
  let answer ← Json.parse? body
  match ← (← answer.member? "data").member? "logs" with
  | .array items => items.mapM fun item => do
    return (← item.member? "id", ← text? (← item.member? "timestamp"))
  | _ => none

theorem isPlain_toJson (p : Page) : (successEnvelope p.toJson).isPlain = true := by
  have rows : itemsPlain (p.rows.map Row.toJson) = true := by
    rw [itemsPlain_iff]
    intro v member
    obtain ⟨r, -, rfl⟩ := List.mem_map.mp member
    rfl
  simp [successEnvelope, Page.toJson, Value.record, Value.text, Value.nat, Value.int,
    Value.isPlain, membersPlain, rows]

/-- An answer prints the times of the rows that it lists. -/
theorem printed?_answer (p : Page) : printed? (jsonResponse (successEnvelope p.toJson)).body =
    some (p.rows.map fun r => (.nat r.id, (timeOf r).render)) := by
  show printed? (successEnvelope p.toJson).render = _
  rw [printed?, parse?_render (isPlain_toJson p)]
  show (p.rows.map Row.toJson).mapM _ = _
  rw [List.mapM_map]
  exact mapM_eq_some fun r _ => rfl

/-- A question that has an answer is answered with the text of it. -/
theorem ask_page_response {σ : Type} [Repository σ] {site : Site σ} {q : Query} {now : Instant}
    {p : Page} (h : page q now site.store = .ok p) : (site.ask .page q now).response =
      some (jsonResponse (successEnvelope p.toJson)) := by
  rw [Site.ask, h]
  rfl

/-! ### Texts that are asked for -/

section

variable {s s' : Rfc3339.Spelling} {t : Instant}

theorem readTime_text (valid : s.IsValid) (parameter : String) :
    readTime parameter s.text = .ok s.parts.instant := by
  rw [readTime, Rfc3339.parse_text valid]

/-- Spellings of one instant ask for one range. -/
theorem resolveRange_text (valid : s.IsValid) (valid' : s'.IsValid)
    (same : s.parts.instant = s'.parts.instant) (other : Option String) (now : Instant) :
    resolveRange (some s.text) other now = resolveRange (some s'.text) other now ∧
      resolveRange other (some s.text) now = resolveRange other (some s'.text) now := by
  simp only [resolveRange_eq, startOf, endOf, readTime_text valid, readTime_text valid', same,
    and_self]

/-- The text of an instant asks for the range of this instant. -/
theorem resolveRange_render (clock : t.OnClock) (four : t.HasFourDigits) (now : Instant) :
    resolveRange (some t.render) (some t.render) now = .ok ⟨t, t⟩ := by
  have read (parameter : String) : readTime parameter t.render = .ok t := by
    rw [readTime, Rfc3339.parse_render clock four]
  rw [resolveRange_eq]
  show (readTime "end" t.render >>= fun last => readTime "start" t.render >>= _) = _
  rw [read, read]
  exact if_pos (Instant.le_refl t)

end

/-! ### Rows of one instant -/

/-- The rows of an instant. -/
def rowsAt (t : Instant) (rows : List Row) : List Row := rows.filter fun r => timeOf r = t

theorem rowsIn_eq_rowsAt (t : Instant) (rows : List Row) : rowsIn ⟨t, t⟩ rows = rowsAt t rows := by
  apply List.filter_congr
  intro r _
  rw [Bool.eq_iff_iff, TimeRange.holds_iff, decide_eq_true_eq]
  exact ⟨fun h => Instant.le_antisymm h.2 h.1, fun same => by simp [same, Instant.le_refl]⟩

/-- A page with room for all rows of an instant has them all. -/
theorem perm_take_of_lists {t : Instant} {rows listing : List Row} {tie : Row → Row → Prop}
    (lists : Lists ⟨t, t⟩ rows tie listing) {limit : Nat} (room : (rowsAt t rows).length ≤ limit) :
    ((listing.drop 0).take limit).Perm (rowsAt t rows) := by
  have perm := lists.perm
  rw [rowsIn_eq_rowsAt] at perm
  rw [List.drop_zero, List.take_of_length_le (perm.length_eq.trans_le room)]
  exact perm

/-- What becomes of the time of a stored row: answers print the texts of the times that they list,
this text asks for the instant, and the store gives the rows of the instant, with limits that are
taken. -/
structure Returns {σ : Type} [Repository σ] (store : σ) (rows : List Row) (taken : Nat → Prop)
    (row : Row) : Prop where
  printed : ∀ (site : Site σ) (q : Query) (now : Instant) (p : Page), site.store = store →
    page q now store = .ok p → ∃ response, (site.ask .page q now).response = some response ∧
      printed? response.body = some (p.rows.map fun r => (.nat r.id, (timeOf r).render))
  asked : ∀ now, resolveRange (some (timeOf row).render) (some (timeOf row).render) now =
    .ok ⟨timeOf row, timeOf row⟩
  found : ∀ limit, (rowsAt (timeOf row) rows).length ≤ limit → taken limit → ∃ given,
    Repository.page ⟨timeOf row, timeOf row⟩ limit 0 store = .ok given ∧ row ∈ given ∧
      given.Perm (rowsAt (timeOf row) rows)

/-- A row returns if the store has room for the rows of its instant. -/
theorem returns_of_page {σ : Type} [Repository σ] {store : σ} {rows : List Row}
    {taken : Nat → Prop} {row : Row} (member : row ∈ rows) (clock : (timeOf row).OnClock)
    (four : (timeOf row).HasFourDigits)
    (found : ∀ limit, (rowsAt (timeOf row) rows).length ≤ limit → taken limit → ∃ given,
      Repository.page ⟨timeOf row, timeOf row⟩ limit 0 store = .ok given ∧
        given.Perm (rowsAt (timeOf row) rows)) : Returns store rows taken row where
  printed site q now p same answer :=
    ⟨_, ask_page_response (same ▸ answer), printed?_answer p⟩
  asked := resolveRange_render clock four
  found limit room fits := by
    obtain ⟨given, page, perm⟩ := found limit room fits
    have there : row ∈ rowsAt (timeOf row) rows :=
      List.mem_filter.mpr ⟨member, decide_eq_true rfl⟩
    exact ⟨given, page, perm.symm.subset there, perm⟩

/-- The time of a row that is stored in either store comes back: its text in an answer asks for the
instant of the row, and the store gives the rows of this instant. A range that is asked for does not
run backwards, and its ends may be spelled at any offset and with any zeros after their digits. -/
theorem times_return :
    (∀ (m : Memory), ∀ row ∈ m.rows, (timeOf row).OnClock → (timeOf row).HasFourDigits →
      Returns m m.rows (fun _ => True) row) ∧
    (∀ (d : Database) (t : Table), d.table = some t → (∀ r ∈ t.rows, (timeOf r).OnClock) →
      ∀ row ∈ t.rows, (timeOf row).HasFourDigits → Returns d t.rows (· < 2 ^ 63) row) ∧
    (∀ start stop now range, resolveRange start stop now = .ok range → range.start ≤ range.stop) ∧
    ∀ s s' : Rfc3339.Spelling, s.IsValid → s'.IsValid → s.parts.instant = s'.parts.instant →
      ∀ other now, resolveRange (some s.text) other now = resolveRange (some s'.text) other now ∧
        resolveRange other (some s.text) now = resolveRange other (some s'.text) now := by
  have anyOrder (rows : List Row) : rows.Pairwise fun _ _ => True :=
    List.pairwise_of_forall fun _ _ => trivial
  refine ⟨fun m row member clock four => ?_, fun d t table clocks row member four => ?_,
    fun start stop now range asked => (resolveRange_cases asked).2.2,
    fun s s' valid valid' same => resolveRange_text valid valid' same⟩
  · refine returns_of_page member clock four fun limit room _ => ⟨_, Memory.page_eq m limit 0, ?_⟩
    exact perm_take_of_lists (m.lists (anyOrder m.rows)) room
  · have clock := clocks row member
    refine returns_of_page member clock four fun limit room fits =>
      ⟨_, Database.page_eq table fits (by decide), ?_⟩
    exact perm_take_of_lists
      (Database.lists ⟨clock, clock, four, four⟩ clocks (anyOrder t.rows)) room

/-- The record in a leap second comes back from both stores, also when it is asked for in the local
time of Kathmandu and with two zeros more. -/
theorem times_return_leapSecond :
    let t : Instant := ⟨1483228799, 1500000000⟩
    let rows := numbered 0 (recordsOf recordsAroundLeap)
    let row : Row := ⟨1, recordAt t 443⟩
    row ∈ rows ∧ Returns ({ rows } : Memory) rows (fun _ => True) row ∧
      Returns ({ table := some { rows } } : Database) rows (· < 2 ^ 63) row ∧
      ∀ now, resolveRange (some "2017-01-01T05:44:60.500+05:45") (some t.render) now =
        .ok ⟨t, t⟩ := by
  intro t rows row
  have clock : t.OnClock := by decide
  have four : t.HasFourDigits := by decide
  have member : row ∈ rows := by decide
  have memory := times_return.1 { rows } row member clock four
  refine ⟨member, memory, ?_, fun now => ?_⟩
  · exact times_return.2.1 { table := some { rows } } { rows } rfl (by decide) row member four
  · have kathmandu : (⟨Rfc3339.partsAt 20700 t, 3, false⟩ : Rfc3339.Spelling).IsValid :=
      ⟨Rfc3339.isValid_partsAt clock (by decide) (by decide) (by decide), by decide, nofun⟩
    have same := times_return.2.2.2 _ _ kathmandu (Rfc3339.isValid_spelling clock four)
      ((Rfc3339.instant_partsAt clock (by decide)).trans (Rfc3339.instant_spelling clock).symm)
      (some t.render) now
    rw [Rfc3339.text_spelling] at same
    have text : (⟨Rfc3339.partsAt 20700 t, 3, false⟩ : Rfc3339.Spelling).text =
        "2017-01-01T05:44:60.500+05:45" := by decide +kernel
    exact (text ▸ same.1).trans (memory.asked now)

end ProxyMeter.Api
