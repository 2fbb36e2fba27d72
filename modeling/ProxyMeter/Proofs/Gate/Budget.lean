import Mathlib.Algebra.Order.Field.Rat
import Mathlib.Tactic.FieldSimp
import Mathlib.Tactic.Linarith
import Mathlib.Tactic.Ring
import ProxyMeter.Proofs.Gate.Calls

/-!
# The budget of a client

With tokens counted in exact fractions and a clock that does not go back, a client is served exactly
within a budget: a second's worth of passes, and what is earned from the beginning of a window to
its end, in every window of the client's calls but the first call. What a bucket holds is the least
that any window leaves (`Tracks.level`), and everything else follows from it.
-/

namespace ProxyMeter.Gate

/-- The seconds between two readings of the clock. -/
def seconds (start stop : Int) : ℚ := ((stop - start : Int) : ℚ) / 1000000000

/-- How many calls passed. -/
def passes (seen : List Call) : Nat := seen.countP Call.passed

/-- Every window of calls, but for the first call, leaves so many tokens of its budget at a
reading of the clock. -/
def Affords (rate : Nat) (seen : List Call) (now : Int) (tokens : ℚ) : Prop :=
  tokens ≤ rate ∧ ∀ (j : Nat) (bound : j < seen.length), 0 < j →
    tokens + passes (seen.drop j) ≤ rate + rate * seconds seen[j].time now

theorem seconds_add (start middle stop : Int) :
    seconds start middle + seconds middle stop = seconds start stop := by
  simp only [seconds]
  push_cast
  ring

@[simp]
theorem seconds_self (time : Int) : seconds time time = 0 := by simp [seconds]

theorem seconds_nonneg {start stop : Int} (h : start ≤ stop) : 0 ≤ seconds start stop :=
  div_nonneg (Int.cast_nonneg (Int.sub_nonneg.mpr h)) (by norm_num)

/-- With exact fractions the roundabout way by milliseconds is none: a bucket gets its rate for each
second, up to a second's worth. -/
theorem refill_eq (rate nanos : Nat) (held : ℚ) :
    Tokens.refill rate nanos held = min (rate : ℚ) (held + rate * (nanos / 1000000000)) := by
  have whole : ((nanos / 1000000000 : Nat) : ℚ) + ((nanos % 1000000000 : Nat) : ℚ) / 1000000000 =
      nanos / 1000000000 := by
    have parts : ((1000000000 * (nanos / 1000000000) + nanos % 1000000000 : Nat) : ℚ) = nanos :=
      congrArg Nat.cast (Nat.div_add_mod nanos 1000000000)
    rw [← parts]
    push_cast
    ring
  have earned : held + (((nanos / 1000000000 : Nat) : ℚ) +
      ((nanos % 1000000000 : Nat) : ℚ) / ((1000000000 : Nat) : ℚ)) * ((1000 : Nat) : ℚ) *
        ((rate : ℚ) / ((1000 : Nat) : ℚ)) = held + rate * (nanos / 1000000000) := by
    rw [← whole]
    push_cast
    ring
  rw [← earned]
  unfold Tokens.refill
  dsimp only
  split
  · next more => exact (min_eq_left (le_of_lt more)).symm
  · next less => exact (min_eq_right (not_lt.mp less)).symm

namespace Bucket

/-- What a bucket holds when a request comes. -/
def level (rate : Nat) (now : Int) (b : Bucket ℚ) : ℚ :=
  Tokens.refill rate (now - b.filledAt).toNat b.held

/-- A bucket holds so many tokens when they are in it or have been earned since, and are not more
than a second's worth. -/
theorem le_level_iff {rate : Nat} {now : Int} {b : Bucket ℚ} (later : b.filledAt ≤ now) (x : ℚ) :
    x ≤ b.level rate now ↔ x ≤ rate ∧ x ≤ b.held + rate * seconds b.filledAt now := by
  have span : (((now - b.filledAt).toNat : Nat) : ℚ) = ((now - b.filledAt : Int) : ℚ) := by
    rw [← Int.cast_natCast, Int.toNat_of_nonneg (by omega)]
  rw [level, refill_eq, le_min_iff, span, seconds]

/-- A request passes if there is a token, and takes it. -/
theorem request_eq (rate : Nat) (now : Int) (b : Bucket ℚ) :
    b.request rate now =
      if 1 ≤ b.level rate now then (true, ⟨b.level rate now - 1, now⟩)
      else (false, ⟨b.level rate now, now⟩) := by
  have spend (held : ℚ) : Tokens.spend? held = if 1 ≤ held then some (held - 1) else none := by
    unfold Tokens.spend?
    have one : (Tokens.ofNat 1 : ℚ) = 1 := Nat.cast_one
    simp only [one]
  rw [request, spend, level]
  split_ifs <;> rfl

end Bucket

/-- A token for a call that passed, and none for one that did not. -/
def Call.cost (v : Call) : ℚ := if v.passed then 1 else 0

theorem passes_concat (seen : List Call) (v : Call) :
    (passes (seen ++ [v]) : ℚ) = passes seen + v.cost := by
  cases passed : v.passed <;> simp [passes, Call.cost, passed]

/-- One call more begins a window of its own and makes every other window longer. -/
theorem affords_concat {rate : Nat} {seen : List Call} {v : Call} (begun : 0 < seen.length)
    (now : Int) (x : ℚ) :
    Affords rate (seen ++ [v]) now x ↔
      x ≤ rate ∧ Affords rate seen v.time (x + v.cost - rate * seconds v.time now) := by
  have own : (passes ((seen ++ [v]).drop seen.length) : ℚ) = v.cost := by
    simpa [passes] using passes_concat [] v
  constructor
  · rintro ⟨cap, windows⟩
    refine ⟨cap, ?_, fun j bound pos => ?_⟩
    · have here := windows seen.length (by simp) begun
      rw [own, List.getElem_concat_length rfl] at here
      linarith
    · have here := windows j (by simp; omega) pos
      rw [List.drop_append_of_le_length (by omega), passes_concat,
        List.getElem_append_left bound, ← seconds_add _ v.time now, mul_add] at here
      linarith
  · rintro ⟨cap, most, windows⟩
    refine ⟨cap, fun j bound pos => ?_⟩
    by_cases before : j < seen.length
    · have here := windows j before pos
      rw [List.drop_append_of_le_length (by omega), passes_concat,
        List.getElem_append_left before, ← seconds_add _ v.time now, mul_add]
      linarith
    · obtain rfl : j = seen.length := by
        rw [List.length_append, List.length_singleton] at bound
        omega
      rw [own, List.getElem_concat_length rfl]
      linarith

/-- A bucket after the calls of its client: it was filled at the latest one, and holds what every
window of them leaves. -/
structure Tracks (rate : Nat) (seen : List Call) (b : Bucket ℚ) : Prop where
  begun : 0 < seen.length
  latest : ∀ v, seen.getLast? = some v → v.time = b.filledAt
  level : ∀ now, b.filledAt ≤ now → ∀ x, x ≤ b.level rate now ↔ Affords rate seen now x

/-- A new bucket holds a second's worth, and goes on holding it. -/
theorem tracks_full (rate : Nat) (v : Call) : Tracks rate [v] (.full rate v.time) := by
  refine ⟨Nat.one_pos, fun u last => by cases last; rfl, fun now later x => ?_⟩
  rw [Bucket.le_level_iff later]
  have earned : (0 : ℚ) ≤ rate * seconds v.time now :=
    mul_nonneg (Nat.cast_nonneg _) (seconds_nonneg later)
  constructor
  · rintro ⟨cap, -⟩
    refine ⟨cap, fun j bound pos => ?_⟩
    rw [List.length_singleton] at bound
    omega
  · rintro ⟨cap, -⟩
    refine ⟨cap, ?_⟩
    show x ≤ (rate : ℚ) + rate * seconds v.time now
    linarith

/-- What a request takes of its bucket is the cost of its call. -/
theorem Bucket.answer_eq (rate : Nat) (r : Request) (b : Bucket ℚ) :
    ((answer rate r (some b)).1.passed = true ↔ 1 ≤ b.level rate r.time) ∧
      (answer rate r (some b)).2 =
        ⟨b.level rate r.time - (answer rate r (some b)).1.cost, r.time⟩ := by
  rw [answer]
  dsimp only
  rw [request_eq]
  split <;> simp [Call.cost, *]

/-- A call passes exactly if every window before it leaves a token. -/
theorem Tracks.passed_iff {rate : Nat} {seen : List Call} {b : Bucket ℚ}
    (tracks : Tracks rate seen b) {r : Request} (later : b.filledAt ≤ r.time) :
    (Bucket.answer rate r (some b)).1.passed = true ↔ Affords rate seen r.time 1 := by
  rw [← tracks.level r.time later]
  exact (Bucket.answer_eq rate r b).1

/-- A bucket keeps track of its client's calls. -/
theorem Tracks.next {rate : Nat} {seen : List Call} {b : Bucket ℚ} (tracks : Tracks rate seen b)
    {r : Request} (later : b.filledAt ≤ r.time) :
    Tracks rate (seen ++ [(Bucket.answer rate r (some b)).1])
      (Bucket.answer rate r (some b)).2 := by
  obtain ⟨-, bucket⟩ := Bucket.answer_eq rate r b
  have time : (Bucket.answer rate r (some b)).1.time = r.time := rfl
  refine ⟨by simp, fun v last => ?_, ?_⟩
  · rw [List.getLast?_concat, Option.some.injEq] at last
    rw [← last, bucket, time]
  · rw [bucket]
    intro now after x
    rw [affords_concat tracks.begun, Bucket.le_level_iff after, time, ← tracks.level r.time later]
    dsimp only
    constructor
    · rintro ⟨cap, enough⟩
      exact ⟨cap, by linarith⟩
    · rintro ⟨cap, enough⟩
      exact ⟨cap, by linarith⟩

/-- The first of a client's calls passed, and each later one exactly if every window before it
left a token. -/
structure Budgeted (rate : Nat) (seen : List Call) : Prop where
  first : ∀ v, seen.head? = some v → v.passed = true
  later : ∀ (n : Nat) (bound : n < seen.length), 0 < n →
    (seen[n].passed = true ↔ Affords rate (seen.take n) seen[n].time 1)

theorem budgeted_singleton (rate : Nat) {v : Call} (passed : v.passed = true) :
    Budgeted rate [v] := by
  refine ⟨fun u here => by cases here; exact passed, fun n bound pos => ?_⟩
  rw [List.length_singleton] at bound
  omega

theorem budgeted_concat_iff {rate : Nat} {seen : List Call} {v : Call}
    (begun : 0 < seen.length) :
    Budgeted rate (seen ++ [v]) ↔
      Budgeted rate seen ∧ (v.passed = true ↔ Affords rate seen v.time 1) := by
  have head : (seen ++ [v]).head? = seen.head? := by
    cases seen with
    | nil => cases begun
    | cons u rest => rfl
  constructor
  · intro h
    refine ⟨⟨head ▸ h.first, fun n bound pos => ?_⟩, ?_⟩
    · have here := h.later n (by simp; omega) pos
      rwa [List.getElem_append_left bound, List.take_append_of_le_length (by omega)] at here
    · have here := h.later seen.length (by simp) begun
      rwa [List.getElem_concat_length rfl, List.take_left] at here
  · rintro ⟨before, here⟩
    refine ⟨head ▸ before.first, fun n bound pos => ?_⟩
    by_cases earlier : n < seen.length
    · rw [List.getElem_append_left earlier, List.take_append_of_le_length (by omega)]
      exact before.later n earlier pos
    · obtain rfl : n = seen.length := by
        rw [List.length_append, List.length_singleton] at bound
        omega
      rw [List.getElem_concat_length rfl, List.take_left]
      exact here

/-- Whether a call is in a window of so many seconds. -/
def Call.isIn (start length : ℚ) (v : Call) : Bool :=
  start ≤ seconds 0 v.time && seconds 0 v.time ≤ start + length

theorem Call.isIn_iff {start length : ℚ} {v : Call} :
    v.isIn start length = true ↔
      start ≤ seconds 0 v.time ∧ seconds 0 v.time ≤ start + length := by
  rw [isIn, Bool.and_eq_true, decide_eq_true_iff, decide_eq_true_iff]

/-- What calls leave at a reading of the clock and the passes in a window that includes it are
together within the budget of the window. -/
theorem Affords.add_passes_le {rate : Nat} {seen : List Call} {now : Int} {x : ℚ}
    (h : Affords rate seen now x) {start length : ℚ} (nonneg : 0 ≤ length)
    (ended : seconds 0 now ≤ start + length) :
    x + passes (seen.tail.filter (Call.isIn start length)) ≤ rate + rate * length := by
  obtain ⟨cap, windows⟩ := h
  cases found : seen.tail.filter (Call.isIn start length) with
  | nil =>
    have budget : (0 : ℚ) ≤ rate * length := mul_nonneg (Nat.cast_nonneg _) nonneg
    simp only [passes, List.countP_nil, Nat.cast_zero]
    linarith
  | cons u rest =>
    -- The budget of the calls from the first one in the window on is not larger.
    obtain ⟨front, back, split, -, inside, rfl⟩ := List.filter_eq_cons_iff.mp found
    obtain ⟨first, rfl⟩ : ∃ first, seen = first :: (front ++ u :: back) := by
      cases seen with
      | nil => simp at split
      | cons first seen => exact ⟨first, congrArg (first :: ·) split⟩
    have window := windows (front.length + 1) (by simp) (Nat.succ_pos _)
    have bound : front.length + 1 < (first :: (front ++ u :: back)).length := by simp
    have there : (first :: (front ++ u :: back))[front.length + 1] = u := by simp
    have drop : (first :: (front ++ u :: back)).drop (front.length + 1) = u :: back := by simp
    rw [there, drop] at window
    have fewer : (passes (u :: back.filter (Call.isIn start length)) : ℚ) ≤ passes (u :: back) :=
      Nat.cast_le.mpr ((List.filter_sublist.cons_cons u).countP_le)
    have shorter : (rate : ℚ) * seconds u.time now ≤ rate * length := by
      refine mul_le_mul_of_nonneg_left ?_ (Nat.cast_nonneg _)
      have between := seconds_add 0 u.time now
      have began := (Call.isIn_iff.mp inside).1
      linarith
    linarith

/-- No window has more passes than its budget. -/
theorem Budgeted.passes_le {rate : Nat} {seen : List Call} (h : Budgeted rate seen)
    (start : ℚ) {length : ℚ} (nonneg : 0 ≤ length) :
    (passes (seen.tail.filter (Call.isIn start length)) : ℚ) ≤ rate + rate * length := by
  have none : ((0 : Nat) : ℚ) ≤ rate + rate * length := by
    rw [Nat.cast_zero]
    exact add_nonneg (Nat.cast_nonneg _) (mul_nonneg (Nat.cast_nonneg _) nonneg)
  induction seen using List.reverseRecOn with
  | nil => exact none
  | append_singleton seen v ih =>
    by_cases begun : 0 < seen.length
    · obtain ⟨before, here⟩ := (budgeted_concat_iff begun).mp h
      rw [List.tail_append_of_ne_nil (List.ne_nil_of_length_pos begun), List.filter_append]
      by_cases counted : v.isIn start length = true ∧ v.passed = true
      · obtain ⟨inside, passed⟩ := counted
        have window :=
          (here.mp passed).add_passes_le nonneg (Call.isIn_iff.mp inside).2
        rw [List.filter_cons_of_pos inside, List.filter_nil, passes_concat, Call.cost,
          if_pos passed]
        linarith
      · have free : passes ([v].filter (Call.isIn start length)) = 0 := by
          rw [passes, List.countP_filter, List.countP_eq_zero]
          simpa [and_comm] using counted
        rw [passes, List.countP_append]
        show ((passes _ + passes _ : Nat) : ℚ) ≤ _
        rw [free]
        exact ih before
    · obtain rfl : seen = [] := List.eq_nil_of_length_eq_zero (by omega)
      exact none

/-- The windows before a call, by the numbers of the calls with which they begin. The window that
begins with the call itself has no pass yet. -/
theorem affords_take_iff {rate : Nat} {seen : List Call} {n : Nat} (bound : n < seen.length)
    (pos : 0 < n) :
    Affords rate (seen.take n) seen[n].time 1 ↔
      ∀ (j : Nat) (upTo : j ≤ n), 0 < j →
        (passes (seen.extract j n) : ℚ) + 1 ≤ rate + rate * seconds seen[j].time seen[n].time := by
  have windows (j : Nat) : (seen.take n).drop j = seen.extract j n := by
    rw [List.drop_take, List.extract_eq_take_drop]
  have none : (passes (seen.extract n n) : ℚ) = 0 := by
    rw [List.extract_eq_take_drop, Nat.sub_self, List.take_zero, passes, List.countP_nil,
      Nat.cast_zero]
  have length : (seen.take n).length = n := by
    rw [List.length_take]
    omega
  constructor
  · rintro ⟨cap, before⟩ j upTo begun
    by_cases own : j = n
    · subst own
      rw [none, seconds_self]
      linarith
    · have window := before j (by omega) begun
      rw [windows, List.getElem_take] at window
      linarith
  · intro all
    refine ⟨?_, fun j inside begun => ?_⟩
    · have own := all n (Nat.le_refl n) pos
      rw [none, seconds_self] at own
      linarith
    · have window := all j (by omega) begun
      rw [windows, List.getElem_take]
      linarith

/-- Calls in order have their times in order. -/
theorem time_le {seen : List Call} (inOrder : seen.Pairwise (·.time ≤ ·.time)) {j n : Nat}
    (upTo : j ≤ n) (bound : n < seen.length) : seen[j].time ≤ seen[n].time := by
  by_cases own : j = n
  · subst own
    exact Int.le_refl _
  · exact List.pairwise_iff_getElem.mp inOrder j n (by omega) bound (by omega)

/-- The calls from one to another are in the window that begins and ends with them. -/
theorem length_extract_le {seen : List Call} (inOrder : seen.Pairwise (·.time ≤ ·.time))
    {j n : Nat} (begun : 0 < j) (upTo : j ≤ n) (bound : n < seen.length) :
    (seen.extract j (n + 1)).length ≤ (seen.tail.filter (Call.isIn (seconds 0 seen[j].time)
      (seconds seen[j].time seen[n].time))).length := by
  have before {i k : Nat} (here : i ≤ k) (bound : k < seen.length) :
      seconds 0 seen[i].time ≤ seconds 0 seen[k].time := by
    have between := seconds_add 0 seen[i].time seen[k].time
    have forward := seconds_nonneg (time_le inOrder here bound)
    linarith
  have sublist : (seen.extract j (n + 1)).Sublist seen.tail := by
    rw [List.extract_eq_take_drop, ← List.drop_one]
    exact (List.take_sublist _ _).trans (List.drop_sublist_drop_left seen (by omega))
  have inside : ∀ v ∈ seen.extract j (n + 1), v.isIn (seconds 0 seen[j].time)
      (seconds seen[j].time seen[n].time) = true := by
    intro v member
    rw [List.extract_eq_take_drop] at member
    obtain ⟨i, here, rfl⟩ := List.mem_take_iff_getElem.mp member
    rw [List.length_drop] at here
    rw [List.getElem_drop, Call.isIn_iff, seconds_add]
    exact ⟨before (by omega) (by omega), before (by omega) bound⟩
  rw [← List.filter_eq_self.mpr inside]
  exact (sublist.filter _).length_le

/-- Who has no more calls in any window than its budget is never turned away. -/
theorem Budgeted.passed_of_modest {rate : Nat} {seen : List Call} (h : Budgeted rate seen)
    (inOrder : seen.Pairwise (·.time ≤ ·.time))
    (modest : ∀ start length : ℚ, 0 ≤ length →
      ((seen.tail.filter (Call.isIn start length)).length : ℚ) ≤ rate + rate * length) :
    ∀ v ∈ seen, v.passed = true := by
  intro v member
  obtain ⟨n, bound, rfl⟩ := List.mem_iff_getElem.mp member
  by_cases first : n = 0
  · subst first
    exact h.first _ (List.head?_eq_getElem? .. ▸ List.getElem?_eq_getElem bound)
  · refine (h.later n bound (by omega)).mpr ((affords_take_iff bound (by omega)).mpr ?_)
    intro j upTo begun
    -- The calls from `j` to `n` are in one window, and those before `n` are fewer by one.
    have window := modest (seconds 0 seen[j].time) _
      (seconds_nonneg (time_le inOrder upTo bound))
    have fewer : passes (seen.extract j n) + 1 ≤ (seen.extract j (n + 1)).length := by
      have some := List.countP_le_length (p := Call.passed) (l := seen.extract j n)
      rw [← passes] at some
      simp only [List.extract_eq_take_drop, List.length_take, List.length_drop] at some ⊢
      omega
    have total : ((passes (seen.extract j n) + 1 : Nat) : ℚ) ≤ _ :=
      Nat.cast_le.mpr (fewer.trans (length_extract_le inOrder begun upTo bound))
    push_cast at total
    linarith

namespace RateLimiter

/-- Two limiters that answer alike from a reading of the clock on: the buckets of one client hold
the same from then on, and the others are the same. -/
structure AlikeFrom (client : String) (time : Int) (l l' : RateLimiter ℚ) : Prop where
  enabled : l.enabled = true ∧ l'.enabled = true
  rate : l.rate = l'.rate
  others : ∀ name, name ≠ client → l.bucket? name = l'.bucket? name
  own : ∃ b b', l.bucket? client = some b ∧ l'.bucket? client = some b' ∧
    ∀ now, time ≤ now → b.level l.rate now = b'.level l.rate now

/-- Limiters that answer alike go on doing so. -/
theorem AlikeFrom.after {client : String} {time : Int} {l l' : RateLimiter ℚ}
    (alike : AlikeFrom client time l l') {r : Request} (later : r.client = client → time ≤ r.time) :
    (l.call r).passed = (l'.call r).passed ∧ AlikeFrom client time (l.after r) (l'.after r) := by
  obtain ⟨enabled, enabled'⟩ := alike.enabled
  obtain ⟨stays, rate⟩ := after_enabled_rate l r
  obtain ⟨stays', rate'⟩ := after_enabled_rate l' r
  have settings : (l.after r).enabled = true ∧ (l'.after r).enabled = true :=
    ⟨stays.trans enabled, stays'.trans enabled'⟩
  have rates : (l.after r).rate = (l'.after r).rate := rate.trans (alike.rate.trans rate'.symm)
  rw [call_eq enabled, call_eq enabled', ← alike.rate]
  by_cases own : r.client = client
  · subst own
    obtain ⟨b, b', known, known', levels⟩ := alike.own
    have request : b.request l.rate r.time = b'.request l.rate r.time := by
      rw [Bucket.request_eq, Bucket.request_eq, levels r.time (later rfl)]
    have bucket : (Bucket.answer l.rate r (some b)).2 = (Bucket.answer l.rate r (some b')).2 := by
      simp only [Bucket.answer, request]
    have passed : (Bucket.answer l.rate r (some b)).1.passed =
        (Bucket.answer l.rate r (some b')).1.passed := by
      simp only [Bucket.answer, request]
    rw [known, known']
    refine ⟨passed, settings, rates, fun name other => ?_, ?_⟩
    · rw [bucket?_after enabled, bucket?_after enabled', if_neg other, if_neg other]
      exact alike.others name other
    · refine ⟨(Bucket.answer l.rate r (some b)).2, (Bucket.answer l.rate r (some b)).2, ?_, ?_,
        fun now _ => rfl⟩
      · rw [bucket?_after enabled, if_pos rfl, known]
      · rw [bucket?_after enabled', if_pos rfl, known', ← alike.rate, bucket]
  · rw [alike.others r.client own]
    refine ⟨rfl, settings, rates, fun name other => ?_, ?_⟩
    · rw [bucket?_after enabled, bucket?_after enabled', alike.others name other,
        alike.others r.client own, alike.rate]
    · rw [bucket?_after enabled, bucket?_after enabled', if_neg (Ne.symm own),
        if_neg (Ne.symm own), rate]
      exact alike.own

/-- A client that is refused has the bucket that it would have had without asking. -/
theorem alikeFrom_of_refused {l : RateLimiter ℚ} (enabled : l.enabled = true) {r : Request}
    {b : Bucket ℚ} (known : l.bucket? r.client = some b) (later : b.filledAt ≤ r.time)
    (refused : (l.call r).passed = false) : AlikeFrom r.client r.time (l.after r) l := by
  obtain ⟨stays, rate⟩ := after_enabled_rate l r
  obtain ⟨-, bucket⟩ := Bucket.answer_eq l.rate r b
  rw [call_eq enabled, known] at refused
  rw [Call.cost, if_neg (Bool.eq_false_iff.mp refused), sub_zero] at bucket
  refine ⟨⟨stays.trans enabled, enabled⟩, rate, fun name other => ?_, ?_⟩
  · rw [bucket?_after enabled, if_neg other]
  · refine ⟨⟨b.level l.rate r.time, r.time⟩, b, ?_, known, fun now after => ?_⟩
    · rw [bucket?_after enabled, if_pos rfl, known, bucket]
    · rw [rate]
      refine eq_of_forall_le_iff fun x => ?_
      have earned : (0 : ℚ) ≤ l.rate * seconds r.time now :=
        mul_nonneg (Nat.cast_nonneg _) (seconds_nonneg after)
      rw [Bucket.le_level_iff after, Bucket.le_level_iff (later.trans after),
        ← seconds_add b.filledAt r.time now, mul_add, ← sub_le_iff_le_add,
        Bucket.le_level_iff later]
      constructor
      · rintro ⟨cap, -, enough⟩
        exact ⟨cap, by linarith⟩
      · rintro ⟨cap, enough⟩
        exact ⟨cap, by linarith, by linarith⟩

/-- Limiters that answer alike give the same answers. -/
theorem AlikeFrom.calls {client : String} {time : Int} {l l' : RateLimiter ℚ}
    (alike : AlikeFrom client time l l') (requests : List Request)
    (later : ∀ r ∈ requests, r.client = client → time ≤ r.time) :
    (l.calls requests).map Call.passed = (l'.calls requests).map Call.passed := by
  induction requests generalizing l l' with
  | nil => rfl
  | cons r rest ih =>
    obtain ⟨same, next⟩ := alike.after (later r (.head _))
    rw [RateLimiter.calls, RateLimiter.calls, List.map_cons, List.map_cons, same,
      ih next fun r member => later r (.tail _ member)]

/-- A bucket keeps track of its client's calls, and serves it within its budget, as long as the
clock does not go back. -/
theorem tracks_callsOf (rate : Nat) (client : String) (requests : List Request)
    (inOrder : ((fresh rate : RateLimiter ℚ).callsOf client requests).Pairwise
      (·.time ≤ ·.time)) :
    ((fresh rate : RateLimiter ℚ).afterAll requests).bucket? client = none ∧
        (fresh rate : RateLimiter ℚ).callsOf client requests = [] ∨
      ∃ b, ((fresh rate : RateLimiter ℚ).afterAll requests).bucket? client = some b ∧
        Tracks rate ((fresh rate : RateLimiter ℚ).callsOf client requests) b ∧
        Budgeted rate ((fresh rate : RateLimiter ℚ).callsOf client requests) := by
  have kept := calls_induction (α := ℚ) rate client
    (P := fun seen b => seen.Pairwise (·.time ≤ ·.time) → Tracks rate seen b ∧ Budgeted rate seen)
    ?_ ?_ requests
  · obtain new | ⟨b, known, served⟩ := kept
    · exact .inl new
    · exact .inr ⟨b, known, served inOrder⟩
  · intro r _ _
    exact ⟨tracks_full rate _, budgeted_singleton rate rfl⟩
  · intro seen b ih r _ inOrder
    obtain ⟨before, -, last⟩ := List.pairwise_append.mp inOrder
    obtain ⟨tracks, budgeted⟩ := ih before
    have later : b.filledAt ≤ r.time := by
      have latest := tracks.latest _ (List.getLast?_eq_some_getLast
        (List.ne_nil_of_length_pos tracks.begun))
      rw [← latest]
      exact last _ (List.getLast_mem _) _ (.head _)
    exact ⟨tracks.next later,
      (budgeted_concat_iff tracks.begun).mpr ⟨budgeted, tracks.passed_iff later⟩⟩

/-- Calls have the order of their requests. -/
theorem pairwise_callsOf {client : String} (l : RateLimiter ℚ) {requests : List Request}
    (inOrder : (requests.filter (·.client == client)).Pairwise (·.time ≤ ·.time)) :
    (l.callsOf client requests).Pairwise (·.time ≤ ·.time) := by
  rw [← map_callsOf client l requests, List.pairwise_map] at inOrder
  exact inOrder

/-- A request that is refused changes no other answer. -/
theorem calls_of_refused (rate : Nat) {before after : List Request} {r : Request}
    (inOrder : ((before ++ r :: after).filter (·.client == r.client)).Pairwise
      (·.time ≤ ·.time))
    (refused : (((fresh rate : RateLimiter ℚ).afterAll before).call r).passed = false) :
    ((fresh rate : RateLimiter ℚ).calls (before ++ after)).map Call.passed =
      (((fresh rate : RateLimiter ℚ).calls (before ++ r :: after)).map Call.passed).eraseIdx
        before.length := by
  obtain ⟨enabled, -⟩ := fresh_enabled_rate (α := ℚ) rate before
  rw [List.filter_append, List.filter_cons_of_pos (by exact beq_self_eq_true r.client),
    List.pairwise_append, List.pairwise_cons] at inOrder
  obtain ⟨earlier, ⟨later, -⟩, across⟩ := inOrder
  have alike : AlikeFrom r.client r.time (((fresh rate : RateLimiter ℚ).afterAll before).after r)
      ((fresh rate).afterAll before) := by
    obtain ⟨new, -⟩ | ⟨b, known, tracks, -⟩ :=
      tracks_callsOf rate r.client before (pairwise_callsOf _ earlier)
    · rw [call_eq enabled, new] at refused
      cases refused
    · refine alikeFrom_of_refused enabled known ?_ refused
      have begun := List.ne_nil_of_length_pos tracks.begun
      have request := List.mem_map_of_mem (f := Call.toRequest) (List.getLast_mem begun)
      rw [map_callsOf] at request
      rw [← tracks.latest _ (List.getLast?_eq_some_getLast begun)]
      exact across _ request r (.head _)
  have same := alike.calls after fun r' member own =>
    later r' (List.mem_filter.mpr ⟨member, beq_iff_eq.mpr own⟩)
  have length : (((fresh rate : RateLimiter ℚ).calls before).map Call.passed).length =
      before.length := by
    rw [List.length_map, ← List.length_map (f := Call.toRequest), map_calls]
  rw [calls_append, calls_append, List.map_append, List.map_append,
    List.eraseIdx_append_of_length_le (Nat.le_of_eq length), length, Nat.sub_self, calls,
    List.map_cons, List.eraseIdx_cons_zero, same]

/-- A client of a limiter, among others, is served exactly within its budget. -/
structure ServesExactly (rate : Nat) (client : String) (requests : List Request)
    (seen : List Call) : Prop where
  /-- Its calls are its requests. -/
  calls : seen.map Call.toRequest = requests.filter (·.client == client)
  first : ∀ v, seen.head? = some v → v.passed = true
  /-- A later call passes exactly if, with it, no window that ends with it has more passes than a
  second's worth and what is earned in the window. -/
  exact : ∀ (n : Nat) (bound : n < seen.length), 0 < n →
    (seen[n].passed = true ↔ ∀ (j : Nat) (upTo : j ≤ n), 0 < j →
      (passes (seen.extract j n) : ℚ) + 1 ≤ rate + rate * seconds seen[j].time seen[n].time)
  window : ∀ start length : ℚ, 0 ≤ length →
    (passes (seen.tail.filter (Call.isIn start length)) : ℚ) ≤ rate + rate * length
  /-- Who has no more calls in any window than passes could be is never turned away. -/
  modest : (∀ start length : ℚ, 0 ≤ length →
      ((seen.tail.filter (Call.isIn start length)).length : ℚ) ≤ rate + rate * length) →
    ∀ v ∈ seen, v.passed = true
  /-- A request of the client that is refused changes no other answer. -/
  harmless : ∀ before r after, requests = before ++ r :: after → r.client = client →
    (((fresh rate : RateLimiter ℚ).afterAll before).call r).passed = false →
    ((fresh rate : RateLimiter ℚ).calls (before ++ after)).map Call.passed =
      (((fresh rate : RateLimiter ℚ).calls requests).map Call.passed).eraseIdx before.length

/-- With exact fractions, each client whose readings of the clock do not go back is served exactly
within its budget, whatever other clients do. -/
theorem calls_exact (rate : Nat) (client : String) (requests : List Request)
    (inOrder : (requests.filter (·.client == client)).Pairwise (·.time ≤ ·.time)) :
    ServesExactly rate client requests
      ((fresh rate : RateLimiter ℚ).callsOf client requests) := by
  have calls := map_callsOf client (fresh rate : RateLimiter ℚ) requests
  have ordered := pairwise_callsOf (fresh rate) inOrder
  have budgeted : Budgeted rate ((fresh rate : RateLimiter ℚ).callsOf client requests) := by
    obtain ⟨-, none⟩ | ⟨b, -, -, budgeted⟩ := tracks_callsOf rate client requests ordered
    · rw [none]
      exact ⟨nofun, nofun⟩
    · exact budgeted
  exact {
    calls
    first := budgeted.first
    exact := fun n bound pos =>
      (budgeted.later n bound pos).trans (affords_take_iff bound pos)
    window := fun start length nonneg => budgeted.passes_le start nonneg
    modest := budgeted.passed_of_modest ordered
    harmless := by
      rintro before r after rfl rfl refused
      exact calls_of_refused rate inOrder refused }

private def crowd : List Request :=
  [⟨"10.0.0.7", 0⟩, ⟨"10.0.0.7", 0⟩, ⟨"10.0.0.8", 5⟩, ⟨"10.0.0.7", 400000000⟩,
    ⟨"10.0.0.7", 1000000000⟩, ⟨"10.0.0.7", 1000000001⟩]

/-- At one pass a second the third call of a client comes too early, and so does the last. -/
theorem calls_exact_two_refused :
    (crowd.filter (·.client == "10.0.0.7")).Pairwise (·.time ≤ ·.time) ∧
      ((fresh 1 : RateLimiter ℚ).callsOf "10.0.0.7" crowd).map Call.passed =
        [true, true, false, true, false] ∧
      ServesExactly 1 "10.0.0.7" crowd
        ((fresh 1 : RateLimiter ℚ).callsOf "10.0.0.7" crowd) := by
  have inOrder : (crowd.filter (·.client == "10.0.0.7")).Pairwise (·.time ≤ ·.time) := by
    decide
  exact ⟨inOrder, by decide +kernel, calls_exact 1 "10.0.0.7" crowd inOrder⟩

end RateLimiter

end ProxyMeter.Gate
