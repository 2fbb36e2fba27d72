import Mathlib.Tactic.Positivity
import ProxyMeter.Gate.SharedLimiter
import ProxyMeter.Proofs.Gate.Budget
import ProxyMeter.Proofs.Runs

/-!
# Requests that overtake each other

A request reads the clock first and gets to the limiter later, so that requests may come to their
turns in another order than they read the clock. A reading that is older than the one in the bucket
sets the bucket back, and the time in between is credited a second time. What a bucket is credited
is the time that it spans and all that it was set back (`Credits.credit`); without overtaking it is
never set back, and no client has more passes than its span allows.
-/

namespace ProxyMeter.Gate

variable {α : Type} [Tokens α]

namespace SharedLimiter

/-- A limiter has answered the requests that have had their turns, in the order of the turns, and
the clock has not gone back behind any of them. -/
structure Served (rate : Nat) (s : SharedLimiter α) : Prop where
  turns : ∃ requests, s.limiter = (RateLimiter.fresh rate).afterAll requests ∧
    s.calls = (RateLimiter.fresh rate : RateLimiter α).calls requests
  waiting : ∀ r ∈ s.waiting, r.time ≤ s.clock
  calls : ∀ v ∈ s.calls, v.time ≤ s.clock

/-- Every step leaves a limiter with the turns that it has answered. -/
theorem Served.step {rate : Nat} {s s' : SharedLimiter α} {a : Action} (served : s.Served rate)
    (h : s.step a = some s') : s'.Served rate := by
  obtain ⟨⟨requests, limiter, calls⟩, waiting, past⟩ := served
  cases a with
  | pass nanos =>
    cases h
    have later {time : Int} (before : time ≤ s.clock) : time ≤ s.clock + nanos := by omega
    exact ⟨⟨requests, limiter, calls⟩, fun r member => later (waiting r member),
      fun v member => later (past v member)⟩
  | arrive client =>
    cases h
    refine ⟨⟨requests, limiter, calls⟩, fun r member => ?_, past⟩
    obtain before | new := List.mem_append.mp member
    · exact waiting r before
    · rw [List.mem_singleton.mp new]
  | turn n =>
    obtain ⟨r, found, rfl⟩ := Option.map_eq_some_iff.mp h
    refine ⟨⟨requests ++ [r], ?_, ?_⟩, fun r' member => ?_, fun v member => ?_⟩
    · rw [RateLimiter.afterAll_append, ← limiter]
      rfl
    · rw [RateLimiter.calls_append, ← calls, ← limiter]
      rfl
    · exact waiting r' (List.mem_of_mem_eraseIdx member)
    · obtain before | new := List.mem_append.mp member
      · exact past v before
      · rw [List.mem_singleton.mp new]
        exact waiting r (List.mem_of_getElem? found)

/-- In every run a limiter answers the requests in the order of their turns. -/
theorem run_served {rate : Nat} {clock : Int} {s : SharedLimiter α} {actions : List Action}
    (run : (start rate clock : SharedLimiter α).run actions = some s) : s.Served rate :=
  run_induction (P := fun _ s => s.Served rate) ⟨⟨[], rfl, rfl⟩, nofun, nofun⟩
    (fun _ _ _ _ _ served step => served.step step) run

end SharedLimiter

/-- The nanoseconds for which the bucket of some calls was refilled. -/
def credited (seen : List Call) : Nat := (seen.map Call.credited).sum

/-- By how many nanoseconds the readings of calls go back, all in all. -/
def setBack : List Call → Nat
  | u :: v :: rest => (u.time - v.time).toNat + setBack (v :: rest)
  | _ => 0

theorem setBack_concat (seen : List Call) (u v : Call) :
    setBack (seen ++ [u] ++ [v]) = setBack (seen ++ [u]) + (u.time - v.time).toNat := by
  induction seen with
  | nil => simp [setBack]
  | cons w rest ih =>
    cases rest with
    | nil => simp [setBack]
    | cons x rest =>
      have longer : setBack (w :: x :: rest ++ [u] ++ [v]) =
          (w.time - x.time).toNat + setBack (x :: rest ++ [u] ++ [v]) := rfl
      rw [longer, ih, ← Nat.add_assoc]
      rfl

/-- The readings of calls go back nowhere exactly if they are in order. -/
theorem setBack_eq_zero_iff (seen : List Call) :
    setBack seen = 0 ↔ seen.Pairwise (·.time ≤ ·.time) := by
  induction seen with
  | nil => simp [setBack]
  | cons u rest ih =>
    cases rest with
    | nil => simp [setBack]
    | cons v rest =>
      rw [setBack, Nat.add_eq_zero_iff, ih, Int.toNat_eq_zero, List.pairwise_cons (a := u)]
      constructor
      · rintro ⟨here, inOrder⟩
        refine ⟨fun w member => ?_, inOrder⟩
        have first : u.time ≤ v.time := by omega
        obtain rfl | member := List.mem_cons.mp member
        · exact first
        · exact first.trans (List.rel_of_pairwise_cons inOrder member)
      · rintro ⟨least, inOrder⟩
        have first := least v (.head _)
        exact ⟨by omega, inOrder⟩

/-- What the bucket of some calls has been credited, and has given for it. -/
structure Credits (rate : Nat) (seen : List Call) (b : Bucket ℚ) : Prop where
  begun : seen ≠ []
  latest : ∀ v, seen.getLast? = some v → v.time = b.filledAt
  /-- The bucket has been credited the time since it was made, and once more what it was set
  back. -/
  credit : ∀ v, seen.head? = some v → (credited seen : Int) = b.filledAt - v.time + setBack seen
  held : 0 ≤ b.held
  /-- What it holds and what it has given away was in it at first or has been credited, the first
  pass apart. -/
  spent : b.held + passes seen ≤ 1 + rate + rate * ((credited seen : ℚ) / 1000000000)

/-- A bucket is never in debt. -/
theorem Bucket.level_nonneg {rate : Nat} {now : Int} {b : Bucket ℚ} (held : 0 ≤ b.held) :
    0 ≤ b.level rate now := by
  rw [level, refill_eq]
  exact le_min (Nat.cast_nonneg _) (add_nonneg held (by positivity))

/-- A bucket gets no more than the rate for each second since it was filled. -/
theorem Bucket.level_le (rate : Nat) (now : Int) (b : Bucket ℚ) :
    b.level rate now ≤
      b.held + rate * (((now - b.filledAt).toNat : ℚ) / 1000000000) := by
  rw [level, refill_eq]
  exact min_le_right _ _

/-- A new bucket holds a second's worth, and its first call cost nothing. -/
theorem credits_full (rate : Nat) (r : Request) :
    Credits rate [(Bucket.answer rate r (none : Option (Bucket ℚ))).1] (.full rate r.time) := by
  refine ⟨by simp, fun v last => ?_, fun v first => ?_, Nat.cast_nonneg _, ?_⟩
  · cases last
    rfl
  · cases first
    simp [credited, setBack, Bucket.answer, Bucket.full]
  · have held : (Bucket.full rate r.time : Bucket ℚ).held = rate := rfl
    rw [held]
    simp [credited, passes, Bucket.answer, add_comm]

/-- Every call is credited the time since the latest one, and none if its reading is older. -/
theorem Credits.next {rate : Nat} {seen : List Call} {b : Bucket ℚ} (credits : Credits rate seen b)
    (r : Request) :
    Credits rate (seen ++ [(Bucket.answer rate r (some b)).1])
      (Bucket.answer rate r (some b)).2 := by
  obtain ⟨passed, bucket⟩ := Bucket.answer_eq rate r b
  have time : (Bucket.answer rate r (some b)).1.time = r.time := rfl
  have elapsed : credited (seen ++ [(Bucket.answer rate r (some b)).1]) =
      credited seen + (r.time - b.filledAt).toNat := by
    rw [credited, List.map_append, List.sum_append, List.map_singleton, List.sum_singleton]
    rfl
  refine ⟨by simp, fun v last => ?_, fun v first => ?_, ?_, ?_⟩
  · rw [List.getLast?_concat, Option.some.injEq] at last
    rw [← last, bucket, time]
  · obtain ⟨front, u, rfl⟩ := (List.eq_nil_or_concat' seen).resolve_left credits.begun
    have latest := credits.latest u List.getLast?_concat
    rw [List.head?_append_of_ne_nil _ credits.begun] at first
    have before := credits.credit v first
    rw [elapsed, setBack_concat, bucket, time]
    push_cast
    omega
  · rw [bucket, Call.cost]
    split
    · next enough => exact sub_nonneg.mpr (passed.mp enough)
    · rw [sub_zero]
      exact Bucket.level_nonneg credits.held
  · have earned := Bucket.level_le rate r.time b
    have spent := credits.spent
    rw [elapsed, passes_concat, bucket]
    dsimp only
    push_cast
    rw [add_div, mul_add]
    linarith

namespace SharedLimiter

/-- What a client of a shared limiter has been credited, and how often it has passed. -/
structure Credited (rate : Nat) (client : String) (s : SharedLimiter ℚ) : Prop where
  /-- Its bucket was filled at the reading of the request that had the latest turn, however old that
  reading is. -/
  filledAt : (s.limiter.bucket? client).map Bucket.filledAt =
    (s.callsOf client).getLast?.map (·.time)
  /-- It has been credited the time since its bucket was made, and once more all the time by which
  the bucket was set back. -/
  credit : ∀ first last, (s.callsOf client).head? = some first →
    (s.callsOf client).getLast? = some last →
    (credited (s.callsOf client) : Int) = last.time - first.time + setBack (s.callsOf client)
  passes_le : (passes (s.callsOf client) : ℚ) ≤
    1 + rate + rate * ((credited (s.callsOf client) : ℚ) / 1000000000)
  /-- The bucket is never set back exactly if no request is overtaken. -/
  setBack_eq_zero_iff : setBack (s.callsOf client) = 0 ↔
    (s.callsOf client).Pairwise (·.time ≤ ·.time)
  /-- Then no time is credited twice, and there are no more passes than the span allows. -/
  once : (s.callsOf client).Pairwise (·.time ≤ ·.time) →
    ∀ first, (s.callsOf client).head? = some first →
    ∀ latest, (∀ v ∈ s.callsOf client, v.time ≤ latest) →
      (credited (s.callsOf client) : Int) ≤ latest - first.time ∧
      (passes (s.callsOf client) : ℚ) ≤ 1 + rate + rate * seconds first.time latest
  /-- No reading is later than the clock. -/
  past : ∀ v ∈ s.callsOf client, v.time ≤ s.clock

/-- The credits of a client are kept from its first call on. -/
theorem Served.credits {rate : Nat} {s : SharedLimiter ℚ} (served : s.Served rate)
    (client : String) :
    s.limiter.bucket? client = none ∧ s.callsOf client = [] ∨
      ∃ b, s.limiter.bucket? client = some b ∧ Credits rate (s.callsOf client) b := by
  obtain ⟨requests, limiter, calls⟩ := served.turns
  rw [limiter, callsOf, calls]
  exact RateLimiter.calls_induction rate client (P := Credits rate)
    (fun r _ => credits_full rate r) (fun _ _ credits r _ => credits.next r) requests

/-- In every run a client is credited the time that its bucket spans and what it was set back, and
has no more passes than that allows. -/
theorem run_credited {rate : Nat} {clock : Int} {s : SharedLimiter ℚ} {actions : List Action}
    (run : (start rate clock).run actions = some s) (client : String) :
    s.Credited rate client := by
  have served := run_served run
  have past : ∀ v ∈ s.callsOf client, v.time ≤ s.clock := fun v member =>
    served.calls v (List.mem_of_mem_filter member)
  obtain ⟨new, none⟩ | ⟨b, known, credits⟩ := served.credits client
  · refine ⟨?_, ?_, ?_, setBack_eq_zero_iff _, ?_, past⟩
    · rw [new, none]
      rfl
    · rw [none]
      exact nofun
    · rw [none]
      show ((0 : Nat) : ℚ) ≤ _
      push_cast
      positivity
    · rw [none]
      exact fun _ => nofun
  · have passes_le : (passes (s.callsOf client) : ℚ) ≤
        1 + rate + rate * ((credited (s.callsOf client) : ℚ) / 1000000000) := by
      linarith [credits.spent, credits.held]
    have last := List.getLast?_eq_some_getLast credits.begun
    refine ⟨?_, fun first last begun ended => ?_, passes_le, setBack_eq_zero_iff _, ?_, past⟩
    · rw [known, last, Option.map_some, Option.map_some, credits.latest _ last]
    · rw [credits.latest last ended]
      exact credits.credit first begun
    · intro inOrder first begun latest all
      have span : (credited (s.callsOf client) : Int) ≤ latest - first.time := by
        have credit := credits.credit first begun
        rw [(setBack_eq_zero_iff _).mpr inOrder, ← credits.latest _ last] at credit
        have bound := all _ (List.getLast_mem credits.begun)
        omega
      refine ⟨span, passes_le.trans ?_⟩
      have earned : (rate : ℚ) * ((credited (s.callsOf client) : ℚ) / 1000000000) ≤
          rate * seconds first.time latest := by
        refine mul_le_mul_of_nonneg_left ?_ (Nat.cast_nonneg _)
        refine div_le_div_of_nonneg_right ?_ (by norm_num)
        exact_mod_cast span
      linarith

private def overtaking : List Action :=
  [.arrive "10.0.0.7", .turn 0, .arrive "10.0.0.7", .turn 0, .arrive "10.0.0.7",
    .pass 1000000000, .arrive "10.0.0.7", .turn 1, .turn 0, .arrive "10.0.0.7", .turn 0]

/-- A request that is overtaken sets the bucket back by a second, which is credited again. -/
theorem run_credited_overtaking : ∃ s : SharedLimiter ℚ, (start 1 0).run overtaking = some s ∧
    (s.callsOf "10.0.0.7").map (·.time) = [0, 0, 1000000000, 0, 1000000000] ∧
    setBack (s.callsOf "10.0.0.7") = 1000000000 ∧ s.Credited 1 "10.0.0.7" := by
  have ran : ∃ s : SharedLimiter ℚ, (start 1 0).run overtaking = some s ∧
      (s.callsOf "10.0.0.7").map (·.time) = [0, 0, 1000000000, 0, 1000000000] ∧
      setBack (s.callsOf "10.0.0.7") = 1000000000 :=
    ⟨_, rfl, rfl, rfl⟩
  obtain ⟨s, run, times, back⟩ := ran
  exact ⟨s, run, times, back, run_credited run "10.0.0.7"⟩

/-- The reading that a bucket keeps can go back, the time that it is credited can be more than the
time that there was, and its client can have more passes than a bucket of that age has tokens. -/
theorem overtaken_credited_twice : ∃ before after s : SharedLimiter ℚ,
    (start 1 0).run (overtaking.take 8) = some before ∧ before.step (.turn 0) = some after ∧
      after.run (overtaking.drop 9) = some s ∧
    (before.limiter.bucket? "10.0.0.7").map Bucket.filledAt = some 1000000000 ∧
    (after.limiter.bucket? "10.0.0.7").map Bucket.filledAt = some 0 ∧
    (s.callsOf "10.0.0.7").map (·.time) = [0, 0, 1000000000, 0, 1000000000] ∧
    credited (s.callsOf "10.0.0.7") = 2000000000 ∧
    (s.callsOf "10.0.0.7").map (·.passed) = [true, true, true, false, true] ∧
    passes (s.callsOf "10.0.0.7") = 4 ∧ ¬(4 : ℚ) ≤ 1 + 1 + 1 * seconds 0 1000000000 := by
  refine ⟨_, _, _, rfl, rfl, rfl, ?_⟩
  decide +kernel

end SharedLimiter

end ProxyMeter.Gate
