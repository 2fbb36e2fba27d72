import Mathlib.Data.List.Induction
import ProxyMeter.Gate.Calls

/-!
# What a limiter answers

A limiter answers requests one after the other, each with its own reading of the clock. What a
client is answered depends on the bucket that its own earlier requests have left, and on nothing
else: `calls_induction` follows one client's bucket through the requests of all.
-/

namespace ProxyMeter.Gate

variable {α : Type} [Tokens α]

/-- The call that a request is, and the bucket that it leaves to its client. A client without a
bucket passes and gets a full one. -/
def Bucket.answer (rate : Nat) (r : Request) : Option (Bucket α) → Call × Bucket α
  | none => ({ r with passed := true, credited := 0 }, .full rate r.time)
  | some b =>
    let (passed, b') := b.request rate r.time
    ({ r with passed, credited := (r.time - b.filledAt).toNat }, b')

namespace RateLimiter

omit [Tokens α] in
/-- A bucket that is put in place is found there, and every other one where it was. -/
theorem lookup_put (client name : String) (b : Bucket α) (buckets : List (String × Bucket α)) :
    (put client b buckets).lookup name =
      if name = client then some b else buckets.lookup name := by
  induction buckets with
  | nil =>
    by_cases same : name = client
    · simp [put, same]
    · have differ : (name == client) = false := beq_eq_false_iff_ne.mpr same
      simp [put, List.lookup_cons, same, differ]
  | cons entry rest ih =>
    obtain ⟨other, old⟩ := entry
    by_cases here : other = client
    · subst here
      by_cases same : name = other
      · simp [put, same]
      · have differ : (name == other) = false := beq_eq_false_iff_ne.mpr same
        simp [put, List.lookup_cons, same, differ]
    · rw [put, if_neg here, List.lookup_cons, List.lookup_cons]
      by_cases found : name = other
      · have differ : name ≠ client := fun same => here (found.symm.trans same)
        rw [if_neg differ, found, beq_self_eq_true]
      · have differ : (name == other) = false := beq_eq_false_iff_ne.mpr found
        rw [differ]
        exact ih

/-- Requests leave a limiter in use, and at its rate. -/
theorem after_enabled_rate (l : RateLimiter α) (r : Request) :
    (l.after r).enabled = l.enabled ∧ (l.after r).rate = l.rate := by
  unfold after allow
  split
  · split <;> exact ⟨rfl, rfl⟩
  · exact ⟨rfl, rfl⟩

/-- A client is answered by its bucket. -/
theorem call_eq {l : RateLimiter α} (enabled : l.enabled = true) (r : Request) :
    l.call r = (Bucket.answer l.rate r (l.bucket? r.client)).1 := by
  cases known : l.bucket? r.client <;> simp [call, allow, Bucket.answer, enabled, known]

/-- A request leaves every bucket but its client's as it is. -/
theorem bucket?_after {l : RateLimiter α} (enabled : l.enabled = true) (r : Request)
    (client : String) :
    (l.after r).bucket? client =
      if client = r.client then some (Bucket.answer l.rate r (l.bucket? r.client)).2
      else l.bucket? client := by
  have buckets : (l.after r).buckets =
      put r.client (Bucket.answer l.rate r (l.bucket? r.client)).2 l.buckets := by
    cases known : l.bucket? r.client <;> simp [after, allow, Bucket.answer, enabled, known]
  rw [bucket?, buckets, lookup_put]
  rfl

theorem afterAll_append (l : RateLimiter α) (before after : List Request) :
    l.afterAll (before ++ after) = (l.afterAll before).afterAll after := List.foldl_append

theorem calls_append (l : RateLimiter α) (before after : List Request) :
    l.calls (before ++ after) = l.calls before ++ (l.afterAll before).calls after := by
  induction before generalizing l with
  | nil => rfl
  | cons r rest ih => exact congrArg (l.call r :: ·) (ih (l.after r))

/-- Each request is one call. -/
theorem map_calls (l : RateLimiter α) (requests : List Request) :
    (l.calls requests).map Call.toRequest = requests := by
  induction requests generalizing l with
  | nil => rfl
  | cons r rest ih => exact congrArg (r :: ·) (ih (l.after r))

/-- A client's calls are its requests. -/
theorem map_callsOf (client : String) (l : RateLimiter α) (requests : List Request) :
    (l.callsOf client requests).map Call.toRequest =
      requests.filter (·.client == client) := by
  conv_rhs => rw [← map_calls l requests]
  rw [callsOf, List.filter_map]
  rfl

/-- A client's calls end with its latest one. -/
theorem callsOf_concat (l : RateLimiter α) (requests : List Request) (r : Request) :
    l.callsOf r.client (requests ++ [r]) =
      l.callsOf r.client requests ++ [(l.afterAll requests).call r] := by
  rw [callsOf, calls_append, List.filter_append, calls, calls, List.filter_cons_of_pos]
  · rfl
  · exact beq_self_eq_true r.client

/-- The calls of one client are not those of another. -/
theorem callsOf_concat_of_ne (l : RateLimiter α) (requests : List Request) {r : Request}
    {client : String} (other : r.client ≠ client) :
    l.callsOf client (requests ++ [r]) = l.callsOf client requests := by
  rw [callsOf, calls_append, List.filter_append, calls, calls, List.filter_cons_of_neg]
  · exact List.append_nil _
  · simpa [call] using other

/-- A new limiter stays in use, and at its rate. -/
theorem fresh_enabled_rate (rate : Nat) (requests : List Request) :
    ((fresh rate : RateLimiter α).afterAll requests).enabled = true ∧
      ((fresh rate : RateLimiter α).afterAll requests).rate = rate := by
  induction requests using List.reverseRecOn with
  | nil => exact ⟨rfl, rfl⟩
  | append_singleton requests r ih =>
    rw [afterAll_append]
    obtain ⟨enabled, same⟩ := after_enabled_rate ((fresh rate : RateLimiter α).afterAll requests) r
    exact ⟨enabled.trans ih.1, same.trans ih.2⟩

/-- What the first call of a client makes true of its calls and its bucket, and each later one
keeps, is true after any requests of any clients. -/
theorem calls_induction (rate : Nat) (client : String) {P : List Call → Bucket α → Prop}
    (first : ∀ r : Request, r.client = client →
      P [(Bucket.answer rate r (none : Option (Bucket α))).1] (.full rate r.time))
    (next : ∀ seen b, P seen b → ∀ r : Request, r.client = client →
      P (seen ++ [(Bucket.answer rate r (some b)).1]) (Bucket.answer rate r (some b)).2)
    (requests : List Request) :
    ((fresh rate : RateLimiter α).afterAll requests).bucket? client = none ∧
        (fresh rate : RateLimiter α).callsOf client requests = [] ∨
      ∃ b, ((fresh rate : RateLimiter α).afterAll requests).bucket? client = some b ∧
        P ((fresh rate : RateLimiter α).callsOf client requests) b := by
  induction requests using List.reverseRecOn with
  | nil => exact .inl ⟨rfl, rfl⟩
  | append_singleton requests r ih =>
    obtain ⟨enabled, same⟩ := fresh_enabled_rate (α := α) rate requests
    have bucket : ((fresh rate : RateLimiter α).afterAll (requests ++ [r])).bucket? client =
        (((fresh rate : RateLimiter α).afterAll requests).after r).bucket? client := by
      rw [afterAll_append]
      rfl
    rw [bucket, bucket?_after enabled, same]
    by_cases own : client = r.client
    · subst own
      rw [if_pos rfl, callsOf_concat, call_eq enabled, same]
      refine .inr ⟨_, rfl, ?_⟩
      obtain ⟨new, none⟩ | ⟨b, known, before⟩ := ih
      · rw [new, none]
        exact first r rfl
      · rw [known]
        exact next _ b before r rfl
    · rw [if_neg own, callsOf_concat_of_ne _ _ (Ne.symm own)]
      exact ih

end RateLimiter
end ProxyMeter.Gate
