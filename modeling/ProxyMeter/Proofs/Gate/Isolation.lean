import Mathlib.Data.Finset.Card
import ProxyMeter.Proofs.Gate.Overtaking

/-!
# Clients that do not notice each other

A request changes the bucket of its own client and no other. So a client is answered as if nobody
else had asked, whatever the clock reads and however the requests of all clients come between each
other. The others show in the number of clients that are tracked, and nowhere else.
-/

namespace ProxyMeter.Gate

variable {α : Type} [Tokens α]

namespace RateLimiter

/-- A new limiter that is not in use. -/
def off (rate : Nat) : RateLimiter α := { enabled := false, rate }

/-- Two limiters in use that are the same to one client. -/
structure SameTo (client : String) (l l' : RateLimiter α) : Prop where
  enabled : l.enabled = true ∧ l'.enabled = true
  rate : l.rate = l'.rate
  bucket : l.bucket? client = l'.bucket? client

/-- A client's own request is answered alike, and leaves the limiters the same to it. -/
theorem SameTo.own {l l' : RateLimiter α} {r : Request} (same : SameTo r.client l l') :
    l.call r = l'.call r ∧ SameTo r.client (l.after r) (l'.after r) := by
  obtain ⟨⟨enabled, enabled'⟩, rate, bucket⟩ := same
  obtain ⟨stays, kept⟩ := after_enabled_rate l r
  obtain ⟨stays', kept'⟩ := after_enabled_rate l' r
  refine ⟨?_, ⟨stays.trans enabled, stays'.trans enabled'⟩, ?_, ?_⟩
  · rw [call_eq enabled, call_eq enabled', rate, bucket]
  · rw [kept, kept', rate]
  · rw [bucket?_after enabled, bucket?_after enabled', if_pos rfl, if_pos rfl, rate, bucket]

/-- Another client's request leaves a limiter the same. -/
theorem SameTo.other {client : String} {l l' : RateLimiter α} (same : SameTo client l l')
    {r : Request} (other : r.client ≠ client) : SameTo client (l.after r) l' := by
  obtain ⟨⟨enabled, enabled'⟩, rate, bucket⟩ := same
  obtain ⟨stays, kept⟩ := after_enabled_rate l r
  refine ⟨⟨stays.trans enabled, enabled'⟩, kept.trans rate, ?_⟩
  rw [bucket?_after enabled, if_neg (Ne.symm other), bucket]

/-- The calls of a client begin with its first one. -/
theorem callsOf_cons (client : String) (l : RateLimiter α) (r : Request)
    (rest : List Request) :
    l.callsOf client (r :: rest) =
      if r.client = client then l.call r :: (l.after r).callsOf client rest
      else (l.after r).callsOf client rest := by
  by_cases own : r.client = client
  · rw [if_pos own, callsOf, calls, List.filter_cons_of_pos]
    · rfl
    · simpa [call] using own
  · rw [if_neg own, callsOf, calls, List.filter_cons_of_neg]
    · rfl
    · simpa [call] using own

/-- A client among others is answered as it is alone, by a limiter that is the same to it. -/
theorem SameTo.callsOf {client : String} {l l' : RateLimiter α} (same : SameTo client l l')
    (requests : List Request) :
    l.callsOf client requests = l'.calls (requests.filter (·.client == client)) := by
  induction requests generalizing l l' with
  | nil => rfl
  | cons r rest ih =>
    by_cases own : r.client = client
    · subst own
      obtain ⟨alike, next⟩ := same.own
      rw [callsOf_cons, if_pos rfl, List.filter_cons_of_pos (by exact beq_self_eq_true r.client),
        calls, alike, ih next]
    · rw [callsOf_cons, if_neg own, List.filter_cons_of_neg (by simpa using own),
        ih (same.other own)]

/-- The clients that have a bucket. -/
def names (l : RateLimiter α) : List String := l.buckets.map Prod.fst

omit [Tokens α] in
/-- A bucket that is put in place adds the name of its client, unless it is there. -/
theorem map_fst_put (client : String) (b : Bucket α) (buckets : List (String × Bucket α)) :
    (put client b buckets).map Prod.fst =
      if client ∈ buckets.map Prod.fst then buckets.map Prod.fst
      else buckets.map Prod.fst ++ [client] := by
  induction buckets with
  | nil => rfl
  | cons entry rest ih =>
    obtain ⟨name, old⟩ := entry
    by_cases here : name = client
    · rw [put, if_pos here, here]
      simp
    · rw [put, if_neg here, List.map_cons, List.map_cons, ih]
      by_cases later : client ∈ rest.map Prod.fst
      · rw [if_pos later, if_pos (.tail _ later)]
      · rw [if_neg later, if_neg fun member =>
          (List.mem_cons.mp member).elim (fun same => here same.symm) later]
        rfl

/-- A request adds the name of its client, unless it is there. -/
theorem names_after {l : RateLimiter α} (enabled : l.enabled = true) (r : Request) :
    (l.after r).names = if r.client ∈ l.names then l.names else l.names ++ [r.client] := by
  unfold names after allow
  rw [if_pos enabled]
  cases l.bucket? r.client <;> exact map_fst_put _ _ _

/-- A new limiter has a bucket, and only one, for each client that has asked. -/
theorem names_afterAll (rate : Nat) (requests : List Request) :
    ((fresh rate : RateLimiter α).afterAll requests).names.Nodup ∧
      ∀ name, name ∈ ((fresh rate : RateLimiter α).afterAll requests).names ↔
        name ∈ requests.map Request.client := by
  induction requests using List.reverseRecOn with
  | nil => exact ⟨List.nodup_nil, fun name => Iff.rfl⟩
  | append_singleton requests r ih =>
    obtain ⟨once, known⟩ := ih
    obtain ⟨enabled, -⟩ := fresh_enabled_rate (α := α) rate requests
    have last : (fresh rate : RateLimiter α).afterAll (requests ++ [r]) =
        ((fresh rate : RateLimiter α).afterAll requests).after r := afterAll_append _ _ _
    rw [last, names_after enabled]
    by_cases seen : r.client ∈ ((fresh rate : RateLimiter α).afterAll requests).names
    · rw [if_pos seen]
      refine ⟨once, fun name => ?_⟩
      rw [List.map_append, List.mem_append, known, List.map_singleton, List.mem_singleton,
        or_iff_left_of_imp]
      rintro rfl
      exact (known _).mp seen
    · rw [if_neg seen]
      refine ⟨List.concat_eq_append ▸ once.concat seen, fun name => ?_⟩
      rw [List.map_append, List.mem_append, List.mem_append, known]
      rfl

/-- A new limiter tracks as many clients as have asked. -/
theorem trackedClients_afterAll (rate : Nat) (requests : List Request) :
    ((fresh rate : RateLimiter α).afterAll requests).trackedClients =
      (requests.map Request.client).toFinset.card := by
  obtain ⟨once, known⟩ := names_afterAll (α := α) rate requests
  have same : ((fresh rate : RateLimiter α).afterAll requests).names.toFinset =
      (requests.map Request.client).toFinset := by
    ext name
    rw [List.mem_toFinset, List.mem_toFinset, known]
  rw [← same, List.toFinset_card_of_nodup once, names, List.length_map]
  rfl

/-- A limiter that is not in use lets everybody pass, and is as it was. -/
theorem call_of_disabled {l : RateLimiter α} (disabled : l.enabled = false) (r : Request) :
    (l.call r).passed = true ∧ l.after r = l := by
  simp [call, after, allow, disabled]

theorem calls_of_disabled {l : RateLimiter α} (disabled : l.enabled = false)
    (requests : List Request) :
    (∀ v ∈ l.calls requests, v.passed = true) ∧ l.afterAll requests = l := by
  induction requests with
  | nil => exact ⟨nofun, rfl⟩
  | cons r rest ih =>
    obtain ⟨passed, same⟩ := call_of_disabled disabled r
    obtain ⟨later, kept⟩ := ih
    have next : l.afterAll (r :: rest) = (l.after r).afterAll rest := rfl
    rw [calls, next, same]
    exact ⟨List.forall_mem_cons.mpr ⟨passed, later⟩, kept⟩

/-- A limiter keeps the clients of some requests apart, and knows how many they are. -/
structure Isolates (l : RateLimiter α) (requests : List Request) : Prop where
  /-- Each client is answered as if nobody else had asked. -/
  alone : ∀ client,
    l.callsOf client requests = l.calls (requests.filter (·.client == client))
  /-- What others ask changes no answer. -/
  others : ∀ client requests',
    requests'.filter (·.client == client) = requests.filter (·.client == client) →
      l.callsOf client requests' = l.callsOf client requests
  tracked : (l.afterAll requests).trackedClients = (requests.map Request.client).toFinset.card
  /-- No client that has asked is forgotten. -/
  grows : ∀ more, (l.afterAll requests).trackedClients ≤
    (l.afterAll (requests ++ more)).trackedClients

/-- A limiter in use keeps its clients apart. -/
theorem isolates_fresh (rate : Nat) (requests : List Request) :
    Isolates (fresh rate : RateLimiter α) requests := by
  have alone (client : String) (requests : List Request) :
      (fresh rate : RateLimiter α).callsOf client requests =
        (fresh rate).calls (requests.filter (·.client == client)) :=
    SameTo.callsOf ⟨⟨rfl, rfl⟩, rfl, rfl⟩ requests
  refine ⟨fun client => alone client requests, fun client requests' same => ?_,
    trackedClients_afterAll rate requests, fun more => ?_⟩
  · rw [alone, alone, same]
  · rw [trackedClients_afterAll, trackedClients_afterAll, List.map_append, List.toFinset_append]
    exact Finset.card_le_card Finset.subset_union_left

end RateLimiter

/-- In every interleaving a client's calls are those that it would have made alone, with the same
readings of the clock in the same order, and there are as many buckets as clients that have had
turns. -/
theorem SharedLimiter.run_isolated {rate : Nat} {clock : Int} {s : SharedLimiter α}
    {actions : List SharedLimiter.Action}
    (run : (SharedLimiter.start rate clock : SharedLimiter α).run actions = some s) :
    (∀ client, s.callsOf client = (RateLimiter.fresh rate : RateLimiter α).calls
      ((s.callsOf client).map Call.toRequest)) ∧
    s.limiter.trackedClients = (s.calls.map (·.client)).toFinset.card := by
  obtain ⟨requests, limiter, calls⟩ := (run_served run).turns
  have isolates := RateLimiter.isolates_fresh (α := α) rate requests
  constructor
  · intro client
    have own : s.callsOf client =
        (RateLimiter.fresh rate : RateLimiter α).callsOf client requests := by
      rw [SharedLimiter.callsOf, calls]
      rfl
    rw [own, RateLimiter.map_callsOf]
    exact isolates.alone client
  · have clients : s.calls.map (·.client) = requests.map Request.client := by
      rw [calls, ← RateLimiter.map_calls (RateLimiter.fresh rate : RateLimiter α) requests,
        List.map_map, RateLimiter.map_calls]
      rfl
    rw [limiter, clients, isolates.tracked]

namespace RateLimiter

/-- Whatever numbers tokens are counted in, and whatever the clock reads, a limiter in use keeps its
clients apart, in every order of requests and in every interleaving; one that is not in use lets
everybody pass and tracks nobody. -/
theorem calls_isolated (rate : Nat) :
    (∀ requests, Isolates (fresh rate : RateLimiter α) requests) ∧
    (∀ (clock : Int) (actions : List SharedLimiter.Action) (s : SharedLimiter α),
      (SharedLimiter.start rate clock).run actions = some s →
        (∀ client, s.callsOf client =
          (fresh rate : RateLimiter α).calls ((s.callsOf client).map Call.toRequest)) ∧
        s.limiter.trackedClients = (s.calls.map (·.client)).toFinset.card) ∧
    ∀ requests, (∀ v ∈ (off rate : RateLimiter α).calls requests, v.passed = true) ∧
      ((off rate : RateLimiter α).afterAll requests).trackedClients = 0 := by
  refine ⟨isolates_fresh rate, fun clock actions s run => SharedLimiter.run_isolated run,
    fun requests => ?_⟩
  obtain ⟨passed, same⟩ := calls_of_disabled (l := (off rate : RateLimiter α)) rfl requests
  refine ⟨passed, ?_⟩
  rw [same]
  rfl

private def quarrel : List Request :=
  [⟨"10.0.0.7", 0⟩, ⟨"10.0.0.8", 3⟩, ⟨"10.0.0.7", 0⟩, ⟨"10.0.0.8", 2000000000⟩,
    ⟨"10.0.0.7", -1000000000⟩, ⟨"10.0.0.8", -5⟩, ⟨"10.0.0.7", 0⟩]

/-- Between the requests of another client, and while the clock goes to and fro, a client that may
pass once a second is refused exactly where it would be alone. -/
theorem calls_isolated_quarrel :
    ((fresh 1 : RateLimiter ℚ).callsOf "10.0.0.7" quarrel).map Call.passed =
      [true, true, false, true] ∧
    (fresh 1 : RateLimiter ℚ).callsOf "10.0.0.7" quarrel =
      (fresh 1 : RateLimiter ℚ).calls [⟨"10.0.0.7", 0⟩, ⟨"10.0.0.7", 0⟩, ⟨"10.0.0.7", -1000000000⟩,
        ⟨"10.0.0.7", 0⟩] ∧
    ((fresh 1 : RateLimiter ℚ).afterAll quarrel).trackedClients = 2 := by
  have isolated := (calls_isolated (α := ℚ) 1).1 quarrel
  exact ⟨by decide +kernel, isolated.alone "10.0.0.7", isolated.tracked.trans (by decide)⟩

end RateLimiter

end ProxyMeter.Gate
