import ProxyMeter.Proofs.Pipeline.Counting

/-!
# What becomes of writes

A write comes to its end when the store has taken its batch or refused it, when it fails for a
reason of its own, or when it has taken too long. That can be seen before the publisher says
anything: from the batch that is being written, the move that ends it, and the store. What the
publisher then says is what was seen.
-/

namespace ProxyMeter.Pipeline

open Store Traffic

variable {σ : Type}

namespace Publisher

/-- A batch whose write has come to its end, and how. -/
structure Outcome where
  records : List Record
  succeeded : Bool

/-- What a notice says about a write. -/
def outcome? : Notice → Option Outcome
  | .stored records _ => some ⟨records, true⟩
  | .lost records _ _ => some ⟨records, false⟩
  | _ => none

/-- How a move ends the write in progress, seen from the publisher before it. -/
def ending? [Repository σ] (p : Publisher σ) (move : Move) : Option Outcome :=
  match p.phase, move with
  | .writing records _ _, .written _ => some ⟨records, (Repository.save records p.store).toBool⟩
  | .writing records _ _, .failed _ _ => some ⟨records, false⟩
  | .writing records _ _, .expired _ => some ⟨records, false⟩
  | _, _ => none

/-- What becomes of a write is left open. -/
def Move.blind : Move → Move
  | .written _ => .written 0
  | .failed _ _ => .written 0
  | .expired _ => .written 0
  | move => move

/-- The publisher before another store. -/
def withStore {τ : Type} (store : τ) (p : Publisher σ) : Publisher τ := { p with store }

/-- While a batch is being written, its write can come to its end and nothing else can happen. -/
theorem Change.of_writing [Repository σ] {now : Nat} {stop : Bool} {p p' : Publisher σ}
    {move : Move} {notices : List Notice} (h : p.Change now stop move notices p')
    {records : List Record} {since : Nat} {last : Bool}
    (writing : p.phase = .writing records since last) :
    ∃ notice succeeded store, notices = notice :: farewell last ∧
      outcome? notice = some ⟨records, succeeded⟩ ∧ p' = (p.withStore store).afterWrite last ∧
      move.blind = .written 0 := by
  have busy : p.phase ≠ .gathering := by simp [writing]
  cases h with
  | take phase | fill phase | idle phase | due phase | heed phase | part phase | finish phase =>
    exact absurd phase busy
  | @stored _ _ _ store took found =>
    cases writing.symm.trans found
    exact ⟨_, true, store, rfl, rfl, rfl, rfl⟩
  | refused took found =>
    cases writing.symm.trans found
    exact ⟨_, false, p.store, rfl, rfl, rfl, rfl⟩
  | failed fault took found =>
    cases writing.symm.trans found
    exact ⟨_, false, p.store, rfl, rfl, rfl, rfl⟩
  | expired took found =>
    cases writing.symm.trans found
    exact ⟨_, false, p.store, rfl, rfl, rfl, rfl⟩

/-- What a move says about writes is how it ends one. -/
theorem Change.outcome_eq [Repository σ] {now : Nat} {stop : Bool} {p p' : Publisher σ}
    {move : Move} {notices : List Notice} (h : p.Change now stop move notices p') :
    notices.filterMap outcome? = (p.ending? move).toList := by
  have silent (last : Bool) : (farewell last).filterMap outcome? = [] := by cases last <;> rfl
  cases h with
  | stored took writing saved =>
    simp [ending?, writing, saved, outcome?, silent, Except.toBool]
  | refused took writing unsaved =>
    simp [ending?, writing, unsaved, outcome?, silent, Except.toBool]
  | failed fault took writing => simp [ending?, writing, outcome?, silent]
  | expired took writing => simp [ending?, writing, outcome?, silent]
  | take gathering | fill gathering | idle gathering | due gathering | heed gathering
  | part gathering | finish gathering => simp [ending?, gathering, outcome?]

/-- The batches of the writes that succeeded are those that were stored. -/
theorem stored_outcomes (notices : List Notice) :
    ((Notice.entries outcome? notices).filter Outcome.succeeded).map Outcome.records =
      Notice.entries Notice.stored? notices := by
  unfold Notice.entries
  induction notices.reverse with
  | nil => rfl
  | cons n notices ih =>
    cases n <;> simp [List.filterMap_cons, outcome?, Notice.stored?, ih]

/-- The batches of the writes that did not succeed are those that were lost. -/
theorem lost_outcomes (notices : List Notice) :
    ((Notice.entries outcome? notices).filter (!·.succeeded)).map Outcome.records =
      Notice.entries Notice.lost? notices := by
  unfold Notice.entries
  induction notices.reverse with
  | nil => rfl
  | cons n notices ih =>
    cases n <;> simp [List.filterMap_cons, outcome?, Notice.lost?, ih]

end Publisher

namespace State

open Publisher (Outcome outcome?)

/-- How an action ends the write in progress, seen from the pipeline before it. -/
def ending? [Repository σ] (s : State σ) : Action → Option Outcome
  | .publisher move => s.publisher.ending? move
  | _ => none

/-- How writes end in a run, the earliest first. -/
def endings [Repository σ] (s : State σ) (actions : List Action) : List Outcome :=
  seen step ending? s actions

/-- A step tells of the write that it ends, and of no other. -/
theorem Change.outcomes_eq [Repository σ] {s s' : State σ} {a : Action} (h : s.Change a s') :
    Notice.entries outcome? s'.notices =
      Notice.entries outcome? s.notices ++ (s.ending? a).toList := by
  have step (notices : List Notice) (ledger : s'.notices = notices.reverse ++ s.notices)
      (told : notices.filterMap outcome? = (s.ending? a).toList) :
      Notice.entries outcome? s'.notices =
        Notice.entries outcome? s.notices ++ (s.ending? a).toList := by
    rw [ledger, Notice.entries_append, told]
  cases h with
  | take e => exact step [.collected e] rfl rfl
  | turnAway e => exact step [.turnedAway _ e] rfl rfl
  | heed => exact step [.workerDraining _] rfl rfl
  | leave => exact step [.workerGone _] (leave_notices _ _ _) rfl
  | normalise createdAt took => exact step [.normalised _ took] rfl rfl
  | drop => exact step [.dropped _ _] rfl rfl
  | publisher change => exact step _ rfl change.outcome_eq
  | _ => exact step [] rfl rfl

/-- A pipeline that has said nothing about writes says in a run how they end. -/
theorem outcomes_of_run [Repository σ] {s₀ s : State σ} {actions : List Action}
    (silent : Notice.entries outcome? s₀.notices = []) (run : s₀.run actions = some s) :
    Notice.entries outcome? s.notices = s₀.endings actions := by
  refine run_induction (P := fun done s => Notice.entries outcome? s.notices = s₀.endings done)
    silent (fun done s a s' ran before step => ?_) run
  rw [(Change.of_step step).outcomes_eq, before, endings, endings, seen_append ending? ran]

end State
end ProxyMeter.Pipeline
