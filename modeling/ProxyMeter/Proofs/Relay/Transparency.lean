import Mathlib.Algebra.GroupWithZero.Nat
import ProxyMeter.Relay.Script
import ProxyMeter.Relay.Tracked

/-!
# Tracked streams are transparent

What is asked of a tracked stream is asked of the stream inside it, and is answered as that stream
answers. The counts are then known from the exchanges with the inner stream alone: the bytes that
its successful reads bring in, and the bytes that its successful writes take.
-/

namespace ProxyMeter.Relay

/-- A request and its answer. -/
structure Exchange where
  request : Request
  answer : Answer

namespace Exchange

/-- The bytes that a successful read has added to the buffer. -/
def brought : Exchange → List UInt8
  | ⟨.read before, .read (.ready _) after⟩ => after.filled.drop before.filled.length
  | _ => []

/-- How many bytes a successful write has taken. -/
def taken : Exchange → Nat
  | ⟨.write _, .written (.ready n)⟩ => n
  | _ => 0

/-- Exchanges in which no byte is moved. -/
inductive Still : Exchange → Prop
  | pendingRead (before after : Buffer) : Still ⟨.read before, .read .pending after⟩
  | failedRead (before after : Buffer) (fault : Session.StreamFault) :
      Still ⟨.read before, .read (.failed fault) after⟩
  | endOfStream (buffer : Buffer) : Still ⟨.read buffer, .read (.ready ()) buffer⟩
  | pendingWrite (bytes : List UInt8) : Still ⟨.write bytes, .written .pending⟩
  | failedWrite (bytes : List UInt8) (fault : Session.StreamFault) :
      Still ⟨.write bytes, .written (.failed fault)⟩
  | flush (poll : Poll Unit) : Still ⟨.flush, .flushed poll⟩
  | shutdown (poll : Poll Unit) : Still ⟨.shutdown, .shut poll⟩

/-- Where no byte is moved, none is brought in and none is taken. -/
theorem Still.nothing {e : Exchange} (h : e.Still) : e.brought = [] ∧ e.taken = 0 := by
  cases h with
  | endOfStream buffer => exact ⟨List.drop_length, rfl⟩
  | _ => exact ⟨rfl, rfl⟩

end Exchange

/-- A stream whose reads do nothing to a buffer but add bytes at its end. -/
class Appending (σ : Type) [ByteStream σ] : Prop where
  read_appends : ∀ (b : Buffer) (s : σ), ∃ bytes, (ByteStream.read b s).2.1 = b.append bytes

/-- A scripted stream adds what its next move has, or nothing. -/
instance : Appending Script where
  read_appends b s := by
    change ∃ bytes, (s.read b).2.1 = b.append bytes
    unfold Script.read
    split
    · exact ⟨[], by simp [Buffer.append]⟩
    · exact ⟨[], by simp [Buffer.append]⟩
    · exact ⟨[], by simp [Buffer.append]⟩
    · exact ⟨_, rfl⟩

section

variable {σ : Type} [ByteStream σ]

theorem askAll_cons (r : Request) (rest : List Request) (s : σ) :
    askAll (r :: rest) s =
      ((ask r s).1 :: (askAll rest (ask r s).2).1, (askAll rest (ask r s).2).2) := rfl

/-- Requests and the answers of a stream to them. -/
def exchanges (requests : List Request) (s : σ) : List Exchange :=
  requests.zipWith Exchange.mk (askAll requests s).1

/-- The first exchange is with the stream as it is, the others with the stream after it. -/
theorem exchanges_cons (r : Request) (rest : List Request) (s : σ) :
    exchanges (r :: rest) s = ⟨r, (ask r s).1⟩ :: exchanges rest (ask r s).2 := rfl

/-- A read that adds bytes at the end of the buffer brings in these. -/
theorem filled_of_mem_exchanges [Appending σ] {requests : List Request} {s : σ}
    {before after : Buffer} {value : Unit}
    (h : ⟨.read before, .read (.ready value) after⟩ ∈ exchanges requests s) :
    after.filled = before.filled ++
      Exchange.brought ⟨.read before, .read (.ready value) after⟩ := by
  induction requests generalizing s with
  | nil => cases h
  | cons r rest ih =>
    rw [exchanges_cons, List.mem_cons] at h
    rcases h with first | later
    · cases r with
      | read b =>
        obtain ⟨bytes, appended⟩ := Appending.read_appends b s
        simp only [ask, Exchange.mk.injEq, Request.read.injEq, Answer.read.injEq] at first
        rcases first with ⟨rfl, -, rfl⟩
        rw [appended]
        simp [Exchange.brought, Buffer.append]
      | write bytes => cases first
      | flush => cases first
      | shutdown => cases first
    · exact ih later

namespace Tracked

/-- One request: the inner stream answers, and what the exchange moves is counted. -/
theorem ask_eq (r : Request) (t : Tracked σ) :
    ask r t = ((ask r t.inner).1,
      { inner := (ask r t.inner).2
        bytesIn := t.bytesIn + .ofNat (Exchange.brought ⟨r, (ask r t.inner).1⟩).length
        bytesOut := t.bytesOut + .ofNat (Exchange.taken ⟨r, (ask r t.inner).1⟩) }) := by
  cases r with
  | read b =>
    change (Answer.read (t.read b).1 (t.read b).2.1, (t.read b).2.2) = _
    simp only [Tracked.read, ask]
    cases (ByteStream.read b t.inner).1 <;> simp [Exchange.brought, Exchange.taken]
  | write bytes =>
    change (Answer.written (t.write bytes).1, (t.write bytes).2) = _
    simp only [Tracked.write, ask]
    cases (ByteStream.write bytes t.inner).1 <;> simp [Exchange.brought, Exchange.taken]
  | flush =>
    change (Answer.flushed t.flush.1, t.flush.2) = _
    simp [Tracked.flush, ask, Exchange.brought, Exchange.taken]
  | shutdown =>
    change (Answer.shut t.shutdown.1, t.shutdown.2) = _
    simp [Tracked.shutdown, ask, Exchange.brought, Exchange.taken]

/-- Any requests: the inner stream answers, and what the exchanges move is added to the counts. -/
theorem askAll_eq (requests : List Request) (t : Tracked σ) :
    askAll requests t = ((askAll requests t.inner).1,
      { inner := (askAll requests t.inner).2
        bytesIn := t.bytesIn +
          .ofNat ((exchanges requests t.inner).flatMap Exchange.brought).length
        bytesOut := t.bytesOut +
          .ofNat ((exchanges requests t.inner).map Exchange.taken).sum }) := by
  induction requests generalizing t with
  | nil => simp [askAll, exchanges]
  | cons r rest ih =>
    rw [askAll_cons, ask_eq, ih, exchanges_cons, askAll_cons]
    simp only [List.flatMap_cons, List.length_append, List.map_cons, List.sum_cons,
      UInt64.ofNat_add, UInt64.add_assoc]

/-- What is known of a tracked stream after any requests, with the stream inside it asked the same
on its own. -/
structure Transparent (requests : List Request) (inner : σ) (t : Tracked σ) : Prop where
  answers : (askAll requests ({ inner } : Tracked σ)).1 = (askAll requests inner).1
  inner_eq : t.inner = (askAll requests inner).2
  /-- What a successful read brings in stands behind what the buffer held before. -/
  filled : ∀ before value after,
    ⟨.read before, .read (.ready value) after⟩ ∈ exchanges requests inner →
      after.filled = before.filled ++
        Exchange.brought ⟨.read before, .read (.ready value) after⟩
  bytesIn : ((exchanges requests inner).flatMap Exchange.brought).length < UInt64.size →
    t.bytesIn.toNat = ((exchanges requests inner).flatMap Exchange.brought).length
  bytesOut : ((exchanges requests inner).map Exchange.taken).sum < UInt64.size →
    t.bytesOut.toNat = ((exchanges requests inner).map Exchange.taken).sum
  /-- An exchange in which no byte is moved counts nothing, whatever was counted before. -/
  still : ∀ r, Exchange.Still ⟨r, (ask r t).1⟩ →
    (ask r t).2.bytesIn = t.bytesIn ∧ (ask r t).2.bytesOut = t.bytesOut

/-- Whatever is asked of a tracked stream, in whatever order, it answers as the stream inside it
would, and it counts the bytes that are moved and nothing else. -/
theorem askAll_transparent [Appending σ] (requests : List Request) (inner : σ) :
    Transparent requests inner (askAll requests ({ inner } : Tracked σ)).2 := by
  rw [askAll_eq]
  refine ⟨?_, rfl, fun before value after member => filled_of_mem_exchanges member, ?_, ?_, ?_⟩
  · rw [askAll_eq]
  · intro small
    simp only [UInt64.zero_add]
    exact UInt64.toNat_ofNat_of_lt' small
  · intro small
    simp only [UInt64.zero_add]
    exact UInt64.toNat_ofNat_of_lt' small
  · intro r still
    rw [ask_eq] at still ⊢
    obtain ⟨brought, taken⟩ := still.nothing
    simp only [brought, taken]
    exact ⟨UInt64.add_zero _, UInt64.add_zero _⟩

end Tracked

end

private def stalling : Script where
  reads := [.data [1, 2, 3], .pending, .failed .connectionReset, .data [4]]
  writes := [.accept 2, .pending, .accept 0, .failed .brokenPipe]

private def mixed : List Request :=
  [.read ⟨[9, 9], 4⟩, .write [5, 6, 7], .write [7], .read ⟨[9, 9, 1, 2], 4⟩, .flush,
    .read ⟨[], 8⟩, .write [7], .read ⟨[8], 8⟩, .write [7], .read ⟨[8], 8⟩, .shutdown, .write [7],
    .read ⟨[8, 4], 8⟩, .read ⟨[8, 4], 8⟩]

/-- A short read into a buffer that is half full, a full buffer, stalls and faults both ways, and
the end of the stream. -/
theorem askAll_transparent_stalling :
    ((exchanges mixed stalling).map Exchange.brought =
        [[1, 2], [], [], [], [], [3], [], [], [], [], [], [], [4], []]) ∧
      ((exchanges mixed stalling).map Exchange.taken =
        [0, 2, 0, 0, 0, 0, 0, 0, 0, 0, 0, 1, 0, 0]) ∧
      Tracked.Transparent mixed stalling
        (askAll mixed ({ inner := stalling } : Tracked Script)).2 :=
  ⟨rfl, rfl, Tracked.askAll_transparent mixed stalling⟩

end ProxyMeter.Relay
