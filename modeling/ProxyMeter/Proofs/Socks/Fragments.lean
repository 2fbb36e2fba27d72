import ProxyMeter.Proofs.Socks.Composed

/-!
# How the stream is cut does not matter

The bytes of a client arrive in pieces, and a field may lie across any number of them. An exchange
ignores the cuts if it goes on a wire as it goes on the wire that holds the same bytes in one piece:
it comes to the same outcome, says the same, and leaves the same bytes. Reading a field and saying
something ignore the cuts, and so does whatever is made of them.
-/

namespace ProxyMeter.Socks

open Session Gate Exchange

namespace Wire

/-- The wire with all unread bytes in one piece. -/
def whole (w : Wire) : Wire := { w with pieces := [w.unread] }

@[simp] theorem unread_whole (w : Wire) : w.whole.unread = w.unread := by
  simp [whole, unread]

@[simp] theorem written_whole (w : Wire) : w.whole.written = w.written := rfl

@[simp] theorem whole_whole (w : Wire) : w.whole.whole = w.whole := by
  rw [whole, unread_whole]
  rfl

/-- The same bytes are left after so many, however they are cut. -/
theorem whole_skip (n : Nat) (w : Wire) : (w.whole.skip n).whole = (w.skip n).whole := by
  rw [whole, unread_skip, unread_whole, ← unread_skip]
  rfl

/-- What is said has nothing to do with the cuts. -/
theorem whole_leaving (said : List UInt8) (w : Wire) :
    (w.whole.leaving w.whole.pieces said).whole = (w.leaving w.pieces said).whole := by
  simp [whole, leaving, unread, heard]

end Wire

namespace Exchange

variable {α β : Type}

/-- The outcome of an exchange, and the wire after it without the cuts. -/
def seen (x : Exchange α) (w : Wire) : Except Halt α × Wire :=
  ((x.runOn w).1, (x.runOn w).2.whole)

/-- An exchange that goes the same way however the stream is cut. -/
def IgnoresCuts (x : Exchange α) : Prop := ∀ w, x.seen w.whole = x.seen w

theorem seen_of_runOn {x : Exchange α} {w w' : Wire} {outcome : Except Halt α}
    (ran : x.runOn w = (outcome, w')) : x.seen w = (outcome, w'.whole) := by
  rw [seen, ran]

namespace IgnoresCuts

/-- An exchange goes the same way on two wires that differ in their cuts only. -/
theorem seen_congr {x : Exchange α} (hx : x.IgnoresCuts) {w w' : Wire}
    (same : w.whole = w'.whole) : x.seen w = x.seen w' := by
  rw [← hx w, same, hx w']

theorem pure (a : α) : (Pure.pure a : Exchange α).IgnoresCuts := by
  intro w
  rw [seen_of_runOn (runOn_pure a w), seen_of_runOn (runOn_pure a w.whole), Wire.whole_whole]

theorem fail (failure : Failure) : (fail failure : Exchange α).IgnoresCuts := by
  intro w
  rw [seen_of_runOn (runOn_fail failure w), seen_of_runOn (runOn_fail failure w.whole),
    Wire.whole_whole]

/-- A field is read across the cuts, whether it is there or not. -/
theorem readExactly (n : Nat) (short : StreamFault) : (readExactly n short).IgnoresCuts := by
  intro w
  by_cases missing : w.unread.length < n
  · have missing' : w.whole.unread.length < n := by rwa [Wire.unread_whole]
    by_cases ended : w.ended = true
    · rw [seen_of_runOn (runOn_readExactly_of_ended short ended missing),
        seen_of_runOn (runOn_readExactly_of_ended (w := w.whole) short ended missing'),
        Wire.whole_skip]
      rfl
    · rw [seen_of_runOn (runOn_readExactly_of_open short ended missing),
        seen_of_runOn (runOn_readExactly_of_open (w := w.whole) short ended missing'),
        Wire.whole_whole]
  · obtain ⟨field, begins⟩ := Wire.exists_field missing
    have begins' : w.whole.unread = field.toList ++ w.unread.drop n := by
      rw [Wire.unread_whole, ← begins]
    rw [seen_of_runOn (runOn_readExactly_of_append short field begins),
      seen_of_runOn (runOn_readExactly_of_append short field begins'), Wire.whole_skip]

/-- What is said does not depend on what has arrived. -/
theorem write (bytes : List UInt8) : (write bytes).IgnoresCuts := by
  intro w
  by_cases fits : w.Fits bytes.length
  · have fits' : w.whole.Fits bytes.length := fits
    rw [seen_of_runOn (runOn_write_of_fits fits), seen_of_runOn (runOn_write_of_fits fits'),
      Wire.whole_leaving]
  · have beyond : ¬ w.whole.Fits bytes.length := fits
    rw [seen_of_runOn (runOn_write_of_not_fits fits),
      seen_of_runOn (runOn_write_of_not_fits beyond), Wire.whole_leaving]
    rfl

/-- What comes second goes on where the first has left the bytes. -/
theorem bind {x : Exchange α} {f : α → Exchange β} (hx : x.IgnoresCuts)
    (hf : ∀ a, (f a).IgnoresCuts) : (x >>= f).IgnoresCuts := by
  intro w
  have first := hx w
  -- Both wires come to the same outcome, and what is left on them differs in the cuts only.
  match ran : x.runOn w, ran' : x.runOn w.whole with
  | (.ok a, left), (outcome, left') =>
    rw [seen_of_runOn ran, seen_of_runOn ran'] at first
    obtain ⟨rfl, same⟩ := Prod.mk.inj first
    rw [seen, runOn_bind_ok ran', seen.eq_1 (x >>= f) w, runOn_bind_ok ran]
    exact (hf a).seen_congr same
  | (.error halt, left), (outcome, left') =>
    rw [seen_of_runOn ran, seen_of_runOn ran'] at first
    obtain ⟨rfl, same⟩ := Prod.mk.inj first
    rw [seen_of_runOn (runOn_bind_error ran f), seen_of_runOn (runOn_bind_error ran' f), same]

end IgnoresCuts

/-- Whatever is made of reading and saying ignores the cuts. -/
theorem Composed.ignoresCuts {x : Exchange α} (hx : x.Composed) : x.IgnoresCuts := by
  induction hx with
  | pure a => exact .pure a
  | fail failure => exact .fail failure
  | readExactly n short => exact .readExactly n short
  | write bytes => exact .write bytes
  | bind first second ihFirst ihSecond => exact ihFirst.bind ihSecond

end Exchange

/-- What a server may do with a client's stream, one thing at a time. -/
inductive Call where
  | negotiate (loginRequired : Bool)
  | readCredentials
  | sendLoginStatus (accepted : Bool)
  | readRequest
  | sendReply (code : ReplyCode) (bind : Option Endpoint)
  | handshake (login : Login)

/-- What a call can give. -/
inductive Call.Value where
  | method (m : Method)
  | credentials (given : Credentials)
  | target (t : Target)
  | done

/-- Makes a call. -/
def Call.perform : Call → Exchange Call.Value
  | .negotiate loginRequired => return .method (← Socks.negotiate loginRequired)
  | .readCredentials => return .credentials (← Socks.readCredentials)
  | .sendLoginStatus accepted => do
    Socks.sendLoginStatus accepted
    return .done
  | .readRequest => return .target (← Socks.readRequest)
  | .sendReply code bind => do
    Socks.sendReply code bind
    return .done
  | .handshake login => return .target (← Socks.handshake login)

/-- What there is to see after a call. -/
structure Sight where
  outcome : Except Halt Call.Value
  written : List UInt8
  unread : List UInt8

/-- What there is to see after each of some calls. A call that fails does not keep the next from
being made. -/
def sights : List Call → Wire → List Sight
  | [], _ => []
  | call :: calls, w =>
    let after := call.perform.runOn w
    ⟨after.1, after.2.written, after.2.unread⟩ :: sights calls after.2

theorem Call.composed_perform (call : Call) : call.perform.Composed := by
  cases call with
  | negotiate loginRequired => exact .bind (composed_negotiate loginRequired) fun _ => .pure _
  | readCredentials => exact .bind composed_readCredentials fun _ => .pure _
  | sendLoginStatus accepted => exact .bind (.write _) fun _ => .pure _
  | readRequest => exact .bind composed_readRequest fun _ => .pure _
  | sendReply code bind => exact .bind (.write _) fun _ => .pure _
  | handshake login => exact .bind (composed_handshake login) fun _ => .pure _

theorem Call.ignoresCuts_perform (call : Call) : call.perform.IgnoresCuts :=
  call.composed_perform.ignoresCuts

/-- However a stream is cut, each of any calls comes to the same outcome, has said the same, and
leaves the same bytes as if the stream were in one piece. -/
theorem sights_whole (calls : List Call) (w : Wire) : sights calls w.whole = sights calls w := by
  induction calls generalizing w with
  | nil => rfl
  | cons call calls ih =>
    obtain ⟨outcome, left⟩ := Prod.mk.inj (call.ignoresCuts_perform w)
    have written := congrArg Wire.written left
    have unread := congrArg Wire.unread left
    rw [Wire.written_whole, Wire.written_whole] at written
    rw [Wire.unread_whole, Wire.unread_whole] at unread
    have later : sights calls (call.perform.runOn w.whole).2 =
        sights calls (call.perform.runOn w).2 := by
      rw [← ih, left, ih]
    simp only [sights]
    rw [outcome, written, unread, later]

end ProxyMeter.Socks
