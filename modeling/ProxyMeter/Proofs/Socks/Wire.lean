import ProxyMeter.Socks.Wire

/-!
# What exchanges do to a wire

Reading depends on the bytes that are not read, not on the pieces they come in, and takes a known
number of them from the front. An exchange that only reads messages of some form is described by the
form: it succeeds on the bytes that begin with such a message, leaves what follows, and writes
nothing.
-/

namespace ProxyMeter.Socks

open Session

namespace Wire

/-- The bytes that are taken are the first ones. -/
theorem takeBytes_fst (n : Nat) (pieces : List (List UInt8)) :
    (takeBytes n pieces).1 = pieces.flatten.take n := by
  induction pieces generalizing n with
  | nil => simp [takeBytes]
  | cons piece rest ih =>
    rw [takeBytes, List.flatten_cons, List.take_append]
    split
    · next within =>
      rw [Nat.sub_eq_zero_of_le within, List.take_zero, List.append_nil]
    · next beyond =>
      rw [List.take_of_length_le (Nat.le_of_not_le beyond), ← ih]

/-- The bytes that are left are the others. -/
theorem takeBytes_snd (n : Nat) (pieces : List (List UInt8)) :
    (takeBytes n pieces).2.flatten = pieces.flatten.drop n := by
  induction pieces generalizing n with
  | nil => simp [takeBytes]
  | cons piece rest ih =>
    rw [takeBytes, List.flatten_cons, List.drop_append]
    split
    · next within =>
      rw [Nat.sub_eq_zero_of_le within, List.drop_zero, List.flatten_cons]
    · next beyond =>
      rw [List.drop_of_length_le (Nat.le_of_not_le beyond), List.nil_append, ← ih]

/-- Taking bytes twice is taking them at once. -/
theorem takeBytes_takeBytes (m n : Nat) (pieces : List (List UInt8)) :
    (takeBytes n (takeBytes m pieces).2).2 = (takeBytes (m + n) pieces).2 := by
  induction pieces generalizing m with
  | nil => simp [takeBytes]
  | cons piece rest ih =>
    by_cases within : m ≤ piece.length
    · rw [takeBytes.eq_2 m, if_pos within, takeBytes, takeBytes.eq_2 (m + n)]
      have length : (piece.drop m).length = piece.length - m := List.length_drop
      by_cases both : m + n ≤ piece.length
      · rw [if_pos (by omega), if_pos both, List.drop_drop]
      · rw [if_neg (by omega), if_neg both, length,
          show n - (piece.length - m) = m + n - piece.length by omega]
    · rw [takeBytes.eq_2 m, if_neg within, takeBytes.eq_2 (m + n), if_neg (by omega)]
      dsimp only
      rw [ih, show m - piece.length + n = m + n - piece.length by omega]

/-- The wire after its next bytes have been read. -/
def skip (n : Nat) (w : Wire) : Wire := { w with pieces := (takeBytes n w.pieces).2 }

/-- The wire after bytes have been written to a client with room for them. -/
def say (bytes : List UInt8) (w : Wire) : Wire := { w with written := w.written ++ bytes }

@[simp]
theorem unread_skip (n : Nat) (w : Wire) : (w.skip n).unread = w.unread.drop n :=
  takeBytes_snd n w.pieces

@[simp]
theorem skip_zero (w : Wire) : w.skip 0 = w := by
  have all : (takeBytes 0 w.pieces).2 = w.pieces := by
    cases w.pieces with
    | nil => rfl
    | cons piece rest => rw [takeBytes, if_pos (Nat.zero_le _), List.drop_zero]
  rw [skip, all]

@[simp]
theorem skip_skip (m n : Nat) (w : Wire) : (w.skip m).skip n = w.skip (m + n) := by
  rw [skip, skip, skip, takeBytes_takeBytes]

end Wire

/-- Bytes that are enough for a field begin with one. -/
theorem Wire.exists_field {n : Nat} {w : Wire} (enough : ¬ w.unread.length < n) :
    ∃ v : Vector UInt8 n, w.unread = v.toList ++ w.unread.drop n := by
  have length : (w.unread.take n).length = n := by
    rw [List.length_take]
    omega
  exact ⟨⟨(w.unread.take n).toArray, by simpa using length⟩,
    (List.take_append_drop n w.unread).symm⟩

/-- A halt for which the client or its stream is to blame. -/
def Halt.OfClient : Halt → Prop
  | .failed failure => failure.reason = .protocol ∨ failure.reason = .unauthorized
  | .awaiting => True

namespace Exchange

variable {α β : Type}

theorem runOn_pure (a : α) (w : Wire) : (pure a : Exchange α).runOn w = (.ok a, w) := rfl

theorem runOn_fail (failure : Failure) (w : Wire) :
    (fail failure : Exchange α).runOn w = (.error (.failed failure), w) := rfl

/-- One exchange after another: the second runs on the wire that the first leaves. -/
theorem runOn_bind (x : Exchange α) (f : α → Exchange β) (w : Wire) :
    (x >>= f).runOn w = match x.runOn w with
      | (.ok a, w') => (f a).runOn w'
      | (.error halt, w') => (.error halt, w') := by
  rw [runOn, ExceptT.run_bind, StateT.run_bind, runOn]
  cases StateT.run (ExceptT.run x) w with
  | mk outcome w' => cases outcome <;> rfl

theorem runOn_bind_ok {x : Exchange α} {w w' : Wire} {a : α} (h : x.runOn w = (.ok a, w'))
    (f : α → Exchange β) : (x >>= f).runOn w = (f a).runOn w' := by
  rw [runOn_bind, h]

theorem runOn_bind_error {x : Exchange α} {w w' : Wire} {halt : Halt}
    (h : x.runOn w = (.error halt, w')) (f : α → Exchange β) :
    (x >>= f).runOn w = (.error halt, w') := by
  rw [runOn_bind, h]

/-- What comes second may be exchanged for what goes the same way on the wire that is left. -/
theorem runOn_bind_congr {x : Exchange α} {f g : α → Exchange β} {w : Wire}
    (same : ∀ a w', x.runOn w = (.ok a, w') → (f a).runOn w' = (g a).runOn w') :
    (x >>= f).runOn w = (x >>= g).runOn w := by
  rw [runOn_bind, runOn_bind]
  match ran : x.runOn w with
  | (.ok a, w') => exact same a w' ran
  | (.error halt, w') => rfl

/-- Reading bytes that are there. -/
theorem runOn_readExactly_of_append {n : Nat} (short : StreamFault) {w : Wire} (v : Vector UInt8 n)
    {rest : List UInt8} (h : w.unread = v.toList ++ rest) :
    (readExactly n short).runOn w = (.ok v, w.skip n) := by
  have taken : (Wire.takeBytes n w.pieces).1 = v.toList := by
    rw [Wire.takeBytes_fst]
    show w.unread.take n = v.toList
    rw [h, List.take_left' v.length_toList]
  have length : (Wire.takeBytes n w.pieces).1.length = n := by rw [taken, v.length_toList]
  have bytes : (⟨(Wire.takeBytes n w.pieces).1.toArray, by simpa using length⟩ : Vector UInt8 n) =
      v := by
    rw [← Vector.toList_inj, ← taken]
    rfl
  show (if h : (Wire.takeBytes n w.pieces).1.length = n then _ else _ : Exchange _).runOn w = _
  rw [dif_pos length, ← bytes]
  rfl

private theorem length_takeBytes_ne {n : Nat} {w : Wire} (h : w.unread.length < n) :
    ¬ (Wire.takeBytes n w.pieces).1.length = n := by
  rw [Wire.takeBytes_fst]
  show ¬ (w.unread.take n).length = n
  rw [List.length_take]
  omega

/-- Reading bytes that are not there takes all that are, if no more can come. -/
theorem runOn_readExactly_of_ended {n : Nat} (short : StreamFault) {w : Wire}
    (ended : w.ended = true) (h : w.unread.length < n) :
    (readExactly n short).runOn w =
      (.error (.failed (.stream (w.broken.getD short))), w.skip n) := by
  show (if h : (Wire.takeBytes n w.pieces).1.length = n then _ else _ : Exchange _).runOn w = _
  rw [dif_neg (length_takeBytes_ne h), if_pos ended]
  rfl

/-- Reading bytes that are still to come takes none. -/
theorem runOn_readExactly_of_open {n : Nat} (short : StreamFault) {w : Wire}
    (goesOn : ¬ w.ended = true) (h : w.unread.length < n) :
    (readExactly n short).runOn w = (.error .awaiting, w) := by
  show (if h : (Wire.takeBytes n w.pieces).1.length = n then _ else _ : Exchange _).runOn w = _
  rw [dif_neg (length_takeBytes_ne h), if_neg goesOn]
  rfl

/-- Reading bytes that are not there. -/
theorem runOn_readExactly_of_short {n : Nat} (short : StreamFault) {w : Wire}
    (h : w.unread.length < n) : ∃ halt pieces, halt.OfClient ∧
      (readExactly n short).runOn w = (.error halt, { w with pieces }) := by
  by_cases ended : w.ended = true
  · exact ⟨.failed (.stream _), _, .inl rfl, runOn_readExactly_of_ended short ended h⟩
  · exact ⟨.awaiting, w.pieces, trivial, runOn_readExactly_of_open short ended h⟩

/-- Writing to a client that takes everything. -/
theorem runOn_write {w : Wire} (h : w.room = none) (bytes : List UInt8) :
    (write bytes).runOn w = (.ok (), w.say bytes) := by
  cases w with
  | mk pieces ended broken room overflow written =>
    cases h
    rfl

/-- Writing to a client that has room for all bytes. -/
theorem runOn_write_of_le {w : Wire} {room : Nat} (h : w.room = some room) {bytes : List UInt8}
    (fits : bytes.length ≤ room) :
    (write bytes).runOn w = (.ok (), { w.say bytes with room := some (room - bytes.length) }) := by
  cases w with
  | mk pieces ended broken left overflow written =>
    cases h
    show ((if room < bytes.length then _ else _ : Exchange Unit)).runOn _ = _
    rw [if_neg (Nat.not_lt.mpr fits), List.take_of_length_le fits]
    rfl

/-- Writing to a client that does not have room for all bytes. -/
theorem runOn_write_of_lt {w : Wire} {room : Nat} (h : w.room = some room) {bytes : List UInt8}
    (beyond : room < bytes.length) :
    (write bytes).runOn w =
      (.error w.blocked, { w.say (bytes.take room) with room := some 0 }) := by
  cases w with
  | mk pieces ended broken left overflow written =>
    cases h
    show ((if room < bytes.length then _ else _ : Exchange Unit)).runOn _ = _
    rw [if_pos beyond, Nat.sub_eq_zero_of_le (Nat.le_of_lt beyond)]
    rfl

/-- An exchange that reads one message of a form and writes nothing. It succeeds on the bytes that
begin with such a message, gives what the message says, and leaves the bytes after it. -/
structure Reads (x : Exchange α) (form : α → List UInt8 → Prop) : Prop where
  accepts : ∀ {w : Wire} {a : α} {bytes rest : List UInt8}, form a bytes →
    w.unread = bytes ++ rest → x.runOn w = (.ok a, w.skip bytes.length)
  rejects : ∀ w : Wire, (∃ a bytes rest, form a bytes ∧ w.unread = bytes ++ rest) ∨
    ∃ halt pieces, halt.OfClient ∧ x.runOn w = (.error halt, { w with pieces })

namespace Reads

/-- Success means that the bytes begin with a message. -/
theorem runOn_eq_ok_iff {x : Exchange α} {form : α → List UInt8 → Prop} (hx : x.Reads form)
    {w w' : Wire} {a : α} : x.runOn w = (.ok a, w') ↔
      ∃ bytes rest, form a bytes ∧ w.unread = bytes ++ rest ∧ w' = w.skip bytes.length := by
  constructor
  · intro ran
    obtain ⟨b, bytes, rest, said, begins⟩ | ⟨halt, pieces, -, failed⟩ := hx.rejects w
    · rw [hx.accepts said begins] at ran
      cases ran
      exact ⟨bytes, rest, said, begins, rfl⟩
    · rw [failed] at ran
      cases ran
  · rintro ⟨bytes, rest, said, begins, rfl⟩
    exact hx.accepts said begins

/-- Bytes begin with one message at most. -/
theorem unique {x : Exchange α} {form : α → List UInt8 → Prop} (hx : x.Reads form)
    {a a' : α} {message message' rest rest' : List UInt8} (said : form a message)
    (said' : form a' message') (same : message ++ rest = message' ++ rest') :
    a = a' ∧ rest = rest' := by
  have begins : ({ pieces := [message ++ rest] } : Wire).unread = message ++ rest := by
    simp [Wire.unread]
  have ran := hx.accepts said begins
  rw [hx.accepts said' (begins.trans same)] at ran
  obtain ⟨value, wire⟩ := Prod.mk.inj ran
  have left := congrArg Wire.unread wire
  rw [Wire.unread_skip, Wire.unread_skip, begins, List.drop_left, same, List.drop_left] at left
  exact ⟨(Except.ok.inj value).symm, left.symm⟩

/-- A form may be put into other words. -/
theorem congr {x : Exchange α} {form form' : α → List UInt8 → Prop} (hx : x.Reads form)
    (h : ∀ a bytes, form' a bytes ↔ form a bytes) : x.Reads form' where
  accepts said begins := hx.accepts ((h _ _).mp said) begins
  rejects w := by
    apply (hx.rejects w).imp_left
    rintro ⟨a, bytes, rest, said, begins⟩
    exact ⟨a, bytes, rest, (h a bytes).mpr said, begins⟩

/-- Nothing is read to give a value. -/
theorem pure (a : α) : (Pure.pure a : Exchange α).Reads fun b bytes => b = a ∧ bytes = [] where
  accepts := by
    rintro w b bytes rest ⟨rfl, rfl⟩ -
    rw [runOn_pure, List.length_nil, Wire.skip_zero]
  rejects w := .inl ⟨a, [], w.unread, ⟨rfl, rfl⟩, rfl⟩

/-- No message makes a failure a success. -/
theorem fail {failure : Failure} (h : (Halt.failed failure).OfClient) :
    (fail failure : Exchange α).Reads fun _ _ => False where
  accepts said := said.elim
  rejects w := .inr ⟨.failed failure, w.pieces, h, rfl⟩

/-- A field of known length is any bytes of that length. -/
theorem readExactly (n : Nat) (short : StreamFault) :
    (readExactly n short).Reads fun v bytes => bytes = v.toList where
  accepts := by
    rintro w v bytes rest rfl begins
    rw [runOn_readExactly_of_append short v begins, v.length_toList]
  rejects w := by
    by_cases short : w.unread.length < n
    · exact .inr (runOn_readExactly_of_short _ short)
    · obtain ⟨v, begins⟩ := Wire.exists_field short
      exact .inl ⟨v, _, _, rfl, begins⟩

/-- One message after another; the second may depend on what the first says. -/
theorem bind {x : Exchange α} {f : α → Exchange β} {form : α → List UInt8 → Prop}
    {next : α → β → List UInt8 → Prop} (hx : x.Reads form) (hf : ∀ a, (f a).Reads (next a)) :
    (x >>= f).Reads fun b bytes =>
      ∃ a first second, form a first ∧ next a b second ∧ bytes = first ++ second where
  accepts := by
    rintro w b bytes rest ⟨a, first, second, said, follows, rfl⟩ begins
    rw [List.append_assoc] at begins
    rw [runOn_bind_ok (hx.accepts said begins)]
    have left : (w.skip first.length).unread = second ++ rest := by
      rw [Wire.unread_skip, begins, List.drop_left]
    rw [(hf a).accepts follows left, Wire.skip_skip, List.length_append]
  rejects w := by
    obtain ⟨a, first, rest, said, begins⟩ | ⟨halt, pieces, blame, failed⟩ := hx.rejects w
    · have left : (w.skip first.length).unread = rest := by
        rw [Wire.unread_skip, begins, List.drop_left]
      rw [runOn_bind_ok (hx.accepts said begins)]
      obtain ⟨b, second, more, follows, goes⟩ | ⟨halt, pieces, blame, failed⟩ :=
        (hf a).rejects (w.skip first.length)
      · refine .inl ⟨b, first ++ second, more, ⟨a, first, second, said, follows, rfl⟩, ?_⟩
        rw [begins, ← left, goes, List.append_assoc]
      · exact .inr ⟨halt, pieces, blame, failed⟩
    · exact .inr ⟨halt, pieces, blame, runOn_bind_error failed f⟩

/-- What is done with a message does not change how it is read. -/
theorem map {x : Exchange α} {form : α → List UInt8 → Prop} (hx : x.Reads form) (g : α → β) :
    (x >>= fun a => Pure.pure (g a)).Reads fun b bytes => ∃ a, form a bytes ∧ g a = b := by
  apply (hx.bind fun a => pure (g a)).congr
  intro b bytes
  constructor
  · rintro ⟨a, said, rfl⟩
    exact ⟨a, bytes, [], said, ⟨rfl, rfl⟩, (List.append_nil bytes).symm⟩
  · rintro ⟨a, first, second, said, ⟨rfl, rfl⟩, rfl⟩
    exact ⟨a, by rwa [List.append_nil], rfl⟩

/-- A check that fails lets no message through. -/
theorem guard {c : Prop} [Decidable c] {failure : Failure} {k : Unit → Exchange α}
    {form : α → List UInt8 → Prop} (blame : (Halt.failed failure).OfClient)
    (hk : (k ()).Reads form) :
    (if c then Exchange.fail failure >>= k else k ()).Reads fun a bytes => ¬ c ∧ form a bytes := by
  by_cases fails : c
  · rw [if_pos fails]
    exact {
      accepts := fun said => absurd fails said.1
      rejects := fun w => .inr ⟨_, w.pieces, blame, runOn_bind_error (runOn_fail failure w) k⟩ }
  · rw [if_neg fails]
    exact hk.congr fun a bytes => and_iff_right fails

end Reads
end Exchange
end ProxyMeter.Socks
