import ProxyMeter.Proofs.Socks.Wire
import ProxyMeter.Socks.Handshake

/-!
# Clients that do not take everything

What an exchange reads, says and comes to does not depend on how much the client takes, as long as
it takes enough. If it does not, the client is told as many bytes as it has room for, and the
exchange stops there.
-/

namespace ProxyMeter.Socks

open Session Gate

namespace Wire

/-- Whether the client has room for so many bytes. -/
def Fits (w : Wire) (n : Nat) : Prop := ∀ room, w.room = some room → n ≤ room

/-- The bytes that the client has room for. -/
def heard (w : Wire) (said : List UInt8) : List UInt8 := (w.room.map said.take).getD said

/-- The wire after an exchange that read and said something. -/
def leaving (pieces : List (List UInt8)) (said : List UInt8) (w : Wire) : Wire :=
  { w with
    pieces
    room := w.room.map (· - said.length)
    written := w.written ++ w.heard said }

theorem fits_of_room_eq_none {w : Wire} (h : w.room = none) (n : Nat) : w.Fits n := by
  intro room some
  rw [h] at some
  cases some

theorem heard_of_fits {w : Wire} {said : List UInt8} (h : w.Fits said.length) :
    w.heard said = said := by
  cases limit : w.room with
  | none => simp [heard, limit]
  | some room => simp [heard, limit, List.take_of_length_le (h room limit)]

theorem heard_prefix (w : Wire) (said : List UInt8) : w.heard said <+: said := by
  cases limit : w.room with
  | none => simp [heard, limit]
  | some room => simp [heard, limit, List.take_prefix]

theorem leaving_of_fits {w : Wire} {pieces : List (List UInt8)} {said : List UInt8}
    (h : w.Fits said.length) :
    w.leaving pieces said = { w with
      pieces
      room := w.room.map (· - said.length)
      written := w.written ++ said } := by
  rw [leaving, heard_of_fits h]

/-- What a client hears that was told something before. -/
theorem heard_append {w : Wire} {first second : List UInt8} (h : w.Fits first.length)
    (pieces : List (List UInt8)) :
    w.heard (first ++ second) = first ++ (w.leaving pieces first).heard second := by
  cases limit : w.room with
  | none => simp [heard, leaving, limit]
  | some room =>
    simp [heard, leaving, limit, List.take_append, List.take_of_length_le (h room limit)]

/-- Where there is no room there is a limit. -/
theorem exists_of_not_fits {w : Wire} {n : Nat} (h : ¬ w.Fits n) :
    ∃ room, w.room = some room ∧ room < n := by
  cases limit : w.room with
  | none => exact absurd (fits_of_room_eq_none limit n) h
  | some room =>
    refine ⟨room, rfl, Nat.lt_of_not_le fun within => h ?_⟩
    intro room' same
    rw [limit] at same
    cases same
    exact within

/-- What is said after there was no more room makes no difference. -/
theorem leaving_append_of_not_fits {w : Wire} {first : List UInt8} (h : ¬ w.Fits first.length)
    (pieces : List (List UInt8)) (second : List UInt8) :
    w.leaving pieces (first ++ second) = w.leaving pieces first := by
  obtain ⟨room, limit, beyond⟩ := exists_of_not_fits h
  have heard : (first ++ second).take room = first.take room := by
    rw [List.take_append, Nat.sub_eq_zero_of_le (Nat.le_of_lt beyond), List.take_zero,
      List.append_nil]
  have left : room - (first.length + second.length) = room - first.length := by omega
  simp [leaving, Wire.heard, limit, heard, left]

/-- There is room for two texts if there is for the first, and then for the second. -/
theorem fits_append_iff {w : Wire} {first second : List UInt8} (pieces : List (List UInt8)) :
    w.Fits (first ++ second).length ↔
      w.Fits first.length ∧ (w.leaving pieces first).Fits second.length := by
  cases limit : w.room with
  | none => simp [Fits, leaving, limit]
  | some room =>
    simp [Fits, leaving, limit]
    omega

end Wire

namespace Exchange

variable {α β : Type}

/-- How an exchange goes on a wire: if the client has room for what is said, it comes to an outcome
and leaves these pieces; if not, it stops when there is no more room. -/
def Comes (x : Exchange α) (w : Wire) (outcome : Except Halt α) (pieces : List (List UInt8))
    (said : List UInt8) : Prop :=
  (w.Fits said.length → x.runOn w = (outcome, w.leaving pieces said)) ∧
    (¬ w.Fits said.length → ∃ pieces', x.runOn w = (.error w.blocked, w.leaving pieces' said))

/-- An exchange that gives a value, leaves the rest of the bytes unread, and says something. -/
def Gives (x : Exchange α) (w : Wire) (a : α) (rest said : List UInt8) : Prop :=
  ∃ pieces, pieces.flatten = rest ∧ x.Comes w (.ok a) pieces said

/-- An exchange that says something and stops, for which the client is to blame. -/
def Stops (x : Exchange α) (w : Wire) (said : List UInt8) : Prop :=
  ∃ halt pieces, halt.OfClient ∧ x.Comes w (.error halt) pieces said

/-- What is done after an exchange that gave a value is done with the value, on the wire that is
left. -/
theorem Comes.bind {x : Exchange α} {f : α → Exchange β} {w : Wire} {a : α}
    {outcome : Except Halt β} {pieces pieces' : List (List UInt8)} {first second : List UInt8}
    (hx : x.Comes w (.ok a) pieces first)
    (hf : (f a).Comes (w.leaving pieces first) outcome pieces' second) :
    (x >>= f).Comes w outcome pieces' (first ++ second) := by
  have after (left : List (List UInt8)) (fits : w.Fits first.length) :
      (w.leaving pieces first).leaving left second = w.leaving left (first ++ second) := by
    have written : w.heard (first ++ second) =
        first ++ (w.leaving pieces first).heard second := Wire.heard_append fits pieces
    rw [Wire.leaving, Wire.leaving.eq_1 left (first ++ second), written]
    simp [Wire.leaving, Wire.heard_of_fits fits, Option.map_map, Function.comp_def, Nat.sub_sub]
  constructor
  · intro fits
    obtain ⟨fitsFirst, fitsSecond⟩ := (Wire.fits_append_iff pieces).mp fits
    rw [runOn_bind_ok (hx.1 fitsFirst), hf.1 fitsSecond, after pieces' fitsFirst]
  · intro beyond
    by_cases fitsFirst : w.Fits first.length
    · have overSecond : ¬ (w.leaving pieces first).Fits second.length := fun fitsSecond =>
        beyond ((Wire.fits_append_iff pieces).mpr ⟨fitsFirst, fitsSecond⟩)
      obtain ⟨left, blocked⟩ := hf.2 overSecond
      rw [runOn_bind_ok (hx.1 fitsFirst), blocked, after left fitsFirst]
      exact ⟨left, rfl⟩
    · obtain ⟨left, blocked⟩ := hx.2 fitsFirst
      refine ⟨left, ?_⟩
      rw [runOn_bind_error blocked, Wire.leaving_append_of_not_fits fitsFirst]

/-- Nothing is done after an exchange that stopped. -/
theorem Comes.bind_error {x : Exchange α} (f : α → Exchange β) {w : Wire} {halt : Halt}
    {pieces : List (List UInt8)} {said : List UInt8} (hx : x.Comes w (.error halt) pieces said) :
    (x >>= f).Comes w (.error halt) pieces said := by
  constructor
  · intro fits
    exact runOn_bind_error (hx.1 fits) f
  · intro beyond
    obtain ⟨left, blocked⟩ := hx.2 beyond
    exact ⟨left, runOn_bind_error blocked f⟩

/-- An exchange that reads a message gives what it says. -/
theorem Reads.gives {x : Exchange α} {form : α → List UInt8 → Prop} (hx : x.Reads form) {w : Wire}
    {a : α} {bytes rest : List UInt8} (said : form a bytes) (begins : w.unread = bytes ++ rest) :
    x.Gives w a rest [] := by
  refine ⟨(w.skip bytes.length).pieces, ?_, fun fits => ?_, fun beyond => ?_⟩
  · show (w.skip bytes.length).unread = rest
    rw [Wire.unread_skip, begins, List.drop_left]
  · rw [hx.accepts said begins, Wire.leaving_of_fits fits]
    simp [Wire.skip]
  · exact absurd (fun _ _ => Nat.zero_le _) beyond

/-- An exchange that finds no message stops, and has said nothing. -/
theorem Reads.stops {x : Exchange α} {form : α → List UInt8 → Prop} (hx : x.Reads form) {w : Wire}
    (none : ∀ a bytes rest, form a bytes → w.unread ≠ bytes ++ rest) : x.Stops w [] := by
  obtain ⟨a, bytes, rest, said, begins⟩ | ⟨halt, pieces, blame, failed⟩ := hx.rejects w
  · exact absurd begins (none a bytes rest said)
  · refine ⟨halt, pieces, blame, fun fits => ?_, fun beyond => ?_⟩
    · rw [failed, Wire.leaving_of_fits fits]
      simp
    · exact absurd (fun _ _ => Nat.zero_le _) beyond

/-- Writing to a client that has room for all bytes. -/
theorem runOn_write_of_fits {w : Wire} {bytes : List UInt8} (fits : w.Fits bytes.length) :
    (write bytes).runOn w = (.ok (), w.leaving w.pieces bytes) := by
  rw [Wire.leaving_of_fits fits]
  cases limit : w.room with
  | none =>
    rw [runOn_write limit, Option.map_none, ← limit]
    rfl
  | some room =>
    rw [runOn_write_of_le limit (fits room limit)]
    rfl

/-- Writing to a client that does not have room for all bytes. -/
theorem runOn_write_of_not_fits {w : Wire} {bytes : List UInt8} (beyond : ¬ w.Fits bytes.length) :
    (write bytes).runOn w = (.error w.blocked, w.leaving w.pieces bytes) := by
  obtain ⟨room, limit, less⟩ := Wire.exists_of_not_fits beyond
  rw [runOn_write_of_lt limit less]
  simp [Wire.leaving, Wire.heard, Wire.say, limit, Nat.sub_eq_zero_of_le (Nat.le_of_lt less)]

/-- Writing reads nothing. -/
theorem gives_write (bytes : List UInt8) (w : Wire) : (write bytes).Gives w () w.unread bytes :=
  ⟨w.pieces, rfl, runOn_write_of_fits, fun beyond => ⟨w.pieces, runOn_write_of_not_fits beyond⟩⟩

theorem gives_pure (a : α) (w : Wire) : (pure a : Exchange α).Gives w a w.unread [] :=
  (Reads.pure a).gives ⟨rfl, rfl⟩ rfl

theorem stops_fail {failure : Failure} (h : (Halt.failed failure).OfClient) (w : Wire) :
    (fail failure : Exchange α).Stops w [] :=
  (Reads.fail h).stops nofun

/-- One exchange that gives a value after another. -/
theorem Gives.bind {x : Exchange α} {f : α → Exchange β} {w : Wire} {a : α} {b : β}
    {rest rest' first second : List UInt8} (hx : x.Gives w a rest first)
    (hf : ∀ w' : Wire, w'.unread = rest → (f a).Gives w' b rest' second) :
    (x >>= f).Gives w b rest' (first ++ second) := by
  obtain ⟨pieces, left, comes⟩ := hx
  obtain ⟨pieces', left', comes'⟩ := hf (w.leaving pieces first) left
  exact ⟨pieces', left', comes.bind comes'⟩

/-- An exchange that stops after one that gave a value. -/
theorem Gives.bind_stops {x : Exchange α} {f : α → Exchange β} {w : Wire} {a : α}
    {rest first second : List UInt8} (hx : x.Gives w a rest first)
    (hf : ∀ w' : Wire, w'.unread = rest → (f a).Stops w' second) :
    (x >>= f).Stops w (first ++ second) := by
  obtain ⟨pieces, left, comes⟩ := hx
  obtain ⟨halt, pieces', blame, comes'⟩ := hf (w.leaving pieces first) left
  exact ⟨halt, pieces', blame, comes.bind comes'⟩

/-- A value that is given without another word. -/
theorem Gives.bind_silent {x : Exchange α} {f : α → Exchange β} {w : Wire} {a : α} {b : β}
    {rest rest' said : List UInt8} (hx : x.Gives w a rest said)
    (hf : ∀ w' : Wire, w'.unread = rest → (f a).Gives w' b rest' []) :
    (x >>= f).Gives w b rest' said := by
  rw [← List.append_nil said]
  exact hx.bind hf

/-- A stop without another word. -/
theorem Gives.bind_stops_silent {x : Exchange α} {f : α → Exchange β} {w : Wire} {a : α}
    {rest said : List UInt8} (hx : x.Gives w a rest said)
    (hf : ∀ w' : Wire, w'.unread = rest → (f a).Stops w' []) : (x >>= f).Stops w said := by
  rw [← List.append_nil said]
  exact hx.bind_stops hf

/-- Nothing comes after an exchange that stops. -/
theorem Stops.bind {x : Exchange α} {w : Wire} {said : List UInt8} (hx : x.Stops w said)
    (f : α → Exchange β) : (x >>= f).Stops w said := by
  obtain ⟨halt, pieces, blame, comes⟩ := hx
  exact ⟨halt, pieces, blame, comes.bind_error f⟩

/-- However much the client takes, it is told what is said as far as it has room. -/
theorem Comes.written {x : Exchange α} {w : Wire} {outcome : Except Halt α}
    {pieces : List (List UInt8)} {said : List UInt8} (h : x.Comes w outcome pieces said) :
    (x.runOn w).2.written = w.written ++ w.heard said := by
  by_cases fits : w.Fits said.length
  · rw [h.1 fits]
    rfl
  · obtain ⟨left, blocked⟩ := h.2 fits
    rw [blocked]
    rfl

theorem Gives.written {x : Exchange α} {w : Wire} {a : α} {rest said : List UInt8}
    (h : x.Gives w a rest said) : (x.runOn w).2.written = w.written ++ w.heard said := by
  obtain ⟨pieces, -, comes⟩ := h
  exact comes.written

theorem Stops.written {x : Exchange α} {w : Wire} {said : List UInt8} (h : x.Stops w said) :
    (x.runOn w).2.written = w.written ++ w.heard said := by
  obtain ⟨halt, pieces, -, comes⟩ := h
  exact comes.written

/-- An exchange that gives a value does so if the client has room for what is said. -/
theorem Gives.runOn {x : Exchange α} {w : Wire} {a : α} {rest said : List UInt8}
    (h : x.Gives w a rest said) (fits : w.Fits said.length) : ∃ pieces, pieces.flatten = rest ∧
      x.runOn w = (.ok a, w.leaving pieces said) := by
  obtain ⟨pieces, left, comes⟩ := h
  exact ⟨pieces, left, comes.1 fits⟩

/-- An exchange that gives a value does so only if the client has room for what is said. -/
theorem Gives.of_runOn {x : Exchange α} {w w' : Wire} {a b : α} {rest said : List UInt8}
    (h : x.Gives w a rest said) (ran : x.runOn w = (.ok b, w')) :
    w.Fits said.length ∧ b = a ∧ w'.unread = rest := by
  obtain ⟨pieces, left, comes⟩ := h
  by_cases fits : w.Fits said.length
  · rw [comes.1 fits] at ran
    cases ran
    exact ⟨fits, rfl, left⟩
  · obtain ⟨pieces', blocked⟩ := comes.2 fits
    rw [blocked] at ran
    cases ran

/-- An exchange that stops gives nothing. -/
theorem Stops.runOn_ne {x : Exchange α} {w w' : Wire} {b : α} {said : List UInt8}
    (h : x.Stops w said) : x.runOn w ≠ (.ok b, w') := by
  obtain ⟨halt, pieces, -, comes⟩ := h
  intro ran
  by_cases fits : w.Fits said.length
  · rw [comes.1 fits] at ran
    cases ran
  · obtain ⟨pieces', blocked⟩ := comes.2 fits
    rw [blocked] at ran
    cases ran

/-- A client that does not take what it is told is to blame. -/
theorem ofClient_blocked (w : Wire) : w.blocked.OfClient := by
  rw [Wire.blocked]
  split
  · exact .inl rfl
  · trivial

/-- If an exchange that would give a value does not, the client is to blame. -/
theorem Gives.ofClient {x : Exchange α} {w w' : Wire} {a : α} {rest said : List UInt8}
    {halt : Halt} (h : x.Gives w a rest said) (ran : x.runOn w = (.error halt, w')) :
    halt.OfClient := by
  obtain ⟨pieces, -, comes⟩ := h
  by_cases fits : w.Fits said.length
  · rw [comes.1 fits] at ran
    cases ran
  · obtain ⟨pieces', blocked⟩ := comes.2 fits
    rw [blocked] at ran
    cases ran
    exact ofClient_blocked w

/-- If an exchange stops, the client is to blame. -/
theorem Stops.ofClient {x : Exchange α} {w w' : Wire} {said : List UInt8} {halt : Halt}
    (h : x.Stops w said) (ran : x.runOn w = (.error halt, w')) : halt.OfClient := by
  obtain ⟨halt', pieces, blame, comes⟩ := h
  by_cases fits : w.Fits said.length
  · rw [comes.1 fits] at ran
    cases ran
    exact blame
  · obtain ⟨pieces', blocked⟩ := comes.2 fits
    rw [blocked] at ran
    cases ran
    exact ofClient_blocked w

theorem Gives.outcome_eq_iff {x : Exchange α} {w : Wire} {a : α} {rest said : List UInt8}
    (h : x.Gives w a rest said) : (x.runOn w).1 = .ok a ↔ w.Fits said.length := by
  constructor
  · intro ran
    exact (h.of_runOn (Prod.ext ran rfl)).1
  · intro fits
    obtain ⟨pieces, -, ran⟩ := h.runOn fits
    rw [ran]

theorem Stops.outcome_ne {x : Exchange α} {w : Wire} {b : α} {said : List UInt8}
    (h : x.Stops w said) : (x.runOn w).1 ≠ .ok b :=
  fun ran => h.runOn_ne (Prod.ext ran rfl)

end Exchange
end ProxyMeter.Socks
