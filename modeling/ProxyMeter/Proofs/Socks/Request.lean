import ProxyMeter.Proofs.Socks.Handshake

/-!
# What is a request, and what becomes of anything else

The bytes of a stream begin with a request or they do not. If they do, the target is read from them
and what follows is left. If they do not, they are refused: for their version, their command or
their form of address, in this order, for a name that is no text, or because the stream ends before
any of this is known. `Refused` says which it is, how many bytes are read until then, and what the
client is told.
-/

namespace ProxyMeter.Socks

open Session Exchange

/-- A stream ends inside a part of a request. A field of known length is a part, and so are the byte
that tells a length and the two bytes of the port; the fault tells the one from the others. -/
inductive Breaks : List UInt8 → StreamFault → Prop
  | header {bytes : List UInt8} (short : bytes.length < 4) : Breaks bytes .shortField
  | octets {form reserved : UInt8} {size : Nat} {part : List UInt8}
      (fixed : form = 0x01 ∧ size = 4 ∨ form = 0x04 ∧ size = 16) (short : part.length < size) :
      Breaks (0x05 :: 0x01 :: reserved :: form :: part) .shortField
  | length {reserved : UInt8} :
      Breaks [0x05, 0x01, reserved, 0x03] .endOfStream
  | name {reserved length : UInt8} {part : List UInt8} (short : part.length < length.toNat) :
      Breaks (0x05 :: 0x01 :: reserved :: 0x03 :: length :: part) .shortField
  | port {t : Target} {reserved form : UInt8} {address part : List UInt8} (carried : t.Carried)
      (whole : t.encode = form :: address ++ portOctets t.port) (short : part.length < 2) :
      Breaks (0x05 :: 0x01 :: reserved :: form :: (address ++ part)) .endOfStream

/-- Bytes that are no request: the failure, how many bytes are read, and what the client is told.
A stream that was broken off has a fault of its own. -/
inductive Refused (broken : Option StreamFault) :
    List UInt8 → Failure → Nat → List UInt8 → Prop
  | version {found command reserved form : UInt8} {rest : List UInt8}
      (wrong : found ≠ 0x05) :
      Refused broken (found :: command :: reserved :: form :: rest)
        (.protocol (.version found)) 4 []
  | command {command reserved form : UInt8} {rest : List UInt8} (other : command ≠ 0x01) :
      Refused broken (0x05 :: command :: reserved :: form :: rest)
        (.protocol (.command command)) 4 (replyBytes 0x07 nowhere)
  | form {reserved form : UInt8} {rest : List UInt8} (unknown : ¬ KnownForm form) :
      Refused broken (0x05 :: 0x01 :: reserved :: form :: rest)
        (.protocol (.addressType form)) 4 (replyBytes 0x08 nowhere)
  | text {reserved length : UInt8} {field rest : List UInt8} (whole : field.length = length.toNat)
      (bad : ∀ s, Text.utf8 s ≠ field) :
      Refused broken
        (0x05 :: 0x01 :: reserved :: 0x03 :: length :: (field ++ rest))
        (.protocol .malformedText) (5 + length.toNat) []
  | ends {bytes : List UInt8} {fault : StreamFault} (breaks : Breaks bytes fault) :
      Refused broken bytes (.stream (broken.getD fault)) bytes.length []

section Grammar

variable (broken : Option StreamFault) (reserved : UInt8) (rest : List UInt8)

/-- A port that is not whole is refused, and one that is whole makes a request. -/
private theorem refused_or_asks_of_address {t : UInt16 → Target} {form : UInt8}
    {address : List UInt8} (carried : ∀ p, (t p).Carried)
    (whole : ∀ p, (t p).encode = form :: address ++ portOctets p) (port : ∀ p, (t p).port = p) :
    (∃ asked more, Asks (0x05 :: 0x01 :: reserved :: form :: (address ++ rest)) asked
        more) ∨
      ∃ failure read said, Refused broken
        (0x05 :: 0x01 :: reserved :: form :: (address ++ rest)) failure read said := by
  match rest with
  | high :: low :: more =>
    refine .inl ⟨t (.ofNat (high.toNat * 256 + low.toNat)), more, carried _, reserved, ?_⟩
    rw [request, whole, portOctets_ofNat]
    simp
  | [_] | [] =>
    refine .inr ⟨_, _, _, .ends (.port (carried 0) ?_ (by simp))⟩
    rw [whole, port]

/-- Octets of a fixed number are whole or not. -/
private theorem refused_or_asks_of_octets {form : UInt8} {size : Nat}
    (host : Vector UInt8 size → Host)
    (fixed : form = 0x01 ∧ size = 4 ∨ form = 0x04 ∧ size = 16)
    (encoded : ∀ octets p, (Target.address ⟨host octets, p⟩).encode =
      form :: octets.toList ++ portOctets p) :
    (∃ t more, Asks (0x05 :: 0x01 :: reserved :: form :: rest) t more) ∨
      ∃ failure read said, Refused broken (0x05 :: 0x01 :: reserved :: form :: rest)
        failure read said := by
  by_cases short : rest.length < size
  · exact .inr ⟨_, _, _, .ends (.octets fixed short)⟩
  · have length : (rest.take size).toArray.size = size := by
      rw [List.size_toArray, List.length_take]
      omega
    have address := refused_or_asks_of_address broken reserved (rest.drop size)
      (t := fun p => .address ⟨host ⟨_, length⟩, p⟩) (fun _ => trivial) (encoded _) fun _ => rfl
    rw [Vector.toList_mk, List.toList_toArray, List.take_append_drop] at address
    exact address

/-- A name is whole or not, and if it is whole it is a text or not. -/
private theorem refused_or_asks_of_name :
    (∃ t more, Asks (0x05 :: 0x01 :: reserved :: 0x03 :: rest) t more) ∨
      ∃ failure read said, Refused broken
        (0x05 :: 0x01 :: reserved :: 0x03 :: rest) failure read said := by
  cases rest with
  | nil => exact .inr ⟨_, _, _, .ends .length⟩
  | cons length rest =>
    by_cases short : rest.length < length.toNat
    · exact .inr ⟨_, _, _, .ends (.name short)⟩
    · have size : (rest.take length.toNat).length = length.toNat := by
        rw [List.length_take]
        omega
      rw [← List.take_append_drop length.toNat rest]
      by_cases text : ∃ s, Text.utf8 s = rest.take length.toNat
      · obtain ⟨s, text⟩ := text
        have bound := length.toNat_lt
        have short : Short s := by
          rw [Short, text, size]
          omega
        have prefixed : lengthPrefixed s = length :: rest.take length.toNat := by
          rw [lengthPrefixed, text, size, UInt8.ofNat_toNat]
        have address := refused_or_asks_of_address broken reserved (rest.drop length.toNat)
          (t := .domain s) (fun _ => short) (fun _ => rfl) fun _ => rfl
        rw [prefixed] at address
        exact address
      · exact .inr ⟨_, _, _, .text size fun s same => text ⟨s, same⟩⟩

/-- Bytes begin with a request or are refused. -/
theorem asks_or_refused (broken : Option StreamFault) (bytes : List UInt8) :
    (∃ t rest, Asks bytes t rest) ∨
      ∃ failure read said, Refused broken bytes failure read said := by
  match bytes with
  | found :: command :: reserved :: form :: rest =>
    by_cases right : found = 0x05
    · by_cases served : command = 0x01
      · subst right served
        by_cases v4 : form = 0x01
        · subst v4
          exact refused_or_asks_of_octets _ _ _ .v4 (.inl ⟨rfl, rfl⟩) fun _ _ => rfl
        · by_cases v6 : form = 0x04
          · subst v6
            exact refused_or_asks_of_octets _ _ _ .v6 (.inr ⟨rfl, rfl⟩) fun _ _ => rfl
          · by_cases name : form = 0x03
            · subst name
              exact refused_or_asks_of_name _ _ _
            · refine .inr ⟨_, _, _, .form ?_⟩
              simp [KnownForm, v4, v6, name]
      · subst right
        exact .inr ⟨_, _, _, .command served⟩
    · exact .inr ⟨_, _, _, .version right⟩
  | [] | [_] | [_, _] | [_, _, _] => exact .inr ⟨_, _, _, .ends (.header (by simp))⟩

/-- Two requests for one target are the same but for the reserved byte and what follows. -/
theorem Asks.same_body {bytes bytes' rest rest' : List UInt8} {t : Target} (h : Asks bytes t rest)
    (h' : Asks bytes' t rest') : ∃ reserved reserved' body,
      bytes = 0x05 :: 0x01 :: reserved :: (body ++ rest) ∧
        bytes' = 0x05 :: 0x01 :: reserved' :: (body ++ rest') := by
  obtain ⟨-, reserved, begins⟩ := h
  obtain ⟨-, reserved', begins'⟩ := h'
  exact ⟨reserved, reserved', t.encode, begins, begins'⟩

end Grammar

namespace Wire

/-- The wire after an exchange that said nothing. -/
theorem leaving_nil (pieces : List (List UInt8)) (w : Wire) :
    w.leaving pieces [] = { w with pieces } := by
  rw [leaving_of_fits fun _ _ => Nat.zero_le _]
  simp

end Wire

namespace Exchange

variable {α β : Type}

/-- An exchange that says something, fails, and leaves the rest of the bytes unread. If the client
has no room for what is said, it fails for that. -/
def Fails (x : Exchange α) (w : Wire) (failure : Failure) (rest said : List UInt8) : Prop :=
  ∃ pieces, pieces.flatten = rest ∧
    (w.Fits said.length → x.runOn w = (.error (.failed failure), w.leaving pieces said)) ∧
    (¬ w.Fits said.length → x.runOn w = (.error w.blocked, w.leaving pieces said))

/-- An exchange that fails and says nothing. -/
theorem fails_of_silent {x : Exchange α} {w : Wire} {failure : Failure}
    {pieces : List (List UInt8)}
    (failed : x.runOn w = (.error (.failed failure), { w with pieces })) :
    x.Fails w failure pieces.flatten [] := by
  refine ⟨pieces, rfl, fun _ => ?_, fun beyond => absurd (fun _ _ => Nat.zero_le _) beyond⟩
  rw [failed, Wire.leaving_nil]

theorem fails_fail (failure : Failure) (w : Wire) :
    (fail failure : Exchange α).Fails w failure w.unread [] :=
  fails_of_silent (runOn_fail failure w)

/-- Nothing is done after a failure. -/
theorem Fails.bind {x : Exchange α} {w : Wire} {failure : Failure} {rest said : List UInt8}
    (hx : x.Fails w failure rest said) (f : α → Exchange β) :
    (x >>= f).Fails w failure rest said := by
  obtain ⟨pieces, left, fits, beyond⟩ := hx
  exact ⟨pieces, left, fun h => runOn_bind_error (fits h) f, fun h => runOn_bind_error (beyond h) f⟩

/-- A message is read, and what is done with it fails. -/
theorem Reads.bind_fails {x : Exchange α} {f : α → Exchange β} {form : α → List UInt8 → Prop}
    (hx : x.Reads form) {w : Wire} {a : α} {bytes more rest said : List UInt8} {failure : Failure}
    (told : form a bytes) (begins : w.unread = bytes ++ more)
    (hf : ∀ pieces, pieces.flatten = more → (f a).Fails { w with pieces } failure rest said) :
    (x >>= f).Fails w failure rest said := by
  have left : (w.skip bytes.length).unread = more := by
    rw [Wire.unread_skip, begins, List.drop_left]
  obtain ⟨pieces, left', fits, beyond⟩ := hf (w.skip bytes.length).pieces left
  have read := runOn_bind_ok (hx.accepts told begins) f
  exact ⟨pieces, left', fun h => read.trans (fits h), fun h => read.trans (beyond h)⟩

/-- Something is said before a failure. -/
theorem fails_write (bytes : List UInt8) {f : Unit → Exchange α} {failure : Failure}
    (hf : ∀ w, (f ()).runOn w = (.error (.failed failure), w)) (w : Wire) :
    (write bytes >>= f).Fails w failure w.unread bytes := by
  refine ⟨w.pieces, rfl, fun fits => ?_, fun beyond => ?_⟩
  · rw [runOn_bind_ok (runOn_write_of_fits fits), hf]
  · rw [runOn_bind_error (runOn_write_of_not_fits beyond)]

/-- Reading more bytes than there are takes all of them, if no more can come. -/
theorem fails_readExactly {n : Nat} (short : StreamFault) {w : Wire} (ended : w.ended = true)
    (h : w.unread.length < n) :
    (readExactly n short).Fails w (.stream (w.broken.getD short)) [] [] := by
  have left : (Wire.takeBytes n w.pieces).2.flatten = [] := by
    show (w.skip n).unread = []
    rw [Wire.unread_skip, List.drop_of_length_le (Nat.le_of_lt h)]
  have silent := fails_of_silent (runOn_readExactly_of_ended short ended h)
  rwa [left] at silent

end Exchange

section Reading

variable {w : Wire}

/-- A port that is not whole cannot be read. -/
private theorem fails_readPort (ended : w.ended = true) (short : w.unread.length < 2) :
    readPort.Fails w (.stream (w.broken.getD .endOfStream)) [] [] :=
  ((fails_readExactly .endOfStream ended short).bind _).bind _

/-- Nor can a target whose port is not whole. -/
private theorem fails_readTarget_of_port {t : Target} {form : UInt8} {address part : List UInt8}
    (ended : w.ended = true) (carried : t.Carried)
    (whole : t.encode = form :: address ++ portOctets t.port) (short : part.length < 2)
    (begins : w.unread = address ++ part) :
    (readTarget form).Fails w (.stream (w.broken.getD .endOfStream)) [] [] := by
  have port (pieces : List (List UInt8)) (left : pieces.flatten = part) :
      readPort.Fails { w with pieces } (.stream (w.broken.getD .endOfStream)) [] [] := by
    refine fails_readPort ended ?_
    show pieces.flatten.length < 2
    rwa [left]
  -- The form that is read first decides which target this is.
  match t, carried, whole with
  | .address ⟨.v4 octets, p⟩, _, whole =>
    obtain ⟨rfl, rfl⟩ := List.cons.inj (List.append_cancel_right whole)
    exact (Reads.readExactly 4 .shortField).bind_fails rfl begins fun pieces left =>
      (port pieces left).bind _
  | .address ⟨.v6 octets, p⟩, _, whole =>
    obtain ⟨rfl, rfl⟩ := List.cons.inj (List.append_cancel_right whole)
    exact (Reads.readExactly 16 .shortField).bind_fails rfl begins fun pieces left =>
      (port pieces left).bind _
  | .domain name p, carried, whole =>
    obtain ⟨rfl, rfl⟩ := List.cons.inj (List.append_cancel_right whole)
    exact reads_readText.bind_fails ⟨carried, rfl⟩ begins fun pieces left =>
      (port pieces left).bind _

/-- A target is not read from octets that are not all there. -/
private theorem fails_readTarget_of_octets {form : UInt8} {size : Nat} (ended : w.ended = true)
    (fixed : form = 0x01 ∧ size = 4 ∨ form = 0x04 ∧ size = 16)
    (short : w.unread.length < size) :
    (readTarget form).Fails w (.stream (w.broken.getD .shortField)) [] [] := by
  obtain ⟨rfl, rfl⟩ | ⟨rfl, rfl⟩ := fixed
  · exact (fails_readExactly .shortField ended short).bind _
  · exact (fails_readExactly .shortField ended short).bind _

/-- Nor is it read from a name whose length is not told. -/
private theorem fails_readTarget_of_length (ended : w.ended = true) (none : w.unread = []) :
    (readTarget 0x03).Fails w (.stream (w.broken.getD .endOfStream)) [] [] := by
  have length : readByte.Fails w (.stream (w.broken.getD .endOfStream)) [] [] :=
    (fails_readExactly .endOfStream ended (by simp [none])).bind _
  exact (length.bind _).bind _

/-- Nor from a name that is not all there. -/
private theorem fails_readTarget_of_name {length : UInt8} {part : List UInt8}
    (ended : w.ended = true) (short : part.length < length.toNat)
    (begins : w.unread = length :: part) :
    (readTarget 0x03).Fails w (.stream (w.broken.getD .shortField)) [] [] := by
  refine Fails.bind (x := readText) ?_ _
  refine reads_readByte.bind_fails rfl begins fun pieces left => ?_
  exact Fails.bind (w := { w with pieces })
    (fails_readExactly .shortField ended (by rwa [Wire.unread, left])) _

/-- A name that is no text is read whole before it is refused. -/
private theorem fails_readTarget_of_text {length : UInt8} {field rest : List UInt8}
    (whole : field.length = length.toNat) (bad : ∀ s, Text.utf8 s ≠ field)
    (begins : w.unread = length :: (field ++ rest)) :
    (readTarget 0x03).Fails w (.protocol .malformedText) rest [] := by
  refine Fails.bind (x := readText) ?_ _
  refine reads_readByte.bind_fails rfl begins fun pieces left => ?_
  refine (Reads.readExactly length.toNat .shortField).bind_fails
    (a := ⟨field.toArray, by simpa using whole⟩) rfl left fun pieces' left' => ?_
  dsimp only
  split
  · next s decoded => exact absurd (Text.ofUtf8?_eq_some_iff.mp decoded) (bad s)
  · rw [← left']
    exact fails_of_silent rfl

/-- What is read after a header that is right. -/
private theorem readRequest_fails {reserved form : UInt8} {more rest : List UInt8}
    {failure : Failure} (begins : w.unread = 0x05 :: 0x01 :: reserved :: form :: more)
    (target : ∀ pieces, pieces.flatten = more →
      (readTarget form).Fails { w with pieces } failure rest []) :
    readRequest.Fails w failure rest [] :=
  (Reads.readExactly 4 .shortField).bind_fails
    (a := #v[0x05, 0x01, reserved, form]) rfl begins target

/-- A stream that breaks inside a request is read to its end. -/
private theorem readRequest_fails_of_breaks {fault : StreamFault} (ended : w.ended = true)
    (breaks : Breaks w.unread fault) :
    readRequest.Fails w (.stream (w.broken.getD fault)) [] [] := by
  generalize begins : w.unread = bytes at breaks
  cases breaks with
  | header short => exact (fails_readExactly .shortField ended (begins ▸ short)).bind _
  | octets fixed short =>
    exact readRequest_fails begins fun pieces left =>
      fails_readTarget_of_octets ended fixed (by rwa [Wire.unread, left])
  | length =>
    exact readRequest_fails begins fun pieces left => fails_readTarget_of_length ended left
  | name short =>
    exact readRequest_fails begins fun pieces left => fails_readTarget_of_name ended short left
  | port carried whole short =>
    exact readRequest_fails begins fun pieces left =>
      fails_readTarget_of_port ended carried whole short left

/-- Bytes that are refused are read as far as it takes to see it, the client is told, and the
exchange fails. Nothing has to come after them, unless they break inside a request. -/
theorem readRequest_fails_of_refused {failure : Failure} {read : Nat} {said : List UInt8}
    (ended : (∃ fault, Breaks w.unread fault) → w.ended = true)
    (refused : Refused w.broken w.unread failure read said) :
    readRequest.Fails w failure (w.unread.drop read) said := by
  generalize begins : w.unread = bytes at refused
  cases refused with
  | @version found command reserved form rest wrong =>
    refine (Reads.readExactly 4 .shortField).bind_fails
      (a := #v[found, command, reserved, form]) rfl begins fun pieces left => ?_
    show Fails (if found ≠ version then _ else _) _ _ _ _
    rw [if_pos (show found ≠ version from wrong)]
    subst left
    exact (fails_fail _ { w with pieces }).bind _
  | @command command reserved form rest other =>
    refine (Reads.readExactly 4 .shortField).bind_fails
      (a := #v[0x05, command, reserved, form]) rfl begins fun pieces left => ?_
    show Fails (if command ≠ connectCommand then _ else _) _ _ _ _
    rw [if_pos (show command ≠ connectCommand from other)]
    exact left ▸ fails_write _ (fun _ => rfl) { w with pieces }
  | @form reserved form rest unknown =>
    refine (Reads.readExactly 4 .shortField).bind_fails
      (a := #v[0x05, 0x01, reserved, form]) rfl begins fun pieces left => ?_
    show (readTarget form).Fails _ _ _ _
    rw [readTarget_of_unknown unknown]
    exact left ▸ fails_write _ (fun _ => rfl) { w with pieces }
  | @text reserved length field rest whole bad =>
    refine readRequest_fails begins fun pieces left => ?_
    have rest : (0x05 :: 0x01 :: reserved :: 0x03 :: length ::
        (field ++ rest)).drop (5 + length.toNat) = rest := by
      rw [Nat.add_comm, ← whole]
      simp
    rw [rest]
    exact fails_readTarget_of_text whole bad left
  | ends breaks =>
    rw [List.drop_length]
    subst begins
    exact readRequest_fails_of_breaks (ended ⟨_, breaks⟩) breaks

/-- A request gives its target, says nothing, and leaves what follows it. -/
theorem readRequest_accepts {t : Target} {rest : List UInt8} (asks : Asks w.unread t rest) :
    ∃ pieces, pieces.flatten = rest ∧ readRequest.runOn w = (.ok t, { w with pieces }) := by
  obtain ⟨pieces, left, ran⟩ := (readRequest_gives asks).runOn fun _ _ => Nat.zero_le _
  rw [Wire.leaving_nil] at ran
  exact ⟨pieces, left, ran⟩

/-- Nothing else gives a target, be the stream at its end or not. -/
theorem readRequest_stops_of_not_asks (none : ∀ t rest, ¬ Asks w.unread t rest) :
    ∃ said, readRequest.Stops w said := by
  by_cases known : ∀ command form, Heads w.unread command form →
      command = 0x01 ∧ KnownForm form
  · exact ⟨_, readRequest_stops none known⟩
  · simp only [Classical.not_forall] at known
    obtain ⟨command, form, heads, other⟩ := known
    by_cases served : command = 0x01
    · subst served
      exact ⟨_, readRequest_stops_of_form heads fun known => other ⟨rfl, known⟩⟩
    · exact ⟨_, readRequest_stops_of_command heads served⟩

/-- What gives a target is a request for it. -/
theorem asks_of_readRequest {w' : Wire} {t : Target} (ran : readRequest.runOn w = (.ok t, w')) :
    Asks w.unread t w'.unread := by
  by_cases asks : ∃ t rest, Asks w.unread t rest
  · obtain ⟨t', rest, asks⟩ := asks
    obtain ⟨-, rfl, rfl⟩ := (readRequest_gives asks).of_runOn ran
    exact asks
  · obtain ⟨said, stops⟩ := readRequest_stops_of_not_asks fun t rest h => asks ⟨t, rest, h⟩
    exact absurd ran stops.runOn_ne

end Reading

/-- Reading a request accepts the bytes that begin with one and is the inverse of writing it: any
target that can be carried, with any reserved byte, is read back, nothing is said, and what follows
is left; what is read as a target is a request for it, so that two requests for one target differ in
the reserved byte and in what follows them. All other bytes are refused for one of the reasons there
are. These decide the failure, how much is read, and what the client is told. -/
theorem readRequest_exact :
    (∀ (w : Wire) (t : Target) (reserved : UInt8) (rest : List UInt8), t.Carried →
      w.unread = request 0x01 reserved t ++ rest →
        ∃ pieces, pieces.flatten = rest ∧ readRequest.runOn w = (.ok t, { w with pieces })) ∧
    (∀ (w w' : Wire) (t : Target), readRequest.runOn w = (.ok t, w') →
      t.Carried ∧ ∃ reserved, w.unread = request 0x01 reserved t ++ w'.unread) ∧
    (∀ (w₁ w₂ w₁' w₂' : Wire) (t : Target), readRequest.runOn w₁ = (.ok t, w₁') →
      readRequest.runOn w₂ = (.ok t, w₂') → ∃ reserved₁ reserved₂ body,
        w₁.unread = 0x05 :: 0x01 :: reserved₁ :: (body ++ w₁'.unread) ∧
          w₂.unread = 0x05 :: 0x01 :: reserved₂ :: (body ++ w₂'.unread)) ∧
    (∀ (broken : Option StreamFault) (bytes : List UInt8),
      (∀ t reserved rest, t.Carried → bytes ≠ request 0x01 reserved t ++ rest) →
        ∃ failure read said, Refused broken bytes failure read said) ∧
    (∀ (w : Wire) (failure : Failure) (read : Nat) (said : List UInt8),
      ((∃ fault, Breaks w.unread fault) → w.ended = true) →
      Refused w.broken w.unread failure read said →
        readRequest.Fails w failure (w.unread.drop read) said) := by
  refine ⟨?_, ?_, ?_, ?_, ?_⟩
  · intro w t reserved rest carried begins
    exact readRequest_accepts ⟨carried, reserved, begins⟩
  · intro w w' t ran
    exact asks_of_readRequest ran
  · intro w₁ w₂ w₁' w₂' t ran₁ ran₂
    exact (asks_of_readRequest ran₁).same_body (asks_of_readRequest ran₂)
  · intro broken bytes none
    obtain ⟨t, rest, carried, reserved, begins⟩ | refused := asks_or_refused broken bytes
    · exact absurd begins (none t reserved rest carried)
    · exact refused
  · intro w failure read said ended refused
    exact readRequest_fails_of_refused ended refused

/-- A request with a byte after it; one whose reserved byte is another; a name that is no text, with
no port after it; another command; and a port of one byte. -/
theorem readRequest_exact_told :
    (∃ pieces, pieces.flatten = [7] ∧
      readRequest.runOn { pieces := [request 0x01 0 (.domain "a" 80), [7]] } =
        (.ok (.domain "a" 80), { pieces })) ∧
    (∃ reserved, [5, 1, 9, 3, 1, 97, 0, 80] =
      request 0x01 reserved (.domain "a" 80) ++ []) ∧
    readRequest.Fails { pieces := [[5, 1, 0], [3, 1, 0xFF]] } (.protocol .malformedText) [] [] ∧
    readRequest.Fails { pieces := [[5, 2, 0, 9, 8]], ended := false } (.protocol (.command 2)) [8]
      (replyBytes 0x07 nowhere) ∧
    readRequest.Fails { pieces := [[5, 1, 0, 1, 127, 0, 0, 1, 0]] } (.stream .endOfStream) []
      [] := by
  obtain ⟨accepts, reads, -, -, refuses⟩ := readRequest_exact
  have noText (s : String) : Text.utf8 s ≠ [0xFF] := fun same => by
    have decoded := Text.ofUtf8?_eq_some_iff.mpr same
    have undecoded : Text.ofUtf8? [0xFF] = none := by decide +kernel
    rw [undecoded] at decoded
    cases decoded
  have text : Refused none [5, 1, 0, 3, 1, 0xFF] (.protocol .malformedText) 6 [] :=
    @Refused.text none 0 1 [0xFF] [] rfl noText
  have port : Breaks [5, 1, 0, 1, 127, 0, 0, 1, 0] .endOfStream :=
    @Breaks.port (.address ⟨.v4 #v[127, 0, 0, 1], 80⟩) 0 1 [127, 0, 0, 1] [0] trivial rfl
      (by decide)
  refine ⟨?_, ?_, ?_, ?_, ?_⟩
  · exact accepts _ (.domain "a" 80) 0 [7] (by decide : Short "a") rfl
  · exact (reads { pieces := [[5, 1, 9, 3, 1, 97, 0, 80]] } { pieces := [[]] } _ rfl).2
  · exact refuses { pieces := [[5, 1, 0], [3, 1, 0xFF]] } _ 6 _ (fun _ => rfl) text
  · refine refuses { pieces := [[5, 2, 0, 9, 8]], ended := false } _ 4 _ ?_ (.command (by decide))
    rintro ⟨fault, breaks⟩
    cases breaks with
    | header short => exact absurd short (by decide)
  · exact refuses { pieces := [[5, 1, 0, 1, 127, 0, 0, 1, 0]] } _ 9 _ (fun _ => rfl) (.ends port)

end ProxyMeter.Socks
