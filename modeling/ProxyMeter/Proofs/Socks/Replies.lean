import ProxyMeter.Proofs.Socks.Handshake

/-!
# What a client makes of a reply

A client that reads a reply as RFC 1928 has it written: version, number of the outcome, a zero, form
of address, address, and a port with its high byte first. It finds the outcome and the address that
were sent, and where the reply ends and the relayed bytes begin. A reply that is cut short is no
reply.
-/

namespace ProxyMeter.Socks

open Session Exchange

section Decoder

variable {α : Type}

/-- The outcome that has a number. -/
def ReplyCode.ofNumber? (number : UInt8) : Option ReplyCode :=
  match number.toNat with
  | 0 => some .succeeded
  | 1 => some .generalFailure
  | 2 => some .notAllowed
  | 3 => some .networkUnreachable
  | 4 => some .hostUnreachable
  | 5 => some .connectionRefused
  | 6 => some .ttlExpired
  | 7 => some .commandNotSupported
  | 8 => some .addressTypeNotSupported
  | _ => none

/-- The first octets, and the bytes after them. -/
def decodeOctets? (n : Nat) (bytes : List UInt8) : Option (Vector UInt8 n × List UInt8) :=
  if h : (bytes.take n).length = n then
    some (⟨(bytes.take n).toArray, by simpa using h⟩, bytes.drop n)
  else none

/-- A port, and the bytes after it. -/
def decodePort? : List UInt8 → Option (UInt16 × List UInt8)
  | high :: low :: rest => some (UInt16.ofNat (high.toNat * 256 + low.toNat), rest)
  | _ => none

/-- A name after the byte that tells its length, and the bytes after it. -/
def decodeName? : List UInt8 → Option (String × List UInt8)
  | length :: bytes => do
    let (name, rest) ← decodeOctets? length.toNat bytes
    return (← Text.ofUtf8? name.toList, rest)
  | [] => none

/-- A target from its address and the port that follows it, and the bytes after them. -/
def decodeTarget? (address : Option (α × List UInt8)) (target : α → UInt16 → Target) :
    Option (Target × List UInt8) := do
  let (a, bytes) ← address
  let (port, rest) ← decodePort? bytes
  return (target a port, rest)

/-- A target of some form, and the bytes after it. -/
def decodeForm? (form : UInt8) (bytes : List UInt8) : Option (Target × List UInt8) :=
  if form = 1 then
    decodeTarget? (decodeOctets? 4 bytes) fun octets port => .address ⟨.v4 octets, port⟩
  else if form = 3 then decodeTarget? (decodeName? bytes) .domain
  else if form = 4 then
    decodeTarget? (decodeOctets? 16 bytes) fun octets port => .address ⟨.v6 octets, port⟩
  else none

/-- A reply: its outcome, the address that it names, and the bytes after it. -/
def decodeReply? : List UInt8 → Option (ReplyCode × Target × List UInt8)
  | 5 :: number :: 0 :: form :: bytes => do
    let code ← ReplyCode.ofNumber? number
    return (code, ← decodeForm? form bytes)
  | _ => none

end Decoder

section Fields

variable {α : Type} {bytes rest : List UInt8}

theorem ReplyCode.ofNumber?_eq_some_iff {number : UInt8} {code : ReplyCode} :
    ReplyCode.ofNumber? number = some code ↔ number = code.code := by
  constructor
  · intro found
    unfold ReplyCode.ofNumber? at found
    split at found
    case h_10 => cases found
    all_goals
      next same =>
        cases found
        exact UInt8.toNat_inj.mp same
  · rintro rfl
    cases code <;> rfl

theorem decodeOctets?_eq_some_iff {n : Nat} {octets : Vector UInt8 n} :
    decodeOctets? n bytes = some (octets, rest) ↔ bytes = octets.toList ++ rest := by
  constructor
  · intro found
    rw [decodeOctets?] at found
    split at found
    · cases found
      exact (List.take_append_drop n bytes).symm
    · cases found
  · rintro rfl
    have taken : (octets.toList ++ rest).take n = octets.toList :=
      List.take_left' octets.length_toList
    have left : (octets.toList ++ rest).drop n = rest := List.drop_left' octets.length_toList
    rw [decodeOctets?, dif_pos (by rw [taken, octets.length_toList]), Option.some.injEq,
      Prod.mk.injEq, ← Vector.toList_inj]
    exact ⟨taken, left⟩

theorem decodePort?_eq_some_iff {port : UInt16} :
    decodePort? bytes = some (port, rest) ↔ bytes = portOctets port ++ rest := by
  constructor
  · intro found
    match bytes, found with
    | high :: low :: rest, rfl => rw [portOctets_ofNat]; rfl
  · rintro rfl
    have port_eq := portOctets_injective (portOctets_ofNat (.ofNat (port.toNat / 256))
      (.ofNat (port.toNat % 256)))
    exact congrArg (fun p => some (p, rest)) port_eq

theorem decodeName?_eq_some_iff {name : String} : decodeName? bytes = some (name, rest) ↔
    Short name ∧ bytes = lengthPrefixed name ++ rest := by
  constructor
  · intro found
    match bytes, found with
    | length :: bytes, found =>
      obtain ⟨⟨octets, left⟩, octetsFound, found⟩ := Option.bind_eq_some_iff.mp found
      obtain ⟨name', nameFound, found⟩ := Option.bind_eq_some_iff.mp found
      cases found
      have text := Text.ofUtf8?_eq_some_iff.mp nameFound
      have bound := length.toNat_lt
      rw [decodeOctets?_eq_some_iff.mp octetsFound, lengthPrefixed, text, Short, text,
        octets.length_toList, UInt8.ofNat_toNat]
      exact ⟨by omega, rfl⟩
  · rintro ⟨short, rfl⟩
    have length : (Text.utf8 name).toArray.size = (UInt8.ofNat (Text.utf8 name).length).toNat := by
      rw [toNat_ofNat_length short, List.size_toArray]
    have octets : decodeOctets? (UInt8.ofNat (Text.utf8 name).length).toNat
        (Text.utf8 name ++ rest) = some (⟨(Text.utf8 name).toArray, length⟩, rest) :=
      decodeOctets?_eq_some_iff.mpr rfl
    have read : Text.ofUtf8? (Text.utf8 name) = some name := Text.ofUtf8?_eq_some_iff.mpr rfl
    simp [lengthPrefixed, decodeName?, octets, read]

theorem decodeTarget?_eq_some_iff {address : Option (α × List UInt8)}
    {target : α → UInt16 → Target} {t : Target} :
    decodeTarget? address target = some (t, rest) ↔
      ∃ a port, address = some (a, portOctets port ++ rest) ∧ t = target a port := by
  constructor
  · intro found
    obtain ⟨⟨a, bytes⟩, addressFound, found⟩ := Option.bind_eq_some_iff.mp found
    obtain ⟨⟨port, left⟩, portFound, found⟩ := Option.bind_eq_some_iff.mp found
    cases found
    exact ⟨a, port, decodePort?_eq_some_iff.mp portFound ▸ addressFound, rfl⟩
  · rintro ⟨a, port, rfl, rfl⟩
    have read : decodePort? (portOctets port ++ rest) = some (port, rest) :=
      decodePort?_eq_some_iff.mpr rfl
    simp [decodeTarget?, read]

/-- What follows a form is decoded as the target whose bytes it is. -/
theorem decodeForm?_eq_some_iff {form : UInt8} {t : Target} :
    decodeForm? form bytes = some (t, rest) ↔ t.Carried ∧ form :: bytes = t.encode ++ rest := by
  constructor
  · intro found
    unfold decodeForm? at found
    split at found
    · next same =>
      obtain ⟨octets, port, read, rfl⟩ := decodeTarget?_eq_some_iff.mp found
      rw [same, decodeOctets?_eq_some_iff.mp read, ← List.append_assoc]
      exact ⟨trivial, rfl⟩
    split at found
    · next same =>
      obtain ⟨name, port, read, rfl⟩ := decodeTarget?_eq_some_iff.mp found
      obtain ⟨short, begins⟩ := decodeName?_eq_some_iff.mp read
      rw [same, begins, ← List.append_assoc]
      exact ⟨short, rfl⟩
    split at found
    · next same =>
      obtain ⟨octets, port, read, rfl⟩ := decodeTarget?_eq_some_iff.mp found
      rw [same, decodeOctets?_eq_some_iff.mp read, ← List.append_assoc]
      exact ⟨trivial, rfl⟩
    · cases found
  · rintro ⟨carried, begins⟩
    match t, carried, begins with
    | .address ⟨.v4 octets, port⟩, carried, begins =>
      obtain ⟨rfl, rfl⟩ := List.cons.inj begins
      rw [decodeForm?, if_pos (by decide)]
      exact decodeTarget?_eq_some_iff.mpr ⟨octets, port,
        decodeOctets?_eq_some_iff.mpr (List.append_assoc _ _ _), rfl⟩
    | .address ⟨.v6 octets, port⟩, carried, begins =>
      obtain ⟨rfl, rfl⟩ := List.cons.inj begins
      rw [decodeForm?, if_neg (by decide), if_neg (by decide), if_pos (by decide)]
      exact decodeTarget?_eq_some_iff.mpr ⟨octets, port,
        decodeOctets?_eq_some_iff.mpr (List.append_assoc _ _ _), rfl⟩
    | .domain name port, short, begins =>
      obtain ⟨rfl, rfl⟩ := List.cons.inj begins
      rw [decodeForm?, if_neg (by decide), if_pos (by decide)]
      exact decodeTarget?_eq_some_iff.mpr ⟨name, port,
        decodeName?_eq_some_iff.mpr ⟨short, List.append_assoc _ _ _⟩, rfl⟩

/-- The bytes that are decoded as a reply are version, number, zero and target, and the rest. -/
theorem decodeReply?_eq_some_iff {code : ReplyCode} {t : Target} :
    decodeReply? bytes = some (code, t, rest) ↔
      t.Carried ∧ bytes = 5 :: code.code :: 0 :: (t.encode ++ rest) := by
  constructor
  · intro found
    unfold decodeReply? at found
    split at found
    · next number form body =>
      obtain ⟨code', read, found⟩ := Option.bind_eq_some_iff.mp found
      obtain ⟨⟨t', rest'⟩, formFound, found⟩ := Option.bind_eq_some_iff.mp found
      cases found
      obtain ⟨carried, begins⟩ := decodeForm?_eq_some_iff.mp formFound
      rw [ReplyCode.ofNumber?_eq_some_iff.mp read, begins]
      exact ⟨carried, rfl⟩
    · cases found
  · rintro ⟨carried, rfl⟩
    obtain ⟨form, body, -, encoded⟩ := exists_form t
    have number : ReplyCode.ofNumber? code.code = some code :=
      ReplyCode.ofNumber?_eq_some_iff.mpr rfl
    have target : decodeForm? form (body ++ rest) = some (t, rest) :=
      decodeForm?_eq_some_iff.mpr ⟨carried, by rw [encoded]; rfl⟩
    rw [encoded]
    simp [decodeReply?, number, target]

/-- Bytes that come after a reply are left over. -/
theorem decodeReply?_append {code : ReplyCode} {t : Target}
    (found : decodeReply? bytes = some (code, t, rest)) (more : List UInt8) :
    decodeReply? (bytes ++ more) = some (code, t, rest ++ more) := by
  obtain ⟨carried, rfl⟩ := decodeReply?_eq_some_iff.mp found
  refine decodeReply?_eq_some_iff.mpr ⟨carried, ?_⟩
  simp only [List.cons_append, List.append_assoc]

end Fields

/-- The message that is sent for a reply: what a client hears that takes everything. -/
def replyMessage (code : ReplyCode) (bind : Option Endpoint) : List UInt8 :=
  ((sendReply code bind).runOn { pieces := [] }).2.written

theorem replyMessage_eq (code : ReplyCode) (bind : Option Endpoint) :
    replyMessage code bind = replyBytes code.code (bind.getD .unspecified) := by
  rw [replyMessage, sendReply_eq, runOn_write rfl]
  rfl

section Messages

variable {code code' : ReplyCode} {bind bind' : Option Endpoint}

/-- A reply is decoded to what was sent, and the bytes after it are left. -/
theorem decodeReply?_replyMessage (code : ReplyCode) (bind : Option Endpoint)
    (payload : List UInt8) : decodeReply? (replyMessage code bind ++ payload) =
      some (code, .address (bind.getD .unspecified), payload) := by
  rw [replyMessage_eq]
  exact decodeReply?_eq_some_iff.mpr ⟨trivial, rfl⟩

/-- The whole message is decoded, with nothing left. -/
theorem decodeReply?_whole (code : ReplyCode) (bind : Option Endpoint) :
    decodeReply? (replyMessage code bind) =
      some (code, .address (bind.getD .unspecified), []) := by
  rw [← decodeReply?_replyMessage code bind [], List.append_nil]

/-- The beginning of a message is no reply. -/
theorem decodeReply?_eq_none_of_prefix {part : List UInt8}
    (begins : part <+: replyMessage code bind) (less : part ≠ replyMessage code bind) :
    decodeReply? part = none := by
  obtain ⟨missing, whole⟩ := begins
  refine Option.eq_none_iff_forall_ne_some.mpr fun (code', t, rest) found => less ?_
  have decoded := decodeReply?_append found missing
  rw [whole, decodeReply?_whole] at decoded
  simp only [Option.some.injEq, Prod.mk.injEq, List.nil_eq, List.append_eq_nil_iff] at decoded
  obtain ⟨-, -, -, none⟩ := decoded
  rw [← whole, none, List.append_nil]

/-- A message with which another begins is that other one. -/
theorem eq_of_replyMessage_prefix (begins : replyMessage code bind <+: replyMessage code' bind') :
    code = code' ∧ bind.getD .unspecified = bind'.getD .unspecified := by
  obtain ⟨missing, whole⟩ := begins
  have decoded := decodeReply?_replyMessage code bind missing
  rw [whole, decodeReply?_whole] at decoded
  simp only [Option.some.injEq, Prod.mk.injEq, Target.address.injEq] at decoded
  exact ⟨decoded.1.symm, decoded.2.1.symm⟩

/-- A reply is ten bytes long, or 22 with an address of sixteen octets. -/
theorem length_replyMessage (code : ReplyCode) (bind : Option Endpoint) :
    (replyMessage code bind).length =
      match bind with
      | some ⟨.v6 _, _⟩ => 22
      | _ => 10 := by
  rw [replyMessage_eq]
  match bind with
  | none => rfl
  | some ⟨.v4 octets, port⟩ => simp [replyBytes, Target.encode, portOctets]
  | some ⟨.v6 octets, port⟩ => simp [replyBytes, Target.encode, portOctets]

end Messages

/-- What a client learns from a reply, and where it finds the end of it; and what a client hears
that takes all of it, or not all. -/
structure Conveys (code : ReplyCode) (bind : Option Endpoint) : Prop where
  length : (replyMessage code bind).length =
    match bind with
    | some ⟨.v6 _, _⟩ => 22
    | _ => 10
  decodes : ∀ payload, decodeReply? (replyMessage code bind ++ payload) =
    some (code, .address (bind.getD ⟨.v4 #v[0, 0, 0, 0], 0⟩), payload)
  unfinished : ∀ part, part <+: replyMessage code bind → part ≠ replyMessage code bind →
    decodeReply? part = none
  apart : ∀ code' bind', replyMessage code bind <+: replyMessage code' bind' →
    code = code' ∧ bind.getD .unspecified = bind'.getD .unspecified
  taken : ∀ w : Wire, w.Fits (replyMessage code bind).length →
    ∃ w', (sendReply code bind).runOn w = (.ok (), w') ∧
      w'.written = w.written ++ replyMessage code bind ∧ w'.unread = w.unread
  cutShort : ∀ (w : Wire) (room : Nat) (fault : StreamFault), w.room = some room →
    room < (replyMessage code bind).length → w.overflow = some fault →
    ∃ w', (sendReply code bind).runOn w = (.error (.failed (.stream fault)), w') ∧
      w'.written = w.written ++ (replyMessage code bind).take room ∧ w'.unread = w.unread

/-- Every reply conveys its outcome and its address, over any stream that takes it, and as much of
it as the stream takes is told. -/
theorem sendReply_conveys (code : ReplyCode) (bind : Option Endpoint) : Conveys code bind where
  length := length_replyMessage code bind
  decodes := decodeReply?_replyMessage code bind
  unfinished _ := decodeReply?_eq_none_of_prefix
  apart _ _ := eq_of_replyMessage_prefix
  taken w fits := by
    rw [replyMessage_eq] at fits ⊢
    rw [sendReply_eq]
    refine ⟨_, runOn_write_of_fits fits, ?_, rfl⟩
    rw [Wire.leaving_of_fits fits]
  cutShort w room fault limit less overflows := by
    rw [replyMessage_eq] at less ⊢
    rw [sendReply_eq]
    have blocked : w.blocked = .failed (.stream fault) := by rw [Wire.blocked, overflows]
    have ran := runOn_write_of_lt limit less
    rw [blocked] at ran
    exact ⟨_, ran, rfl, rfl⟩

/-- A client that is told that it is connected, and breaks off after three bytes. -/
theorem sendReply_conveys_beginning : ∃ w' : Wire,
    (sendReply .succeeded (some ⟨.v4 #v[192, 168, 1, 2], 1234⟩)).runOn
        { pieces := [], room := some 3, overflow := some .brokenPipe } =
      (.error (.failed (.stream .brokenPipe)), w') ∧ w'.written = [5, 0, 0] := by
  obtain ⟨w', ran, written, -⟩ :=
    (sendReply_conveys .succeeded (some ⟨.v4 #v[192, 168, 1, 2], 1234⟩)).cutShort
      { pieces := [], room := some 3, overflow := some .brokenPipe } 3 .brokenPipe rfl
      (by decide) rfl
  exact ⟨w', ran, written⟩

example : decodeReply? [5, 0, 0, 1, 192, 168, 1, 2, 0x04, 0xD2, 7] =
    some (.succeeded, .address ⟨.v4 #v[192, 168, 1, 2], 1234⟩, [7]) := by decide

end ProxyMeter.Socks
