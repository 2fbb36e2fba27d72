import ProxyMeter.Proofs.Socks.Standard
import ProxyMeter.Proofs.Socks.Wire
import ProxyMeter.Proofs.Text.Utf8
import ProxyMeter.Socks.Handshake

/-!
# How messages are read

The forms of the client's messages, and that the handshake reads just these forms.
-/

namespace ProxyMeter.Socks

open Session Gate Exchange

/-- A text that a byte can tell the length of. -/
def Short (s : String) : Prop := (Text.utf8 s).length ≤ 255

instance (s : String) : Decidable (Short s) :=
  decidable_of_iff (s.utf8ByteSize ≤ 255) (by rw [Short, Text.length_utf8])

/-- A target that a request can carry. -/
def Target.Carried : Target → Prop
  | .address _ => True
  | .domain name _ => Short name

theorem toNat_ofNat_length {bytes : List UInt8} (h : bytes.length ≤ 255) :
    (UInt8.ofNat bytes.length).toNat = bytes.length := by
  rw [UInt8.toNat_ofNat']
  omega

/-- The server writes its replies as they are to be written. -/
theorem reply_eq (code : ReplyCode) (bind : Endpoint) :
    reply code bind = replyBytes code.code bind :=
  match bind with
  | ⟨.v4 _, _⟩ | ⟨.v6 _, _⟩ => rfl

/-- A reply is sent in these bytes. -/
theorem sendReply_eq (code : ReplyCode) (bind : Option Endpoint) :
    sendReply code bind = write (replyBytes code.code (bind.getD .unspecified)) := by
  rw [sendReply, reply_eq]

/-- A byte is read from itself. -/
theorem reads_readByte : readByte.Reads fun b bytes => bytes = [b] := by
  apply ((Reads.readExactly 1 .endOfStream).map (·[0])).congr
  intro b bytes
  constructor
  · rintro rfl
    exact ⟨#v[b], rfl, rfl⟩
  · rintro ⟨⟨⟨bytes⟩, size⟩, rfl, rfl⟩
    obtain ⟨b, rfl⟩ := List.length_eq_one_iff.mp size
    rfl

/-- A pair of bytes is read from the two. -/
theorem reads_readPair (short : StreamFault) : (readPair short).Reads
    fun pair bytes => bytes = [pair.1, pair.2] := by
  apply ((Reads.readExactly 2 short).map fun v => (v[0], v[1])).congr
  intro pair bytes
  constructor
  · rintro rfl
    exact ⟨#v[pair.1, pair.2], rfl, rfl⟩
  · rintro ⟨⟨⟨bytes⟩, size⟩, rfl, rfl⟩
    obtain ⟨high, rest, rfl⟩ := List.exists_cons_of_length_eq_add_one size
    obtain ⟨low, rfl⟩ := List.length_eq_one_iff.mp (Nat.succ.inj size)
    rfl

theorem portOctets_ofNat (a b : UInt8) :
    portOctets (UInt16.ofNat (a.toNat * 256 + b.toNat)) = [a, b] := by
  have ha := a.toNat_lt
  have hb := b.toNat_lt
  rw [portOctets, UInt16.toNat_ofNat', Nat.mod_eq_of_lt (by omega)]
  rw [show (a.toNat * 256 + b.toNat) / 256 = a.toNat by omega,
    show (a.toNat * 256 + b.toNat) % 256 = b.toNat by omega, UInt8.ofNat_toNat, UInt8.ofNat_toNat]

theorem portOctets_injective {p q : UInt16} (h : portOctets p = portOctets q) : p = q := by
  have hp := p.toNat_lt
  have hq := q.toNat_lt
  simp only [portOctets, List.cons.injEq, and_true] at h
  have high := congrArg UInt8.toNat h.1
  have low := congrArg UInt8.toNat h.2
  simp only [UInt8.toNat_ofNat'] at high low
  exact UInt16.toNat_inj.mp (by omega)

/-- A port is read from its two bytes. -/
theorem reads_readPort : readPort.Reads fun p bytes => bytes = portOctets p := by
  refine ((reads_readPair .endOfStream).map fun pair =>
    UInt16.ofNat (pair.1.toNat * 256 + pair.2.toNat)).congr fun p bytes => ?_
  constructor
  · rintro rfl
    refine ⟨(.ofNat (p.toNat / 256), .ofNat (p.toNat % 256)), rfl, ?_⟩
    exact portOctets_injective (portOctets_ofNat _ _)
  · rintro ⟨⟨high, low⟩, rfl, rfl⟩
    exact (portOctets_ofNat high low).symm

private theorem reads_decoded (bytes : List UInt8) :
    (match Text.ofUtf8? bytes with
      | some s => return s
      | none => fail (.protocol .malformedText) : Exchange String).Reads
        fun s rest => Text.ofUtf8? bytes = some s ∧ rest = [] := by
  cases decoded : Text.ofUtf8? bytes with
  | some s =>
    apply (Reads.pure s).congr
    intro t rest
    rw [Option.some.injEq, eq_comm]
  | none => exact (Reads.fail (.inl rfl)).congr fun s rest => by simp

/-- A text is read from its bytes after the byte that tells their number. -/
theorem reads_readText : readText.Reads fun s bytes => Short s ∧ bytes = lengthPrefixed s := by
  refine (reads_readByte.bind fun length =>
    (Reads.readExactly length.toNat .shortField).bind fun v =>
      reads_decoded v.toList).congr fun s bytes => ?_
  constructor
  · rintro ⟨short, rfl⟩
    have length : (Text.utf8 s).toArray.size = (UInt8.ofNat (Text.utf8 s).length).toNat := by
      rw [toNat_ofNat_length short, List.size_toArray]
    exact ⟨_, _, _, rfl, ⟨⟨(Text.utf8 s).toArray, length⟩, _, [], rfl,
      ⟨Text.ofUtf8?_eq_some_iff.mpr rfl, rfl⟩, (List.append_nil _).symm⟩, rfl⟩
  · rintro ⟨length, _, _, rfl, ⟨v, _, _, rfl, ⟨decoded, rfl⟩, rfl⟩, rfl⟩
    have text := Text.ofUtf8?_eq_some_iff.mp decoded
    have bound := length.toNat_lt
    refine ⟨?_, ?_⟩
    · rw [Short, text, v.length_toList]
      omega
    · rw [lengthPrefixed, text, v.length_toList, UInt8.ofNat_toNat, List.append_nil]
      rfl

/-- A login is read from its message. -/
theorem reads_readCredentials : readCredentials.Reads fun c bytes =>
    Short c.username ∧ Short c.password ∧ bytes = loginMessage c.username c.password := by
  refine (reads_readByte.bind fun found => Reads.guard (.inl rfl)
    (reads_readText.bind fun username =>
      reads_readText.map fun password => Credentials.mk username password)).congr fun c bytes => ?_
  constructor
  · rintro ⟨username, password, rfl⟩
    exact ⟨_, [0x01], _, rfl, ⟨fun other => other rfl, c.username, _, _, ⟨username, rfl⟩,
      ⟨c.password, ⟨password, rfl⟩, rfl⟩, rfl⟩, rfl⟩
  · rintro ⟨found, _, _, rfl, ⟨same, username, _, _, ⟨short, rfl⟩, ⟨password, ⟨short', rfl⟩, rfl⟩,
      rfl⟩, rfl⟩
    obtain rfl := Decidable.not_not.mp same
    exact ⟨short, short', rfl⟩

/-- The methods of a greeting are read from it. -/
theorem reads_readGreeting : readGreeting.Reads fun methods bytes =>
    methods.length ≤ 255 ∧ bytes = greeting methods := by
  refine ((reads_readPair .shortField).bind fun header => Reads.guard (.inl rfl)
    ((Reads.readExactly header.2.toNat .shortField).map (·.toList))).congr fun methods bytes => ?_
  constructor
  · rintro ⟨short, rfl⟩
    have length : methods.toArray.size = (UInt8.ofNat methods.length).toNat := by
      rw [toNat_ofNat_length short, List.size_toArray]
    exact ⟨(0x05, .ofNat methods.length), _, _, rfl,
      ⟨fun other => other rfl, ⟨methods.toArray, length⟩, rfl, rfl⟩, rfl⟩
  · rintro ⟨⟨found, count⟩, _, _, rfl, ⟨same, v, rfl, rfl⟩, rfl⟩
    obtain rfl := Decidable.not_not.mp same
    refine ⟨?_, ?_⟩
    · rw [v.length_toList]
      exact Nat.le_of_lt_succ count.toNat_lt
    · rw [greeting, v.length_toList, UInt8.ofNat_toNat]
      rfl

/-- A target of a known form is read from what follows the form. -/
theorem reads_readTarget {form : UInt8} (known : KnownForm form) :
    (readTarget form).Reads fun t bytes => t.Carried ∧ t.encode = form :: bytes := by
  obtain rfl | rfl | rfl := known
  · refine ((Reads.readExactly 4 .shortField).bind fun octets => reads_readPort.map fun port =>
      Target.address ⟨.v4 octets, port⟩).congr fun t bytes => ?_
    constructor
    · rintro ⟨-, encoded⟩
      match t, encoded with
      | .address ⟨.v4 octets, port⟩, encoded =>
        exact ⟨octets, _, _, rfl, ⟨port, rfl, rfl⟩, (List.cons.inj encoded).2.symm⟩
    · rintro ⟨octets, _, _, rfl, ⟨port, rfl, rfl⟩, rfl⟩
      exact ⟨trivial, rfl⟩
  · refine ((Reads.readExactly 16 .shortField).bind fun octets => reads_readPort.map fun port =>
      Target.address ⟨.v6 octets, port⟩).congr fun t bytes => ?_
    constructor
    · rintro ⟨-, encoded⟩
      match t, encoded with
      | .address ⟨.v6 octets, port⟩, encoded =>
        exact ⟨octets, _, _, rfl, ⟨port, rfl, rfl⟩, (List.cons.inj encoded).2.symm⟩
    · rintro ⟨octets, _, _, rfl, ⟨port, rfl, rfl⟩, rfl⟩
      exact ⟨trivial, rfl⟩
  · refine (reads_readText.bind fun name => reads_readPort.map fun port =>
      Target.domain name port).congr fun t bytes => ?_
    constructor
    · rintro ⟨carried, encoded⟩
      match t, carried, encoded with
      | .domain name port, short, encoded =>
        exact ⟨name, _, _, ⟨short, rfl⟩, ⟨port, rfl, rfl⟩, (List.cons.inj encoded).2.symm⟩
    · rintro ⟨name, _, _, ⟨short, rfl⟩, ⟨port, rfl, rfl⟩, rfl⟩
      exact ⟨short, rfl⟩

end ProxyMeter.Socks
