import ProxyMeter.Proofs.Socks.Messages
import ProxyMeter.Proofs.Socks.Room

/-!
# How the handshake goes

What a client has to say before it is let through, step by step, and what it is told in return. For
each step there is one statement for every way in which the bytes can go on.
-/

namespace ProxyMeter.Socks

open Session Gate Exchange

/-- The bytes are a greeting that offers these methods, and the rest. -/
def Greets (bytes methods rest : List UInt8) : Prop :=
  methods.length ≤ 255 ∧ bytes = greeting methods ++ rest

/-- The bytes are a login message with these credentials, and the rest. -/
def LogsIn (bytes : List UInt8) (given : Credentials) (rest : List UInt8) : Prop :=
  Short given.username ∧ Short given.password ∧
    bytes = loginMessage given.username given.password ++ rest

/-- The bytes are a request to be connected to a target, and the rest. -/
def Asks (bytes : List UInt8) (t : Target) (rest : List UInt8) : Prop :=
  t.Carried ∧ ∃ reserved, bytes = request 0x01 reserved t ++ rest

/-- The bytes begin like a request, with a command and a form of address. -/
def Heads (bytes : List UInt8) (command form : UInt8) : Prop :=
  ∃ reserved rest, bytes = 0x05 :: command :: reserved :: form :: rest

/-- The bytes are all that a client has to say before its request, and the rest: a greeting with
the method that the server goes by, and a login that is admitted if one is required. -/
def Enters (login : Login) (bytes rest : List UInt8) : Prop :=
  ∃ methods more, Greets bytes methods more ∧ methodFor login.isEnabled ∈ methods ∧
    if login.isEnabled then ∃ given, LogsIn more given rest ∧ login.admits given = true
    else rest = more

section Negotiate

variable {w : Wire} {loginRequired : Bool} {methods rest : List UInt8}

theorem code_wantedMethod (loginRequired : Bool) :
    (wantedMethod loginRequired).code = methodFor loginRequired := by
  cases loginRequired <;> rfl

/-- The method that the server goes by is chosen if it is offered. -/
theorem negotiate_gives (greets : Greets w.unread methods rest)
    (offered : methodFor loginRequired ∈ methods) :
    (negotiate loginRequired).Gives w (wantedMethod loginRequired) rest
      [0x05, methodFor loginRequired] := by
  have read : readGreeting.Gives w methods rest [] :=
    reads_readGreeting.gives ⟨greets.1, rfl⟩ greets.2
  apply read.bind
  intro w' left
  rw [chooseMethod, code_wantedMethod, if_pos (List.contains_iff_mem.mpr offered), ← left]
  exact (gives_write _ w').bind_silent fun w'' left' => left' ▸ gives_pure _ w''

/-- No method is chosen if that one is not offered. -/
theorem negotiate_stops_of_unwanted (greets : Greets w.unread methods rest)
    (missing : methodFor loginRequired ∉ methods) :
    (negotiate loginRequired).Stops w [0x05, 0xFF] := by
  have read : readGreeting.Gives w methods rest [] :=
    reads_readGreeting.gives ⟨greets.1, rfl⟩ greets.2
  apply read.bind_stops
  intro w' left
  rw [chooseMethod, code_wantedMethod, if_neg (by simpa using missing)]
  apply (gives_write _ w').bind_stops_silent
  intro w'' _
  split
  · exact stops_fail (.inr rfl) w''
  · exact stops_fail (.inl rfl) w''

/-- Nothing is said to a client that does not greet. -/
theorem negotiate_stops (none : ∀ methods rest, ¬ Greets w.unread methods rest) :
    (negotiate loginRequired).Stops w [] := by
  refine Stops.bind (reads_readGreeting.stops ?_) _
  rintro methods bytes rest ⟨short, rfl⟩ begins
  exact none methods rest ⟨short, begins⟩

end Negotiate

section Authenticate

variable {w : Wire} {login : Login} {given : Credentials} {rest : List UInt8}

/-- A login that is admitted is told so. -/
theorem authenticate_gives (logsIn : LogsIn w.unread given rest)
    (admitted : login.admits given = true) :
    (authenticate login).Gives w () rest [0x01, 0x00] := by
  have read : readCredentials.Gives w given rest [] :=
    reads_readCredentials.gives ⟨logsIn.1, logsIn.2.1, rfl⟩ logsIn.2.2
  apply read.bind
  intro w' left
  rw [admitted, ← left]
  exact (gives_write [0x01, 0x00] w').bind_silent fun w'' left' => left' ▸ gives_pure () w''

/-- A login that is not admitted is told so, and that is the end. -/
theorem authenticate_stops_of_wrong (logsIn : LogsIn w.unread given rest)
    (wrong : login.admits given = false) :
    (authenticate login).Stops w [0x01, 0x01] := by
  have read : readCredentials.Gives w given rest [] :=
    reads_readCredentials.gives ⟨logsIn.1, logsIn.2.1, rfl⟩ logsIn.2.2
  apply read.bind_stops
  intro w' _
  rw [wrong]
  exact (gives_write [0x01, 0x01] w').bind_stops_silent fun w'' _ =>
    stops_fail (.inr rfl) w''

/-- Nothing is said to a client that does not log in. -/
theorem authenticate_stops (none : ∀ given rest, ¬ LogsIn w.unread given rest) :
    (authenticate login).Stops w [] := by
  refine Stops.bind (reads_readCredentials.stops ?_) _
  rintro given bytes rest ⟨username, password, rfl⟩ begins
  exact none given rest ⟨username, password, begins⟩

end Authenticate

section Request

variable {w : Wire}

/-- The bytes of a target begin with a known form. -/
theorem exists_form (t : Target) : ∃ form body, KnownForm form ∧ t.encode = form :: body := by
  match t with
  | .address ⟨.v4 octets, port⟩ => exact ⟨0x01, _, .inl rfl, rfl⟩
  | .address ⟨.v6 octets, port⟩ => exact ⟨0x04, _, .inr (.inl rfl), rfl⟩
  | .domain name port => exact ⟨0x03, _, .inr (.inr rfl), rfl⟩

private theorem readHeader_gives {command reserved form : UInt8} {rest : List UInt8}
    (heads : w.unread = 0x05 :: command :: reserved :: form :: rest) :
    (readField 4).Gives w #v[0x05, command, reserved, form] rest [] :=
  (Reads.readExactly 4 .shortField).gives rfl heads

/-- A request for a target that it can carry gives the target. -/
theorem readRequest_gives {t : Target} {rest : List UInt8} (asks : Asks w.unread t rest) :
    readRequest.Gives w t rest [] := by
  obtain ⟨carried, reserved, begins⟩ := asks
  obtain ⟨form, body, known, encoded⟩ := exists_form t
  rw [request, encoded] at begins
  apply (readHeader_gives begins).bind
  intro w' left
  exact (reads_readTarget known).gives ⟨carried, encoded⟩ left

/-- A request with another command is answered, and that is the end. -/
theorem readRequest_stops_of_command {command form : UInt8}
    (heads : Heads w.unread command form) (other : command ≠ 0x01) :
    readRequest.Stops w (replyBytes 0x07 nowhere) := by
  obtain ⟨reserved, rest, begins⟩ := heads
  apply (readHeader_gives begins).bind_stops
  intro w' _
  show Stops (if command ≠ connectCommand then _ else _) w' _
  rw [if_pos (show command ≠ connectCommand from other)]
  exact (gives_write _ w').bind_stops_silent fun w'' _ => (stops_fail (.inl rfl) w'').bind _

theorem readTarget_of_unknown {form : UInt8} (unknown : ¬ KnownForm form) :
    readTarget form = (do
      sendReply .addressTypeNotSupported none
      fail (.protocol (.addressType form))) := by
  simp only [KnownForm, not_or] at unknown
  have other : form ≠ v4Form ∧ form ≠ v6Form ∧ form ≠ domainForm := unknown
  rw [readTarget, if_neg other.1, if_neg other.2.1, if_neg other.2.2]

/-- A request with an unknown form of address is answered, and that is the end. -/
theorem readRequest_stops_of_form {form : UInt8} (heads : Heads w.unread 0x01 form)
    (unknown : ¬ KnownForm form) : readRequest.Stops w (replyBytes 0x08 nowhere) := by
  obtain ⟨reserved, rest, begins⟩ := heads
  apply (readHeader_gives begins).bind_stops
  intro w' _
  show (readTarget form).Stops w' _
  rw [readTarget_of_unknown unknown]
  exact (gives_write _ w').bind_stops_silent fun w'' _ => stops_fail (.inl rfl) w''

/-- Nothing is said to a client that asks for nothing which can be answered. -/
theorem readRequest_stops (none : ∀ t rest, ¬ Asks w.unread t rest)
    (known : ∀ command form, Heads w.unread command form →
      command = 0x01 ∧ KnownForm form) : readRequest.Stops w [] := by
  by_cases short : w.unread.length < 4
  · refine Stops.bind ((Reads.readExactly 4 .shortField).stops ?_) _
    rintro v bytes rest rfl begins
    rw [begins, List.length_append, v.length_toList] at short
    omega
  · match bytes : w.unread with
    | found :: command :: reserved :: form :: body =>
      have header : (readField 4).Gives w #v[found, command, reserved, form] body [] :=
        (Reads.readExactly 4 .shortField).gives rfl bytes
      apply header.bind_stops
      intro w' left
      show Stops (if found ≠ version then _ else _) w' _
      by_cases right : found = version
      · subst right
        obtain ⟨rfl, known⟩ := known command form ⟨reserved, body, bytes⟩
        apply (reads_readTarget known).stops
        rintro t message rest ⟨carried, encoded⟩ begins
        refine none t rest ⟨carried, reserved, ?_⟩
        rw [bytes, ← left, begins, request, encoded]
        rfl
      · rw [if_pos right]
        exact (stops_fail (.inl rfl) w').bind _
    | [] => simp [bytes] at short
    | [_] => simp [bytes] at short
    | [_, _] => simp [bytes] at short
    | [_, _, _] => simp [bytes] at short

/-- A request that can be answered has the served command and a known form. -/
theorem Asks.heads {bytes rest : List UInt8} {t : Target} (asks : Asks bytes t rest)
    {command form : UInt8} (heads : Heads bytes command form) :
    command = 0x01 ∧ KnownForm form := by
  obtain ⟨-, reserved, begins⟩ := asks
  obtain ⟨reserved', rest', begins'⟩ := heads
  obtain ⟨form', body, known, encoded⟩ := exists_form t
  rw [begins', request, encoded] at begins
  simp only [List.cons_append, List.cons.injEq, true_and] at begins
  obtain ⟨rfl, -, rfl, -⟩ := begins
  exact ⟨rfl, known⟩

/-- Bytes begin like one request at most. -/
theorem Heads.unique {bytes : List UInt8} {command command' form form' : UInt8}
    (h : Heads bytes command form) (h' : Heads bytes command' form') :
    command = command' ∧ form = form' := by
  obtain ⟨reserved, rest, begins⟩ := h
  obtain ⟨reserved', rest', begins'⟩ := h'
  rw [begins'] at begins
  simp only [List.cons.injEq, true_and] at begins
  exact ⟨begins.1.symm, begins.2.2.1.symm⟩

/-- Bytes ask for one target at most. -/
theorem Asks.unique {bytes rest rest' : List UInt8} {t t' : Target} (h : Asks bytes t rest)
    (h' : Asks bytes t' rest') : t = t' ∧ rest = rest' := by
  obtain ⟨carried, reserved, begins⟩ := h
  obtain ⟨carried', reserved', begins'⟩ := h'
  obtain ⟨form, body, known, encoded⟩ := exists_form t
  obtain ⟨form', body', -, encoded'⟩ := exists_form t'
  rw [begins, request, request, encoded, encoded'] at begins'
  simp only [List.cons_append, List.cons.injEq, true_and] at begins'
  obtain ⟨-, rfl, same⟩ := begins'
  exact (reads_readTarget known).unique ⟨carried, encoded⟩ ⟨carried', encoded'⟩ same

end Request

end ProxyMeter.Socks
