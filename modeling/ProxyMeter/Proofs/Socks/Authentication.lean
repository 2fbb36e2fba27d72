import ProxyMeter.Proofs.Socks.Transcript

/-!
# Who gets through the handshake

With a login required a target is reached by a greeting with the method for it, the login message
with the pair asked for, and a request, and by nothing else. Without one the greeting and the
request are enough. Neither way is anything read beyond the request.
-/

namespace ProxyMeter.Socks

open Session Gate Exchange

/-- Only the pair asked for is admitted. -/
theorem admits_requiring_iff {username password : String} {given : Credentials} :
    (Login.requiring username password).admits given = true ↔ given = ⟨username, password⟩ := by
  obtain ⟨username', password'⟩ := given
  simp [Login.admits, Login.requiring]

/-- To enter where a login is required is to offer the method for it and log in with the pair. -/
theorem enters_requiring_iff {username password : String} {bytes rest : List UInt8} :
    Enters (.requiring username password) bytes rest ↔
      ∃ methods, methods.length ≤ 255 ∧ 0x02 ∈ methods ∧ Short username ∧ Short password ∧
        bytes = greeting methods ++ loginMessage username password ++ rest := by
  constructor
  · rintro ⟨methods, more, ⟨short, rfl⟩, offered, given, ⟨hu, hp, rfl⟩, admitted⟩
    obtain rfl := admits_requiring_iff.mp admitted
    exact ⟨methods, short, offered, hu, hp, (List.append_assoc _ _ _).symm⟩
  · rintro ⟨methods, short, offered, hu, hp, rfl⟩
    exact ⟨methods, _, ⟨short, List.append_assoc _ _ _⟩, offered, ⟨username, password⟩,
      ⟨hu, hp, rfl⟩, admits_requiring_iff.mpr rfl⟩

/-- To enter where no login is required is to offer the method without one. -/
theorem enters_off_iff {bytes rest : List UInt8} : Enters .off bytes rest ↔
    ∃ methods, methods.length ≤ 255 ∧ 0x00 ∈ methods ∧ bytes = greeting methods ++ rest := by
  constructor
  · rintro ⟨methods, more, ⟨short, rfl⟩, offered, rfl⟩
    exact ⟨methods, short, offered, rfl⟩
  · rintro ⟨methods, short, offered, rfl⟩
    exact ⟨methods, rest, ⟨short, rfl⟩, offered, rfl⟩

/-- A handshake that succeeds has told the client the whole welcome. -/
theorem written_of_runOn {login : Login} {w w' : Wire} {t : Target}
    (ran : (handshake login).runOn w = (.ok t, w')) :
    w'.written = w.written ++ (Transcript.welcome login).encode := by
  obtain ⟨requests, fits⟩ := handshake_of_runOn ran
  have written := (handshake_gives requests).written
  rwa [ran, Wire.heard_of_fits fits] at written

/-- A handshake with all that is asked for succeeds, and leaves what follows the request. -/
theorem runOn_of_requests {login : Login} {w : Wire} {t : Target} {rest : List UInt8}
    (requests : Requests login w.unread t rest)
    (fits : w.Fits (Transcript.welcome login).encode.length) :
    ∃ w', (handshake login).runOn w = (.ok t, w') ∧ w'.unread = rest ∧
      w'.written = w.written ++ (Transcript.welcome login).encode := by
  obtain ⟨pieces, left, ran⟩ := (handshake_gives requests).runOn fits
  exact ⟨_, ran, left, written_of_runOn ran⟩

section Required

/-- The client greets, offers to log in, and logs in with this pair. -/
def LogsInAs (username password : String) (bytes : List UInt8) : Prop :=
  ∃ methods rest, methods.length ≤ 255 ∧ 0x02 ∈ methods ∧
    bytes = greeting methods ++ loginMessage username password ++ rest

variable {username password : String} {w w' : Wire} {t : Target}

private theorem sound_of_required
    (ran : (handshake (.requiring username password)).runOn w = (.ok t, w')) :
    ∃ methods reserved, methods.length ≤ 255 ∧ 0x02 ∈ methods ∧ Short username ∧
      Short password ∧ t.Carried ∧
      w.unread = greeting methods ++ loginMessage username password ++
        request 0x01 reserved t ++ w'.unread ∧
      w'.written = w.written ++ [0x05, 0x02, 0x01, 0x00] := by
  obtain ⟨⟨more, enters, carried, reserved, asks⟩, -⟩ := handshake_of_runOn ran
  obtain ⟨methods, short, offered, hu, hp, begins⟩ := enters_requiring_iff.mp enters
  refine ⟨methods, reserved, short, offered, hu, hp, carried, ?_, written_of_runOn ran⟩
  rw [begins, asks, List.append_assoc _ _ w'.unread]

private theorem complete_of_required {methods rest : List UInt8} {reserved : UInt8}
    (hu : Short username) (hp : Short password) (short : methods.length ≤ 255)
    (offered : 0x02 ∈ methods) (carried : t.Carried)
    (begins : w.unread = greeting methods ++ loginMessage username password ++
      request 0x01 reserved t ++ rest) (fits : w.Fits 4) :
    ∃ w', (handshake (.requiring username password)).runOn w = (.ok t, w') ∧ w'.unread = rest ∧
      w'.written = w.written ++ [0x05, 0x02, 0x01, 0x00] := by
  rw [List.append_assoc _ _ rest] at begins
  have enters := enters_requiring_iff.mpr ⟨methods, short, offered, hu, hp, begins⟩
  exact runOn_of_requests ⟨_, enters, carried, reserved, rfl⟩ fits

private theorem told_of_required (username password : String) (w : Wire) :
    ∃ told : Transcript, told.InOrder ∧ told.choice ≠ some 0x00 ∧
      (told.status = some true → LogsInAs username password w.unread) ∧
      ((handshake (.requiring username password)).runOn w).2.written =
        w.written ++ w.heard told.encode ∧
      ¬ [0x05, 0x00] <+: w.heard told.encode ∧
      ∀ method, [0x05, method, 0x01, 0x00] <+: w.heard told.encode →
        LogsInAs username password w.unread := by
  obtain ⟨told, order, opens, written⟩ := handshake_written (.requiring username password) w
  have choice : told.choice ≠ some 0x00 := by
    intro chosen
    obtain ⟨methods, rest, -, code⟩ := (opens.choice 0x00).mp chosen
    split at code <;> cases code
  have status (accepted : told.status = some true) : LogsInAs username password w.unread := by
    obtain ⟨-, methods, more, given, rest, greets, offered, logsIn, admitted⟩ :=
      (opens.status true).mp accepted
    obtain rfl := admits_requiring_iff.mp admitted.symm
    refine ⟨methods, rest, greets.1, offered, ?_⟩
    rw [greets.2, logsIn.2.2, List.append_assoc]
  have heard := w.heard_prefix told.encode
  refine ⟨told, order, choice, status, written, fun begins => ?_, fun method begins => ?_⟩
  · exact choice (order.choice_eq (begins.trans heard))
  · obtain ⟨accepted, judged, byte⟩ := order.status_eq (begins.trans heard)
    cases accepted with
    | true => exact status judged
    | false => cases byte

end Required

section Off

variable {w w' : Wire} {t : Target}

private theorem sound_of_off (ran : (handshake .off).runOn w = (.ok t, w')) :
    ∃ methods reserved, methods.length ≤ 255 ∧ 0x00 ∈ methods ∧ t.Carried ∧
      w.unread = greeting methods ++ request 0x01 reserved t ++ w'.unread ∧
      w'.written = w.written ++ [0x05, 0x00] := by
  obtain ⟨⟨more, enters, carried, reserved, asks⟩, -⟩ := handshake_of_runOn ran
  obtain ⟨methods, short, offered, begins⟩ := enters_off_iff.mp enters
  refine ⟨methods, reserved, short, offered, carried, ?_, written_of_runOn ran⟩
  rw [begins, asks, List.append_assoc]

private theorem complete_of_off {methods rest : List UInt8} {reserved : UInt8}
    (short : methods.length ≤ 255) (offered : 0x00 ∈ methods) (carried : t.Carried)
    (begins : w.unread = greeting methods ++ request 0x01 reserved t ++ rest) (fits : w.Fits 2) :
    ∃ w', (handshake .off).runOn w = (.ok t, w') ∧ w'.unread = rest ∧
      w'.written = w.written ++ [0x05, 0x00] := by
  rw [List.append_assoc] at begins
  have enters := enters_off_iff.mpr ⟨methods, short, offered, begins⟩
  exact runOn_of_requests ⟨_, enters, carried, reserved, rfl⟩ fits

private theorem told_of_off (w : Wire) : ∃ told : Transcript, told.InOrder ∧
    told.choice ≠ some 0x02 ∧ told.status = none ∧
    ((handshake .off).runOn w).2.written = w.written ++ w.heard told.encode ∧
    ¬ [0x05, 0x02] <+: w.heard told.encode ∧
    ∀ method status, ¬ [0x05, method, 0x01, status] <+: w.heard told.encode := by
  obtain ⟨told, order, opens, written⟩ := handshake_written .off w
  have choice : told.choice ≠ some 0x02 := by
    intro chosen
    obtain ⟨methods, rest, -, code⟩ := (opens.choice 0x02).mp chosen
    split at code <;> cases code
  have unjudged : told.status = none := by
    apply Option.eq_none_iff_forall_ne_some.mpr
    intro accepted judged
    obtain ⟨enabled, -⟩ := (opens.status accepted).mp judged
    cases enabled
  have heard := w.heard_prefix told.encode
  refine ⟨told, order, choice, unjudged, written, fun begins => ?_, fun method status begins => ?_⟩
  · exact choice (order.choice_eq (begins.trans heard))
  · obtain ⟨accepted, judged, -⟩ := order.status_eq (begins.trans heard)
    rw [unjudged] at judged
    cases judged

end Off

/-- The handshake is sound and complete, with a login required and without one: it succeeds on the
messages asked for and on nothing else, it reads no more than them, and it never chooses to go
without a login that is required, nor accepts another one. Every client is told the beginning of a
transcript, as far as it has room; with a login required it never begins with the choice of `0x00`,
and the status `0x00` follows the choice only if the client logs in with the pair asked for. -/
theorem handshake_sound_complete (username password : String) :
    (∀ (w w' : Wire) (t : Target),
      (handshake (.requiring username password)).runOn w = (.ok t, w') →
      ∃ methods reserved, methods.length ≤ 255 ∧ 0x02 ∈ methods ∧ Short username ∧
        Short password ∧ t.Carried ∧
        w.unread = greeting methods ++ loginMessage username password ++
          request 0x01 reserved t ++ w'.unread ∧
        w'.written = w.written ++ [0x05, 0x02, 0x01, 0x00]) ∧
    (∀ w : Wire, ∃ told : Transcript, told.InOrder ∧ told.choice ≠ some 0x00 ∧
      (told.status = some true → LogsInAs username password w.unread) ∧
      ((handshake (.requiring username password)).runOn w).2.written =
        w.written ++ w.heard told.encode ∧
      ¬ [0x05, 0x00] <+: w.heard told.encode ∧
      ∀ method, [0x05, method, 0x01, 0x00] <+: w.heard told.encode →
        LogsInAs username password w.unread) ∧
    (∀ (w : Wire) (methods rest : List UInt8) (reserved : UInt8) (t : Target),
      Short username → Short password → methods.length ≤ 255 → 0x02 ∈ methods → t.Carried →
      w.unread = greeting methods ++ loginMessage username password ++
        request 0x01 reserved t ++ rest → w.Fits 4 →
      ∃ w', (handshake (.requiring username password)).runOn w = (.ok t, w') ∧
        w'.unread = rest ∧ w'.written = w.written ++ [0x05, 0x02, 0x01, 0x00]) ∧
    (∀ (w w' : Wire) (t : Target), (handshake .off).runOn w = (.ok t, w') →
      ∃ methods reserved, methods.length ≤ 255 ∧ 0x00 ∈ methods ∧ t.Carried ∧
        w.unread = greeting methods ++ request 0x01 reserved t ++ w'.unread ∧
        w'.written = w.written ++ [0x05, 0x00]) ∧
    (∀ w : Wire, ∃ told : Transcript, told.InOrder ∧ told.choice ≠ some 0x02 ∧
      told.status = none ∧
      ((handshake .off).runOn w).2.written = w.written ++ w.heard told.encode ∧
      ¬ [0x05, 0x02] <+: w.heard told.encode ∧
      ∀ method status, ¬ [0x05, method, 0x01, status] <+: w.heard told.encode) ∧
    (∀ (w : Wire) (methods rest : List UInt8) (reserved : UInt8) (t : Target),
      methods.length ≤ 255 → 0x00 ∈ methods → t.Carried →
      w.unread = greeting methods ++ request 0x01 reserved t ++ rest → w.Fits 2 →
      ∃ w', (handshake .off).runOn w = (.ok t, w') ∧ w'.unread = rest ∧
        w'.written = w.written ++ [0x05, 0x00]) :=
  ⟨fun _ _ _ => sound_of_required, told_of_required username password,
    fun _ _ _ _ _ => complete_of_required, fun _ _ _ => sound_of_off, told_of_off,
    fun _ _ _ _ _ => complete_of_off⟩

/-- A client that logs in with the pair asked for, and sends a byte too many. -/
theorem handshake_sound_complete_accepted : ∃ w' : Wire,
    (handshake (.requiring "u" "p")).runOn { pieces := [[0x05, 2, 0x00, 0x02],
      [0x01, 1, 0x75, 1, 0x70], [0x05, 0x01, 0x00, 0x01, 0, 0, 0, 0, 0, 80, 7]] } =
      (.ok (.address ⟨.v4 #v[0, 0, 0, 0], 80⟩), w') ∧ w'.unread = [7] ∧
      w'.written = [0x05, 0x02, 0x01, 0x00] :=
  (handshake_sound_complete "u" "p").2.2.1 _ [0, 2] [7] 0 _ (by decide) (by decide) (by decide)
    (by decide) trivial (by decide +kernel) (fun _ none => by cases none)

end ProxyMeter.Socks
