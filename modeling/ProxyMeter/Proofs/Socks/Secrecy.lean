import ProxyMeter.Proofs.Socks.Authentication
import ProxyMeter.Proofs.Socks.Composed

/-!
# What a wrong login tells

A server compares the pair that a client presents with the one that it asks for, and looks at the
one that it asks for in no other place. So two servers that give the same verdict on what a client
presents cannot be told apart by it; and if the verdict of both is that the pair is wrong, or if no
pair is presented, both end in the same way, with the same said and the same left unread.
-/

namespace ProxyMeter.Socks

open Session Gate Exchange

/-- The client greets, offers to log in, and logs in with this pair. -/
def Presents (bytes : List UInt8) (given : Credentials) : Prop :=
  ∃ methods more rest, Greets bytes methods more ∧ 0x02 ∈ methods ∧
    LogsIn more given rest

/-- A client presents one pair at most. -/
theorem Presents.unique {bytes : List UInt8} {given given' : Credentials}
    (h : Presents bytes given) (h' : Presents bytes given') : given = given' := by
  obtain ⟨methods, more, rest, greets, -, logsIn⟩ := h
  obtain ⟨methods', more', rest', greets', -, logsIn'⟩ := h'
  obtain ⟨-, rfl⟩ := greets.unique greets'
  exact (logsIn.unique logsIn').1

/-- Whoever enters where a login is required has presented a pair that is admitted. -/
theorem Enters.presents {login : Login} {bytes rest : List UInt8} (enters : Enters login bytes rest)
    (enabled : login.isEnabled = true) :
    ∃ given, Presents bytes given ∧ login.admits given = true := by
  obtain ⟨methods, more, greets, offered, on⟩ := enters
  rw [enabled] at offered
  rw [if_pos enabled] at on
  obtain ⟨given, logsIn, admitted⟩ := on
  exact ⟨given, ⟨methods, more, rest, greets, offered, logsIn⟩, admitted⟩

/-- A method that is chosen is the one that is wanted, and was offered. -/
theorem negotiate_of_runOn {loginRequired : Bool} {w w' : Wire} {method : Method}
    (ran : (negotiate loginRequired).runOn w = (.ok method, w')) :
    method = wantedMethod loginRequired ∧
      ∃ methods, Greets w.unread methods w'.unread ∧ method.code ∈ methods := by
  by_cases greeted : ∃ methods rest, Greets w.unread methods rest
  · obtain ⟨methods, rest, greets⟩ := greeted
    by_cases offered : methodFor loginRequired ∈ methods
    · obtain ⟨-, rfl, rfl⟩ := (negotiate_gives greets offered).of_runOn ran
      exact ⟨rfl, methods, greets, code_wantedMethod loginRequired ▸ offered⟩
    · exact absurd ran (negotiate_stops_of_unwanted greets offered).runOn_ne
  · refine absurd ran (negotiate_stops fun methods rest greets => ?_).runOn_ne
    exact greeted ⟨methods, rest, greets⟩

/-- A login that is read is the one that the bytes begin with. -/
theorem readCredentials_of_runOn {w w' : Wire} {given : Credentials}
    (ran : readCredentials.runOn w = (.ok given, w')) : LogsIn w.unread given w'.unread := by
  obtain ⟨_, rest, ⟨username, password, rfl⟩, begins, rfl⟩ :=
    reads_readCredentials.runOn_eq_ok_iff.mp ran
  refine ⟨username, password, ?_⟩
  rw [Wire.unread_skip, begins, List.drop_left]

section Verdicts

variable {login login' : Login} {w : Wire}

/-- The login message is dealt with alike by servers with the same verdict on it. -/
theorem authenticate_congr
    (same : ∀ given rest, LogsIn w.unread given rest → login.admits given = login'.admits given) :
    (authenticate login).runOn w = (authenticate login').runOn w := by
  refine runOn_bind_congr fun given w' ran => ?_
  rw [same given w'.unread (readCredentials_of_runOn ran)]

/-- What comes before the request goes alike with servers that have the same verdict on what the
client presents. -/
theorem enter_congr (enabled : login.isEnabled = login'.isEnabled)
    (same : ∀ given, Presents w.unread given → login.admits given = login'.admits given) :
    (enter login).runOn w = (enter login').runOn w := by
  rw [enter, enter, enabled]
  refine runOn_bind_congr fun method w' ran => ?_
  by_cases chosen : method = .usernamePassword
  · rw [if_pos chosen, if_pos chosen]
    obtain ⟨-, methods, greets, offered⟩ := negotiate_of_runOn ran
    subst chosen
    refine authenticate_congr fun given rest logsIn => same given ?_
    exact ⟨methods, w'.unread, rest, greets, offered, logsIn⟩
  · rw [if_neg chosen, if_neg chosen]

/-- The verdict on what the client presents is all that the handshake depends on. -/
theorem handshake_congr (enabled : login.isEnabled = login'.isEnabled)
    (same : ∀ given, Presents w.unread given → login.admits given = login'.admits given) :
    (handshake login).runOn w = (handshake login').runOn w := by
  rw [handshake, handshake, runOn_bind, runOn_bind, enter_congr enabled same]

/-- Without a pair that is admitted there is no target. -/
theorem handshake_fails (enabled : login.isEnabled = true)
    (wrong : ∀ given, Presents w.unread given → login.admits given = false) :
    ∃ halt left, (handshake login).runOn w = (.error halt, left) := by
  match ran : (handshake login).runOn w with
  | (.error halt, left) => exact ⟨halt, left, rfl⟩
  | (.ok t, left) =>
    obtain ⟨⟨more, enters, -⟩, -⟩ := handshake_of_runOn ran
    obtain ⟨given, presents, admitted⟩ := enters.presents enabled
    rw [wrong given presents] at admitted
    cases admitted

end Verdicts

section Wrong

variable {username password username' password' : String} {w : Wire}

/-- A pair that is not the one that is presented is not the one that is asked for. -/
theorem admits_of_not_presents (wrong : ¬ Presents w.unread ⟨username, password⟩)
    {given : Credentials} (presents : Presents w.unread given) :
    (Login.requiring username password).admits given = false := by
  refine Bool.eq_false_iff.mpr fun admitted => wrong ?_
  rwa [← admits_requiring_iff.mp admitted]

/-- A client that presents neither of two pairs cannot tell the server that asks for the one from
the server that asks for the other: both come to the same end, have said the same, and leave the
same bytes. Where nobody waits, the end is a failure. -/
theorem handshake_alike (wrong : ¬ Presents w.unread ⟨username, password⟩)
    (wrong' : ¬ Presents w.unread ⟨username', password'⟩) :
    ∃ halt left, (handshake (.requiring username password)).runOn w = (.error halt, left) ∧
      (handshake (.requiring username' password')).runOn w = (.error halt, left) ∧
      (w.Settled → ∃ failure, halt = .failed failure) := by
  have refused (given : Credentials) (presents : Presents w.unread given) :
      (Login.requiring username password).admits given = false :=
    admits_of_not_presents wrong presents
  have verdict (given : Credentials) (presents : Presents w.unread given) :
      (Login.requiring username' password').admits given =
        (Login.requiring username password).admits given := by
    rw [refused given presents, admits_of_not_presents wrong' presents]
  have alike : (handshake (.requiring username' password')).runOn w =
      (handshake (.requiring username password)).runOn w := handshake_congr rfl verdict
  obtain ⟨halt, left, ran⟩ := handshake_fails rfl refused
  exact ⟨halt, left, ran, alike.trans ran, fun settled =>
    (composed_handshake _).failed settled ran⟩

/-- The greeting of a client that can log in, and its login as `u` with the password `x`. -/
private def attempt : List UInt8 := greeting [0, 2] ++ loginMessage "u" "x"

private theorem presents_attempt : Presents attempt ⟨"u", "x"⟩ :=
  ⟨[0, 2], loginMessage "u" "x", [], ⟨by decide, rfl⟩, by decide, by decide, by decide,
    (List.append_nil _).symm⟩

/-- A client with a wrong password for one server, and a wrong name for the other. -/
theorem handshake_alike_attempt : ∃ failure left,
    (handshake (.requiring "u" "p")).runOn { pieces := [attempt] } =
      (.error (.failed failure), left) ∧
    (handshake (.requiring "someone" "x")).runOn { pieces := [attempt] } =
      (.error (.failed failure), left) := by
  have other (given : Credentials) (different : given ≠ ⟨"u", "x"⟩) :
      ¬ Presents ({ pieces := [attempt] } : Wire).unread given := by
    rw [Wire.unread, List.flatten_singleton]
    exact fun presents => different (presents.unique presents_attempt)
  obtain ⟨halt, left, ran, ran', fails⟩ := handshake_alike
    (other ⟨"u", "p"⟩ (by decide)) (other ⟨"someone", "x"⟩ (by decide))
  obtain ⟨failure, rfl⟩ := fails ⟨rfl, by decide⟩
  exact ⟨failure, left, ran, ran'⟩

end Wrong

end ProxyMeter.Socks
