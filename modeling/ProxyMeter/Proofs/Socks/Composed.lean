import ProxyMeter.Proofs.Socks.Room

/-!
# What exchanges are made of

Every step of the handshake is made of four things: reading a field, saying something, giving a
value, and failing. What holds of the four, and of one exchange after another, holds of the whole
handshake.
-/

namespace ProxyMeter.Socks

open Session Gate Exchange

namespace Exchange

variable {α : Type}

/-- An exchange that is made of reading fields, saying something, giving values and failing. -/
inductive Composed : {α : Type} → Exchange α → Prop
  | pure {α : Type} (a : α) : Composed (Pure.pure a : Exchange α)
  | fail {α : Type} (failure : Failure) : Composed (Exchange.fail failure : Exchange α)
  | readExactly (n : Nat) (short : StreamFault) : Composed (Exchange.readExactly n short)
  | write (bytes : List UInt8) : Composed (Exchange.write bytes)
  | bind {α β : Type} {x : Exchange α} {f : α → Exchange β} (first : Composed x)
      (second : ∀ a, Composed (f a)) : Composed (x >>= f)

theorem Composed.ite {c : Prop} [Decidable c] {x y : Exchange α} (hx : x.Composed)
    (hy : y.Composed) : (if c then x else y).Composed := by
  by_cases holds : c
  · rwa [if_pos holds]
  · rwa [if_neg holds]

end Exchange

section Messages

theorem composed_readByte : readByte.Composed :=
  .bind (.readExactly 1 .endOfStream) fun _ => .pure _

theorem composed_readPair (short : StreamFault) : (readPair short).Composed :=
  .bind (.readExactly 2 short) fun _ => .pure _

theorem composed_readPort : readPort.Composed :=
  .bind (composed_readPair .endOfStream) fun _ => .pure _

theorem composed_readText : readText.Composed := by
  refine .bind composed_readByte fun length =>
    .bind (.readExactly length.toNat .shortField) fun bytes => ?_
  cases Text.ofUtf8? bytes.toList with
  | some s => exact .pure s
  | none => exact .fail _

theorem composed_readGreeting : readGreeting.Composed := by
  refine .bind (composed_readPair .shortField) fun (found, count) => ?_
  have methods : (do
      let offered ← readField count.toNat
      return offered.toList : Exchange _).Composed :=
    .bind (.readExactly count.toNat .shortField) fun _ => .pure _
  exact .ite (.bind (.fail _) fun _ => methods) methods

theorem composed_chooseMethod (loginRequired : Bool) (offered : List UInt8) :
    (chooseMethod loginRequired offered).Composed :=
  .ite (.bind (.write _) fun _ => .pure _)
    (.bind (.write _) fun _ => .ite (.fail _) (.fail _))

theorem composed_negotiate (loginRequired : Bool) : (negotiate loginRequired).Composed :=
  .bind composed_readGreeting fun offered => composed_chooseMethod loginRequired offered

theorem composed_readCredentials : readCredentials.Composed := by
  refine .bind composed_readByte fun found => ?_
  have names : (do
      let username ← readText
      let password ← readText
      return ⟨username, password⟩ : Exchange Credentials).Composed :=
    .bind composed_readText fun _ => .bind composed_readText fun _ => .pure _
  exact .ite (.bind (.fail _) fun _ => names) names

theorem composed_readTarget (form : UInt8) : (readTarget form).Composed := by
  have port {α : Type} (named : UInt16 → α) :
      (do return named (← readPort) : Exchange α).Composed :=
    .bind composed_readPort fun _ => .pure _
  refine .ite ?_ (.ite ?_ (.ite ?_ ?_))
  · exact .bind (.readExactly 4 .shortField) fun octets => port _
  · exact .bind (.readExactly 16 .shortField) fun octets => port _
  · exact .bind composed_readText fun name => port _
  · exact .bind (.write _) fun _ => .fail _

theorem composed_readRequest : readRequest.Composed := by
  refine .bind (.readExactly 4 .shortField) fun header => ?_
  have target : (readTarget header[3]).Composed := composed_readTarget _
  have command : (do
      if header[1] ≠ connectCommand then
        sendReply .commandNotSupported none
        fail (.protocol (.command header[1]))
      readTarget header[3]).Composed :=
    .ite (.bind (.write _) fun _ => .bind (.fail _) fun _ => target) target
  exact .ite (.bind (.fail _) fun _ => command) command

theorem composed_authenticate (login : Login) : (authenticate login).Composed :=
  .bind composed_readCredentials fun _ => .bind (.write _) fun _ => .ite (.fail _) (.pure _)

theorem composed_enter (login : Login) : (enter login).Composed :=
  .bind (composed_negotiate login.isEnabled) fun _ => .ite (composed_authenticate login) (.pure _)

theorem composed_handshake (login : Login) : (handshake login).Composed :=
  .bind (composed_enter login) fun _ => composed_readRequest

end Messages

/-- A wire on which nobody waits: the client has ended its side, and a write that finds no room
fails. -/
structure Wire.Settled (w : Wire) : Prop where
  ended : w.ended = true
  refuses : w.overflow ≠ none

namespace Exchange

variable {α : Type}

private theorem settled_readExactly (n : Nat) (short : StreamFault) {w : Wire} (h : w.Settled) :
    ((readExactly n short).runOn w).1 ≠ .error .awaiting ∧
      ((readExactly n short).runOn w).2.Settled := by
  by_cases missing : w.unread.length < n
  · rw [runOn_readExactly_of_ended short h.ended missing]
    exact ⟨by simp, h.ended, h.refuses⟩
  · obtain ⟨field, begins⟩ := Wire.exists_field missing
    rw [runOn_readExactly_of_append short field begins]
    exact ⟨by simp, h.ended, h.refuses⟩

private theorem settled_write (bytes : List UInt8) {w : Wire} (h : w.Settled) :
    ((write bytes).runOn w).1 ≠ .error .awaiting ∧ ((write bytes).runOn w).2.Settled := by
  by_cases fits : w.Fits bytes.length
  · rw [runOn_write_of_fits fits]
    exact ⟨by simp, h.ended, h.refuses⟩
  · obtain ⟨fault, some⟩ := Option.ne_none_iff_exists'.mp h.refuses
    rw [runOn_write_of_not_fits fits, Wire.blocked, some]
    exact ⟨by simp, h.ended, h.refuses⟩

/-- On a wire on which nobody waits an exchange comes to an end, and nobody waits after it. -/
theorem Composed.settled {x : Exchange α} (hx : x.Composed) {w : Wire} (h : w.Settled) :
    (x.runOn w).1 ≠ .error .awaiting ∧ (x.runOn w).2.Settled := by
  induction hx generalizing w with
  | pure a =>
    rw [runOn_pure]
    exact ⟨by simp, h⟩
  | fail failure =>
    rw [runOn_fail]
    exact ⟨by simp, h⟩
  | readExactly n short => exact settled_readExactly n short h
  | write bytes => exact settled_write bytes h
  | @bind α β x f first second ihFirst ihSecond =>
    obtain ⟨ends, left⟩ := ihFirst h
    match ran : x.runOn w with
    | (.ok a, w') =>
      rw [runOn_bind_ok ran]
      rw [ran] at left
      exact ihSecond a left
    | (.error halt, w') =>
      rw [runOn_bind_error ran]
      rw [ran] at ends left
      exact ⟨fun waits => ends (congrArg Except.error (Except.error.inj waits)), left⟩

/-- An exchange that stops where nobody waits has failed. -/
theorem Composed.failed {x : Exchange α} (hx : x.Composed) {w w' : Wire} {halt : Halt}
    (h : w.Settled) (ran : x.runOn w = (.error halt, w')) : ∃ failure, halt = .failed failure := by
  have ends := (hx.settled h).1
  rw [ran] at ends
  cases halt with
  | failed failure => exact ⟨failure, rfl⟩
  | awaiting => exact absurd rfl ends

end Exchange
end ProxyMeter.Socks
