import FlightQuery.Proofs.Outcome
import FlightQuery.Session
import Mathlib.Algebra.Group.Int.Defs
import Mathlib.Algebra.Group.Nat.Defs

/-! Lifetimes of tokens: a token that lives longer is usable for longer, as long as its lifetime is
not taken for a negative one and ends in the calendar. -/

namespace FlightQuery

open Stateful

namespace Token

variable {now : Int} {lifetime shorter longer : UInt64}

/-- The calendar in milliseconds. -/
theorem isInCalendar_iff {time : Int} :
    isInCalendar time = true ↔ -8334601228800000 ≤ time ∧ time < 8210266876800000 := by
  -- The first and the last day are told by their numbers, and the last one is included.
  have start : Date.number ⟨-262143, 1, 1⟩ = -96465292 := by decide
  have stop : Date.number ⟨262142, 12, 31⟩ = 95026236 := by decide
  rw [isInCalendar, Moment.isInCalendar, start, stop, Bool.and_eq_true, decide_eq_true_iff,
    decide_eq_true_iff]
  omega

/-- The lower half of the lifetimes counts as it is. -/
theorem bmod_of_lower (lower : lifetime.toNat < 2 ^ 63) :
    (lifetime.toNat : Int).bmod UInt64.size = lifetime.toNat :=
  Int.bmod_eq_of_le (by omega) (by simp only [UInt64.size]; omega)

/-- The upper half of the lifetimes counts as negative. -/
theorem bmod_of_upper (upper : 2 ^ 63 ≤ lifetime.toNat) :
    (lifetime.toNat : Int).bmod UInt64.size = lifetime.toNat - 2 ^ 64 := by
  -- The number that is less by the modulus leaves the same, and is close enough to zero.
  have bound := lifetime.toNat_lt
  rw [← Int.sub_bmod_right]
  exact Int.bmod_eq_of_le (by simp only [UInt64.size]; omega) (by simp only [UInt64.size]; omega)

/-- A lifetime that is not taken for a negative one, and that ends in the calendar. -/
structure IsRegular (now : Int) (lifetime : UInt64) : Prop where
  lower : lifetime.toNat < 2 ^ 63
  inCalendar : isInCalendar (now + 1000 * lifetime.toNat) = true

/-- Shorter lifetimes are regular as well. -/
theorem IsRegular.of_le (regular : IsRegular now longer) (dated : isInCalendar now = true)
    (le : shorter ≤ longer) : IsRegular now shorter := by
  -- The end of the shorter lifetime lies between the present and the end of the longer one.
  have less := UInt64.le_iff_toNat_le.1 le
  refine ⟨Nat.lt_of_le_of_lt less regular.lower, ?_⟩
  have inside := regular.inCalendar
  rw [isInCalendar_iff] at dated inside ⊢
  omega

/-- Points in time that both lie in the calendar are not too far apart. -/
theorem natAbs_le_greatestLifetime {seconds : Int} (dated : isInCalendar now = true)
    (inside : isInCalendar (now + 1000 * seconds) = true) : seconds.natAbs ≤ greatestLifetime := by
  -- The whole calendar is shorter than the greatest lifetime.
  rw [isInCalendar_iff] at dated inside
  rw [greatestLifetime]
  omega

/-- With a regular lifetime, a token expires when it is over. -/
theorem IsRegular.expiry?_eq (regular : IsRegular now lifetime) (dated : isInCalendar now = true) :
    expiry? now lifetime = some (now + 1000 * lifetime.toNat) := by
  -- Both tests of the lifetime are met.
  simp only [expiry?, bmod_of_lower regular.lower]
  exact if_pos ⟨natAbs_le_greatestLifetime dated regular.inCalendar, regular.inCalendar⟩

/-- Any other lifetime is refused, or it is taken for a negative one. -/
theorem expiry?_of_irregular (irregular : ¬ IsRegular now lifetime)
    (dated : isInCalendar now = true) : expiry? now lifetime =
      if 2 ^ 63 ≤ lifetime.toNat ∧ isInCalendar (now - 1000 * (2 ^ 64 - lifetime.toNat)) = true then
        some (now - 1000 * (2 ^ 64 - lifetime.toNat))
      else none := by
  rcases Nat.lt_or_ge lifetime.toNat (2 ^ 63) with lower | upper
  · -- In the lower half, it can only be the calendar that the lifetime leads out of.
    rw [if_neg fun both => Nat.not_le.2 lower both.1]
    simp only [expiry?, bmod_of_lower lower]
    exact if_neg fun both => irregular ⟨lower, both.2⟩
  · -- In the upper half, the time is in the past, and the calendar alone decides.
    have time_eq : now - 1000 * (2 ^ 64 - lifetime.toNat) =
        now + 1000 * ((lifetime.toNat : Int) - 2 ^ 64) := by omega
    simp only [expiry?, bmod_of_upper upper, time_eq]
    by_cases inside : isInCalendar (now + 1000 * ((lifetime.toNat : Int) - 2 ^ 64)) = true
    · rw [if_pos ⟨natAbs_le_greatestLifetime dated inside, inside⟩, if_pos ⟨upper, inside⟩]
    · rw [if_neg fun both => inside both.2, if_neg fun both => inside both.2]

end Token

namespace Call

/-- A token is kept if there is a time at which it expires. -/
theorem applyTo_keepToken {session : Session} {answer : TokenReply} {expiry : Int}
    (expires : Token.expiry? session.now answer.lifetime = some expiry) :
    let token := { text := answer.text, kind := answer.kind, expiry }
    applyTo session (keepToken answer) = (.ok token, { session with token := some token }) := by
  simp [keepToken, expires]

/-- The answer to a login is refused if there is no such time. -/
theorem applyTo_keepToken_of_none {session : Session} {answer : TokenReply}
    (never : Token.expiry? session.now answer.lifetime = none) :
    applyTo session (keepToken answer) = (.error .lifetime, session) := by
  simp [keepToken, never]

/--
A token with a longer lifetime is usable for longer if this lifetime is regular.

Then a token is kept with either lifetime, and it expires when this is over.
An irregular lifetime is refused, or the token that is kept with it expired before it was received
and is never usable.
-/
theorem keepToken_longer {session : Session} (dated : Token.isInCalendar session.now = true)
    {shorter longer : UInt64} (le : shorter ≤ longer) (text kind : String) :
    let received (lifetime : UInt64) := applyTo session (keepToken { text, kind, lifetime })
    let expiring (expiry : Int) : Token := { text, kind, expiry }
    let kept (token : Token) : Outcome Token × Session :=
      (.ok token, { session with token := some token })
    (Token.IsRegular session.now longer →
      ∃ token token', token = expiring (session.now + 1000 * shorter.toNat) ∧
        token' = expiring (session.now + 1000 * longer.toNat) ∧
        received shorter = kept token ∧ received longer = kept token' ∧
        ∀ moment, token.isFresh moment = true → token'.isFresh moment = true) ∧
    (¬ Token.IsRegular session.now longer →
      ∃ token', token' = expiring (session.now - 1000 * (2 ^ 64 - longer.toNat)) ∧
        received longer = (if 2 ^ 63 ≤ longer.toNat ∧ Token.isInCalendar token'.expiry = true then
          kept token' else (.error .lifetime, session)) ∧
        ∀ moment, session.now ≤ moment → token'.isFresh moment = false) := by
  intro received expiring kept
  refine ⟨fun regular => ?_, fun irregular => ?_⟩
  · -- Both tokens are kept, and the second one expires no earlier than the first one.
    have regular' := regular.of_le dated le
    refine ⟨_, _, rfl, rfl, applyTo_keepToken (regular'.expiry?_eq dated),
      applyTo_keepToken (regular.expiry?_eq dated), fun moment fresh => ?_⟩
    have less := UInt64.le_iff_toNat_le.1 le
    simp only [Token.isFresh, expiring, decide_eq_true_iff] at fresh ⊢
    omega
  · -- Whether the token is kept or not, its time would be in the past.
    have expires := Token.expiry?_of_irregular irregular dated
    refine ⟨_, rfl, ?_, fun moment later => ?_⟩
    · split
      · rename_i past
        exact applyTo_keepToken (expires.trans (if_pos past))
      · rename_i never
        exact applyTo_keepToken_of_none (expires.trans (if_neg never))
    · have bound := longer.toNat_lt
      simp only [Token.isFresh, expiring, decide_eq_false_iff_not]
      omega

/-- A token for two hours is usable for as long as one for an hour. -/
theorem keepToken_longer_hours :
    let session : Session := { settings := {}, root := "http://[::1]/api", now := 1700000000000 }
    let received (lifetime : UInt64) :=
      applyTo session (keepToken { text := "token", kind := "bearer", lifetime })
    Token.isInCalendar session.now = true ∧ (3600 : UInt64) ≤ 7200 ∧
      ∃ token token', (received 3600).1 = .ok token ∧ (received 7200).1 = .ok token' ∧
        token.isFresh session.now = true ∧
        ∀ moment, token.isFresh moment = true → token'.isFresh moment = true := by
  intro session received
  -- The clock is in the calendar, and both lifetimes are regular.
  have dated : Token.isInCalendar session.now = true := by decide
  have le : (3600 : UInt64) ≤ 7200 := by decide
  obtain ⟨token, token', rfl, rfl, shorter, longer, lasts⟩ :=
    (keepToken_longer dated le "token" "bearer").1 ⟨by decide, by decide⟩
  exact ⟨dated, le, _, _, congrArg Prod.fst shorter, congrArg Prod.fst longer, by decide, lasts⟩

/-- A token with the longest lifetime is never usable, and half of this lifetime is refused. -/
theorem keepToken_longest_ne :
    let session : Session := { settings := {}, root := "http://[::1]/api", now := 1700000000000 }
    let received (lifetime : UInt64) :=
      applyTo session (keepToken { text := "token", kind := "bearer", lifetime })
    ∃ token token', (received 3600).1 = .ok token ∧ token.isFresh session.now = true ∧
      (received 18446744073709551615).1 = .ok token' ∧ token'.isFresh session.now = false ∧
      (received 9223372036854775807).1 = .error .lifetime := by
  intro session received
  -- Each reply is kept or refused by evaluation of its expiry.
  have hour := @applyTo_keepToken session ⟨"token", "bearer", 3600⟩ 1700003600000
    (by decide +kernel)
  have longest := @applyTo_keepToken session ⟨"token", "bearer", 18446744073709551615⟩ 1699999999000
    (by decide +kernel)
  have half := @applyTo_keepToken_of_none session ⟨"token", "bearer", 9223372036854775807⟩
    (by decide +kernel)
  exact ⟨_, _, congrArg Prod.fst hour, by decide, congrArg Prod.fst longest, by decide,
    congrArg Prod.fst half⟩

end Call
end FlightQuery
