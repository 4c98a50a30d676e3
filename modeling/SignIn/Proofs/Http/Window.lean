-- How long an access token opens the door: from its mint on to the last second
-- before the one in which it ends, as long as nothing is done about its user.
import SignIn.Proofs.Http.Admission
import SignIn.Proofs.Session.RoundTrip
import SignIn.Proofs.Session.InForce

namespace SignIn.Http

open Session (Call Event HasKnownEmails IsAccessOf IsFresh Spared InForce run_call_register
  run_firstRegistration runEvents samplePair sampleRegistration sampleSettings
  sampleSettings_hasDefaultKeys sampleWorld sampleWorld_isFresh)
open Text.Decimal (int64Low int64High)

variable {s : Settings} {w w' : World} {u : Int} {email id : String} {permissions : List String}
  {now expiresAt : Time.Instant} {r : Request}

/-- The request is let in, whoever it comes from. -/
def Admits (s : Settings) (w : World) (r : Request) : Prop :=
  ∃ p, (w.run? false (authenticate s r).run).map Prod.fst = some (.ok p)

theorem admits_iff_run (h : 0 ≤ w.now.unixSeconds) :
    Admits s w r ↔ ∃ p, (w.run false (authenticate s r).run).1 = .ok p := by
  unfold Admits
  rw [World.run?_of_isClockReadable _ _ (Session.isClockReadable_of_nonneg h)]
  exact exists_congr fun p => ⟨Option.some.inj, congrArg some⟩

/-- Who shows an issued token and is let in comes before the second in which the token ends. -/
theorem before_end_of_admitted {k : TokenKind} {p : Principal}
    (hb : bearerOf? r = some (Token.issueUntil s k u email permissions now expiresAt id).token)
    (h : (w.run false (authenticate s r).run).1 = .ok p) :
    w.now.unixSeconds < expiresAt.unixSeconds := by
  have hl := World.leads_run False w (authenticate s r).run
  rw [h] at hl
  obtain ⟨token, c, htoken, _, hadmitted⟩ := (authenticate_admits r).holds.of_leads hl
  obtain rfl := Option.some.inj (hb.symm.trans htoken)
  obtain ⟨signed, hsigned, rfl⟩ := hadmitted.signed
  have hsaid := (Token.claims_of_ofToken_sign hsigned).1
  have hin := hadmitted.inTime
  rw [hsaid] at hin
  exact hin

/-- Where the account has the email in the form in which emails are kept, and the marker of an
issued token is not over, the token is let in before the second in which it ends. -/
theorem admitted_of_inForce (h64 : int64Low ≤ u ∧ u ≤ int64High) {ends : Nat}
    (hw : InForce s u email ⟨id, ends⟩ w) (hemails : HasKnownEmails w) (hover : w.ticks < ends)
    (hb : bearerOf? r = some
      (Token.issueUntil s .access u email permissions now expiresAt id).token)
    (hnow : Time.Instant.epoch ≤ now) (hlater : now.unixSeconds ≤ w.now.unixSeconds)
    (hend : w.now.unixSeconds < expiresAt.unixSeconds) :
    (w.run false (authenticate s r).run).1 = .ok ⟨u, email, permissions⟩ := by
  obtain ⟨row, hrow, _, hemail⟩ := hw.account
  obtain ⟨hnormal, hne⟩ := hemails row (Store.Memory.mem_liveRows.1 hrow).1
  rw [hemail] at hnormal hne
  have hv := Token.verify_sign (Token.secretOf s .access)
    (Token.fits_claimsUntil h64 .access email permissions now expiresAt id)
    (rfl : _ = TokenKind.access.subject) (Session.unixSeconds_nonneg hnow) hlater
    (Int.le_of_lt hend)
  have hknown : w.store.emailExists (Text.normalize email) = true := by
    rw [hnormal]
    exact List.any_eq_true.2 ⟨row, hrow, by rw [hemail, beq_self_eq_true]⟩
  exact run_authenticate hb hv hne hknown hw.marker rfl hover hend hw.faults

/-- The access token that a call mints is let in exactly until the second in which its lifetime is
over, as long as both clocks go alike and no call deletes the user, ends the user's sessions or
mints for the user again. -/
theorem admits_iff_before_end (hk : s.HasDefaultKeys) {w₀ : World} (hw₀ : IsFresh w₀)
    (hf : w₀.faults = []) (events : List Event) (hw : (runEvents s w₀ events).1 = w)
    (hnow : Time.Instant.epoch ≤ w.now) {c : Call} {pair : TokenPair}
    (hmint : (w.run false (c.program s)).1 = .ok (some pair))
    (h64 : int64Low ≤ u ∧ u ≤ int64High) (hu : IsAccessOf s u pair.access)
    (hspared : Spared s u (w.run false (c.program s)).2 w')
    (hclocks : w'.now.nanos - w.now.nanos = (w'.ticks : Int) - w.ticks)
    (hb : bearerOf? r = some pair.access) :
    Admits s w' r ↔
      w'.now.unixSeconds < (w.now.nanos + s.accessLifetime.nanos) / (Time.second : Int) := by
  have hsound := Session.sound_runEvents hk hw₀ hf events
  have hemails : HasKnownEmails w' := by
    refine hspared.knownEmails (HasKnownEmails.call ?_ c)
    rw [← hw]
    exact Session.hasKnownEmails_runEvents hw₀ events
  rw [hw] at hsound
  generalize hrun : w.run false (c.program s) = st at hmint hspared
  obtain ⟨reply, w₁⟩ := st
  obtain rfl : reply = .ok (some pair) := hmint
  obtain ⟨hnow₁, hticks₁, email, permissions, expiresAt, id, he, hp, hin⟩ :=
    Session.inForce_of_minted hk hsound.good.numbered hsound.faults hrun hu h64
  have hend := Session.nanos_of_expiry he
  have hunix : (w.now.nanos + s.accessLifetime.nanos) / (Time.second : Int) =
      expiresAt.unixSeconds := by
    unfold Time.Instant.unixSeconds
    rw [hend]
    rfl
  rw [hp] at hb
  have hlater : w.now.nanos ≤ w'.now.nanos := by
    have hticks : w₁.ticks ≤ w'.ticks := hspared.ticks_le
    omega
  have hseconds : w.now.unixSeconds ≤ w'.now.unixSeconds := Int.ediv_le_ediv (by decide) hlater
  have hreadable := Int.le_trans (Session.unixSeconds_nonneg hnow) hseconds
  rw [hunix, admits_iff_run hreadable]
  constructor
  · rintro ⟨p, hadmitted⟩
    exact before_end_of_admitted hb hadmitted
  · intro hbefore
    -- The marker ends with the nanosecond, which comes after the second in which the token ends.
    have hnanos : w'.now.nanos < expiresAt.nanos := Int.lt_of_not_ge fun hge =>
      Int.not_lt.2 (Int.ediv_le_ediv (by decide) hge) hbefore
    change expiresAt.nanos = w.now.nanos + s.accessLifetime.nanos at hend
    have hover : w'.ticks < w.ticks + s.accessLifetime.nanos := by omega
    exact ⟨_, admitted_of_inForce h64 (hspared.inForce hk hin hover) hemails hover hb hnow
      hseconds hbefore⟩

theorem run_register_sample :
    (sampleWorld.run false (Call.program sampleSettings (.register (sampleRegistration "1")))).1 =
      .ok (some (samplePair 1 "0" "1")) := by
  have hpair := (run_firstRegistration (w := sampleWorld) "1" "secret" rfl rfl rfl rfl rfl).1
  rw [run_call_register]
  exact congrArg (Except.map some) hpair

/-- A user who has registered is let in until the last nanosecond of the token's ten minutes. -/
theorem sample_admitted_before_end :
    let w := (sampleWorld.run false
      (Call.program sampleSettings (.register (sampleRegistration "1")))).2
    Admits sampleSettings (w.advance 599999999999 599999999999) sampleRequest ∧
      ¬ Admits sampleSettings (w.advance 600000000000 600000000000) sampleRequest := by
  intro w
  have hnow : w.now = Time.Instant.epoch := by decide +kernel
  have hticks : w.ticks = 0 := by decide +kernel
  have hiff : ∀ n : Nat, (w.advance n n).now.nanos = n →
      (Admits sampleSettings (w.advance n n) sampleRequest ↔
        (w.advance n n).now.unixSeconds < (0 + (600000000000 : Nat)) / (Time.second : Int)) := by
    intro n hn
    refine admits_iff_before_end sampleSettings_hasDefaultKeys sampleWorld_isFresh rfl [] rfl
      (by decide) run_register_sample (by decide : int64Low ≤ 1 ∧ (1 : Int) ≤ int64High)
      ⟨_, _, _, _, _, rfl⟩ (.pass .start n n) ?_ bearer_sampleRequest
    change _ - 0 = ((w.ticks + n : Nat) : Int) - 0
    rw [hn, hticks]
    omega
  constructor
  · exact (hiff 599999999999 (by decide +kernel)).2 (by decide +kernel)
  · exact fun h => absurd ((hiff 600000000000 (by decide +kernel)).1 h) (by decide +kernel)

end SignIn.Http
