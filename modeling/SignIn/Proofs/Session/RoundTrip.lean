-- What is issued is verified again: from the second in which a token is issued
-- to the second in which it ends, verifying it gives back what it was issued
-- with, and nothing else.
import SignIn.Proofs.Session.Runs

namespace SignIn.Session

open Text.Decimal (int64Low int64High)

variable {s : Settings} {w w₁ : World} {cancelled : Bool}

/-- What is issued is the token of its kind that ends a lifetime later. -/
theorem issued_of_run? {kind : TokenKind} {userId : Int} {email : String}
    {permissions : List String} {now : Time.Instant} {issued : Token.Issued}
    (h : w.run? cancelled (issue s kind userId email permissions now).run =
      some (.ok issued, w₁)) :
    ∃ expiresAt, Token.expiry s kind now = .ok expiresAt ∧ ∃ id,
      issued = Token.issueUntil s kind userId email permissions now expiresAt id := by
  rw [run?_issue] at h
  cases he : Token.expiry s kind now with
  | error e =>
    rw [he] at h
    cases h
  | ok expiresAt =>
    rw [he] at h
    cases h
    exact ⟨expiresAt, rfl, w.ids.next.1, rfl⟩

theorem unixSeconds_nonneg {now : Time.Instant} (h : Time.Instant.epoch ≤ now) :
    0 ≤ now.unixSeconds :=
  Int.ediv_nonneg h (by decide)

theorem isClockReadable_of_nonneg {w : World} (h : 0 ≤ w.now.unixSeconds) :
    w.isClockReadable = true := by
  change 0 ≤ w.now.nanos / 1000000000 at h
  have h0 : 0 ≤ w.now.nanos := by omega
  exact decide_eq_true h0

/-- Within its time, what is issued says what it was issued with. -/
theorem run?_verify_issued {kind : TokenKind} {userId : Int}
    (h64 : int64Low ≤ userId ∧ userId ≤ int64High) {email : String} {permissions : List String}
    {now : Time.Instant} (hnow : Time.Instant.epoch ≤ now) {issued : Token.Issued}
    (h : w.run? cancelled (issue s kind userId email permissions now).run = some (.ok issued, w₁))
    {w' : World} (cancelled' : Bool) (hb : now.unixSeconds ≤ w'.now.unixSeconds)
    (he : w'.now.unixSeconds ≤
      (now.nanos + (Token.lifetimeOf s kind).nanos) / (Time.second : Int)) :
    w'.run? cancelled' (verify s kind issued.token).run = some (.ok
      ⟨userId, email, permissions, kind.subject, issued.expiresAt.unixSeconds, now.unixSeconds,
        now.unixSeconds, issued.id⟩, w') := by
  obtain ⟨expiresAt, hexp, id, rfl⟩ := issued_of_run? h
  have h0 := unixSeconds_nonneg hnow
  have hend : w'.now.unixSeconds ≤ expiresAt.unixSeconds := by
    unfold Time.Instant.unixSeconds at he ⊢
    rw [nanos_of_expiry hexp]
    exact he
  have hv := Token.verify_sign (Token.secretOf s kind)
    (Token.fits_claimsUntil h64 kind email permissions now expiresAt id) rfl h0 hb hend
  rw [World.run?_of_isClockReadable _ _ (isClockReadable_of_nonneg (by omega)),
    Token.token_issueUntil, run_verify_of_ok hv]
  rfl

/-- From the second in which it is issued to the second in which it ends, a token is verified and
says what it was issued with; a refresh token says neither an email nor permissions. -/
theorem issued_verifies (userId : Int) (h64 : int64Low ≤ userId ∧ userId ≤ int64High)
    (email : String) (permissions : List String) (now : Time.Instant)
    (hnow : Time.Instant.epoch ≤ now) (w w' : World) (cancelled cancelled' : Bool)
    (hb : now.unixSeconds ≤ w'.now.unixSeconds) :
    (∀ issued w₁, w.run? cancelled (issueAccess s userId email permissions now).run =
        some (.ok issued, w₁) →
      w'.now.unixSeconds ≤ (now.nanos + s.accessLifetime.nanos) / (Time.second : Int) →
      w'.run? cancelled' (verify s .access issued.token).run = some (.ok
        { userId, email, permissions, subject := "access"
          expiresAt := issued.expiresAt.unixSeconds, issuedAt := now.unixSeconds
          notBefore := now.unixSeconds, id := issued.id }, w')) ∧
    (∀ issued w₁, w.run? cancelled (issueRefresh s userId now).run = some (.ok issued, w₁) →
      w'.now.unixSeconds ≤ (now.nanos + s.refreshLifetime.nanos) / (Time.second : Int) →
      w'.run? cancelled' (verify s .refresh issued.token).run = some (.ok
        { userId, email := "", permissions := [], subject := "refresh"
          expiresAt := issued.expiresAt.unixSeconds, issuedAt := now.unixSeconds
          notBefore := now.unixSeconds, id := issued.id }, w')) := by
  constructor
  · intro issued w₁ h he
    exact run?_verify_issued h64 hnow h cancelled' hb he
  · intro issued w₁ h he
    exact run?_verify_issued h64 hnow h cancelled' hb he

/-- The sample settings' tokens are verified ten minutes after they were issued. -/
theorem sample_verifies :
    let w' := sampleWorld.advance 600000000000 600000000000
    w'.run? false (verify sampleSettings .access (Token.issueUntil sampleSettings .access 1
        "user@example.com" ["sessions.revoke.any"] Time.Instant.epoch sampleAccessEnd
          "0").token).run =
      some (.ok (sampleClaims 1 "0"), w') ∧
    w'.run? false (verify sampleSettings .refresh (Token.issueUntil sampleSettings .refresh 1 "" []
        Time.Instant.epoch sampleRefreshEnd "0").token).run =
      some (.ok (sampleRefreshClaims 1 "0"), w') := by
  intro w'
  have hreadable : sampleWorld.isClockReadable = true := by decide
  have hissue : ∀ {kind email permissions expiresAt},
      Token.expiry sampleSettings kind Time.Instant.epoch = .ok expiresAt →
      sampleWorld.run? false (issue sampleSettings kind 1 email permissions
        Time.Instant.epoch).run = some (.ok (Token.issueUntil sampleSettings kind 1 email
          permissions Time.Instant.epoch expiresAt "0"),
            { sampleWorld with ids := sampleWorld.ids.next.2 }) := by
    intro kind email permissions expiresAt he
    rw [World.run?_of_isClockReadable _ _ hreadable]
    exact congrArg some (run_issue he)
  obtain ⟨access, refresh⟩ := issued_verifies (s := sampleSettings) 1 (by decide)
    "user@example.com" ["sessions.revoke.any"] Time.Instant.epoch (by decide) sampleWorld w'
    false false (by decide +kernel)
  exact ⟨access _ _ (hissue rfl) (by decide +kernel), refresh _ _ (hissue rfl) (by decide +kernel)⟩

end SignIn.Session
