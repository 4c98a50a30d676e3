-- Which passwords open an account. The registered one does, and with it every
-- password with the same key, since nothing but the key is looked at; whether
-- any other one does is up to the digest alone.
import SignIn.Proofs.Password.KeyBytes
import SignIn.Proofs.Session.FailedRegistrations
import SignIn.Proofs.Session.Returning

namespace SignIn.Session

open Password (SameKey Collide IsPlain)
open Text (normalize)

variable {s : Settings} {r : Registration} {w₀ w w' : World} {u : Int} {role : Option Int}
  {row : Store.Row} {p q : String}

/-! ## Passwords with the same key -/

theorem checkPassword_congr (h : SameKey p q) (hash : String) :
    checkPassword p hash = checkPassword q hash := by
  unfold checkPassword
  rw [h.verify_eq]

/-- Signing in with a password and signing in with another one of the same key are the same
operation. -/
theorem login_congr (h : SameKey p q) (email : String) : login s email p = login s email q := by
  unfold login
  simp only [checkPassword_congr h]

/-! ## Passwords that are refused -/

theorem FailsMinting.ne_invalidCredentials {now : Time.Instant} {callsFail : Prop}
    {m m' : Store.Memory} {e : AuthError} (h : FailsMinting s u now callsFail m e m') :
    e ≠ .invalidCredentials := by
  cases h with
  | issue h =>
    unfold Token.expiry at h
    split at h
    · cases h
    · cases h
      nofun
  | lookup h c => nofun
  | stored ht h => nofun
  | store h c => cases c <;> nofun
  | mark h c ht he => cases c <;> nofun

/-- Minting a pair for a user who is there does not fail for wrong credentials. -/
theorem run_createPair_ne {email : String} {user : User} (hu : w.store.findUser u = some user) :
    (w.run false (createPair s u email w.now).run).1 ≠ .error .invalidCredentials := by
  intro he
  have hl := World.leads_run False w (createPair s u email w.now).run
  rw [he] at hl
  have hfails : MintingFailed s u False w .invalidCredentials _ := (createPair_fails hu).of_leads hl
  exact hfails.2.ne_invalidCredentials rfl

/-- A login to an account is refused exactly if its password has another key than the one that the
account is hashed with, and does not collide with it. -/
theorem login_refused_iff {email : String} {salt : List UInt8} (hn : w.store.Numbered)
    (hapart : w.store.Apart) (hf : w.faults = []) (hrow : row ∈ w.store.liveRows)
    (hemail : normalize email = row.user.email) (hsalt : salt.length = 16)
    (hhash : row.passwordHash = Password.hash salt p) :
    w.run false (login s email q).run = (.error .invalidCredentials, w) ↔
      ¬ SameKey q p ∧ ¬ Collide salt q p := by
  have hverify := Password.verify_hash hsalt q p
  rw [← hhash] at hverify
  rw [run_login_eq hapart hf hrow hemail hverify, ← not_or, ← Password.digest_eq_iff]
  split
  · rename_i hright
    constructor
    · intro he
      exact absurd (congrArg Prod.fst he) (run_createPair_ne (hn.findUser_of_mem hrow))
    · intro hne
      exact absurd (eq_of_beq hright) hne
  · rename_i hwrong
    simpa using hwrong

/-! ## Accounts as they are found later -/

/-- An account that has been registered is there as long as it is not deleted. -/
theorem registered_account_stays (hf : w₀.faults = []) (before later : List Happening)
    {registered : TokenPair}
    (hreg : ((after s w₀ before).run false (register s r).run).1 = .ok registered)
    (hkept : .act false (.call (.deleteAccount ((after s w₀ before).store.lastUserId + 1))) ∉
      later) :
    ∃ row, IsAccountOf (after s w₀ (before ++ .act false (.call (.register r)) :: later)) r
      ((after s w₀ before).store.lastUserId + 1)
      (r.role.or (after s w₀ before).store.defaultRole) row := by
  have hf₁ := faults_after (s := s) hf before
  obtain ⟨⟨row, haccount⟩, _⟩ := isAccountOf_registered hf₁ hreg
  have hf₂ := (Happening.act false (.call (.register r))).faults_next (s := s) hf₁
  rw [← next_register] at haccount
  have hkeeps := haccount.stays (s := s) hf₂ hkept
  rw [← after_cons, ← after_append] at hkeeps
  exact ⟨row, hkeeps⟩

/-- **Whose password opens an account.** Whatever has happened before a registration that is
accepted, and whatever happens from then on except that its account is deleted, a login by any
spelling of the email is refused exactly if its password has another key than the registered one,
and does not collide with it under the salt of the account. With the same key it is the very login
that the registered password makes. Among passwords of at most 72 bytes, none of them zero, no two
have the same key. Salts are of sixteen bytes. -/
theorem other_passwords_refused_iff (hw : IsFresh w₀) (hf : w₀.faults = [])
    (hsalts : ∀ n, (w₀.salts.item n).length = 16) (before : List Happening)
    {registered : TokenPair}
    (hreg : ((after s w₀ before).run false (register s r).run).1 = .ok registered) :
    ∃ u, IsAccessOf s u registered.access ∧
      ∀ later, .act false (.call (.deleteAccount u)) ∉ later →
        let w := after s w₀ (before ++ .act false (.call (.register r)) :: later)
        ∃ salt, w.salts.Drawn salt ∧ ∀ email q, normalize email = normalize r.email →
          (w.run false (login s email q).run = (.error .invalidCredentials, w) ↔
            ¬ SameKey q r.password ∧ ¬ Collide salt q r.password) ∧
          (SameKey q r.password → login s email q = login s email r.password) ∧
          (IsPlain q → IsPlain r.password → (SameKey q r.password ↔ q = r.password)) := by
  have hf₁ := faults_after (s := s) hf before
  obtain ⟨_, m, user, now, accessEnd, accessId, refreshEnd, refreshId, _, rfl⟩ :=
    isAccountOf_registered hf₁ hreg
  refine ⟨(after s w₀ before).store.lastUserId + 1, ⟨_, _, now, accessEnd, accessId, rfl⟩, ?_⟩
  intro later hkept w
  obtain ⟨row, haccount⟩ := registered_account_stays hf before later hreg hkept
  obtain ⟨salt, hdrawn, hhash⟩ := haccount.hashed
  refine ⟨salt, hdrawn, ?_⟩
  intro email q hemail
  have hsalt : salt.length = 16 := by
    obtain ⟨n, _, rfl⟩ := hdrawn
    exact length_salts_after hf hsalts _ n
  refine ⟨?_, ?_, ?_⟩
  · apply login_refused_iff (numbered_after hf _ (hw.good (s := s)).numbered)
      (apart_after hf _ hw.apart) (faults_after hf _) haccount.live _ hsalt hhash
    rw [hemail, haccount.email]
  · intro hsame
    exact login_congr hsame email
  · intro hq hp
    exact hq.sameKey_iff hp

/-- For the account with the password "secret", a zero byte passes for the end of the password. Any
other login that is not refused would show a collision. -/
theorem sampleRegistration_opened_by :
    let w := after sampleSettings saltedWorld
      [.act false (.call (.register (sampleRegistration "1"))), .act false (.call (.revokeAll 1))]
    let login := fun q => w.run false (login sampleSettings " USER@Example.com" q).run
    login "secret\x00secret" ≠ (.error .invalidCredentials, w) ∧
      (¬ Collide (List.replicate 16 0) "guess" "secret" →
        login "guess" = (.error .invalidCredentials, w)) := by
  intro w login
  obtain ⟨u, hu, hopened⟩ := other_passwords_refused_iff saltedWorld_isFresh rfl (fun _ => rfl) []
    run_register_saltedWorld
  obtain rfl : u = 1 := IsAccessOf.user_unique ⟨_, _, _, _, _, rfl⟩ hu (by decide)
  obtain ⟨_, ⟨n, _, rfl⟩, hother⟩ := hopened [.act false (.call (.revokeAll 1))] (by decide)
  have hdrawing : World.Drawing saltedWorld w := drawing_after rfl _
  have hsalt : w.salts.item n = List.replicate 16 0 := congrFun hdrawing.salts.item n
  have hemail : normalize " USER@Example.com" = normalize (sampleRegistration "1").email := by
    decide +kernel
  have hsame : SameKey "secret\x00secret" "secret" := by decide +kernel
  have hapart : ¬ SameKey "guess" "secret" := by decide +kernel
  constructor
  · intro hrefused
    exact ((hother _ _ hemail).1.1 hrefused).1 hsame
  · intro hfree
    rw [← hsalt] at hfree
    exact (hother _ _ hemail).1.2 ⟨hapart, hfree⟩

/-- The sample registration with a password of 73 bytes. -/
def longRegistration : Registration :=
  { sampleRegistration "1" with password := String.ofList (List.replicate 73 'a') }

theorem run_register_longRegistration :
    (saltedWorld.run false (register sampleSettings longRegistration).run).1 =
      .ok (samplePair 1 "0" "1") :=
  (run_firstRegistration (w := saltedWorld) "1" _ (by decide) rfl rfl rfl rfl).1

/-- Another password opens the account: from its 73rd byte on, a password does not count. -/
theorem longRegistration_opened :
    let w := after sampleSettings saltedWorld [.act false (.call (.register longRegistration))]
    let other := String.ofList (List.replicate 72 'a' ++ ['b'])
    other ≠ longRegistration.password ∧
      ∃ pair, (w.run false (login sampleSettings "user@example.com" other).run).1 = .ok pair := by
  intro w other
  have hsame : SameKey other longRegistration.password := by decide +kernel
  obtain ⟨row, haccount⟩ := registered_account_stays (s := sampleSettings) rfl [] []
    run_register_longRegistration (by decide)
  have hnow : w.now = Time.Instant.epoch := by decide +kernel
  have hr : Token.expiry sampleSettings .refresh w.now = .ok sampleRefreshEnd := by
    rw [hnow]
    rfl
  have ha : Token.expiry sampleSettings .access w.now = .ok sampleAccessEnd := by
    rw [hnow]
    rfl
  have hemail : normalize "user@example.com" = normalize longRegistration.email := rfl
  obtain ⟨accessId, refreshId, hpair⟩ := haccount.signs_in saltedWorld_isFresh rfl
    saltedWorld_ids_injective (fun _ => rfl) (by decide) hemail ha hr
  rw [login_congr hsame]
  exact ⟨by decide +kernel, _, hpair⟩

end SignIn.Session
