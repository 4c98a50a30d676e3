-- Whoever has registered can come back. As long as the service runs, every
-- stored password is hashed under a salt that has been drawn, and every stored
-- refresh token bears an id that has been drawn; so the password of an account
-- is accepted, and nothing stands in the way of a new refresh token.
import SignIn.Proofs.Password.Hashing
import SignIn.Proofs.Session.Runs
import SignIn.Proofs.Session.Writing
import SignIn.Proofs.Store.Coherence
import SignIn.Proofs.Store.Roles

namespace SignIn.Session

open Dialog (run_bind_of_ok run_bind_of_error)
open Store.Memory (Apart Numbered SameAccounts)
open Text (normalize)
open Text.Decimal (int64Low int64High)
open World (Drawing)

variable {s : Settings} {w₀ w w' : World} {history : List Happening} {u : Int}

/-! ## What is stored has been drawn -/

/-- The hash is of a password under a salt that has been drawn. -/
def IsHashed (w : World) (hash : String) : Prop :=
  ∃ salt password, w.salts.Drawn salt ∧ hash = Password.hash salt password

/-- Every stored password is hashed under a salt that has been drawn, and every stored refresh token
bears an id that has been drawn. -/
structure StoresDrawn (s : Settings) (w : World) : Prop where
  hashes : ∀ row ∈ w.store.rows, IsHashed w row.passwordHash
  tokens : ∀ t record, (t, record) ∈ w.store.tokens → BearsDrawnId s w t

theorem IsHashed.later {hash : String} (h : IsHashed w hash) (hd : Drawing w w') :
    IsHashed w' hash := by
  obtain ⟨salt, password, hsalt, rfl⟩ := h
  exact ⟨salt, password, hd.salts.drawn hsalt, rfl⟩

theorem BearsDrawnId.later {t : String} (h : BearsDrawnId s w t) (hd : Drawing w w') :
    BearsDrawnId s w' t := by
  obtain ⟨u, now, expiresAt, id, hid, rfl⟩ := h
  exact ⟨u, now, expiresAt, id, hd.ids.drawn hid, rfl⟩

/-- What is asked to be stored is a token whose id has been drawn. -/
theorem bearsDrawnId_of_stores {a : Act} {q : Store.Request} {t : String}
    (h : a.Writes s w (.store q)) (hq : q.stores = some (u, t)) : BearsDrawnId s w t := by
  cases q with
  | createToken | rotateToken =>
    cases hq
    exact h
  | _ => cases hq

theorem StoresDrawn.later (h : StoresDrawn s w) (hs : w'.store = w.store) (hd : Drawing w w') :
    StoresDrawn s w' where
  hashes row hrow := by
    rw [hs] at hrow
    exact (h.hashes row hrow).later hd
  tokens t record hm := by
    rw [hs] at hm
    exact (h.tokens t record hm).later hd

/-- What an act writes has been drawn. -/
theorem StoresDrawn.written {a : Act} {q : Store.Request} (h : StoresDrawn s w)
    (hq : a.Writes s w (.store q)) (hw' : w'.store = (w.store.answer w.now q).2)
    (hd : Drawing w w') : StoresDrawn s w' where
  hashes row hrow := by
    rw [hw'] at hrow
    rcases Store.Memory.mem_rows_answer hrow with ⟨old, hold, _, _, hsame⟩ | ⟨new, rfl, rfl⟩
    · rw [← hsame]
      exact (h.hashes old hold).later hd
    · obtain ⟨r, _, _, salt, hsalt, rfl⟩ := hq
      exact ⟨salt, r.password, hd.salts.drawn hsalt, rfl⟩
  tokens t record hm := by
    rw [hw'] at hm
    rcases Store.Memory.stems_of_answer hm with ⟨old, hold, _⟩ | hstored
    · exact (h.tokens t old hold).later hd
    · exact (bearsDrawnId_of_stores hq hstored).later hd

theorem IsFresh.storesDrawn (h : IsFresh w) : StoresDrawn s w := by
  obtain ⟨⟨roles, defaultRole, hstore⟩, _⟩ := h
  constructor
  · intro row hrow
    rw [hstore] at hrow
    cases hrow
  · intro t record hm
    rw [hstore] at hm
    cases hm

/-- From a fresh world on, all that is stored has been drawn. -/
theorem storesDrawn_after (hw : IsFresh w₀) (hf : w₀.faults = []) (history : List Happening) :
    StoresDrawn s (after s w₀ history) :=
  after_keeps_written hf (I := StoresDrawn s) (fun _ _ hs hd h => h.later hs hd)
    (fun _ _ _ _ _ hq hw' hd h => h.written hq hw' hd) hw.storesDrawn

theorem drawing_after (hf : w₀.faults = []) (history : List Happening) :
    Drawing w₀ (after s w₀ history) :=
  after_keeps_written hf (I := Drawing w₀) (fun _ _ _ hd h => h.trans hd)
    (fun _ _ _ _ _ _ _ hd h => h.trans hd) (.refl w₀)

theorem length_salts_after (hf : w₀.faults = []) (hsalts : ∀ n, (w₀.salts.item n).length = 16)
    (history : List Happening) (n : Nat) : ((after s w₀ history).salts.item n).length = 16 := by
  rw [(drawing_after hf history).salts.item]
  exact hsalts n

/-- Where no id comes twice, a token with a new one is not stored yet. -/
theorem StoresDrawn.findToken_new (h : StoresDrawn s w) (hids : Function.Injective w.ids.item)
    (h64 : int64Low ≤ u ∧ u ≤ int64High) {ids : Supply String} (hl : w.ids.Later ids)
    (now expiresAt : Time.Instant) : w.store.findToken
      (Token.issueUntil s .refresh u "" [] now expiresAt ids.next.1).token = none := by
  refine Option.eq_none_iff_forall_ne_some.2 fun record hrecord => ?_
  obtain ⟨v, now', expiresAt', id, hid, he⟩ := h.tokens _ _ (Store.Memory.mem_of_findToken hrecord)
  rw [Token.token_issueUntil, Token.token_issueUntil] at he
  have hc := Token.sign_injective (Token.fits_claimsUntil h64 _ _ _ _ _ _) he
  have hsame : id = ids.next.1 := congrArg Claims.id hc
  rw [hsame] at hid
  exact Supply.not_drawn_next hids hl (hl.drawn hid)

/-! ## Signing in -/

/-- While no call fails, whether a login by the email of an account goes on to mint a pair is up to
the password. -/
theorem run_login_eq {email password : String} {row : Store.Row} {isRight : Bool}
    (hapart : w.store.Apart) (hf : w.faults = []) (hrow : row ∈ w.store.liveRows)
    (hemail : normalize email = row.user.email)
    (hpassword : Password.verify password row.passwordHash = .ok isRight) :
    w.run false (login s email password).run =
      if isRight then w.run false (createPair s row.user.id row.user.email w.now).run
      else (.error .invalidCredentials, w) := by
  let credentials : Credentials := ⟨row.user.id, row.user.email, row.passwordHash⟩
  have h₁ : Dialog.run (World.answer false) w
      (Operation.store (.findCredentials (normalize email))).run = (.ok (some credentials), w) := by
    refine World.run_lookup hf ?_
    rw [hemail]
    exact congrArg (fun found => (Except.ok found, w.store)) (hapart.findCredentials_of_mem hrow)
  have hcheck : checkPassword password row.passwordHash = .ok isRight := by
    unfold checkPassword
    rw [hpassword]
  have h₂ : Dialog.run (World.answer false) w (Operation.clock).run = (.ok w.now, w) := rfl
  unfold login World.run
  rw [run_bind_of_ok _ h₁, run_bind_of_ok (a := credentials) (r := w) _ rfl, hcheck,
    run_bind_of_ok (a := isRight) (r := w) _ rfl]
  cases isRight with
  | false => exact run_bind_of_error _ rfl
  | true =>
    rw [run_bind_of_ok _ (Dialog.run_failIf (c := !true) rfl), run_bind_of_ok _ h₂]
    rfl

/-- While no call fails, whoever is there signs in with a password that is accepted, unless the new
refresh token is stored already. -/
theorem run_login {email password : String} {row : Store.Row} {accessEnd refreshEnd : Time.Instant}
    (hn : w.store.Numbered) (hapart : w.store.Apart) (hf : w.faults = [])
    (hrow : row ∈ w.store.liveRows) (hemail : normalize email = row.user.email)
    (hpassword : Password.verify password row.passwordHash = .ok true)
    (ha : Token.expiry s .access w.now = .ok accessEnd)
    (hr : Token.expiry s .refresh w.now = .ok refreshEnd)
    (hnew : w.store.findToken (Token.issueUntil s .refresh row.user.id "" [] w.now refreshEnd
      w.ids.next.2.next.1).token = none) :
    (w.run false (login s email password).run).1 = .ok
      ⟨(Token.issueUntil s .access row.user.id row.user.email (w.store.grantedTo row.user.role)
          w.now accessEnd w.ids.next.1).token,
        (Token.issueUntil s .refresh row.user.id "" [] w.now refreshEnd
          w.ids.next.2.next.1).token⟩ := by
  rw [run_login_eq hapart hf hrow hemail hpassword, if_pos rfl]
  exact congrArg Prod.fst (run_createPair hf (hn.findUser_of_mem hrow) ha hr hnew)

/-! ## Accounts that have been registered -/

/-- The row is of the account that the registration has created, which is there. -/
structure IsAccountOf (w : World) (r : Registration) (u : Int) (role : Option Int)
    (row : Store.Row) : Prop where
  live : row ∈ w.store.liveRows
  id : row.user.id = u
  email : row.user.email = normalize r.email
  role : row.user.role = role
  hashed : ∃ salt, w.salts.Drawn salt ∧ row.passwordHash = Password.hash salt r.password

/-- The account that a registration has asked for is there once it has been created. -/
theorem isAccountOf_created {r : Registration} {new : NewUser} {m : Store.Memory} {id : Int}
    (hasked : IsAskedBy w' new r) (hcreated : w.store.createUser w.now new = (.ok id, m))
    (hsame : SameAccounts m w'.store) :
    ∃ row, IsAccountOf w' r id (r.role.or w.store.defaultRole) row := by
  obtain ⟨birthDate, salt, hsalt, hnew⟩ := hasked
  obtain ⟨rfl, hm⟩ := Store.Memory.createUser_of_ok (congrArg Prod.fst hcreated)
  rw [hcreated] at hm
  have hrows : m.rows = w.store.rows ++ [w.store.newRow w.now new] := congrArg (·.rows) hm
  refine ⟨w.store.newRow w.now new, ?_, rfl, ?_, ?_, salt, hsalt, ?_⟩
  · rw [hsame.liveRows_eq, Store.Memory.mem_liveRows, hrows]
    exact ⟨List.mem_append_right _ List.mem_cons_self, rfl⟩
  · simp only [Store.Memory.newRow, hnew, newUser]
  · simp only [Store.Memory.newRow, hnew, newUser]
  · simp only [Store.Memory.newRow, hnew, newUser]

/-- A registration that is accepted has created an account, and its pair is for the account. -/
theorem isAccountOf_registered {r : Registration} {pair : TokenPair} (hf : w.faults = [])
    (hreg : (w.run false (register s r).run).1 = .ok pair) :
    (∃ row, IsAccountOf (w.run false (register s r).run).2 r (w.store.lastUserId + 1)
        (r.role.or w.store.defaultRole) row) ∧
      ∃ m, Entitles s m (w.store.lastUserId + 1) (normalize r.email) pair := by
  obtain ⟨new, m, hasked, hcreated, hsame, hentitled⟩ :=
    World.ensured_of_ok (register_writes r) hf hreg
  exact ⟨isAccountOf_created hasked hcreated hsame, m, hentitled⟩

/-- The account is the same as long as its row is there. -/
theorem IsAccountOf.later {r : Registration} {role : Option Int} {row : Store.Row}
    (h : IsAccountOf w r u role row) (hd : Drawing w w') (hlive : row ∈ w'.store.liveRows) :
    IsAccountOf w' r u role row := by
  obtain ⟨salt, hsalt, hhash⟩ := h.hashed
  exact { h with live := hlive, hashed := ⟨salt, hd.salts.drawn hsalt, hhash⟩ }

/-- Until it is deleted the account stays. -/
theorem IsAccountOf.stays {r : Registration} {role : Option Int} {row : Store.Row}
    (h : IsAccountOf w r u role row) (hf : w.faults = [])
    (hkept : Happening.act false (.call (.deleteAccount u)) ∉ history) :
    IsAccountOf (after s w history) r u role row := by
  refine after_keeps_written (s := s) hf (I := fun w => IsAccountOf w r u role row)
    (fun w w' hs hd h => ?_) (fun a ha w w' q hq hw' hd h => ?_) h
  · refine h.later hd ?_
    rw [hs]
    exact h.live
  · refine h.later hd ?_
    rw [hw']
    refine Store.Memory.mem_liveRows_answer h.live ?_
    -- Only the deletion of the account takes its row away.
    rintro rfl
    obtain rfl : a = .call (.deleteAccount row.user.id) := hq
    rw [h.id] at ha
    exact hkept ha

/-- The password of an account is accepted, where salts are of sixteen bytes. -/
theorem IsAccountOf.password_accepted {r : Registration} {role : Option Int} {row : Store.Row}
    (h : IsAccountOf w r u role row) (hsalts : ∀ n, (w.salts.item n).length = 16) :
    Password.verify r.password row.passwordHash = .ok true := by
  obtain ⟨_, ⟨n, _, rfl⟩, hhash⟩ := h.hashed
  rw [hhash]
  exact Password.verify_hash_self (hsalts n) r.password

/-! ## Coming back -/

theorem IsFresh.lastUserId (h : IsFresh w) : w.store.lastUserId = 0 := by
  obtain ⟨⟨roles, defaultRole, hstore⟩, _⟩ := h
  rw [hstore]
  rfl

theorem roles_after (hf : w₀.faults = []) (history : List Happening) :
    (after s w₀ history).store.roles = w₀.store.roles ∧
      (after s w₀ history).store.defaultRole = w₀.store.defaultRole := by
  refine store_after (P := fun m => m.roles = w₀.store.roles ∧
    m.defaultRole = w₀.store.defaultRole) (fun m now q h => ?_) hf history ⟨rfl, rfl⟩
  exact ⟨(m.roles_answer now q).trans h.1, (m.defaultRole_answer now q).trans h.2⟩

/-- Whose account is there signs in by every spelling of the email with the registered password. -/
theorem IsAccountOf.signs_in (hw : IsFresh w₀) (hf : w₀.faults = [])
    (hids : Function.Injective w₀.ids.item) (hsalts : ∀ n, (w₀.salts.item n).length = 16)
    {r : Registration} {role : Option Int} {row : Store.Row}
    (h : IsAccountOf (after s w₀ history) r u role row) (h64 : int64Low ≤ u ∧ u ≤ int64High)
    {email : String} (hemail : normalize email = normalize r.email)
    {accessEnd refreshEnd : Time.Instant}
    (ha : Token.expiry s .access (after s w₀ history).now = .ok accessEnd)
    (hr : Token.expiry s .refresh (after s w₀ history).now = .ok refreshEnd) :
    ∃ accessId refreshId, ((after s w₀ history).run false (login s email r.password).run).1 = .ok
      ⟨(Token.issueUntil s .access u (normalize r.email) (w₀.store.grantedTo role)
          (after s w₀ history).now accessEnd accessId).token,
        (Token.issueUntil s .refresh u "" [] (after s w₀ history).now refreshEnd
          refreshId).token⟩ := by
  generalize hafter : after s w₀ history = w at h ha hr ⊢
  have hn : w.store.Numbered := hafter ▸ numbered_after hf history (hw.good (s := s)).numbered
  have hapart : w.store.Apart := hafter ▸ apart_after hf history hw.apart
  have hstores : StoresDrawn s w := hafter ▸ storesDrawn_after hw hf history
  have hroles : w.store.roles = w₀.store.roles := hafter ▸ (roles_after hf history).1
  have hsalted : ∀ n, (w.salts.item n).length = 16 := hafter ▸ length_salts_after hf hsalts history
  have hinjective : Function.Injective w.ids.item := by
    rw [← hafter, (drawing_after hf history).ids.item]
    exact hids
  have hnew : w.store.findToken (Token.issueUntil s .refresh row.user.id "" [] w.now refreshEnd
      w.ids.next.2.next.1).token = none := by
    rw [h.id]
    exact hstores.findToken_new hinjective h64 (Supply.later_next _) _ _
  have hlogin := run_login hn hapart (hafter ▸ faults_after hf history) h.live
    (hemail.trans h.email.symm) (h.password_accepted hsalted) ha hr hnew
  have hgranted : w.store.grantedTo row.user.role = w₀.store.grantedTo role := by
    rw [h.role]
    unfold Store.Memory.grantedTo Store.Memory.permissionsOf
    rw [hroles]
  refine ⟨w.ids.next.1, w.ids.next.2.next.1, hlogin.trans ?_⟩
  rw [hgranted, h.id, h.email]

/-- The small world with salts of sixteen bytes. -/
def saltedWorld : World := { sampleWorld with salts := .ofItems fun _ => List.replicate 16 0 }

theorem saltedWorld_isFresh : IsFresh saltedWorld := ⟨⟨_, _, rfl⟩, rfl⟩

theorem saltedWorld_ids_injective : Function.Injective saltedWorld.ids.item :=
  fun _ _ h => Int.ofNat.inj (Text.Decimal.ofInt_injective h)

theorem run_register_saltedWorld :
    (saltedWorld.run false (register sampleSettings (sampleRegistration "1")).run).1 =
      .ok (samplePair 1 "0" "1") :=
  (run_firstRegistration (w := saltedWorld) "1" "secret" rfl rfl rfl rfl rfl).1

/-- **Whoever has registered can sign in.** Whatever has happened since the service began, a
registration that is accepted is answered with a pair for a user, and whatever happens from then on
except that this user's account is deleted, every spelling of the email signs in with the registered
password. The new access token is for the same user, with the normal form of the email and what is
granted to the role, and the new refresh token is for the same user. No token id comes twice, salts
are of sixteen bytes, and the ids of users of 64 bits. -/
theorem registered_account_signs_in (hw : IsFresh w₀) (hf : w₀.faults = [])
    (hids : Function.Injective w₀.ids.item) (hsalts : ∀ n, (w₀.salts.item n).length = 16)
    (before : List Happening) (hlast : (after s w₀ before).store.lastUserId < int64High)
    {r : Registration} {registered : TokenPair}
    (hreg : ((after s w₀ before).run false (register s r).run).1 = .ok registered) :
    ∃ u, IsAccessOf s u registered.access ∧ IsRefreshOf s u registered.refresh ∧
      ∀ later, .act false (.call (.deleteAccount u)) ∉ later →
        let w := after s w₀ (before ++ .act false (.call (.register r)) :: later)
        ∀ email accessEnd refreshEnd, normalize email = normalize r.email →
          Token.expiry s .access w.now = .ok accessEnd →
          Token.expiry s .refresh w.now = .ok refreshEnd →
          ∃ accessId refreshId, (w.run false (login s email r.password).run).1 = .ok
            ⟨Token.sign (Token.secretOf s .access) (Token.claimsUntil .access u (normalize r.email)
                (w₀.store.grantedTo (r.role.or w₀.store.defaultRole)) w.now accessEnd accessId),
              Token.sign (Token.secretOf s .refresh) (Token.claimsUntil .refresh u "" [] w.now
                refreshEnd refreshId)⟩ := by
  have hf₁ := faults_after (s := s) hf before
  obtain ⟨⟨row, haccount⟩, m, user, now, accessEnd, accessId, refreshEnd, refreshId, _, rfl⟩ :=
    isAccountOf_registered hf₁ hreg
  refine ⟨(after s w₀ before).store.lastUserId + 1, ⟨_, _, now, accessEnd, accessId, rfl⟩,
    ⟨now, refreshEnd, refreshId, rfl⟩, ?_⟩
  intro later hkept w email accessEnd refreshEnd hemail ha hr
  have hthere : IsAccountOf w r ((after s w₀ before).store.lastUserId + 1)
      (r.role.or w₀.store.defaultRole) row := by
    have hf₂ := (Happening.act false (.call (.register r))).faults_next (s := s) hf₁
    rw [(roles_after hf before).2, ← next_register] at haccount
    have hkeeps := haccount.stays (s := s) hf₂ hkept
    rw [← after_cons, ← after_append] at hkeeps
    exact hkeeps
  have h64 : int64Low ≤ (after s w₀ before).store.lastUserId + 1 := by
    have hle := lastUserId_le_after (s := s) hf before
    have hlow : int64Low ≤ 0 := by decide
    rw [hw.lastUserId] at hle
    omega
  exact hthere.signs_in hw hf hids hsalts ⟨h64, hlast⟩ hemail ha hr

/-- A user signs in again a minute after all the sessions were revoked, and spells the email
freely. -/
theorem sampleRegistration_signs_in :
    let w := after sampleSettings saltedWorld
      [.act false (.call (.register (sampleRegistration "1"))),
        .act false (.call (.revokeAll 1)), .pass 60000000000 60000000000]
    ∃ accessEnd accessId refreshEnd refreshId,
      (w.run false (login sampleSettings " USER@Example.com" "secret").run).1 = .ok
        ⟨Token.sign (Token.secretOf sampleSettings .access) (Token.claimsUntil .access 1
            "user@example.com" ["sessions.revoke.any"] w.now accessEnd accessId),
          Token.sign (Token.secretOf sampleSettings .refresh) (Token.claimsUntil .refresh 1 "" []
            w.now refreshEnd refreshId)⟩ := by
  intro w
  obtain ⟨u, hu, _, hlogin⟩ := registered_account_signs_in saltedWorld_isFresh rfl
    saltedWorld_ids_injective (fun _ => rfl) [] (by decide) run_register_saltedWorld
  obtain rfl : u = 1 := IsAccessOf.user_unique ⟨_, _, _, _, _, rfl⟩ hu (by decide)
  have hnow : w.now = ⟨60 * 1000000000, by decide⟩ := by decide +kernel
  have hkept : Happening.act false (.call (.deleteAccount 1)) ∉
      [.act false (.call (.revokeAll 1)), .pass 60000000000 60000000000] := by decide
  have hemail : normalize " USER@Example.com" = normalize (sampleRegistration "1").email := by
    decide +kernel
  have hexpires : ∃ accessEnd refreshEnd,
      Token.expiry sampleSettings .access w.now = .ok accessEnd ∧
        Token.expiry sampleSettings .refresh w.now = .ok refreshEnd := by
    rw [hnow]
    exact ⟨_, _, rfl, rfl⟩
  obtain ⟨accessEnd, refreshEnd, ha, hr⟩ := hexpires
  obtain ⟨accessId, refreshId, hpair⟩ := hlogin _ hkept " USER@Example.com" _ _ hemail ha hr
  have hnormal : normalize (sampleRegistration "1").email = "user@example.com" := by decide +kernel
  have hgranted : saltedWorld.store.grantedTo ((sampleRegistration "1").role.or
      saltedWorld.store.defaultRole) = ["sessions.revoke.any"] := by decide +kernel
  rw [hnormal, hgranted] at hpair
  exact ⟨accessEnd, accessId, refreshEnd, refreshId, hpair⟩

end SignIn.Session
