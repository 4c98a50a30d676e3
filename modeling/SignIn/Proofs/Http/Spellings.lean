-- A name in all its spellings. Emails and identifiers are put into normal form
-- wherever they come in, and what is in normal form stays as it is. So an email
-- is stored, claimed and looked up as one and the same text, and a code that is
-- sent is confirmed where it was stored.
import SignIn.Proofs.Http.Admission
import SignIn.Proofs.Session.InForce
import SignIn.Proofs.Store.Owners

namespace SignIn

open Dialog (Ensures Leads ensures_pure ensures_bind ensures_failIf ensures_orFail ensures_ofExcept)
open Operation
open Text (normalize normalize_normalize)
open World (Turn)

/-! ## Questions by name -/

/-- If the question is asked by a name, it is this one: an account is created or looked up by it, or
a code is delivered to it. -/
def Ask.IsBy (name : String) : Ask → Prop
  | .store (.createUser u) => u.email = name
  | .store (.findCredentials email) => email = name
  | .store (.emailExists email) => email = name
  | .store (.findByPhone phone) => phone = name
  | .deliver identifier _ => identifier = name
  | _ => True

/-- If the question stores an entry of the cache, it is under this key. -/
def Ask.StoresAt (key : String) : Ask → Prop
  | .cache (.set k _ _) => k = key
  | _ => True

/-- If the question reads or removes an entry of the cache, it is under this key. -/
def Ask.TakesAt (key : String) : Ask → Prop
  | .cache (.get k) => k = key
  | .cache (.delete k) => k = key
  | .cache (.timeLeft k) => k = key
  | _ => True

namespace Session

variable {s : Settings} {name key : String} {u : Int} {email : String}

/-! ## Spellings of a call -/

/-- The call with its name in normal form. -/
def Call.normalized : Call → Call
  | .register r => .register { r with email := normalize r.email }
  | .login email password => .login (normalize email) password
  | .sendCode identifier => .sendCode (normalize identifier)
  | .confirmCode identifier code => .confirmCode (normalize identifier) code
  | .emailExists email => .emailExists (normalize email)
  | c => c

theorem register_normalized (s : Settings) (r : Registration) :
    register s { r with email := normalize r.email } = register s r := by
  unfold register newUser
  dsimp only
  rw [normalize_normalize]

theorem login_normalized (s : Settings) (email password : String) :
    login s (normalize email) password = login s email password := by
  unfold login
  rw [normalize_normalize]

theorem sendCode_normalized (s : Settings) (identifier : String) :
    sendCode s (normalize identifier) = sendCode s identifier := by
  unfold sendCode
  rw [normalize_normalize]

theorem confirmCode_normalized (s : Settings) (identifier code : String) :
    confirmCode s (normalize identifier) code = confirmCode s identifier code := by
  unfold confirmCode
  rw [normalize_normalize]

theorem emailExists_normalized (email : String) :
    emailExists (normalize email) = emailExists email := by
  unfold emailExists
  rw [normalize_normalize]

/-- How the name of a call is spelled makes no difference. -/
theorem Call.operation_normalized (s : Settings) (c : Call) :
    c.normalized.operation s = c.operation s := by
  unfold normalized operation
  cases c with
  | register r => dsimp only; rw [register_normalized]
  | login email password => dsimp only; rw [login_normalized]
  | sendCode identifier => dsimp only; rw [sendCode_normalized]
  | confirmCode identifier code => dsimp only; rw [confirmCode_normalized]
  | emailExists email => dsimp only; rw [emailExists_normalized]
  | _ => rfl

/-! ## What operations ask by name -/

/-- The text is an access token that was issued to the user for the email. -/
def IsAccessFor (s : Settings) (u : Int) (email access : String) : Prop :=
  ∃ permissions now expiresAt id,
    access = (Token.issueUntil s .access u email permissions now expiresAt id).token

/-- What is asked by no name, and touches no entry of the cache. -/
theorem isBy_of_preliminary (name key : String) :
    ∀ q : Ask, q.IsPreliminary → q.IsBy name ∧ q.TakesAt key :=
  Ask.preliminary_cases ⟨trivial, trivial⟩ ⟨trivial, trivial⟩ (fun _ => ⟨trivial, trivial⟩)
    (fun _ => ⟨trivial, trivial⟩) fun _ => ⟨trivial, trivial⟩

/-- A mint asks for nothing by name, and its access token is for the email that it is told. -/
theorem createPair_holdsTo (name key : String) (now : Time.Instant) :
    HoldsTo (fun q => q.IsBy name ∧ q.TakesAt key) (createPair s u email now)
      fun pair => IsAccessFor s u email pair.access := by
  refine ensures_createPair (along_freely (isBy_of_preliminary name key)) (fun _ _ _ _ => trivial)
    fun access refresh _ _ hp => ?_
  obtain ⟨user, permissions, _, _, ⟨expiresAt, id, he, _, rfl⟩, _⟩ := hp
  refine holdsTo_bind (holdsTo_storeOr ⟨trivial, trivial⟩ fun _ => ?_)
  exact ensures_conclude he ⟨trivial, trivial⟩ (fun _ _ => ⟨permissions, now, expiresAt, id, rfl⟩)
    fun _ _ _ => trivial

/-- An account is created for the email in normal form, and the access token is for that email. -/
theorem register_holdsTo (r : Registration) :
    HoldsTo (Ask.IsBy (normalize r.email)) (register s r)
      fun pair => ∃ u, IsAccessFor s u (normalize r.email) pair.access := by
  refine ensures_register (fun _ _ => trivial) trivial fun birthDate salt _ _ _ => ?_
  refine holdsTo_bind (holdsTo_storeOr rfl fun u => ?_)
  refine holdsTo_bind (holdsTo_ask trivial fun now => ?_)
  exact (createPair_holdsTo _ "" now).weaken (fun _ h => h.1) fun pair h => ⟨u, h⟩

/-- A code is stored under the key of the identifier in normal form, and delivered to it. -/
theorem sendCode_holdsTo (identifier : String) :
    HoldsTo (fun q => q.IsBy (normalize identifier) ∧
        q.StoresAt (s.codeKey (normalize identifier)))
      (sendCode s identifier) fun _ => True := by
  refine (sendCode_poses identifier).weaken ?_ fun _ h => h
  rintro _ (rfl | ⟨code, rfl⟩ | ⟨code, rfl⟩)
  · exact ⟨trivial, trivial⟩
  · exact ⟨trivial, rfl⟩
  · exact ⟨rfl, trivial⟩

/-- A code is looked for, and removed, under the key of the identifier in normal form. -/
theorem confirmCode_holdsTo (identifier code : String) :
    HoldsTo (fun q => q.IsBy (normalize identifier) ∧
        q.TakesAt (s.codeKey (normalize identifier)))
      (confirmCode s identifier code) fun _ => True := by
  refine ensures_confirmCode (along_freely ?_) (fun _ _ _ => trivial) (fun _ _ _ => trivial)
    fun user now _ _ _ _ => (createPair_holdsTo _ _ now).weaken (fun _ h => h) fun _ _ => trivial
  rintro _ (rfl | rfl | rfl | rfl)
  · exact ⟨trivial, rfl⟩
  · exact ⟨trivial, rfl⟩
  · exact ⟨rfl, trivial⟩
  · exact ⟨trivial, trivial⟩

/-! ## Accounts and their tokens -/

/-- Accounts stay, with their ids and emails. -/
def KeepsRows (m m' : Store.Memory) : Prop :=
  ∀ r ∈ m.rows, ∃ r' ∈ m'.rows, r'.user.id = r.user.id ∧ r'.user.email = r.user.email

theorem KeepsRows.answer {m m' : Store.Memory} (h : KeepsRows m m') (now : Time.Instant)
    (q : Store.Request) : KeepsRows m (m'.answer now q).2 := by
  intro r hr
  obtain ⟨r', hr', hid, hemail⟩ := h r hr
  by_cases hs : Store.Memory.SparesAccounts q
  · refine ⟨r', ?_, hid, hemail⟩
    rw [(hs.same m' now).rows]
    exact hr'
  · cases q with
    | createUser u => exact ⟨r', Store.Memory.mem_createUser hr' now u, hid, hemail⟩
    | softDelete id =>
      obtain ⟨t, ht, htid, htemail, _⟩ := Store.Memory.mem_softDelete hr' now id
      exact ⟨t, ht, htid.trans hid, htemail.trans hemail⟩
    | _ => exact absurd trivial hs

variable {w w' w₀ : World} {mayFail : Prop} {minted : List TokenPair}

/-- A call that gives no pair mints none. -/
theorem ensures_unminted {α : Type} (op : Operation α) :
    Ensures (Turn mayFail) Dialog.Anything w (do let _ ← op; return none)
      (fun minted w' => ∀ pair, minted = some pair → ∃ w₁, Minted s w₁ pair w')
      fun _ _ => True := by
  have hends : ∀ (d : Program (Except AuthError α)) (w : World),
      Dialog.Holds (Turn mayFail) Dialog.Anything (fun _ _ => True) w d := by
    intro d
    induction d with
    | done r => exact fun _ => trivial
    | ask q next ih => exact fun _ => ⟨trivial, fun a w' _ => ih a w'⟩
  refine ensures_bind ⟨(hends op.run w).imp fun w' r _ => ?_⟩
  cases r with
  | ok a => exact ensures_pure nofun
  | error e => exact trivial

theorem ensures_minted {op : Operation TokenPair}
    (h : Ensures (Turn mayFail) Dialog.Anything w op (fun pair w' => ∃ w₁, Minted s w₁ pair w')
      fun _ _ => True) :
    Ensures (Turn mayFail) Dialog.Anything w (do return some (← op))
      (fun minted w' => ∀ pair, minted = some pair → ∃ w₁, Minted s w₁ pair w')
      fun _ _ => True := by
  refine ensures_bind (h.imp (fun pair w' hm => ensures_pure ?_) fun _ _ h => h)
  intro _ hp
  cases hp
  exact hm

/-- A call that gives a pair ends with its mint. -/
theorem Call.operation_mints (c : Call) (hn : w.store.Numbered) :
    Ensures (Turn mayFail) Dialog.Anything w (c.operation s)
      (fun minted w' => ∀ pair, minted = some pair → ∃ w₁, Minted s w₁ pair w')
      fun _ _ => True := by
  cases c with
  | register r =>
    exact ensures_minted ((register_mints r hn).imp (fun _ _ ⟨_, w₁, _, hm⟩ => ⟨w₁, hm⟩)
      fun _ _ _ => trivial)
  | login email password =>
    exact ensures_minted ((login_mints email password hn (.refl s w)).imp (fun _ _ hm => ⟨w, hm⟩)
      fun _ _ _ => trivial)
  | refresh token =>
    exact ensures_minted ((refresh_mints token (.refl s w)).imp (fun _ _ hm => ⟨w, hm⟩)
      fun _ _ _ => trivial)
  | confirmCode identifier code =>
    refine ensures_bind ((confirmCode_mints identifier code hn (.refl s w)).imp
      (fun confirmation w' hc => ensures_pure fun pair hp => ?_) fun _ _ _ => trivial)
    rw [hp] at hc
    exact ⟨w, hc⟩
  | logout | sendCode | revokeAll | deleteAccount | purge | profile | emailExists | isAlive =>
    exact ensures_unminted _

theorem Call.minted_of_leads {c : Call} (hn : w.store.Numbered) {r : Reply} {pair : TokenPair}
    (h : Leads (Turn mayFail) w (c.program s) r w') (hp : mintedBy r = some pair) :
    ∃ w₁, Minted s w₁ pair w' := by
  have hends := (c.operation_mints hn).of_leads h
  cases r with
  | ok minted => exact hends pair hp
  | error e => cases hp

/-- The emails of all accounts are in normal form, and every pair that has been minted is for the
email of an account. -/
structure Filed (s : Settings) (w : World) (minted : List TokenPair) : Prop where
  numbered : w.store.Numbered
  emails : HasKnownEmails w
  minted : ∀ pair ∈ minted, ∃ r ∈ w.store.rows,
    IsAccessFor s r.user.id r.user.email pair.access

theorem Filed.keep (h : Filed s w minted) (hn : w'.store.Numbered) (he : HasKnownEmails w')
    (hrows : KeepsRows w.store w'.store) : Filed s w' minted := by
  refine ⟨hn, he, fun pair hp => ?_⟩
  obtain ⟨r, hr, haccess⟩ := h.minted pair hp
  obtain ⟨r', hr', hid, hemail⟩ := hrows r hr
  rw [← hid, ← hemail] at haccess
  exact ⟨r', hr', haccess⟩

/-- Every call keeps this, whatever fails. -/
theorem Filed.call (h : Filed s w minted) {c : Call} {r : Reply}
    (hl : Leads (Turn True) w (c.program s) r w') :
    Filed s w' ((mintedBy r).toList ++ minted) := by
  obtain ⟨_, he, _⟩ := hl.keeps_said (I := fun w _ => HasKnownEmails w) c.program_speaks
    (fun _ _ _ _ _ hI hq ht => hI.turn hq.2 ht) h.emails
  obtain ⟨hn, hrows⟩ : w'.store.Numbered ∧ KeepsRows w.store w'.store := by
    refine hl.keeps (I := fun w' => w'.store.Numbered ∧ KeepsRows w.store w'.store)
      (fun w₁ q a w₂ hI ht => ?_) ⟨h.numbered, fun r hr => ⟨r, hr, rfl, rfl⟩⟩
    rcases ht.store_eq with hs | ⟨q, _, hs⟩
    · rw [hs]
      exact hI
    · rw [hs]
      exact ⟨hI.1.answer w₁.now q, hI.2.answer w₁.now q⟩
  -- Rows are never taken out, so the accounts of earlier pairs are there still.
  have hkept := h.keep hn he hrows
  refine ⟨hn, he, fun pair hp => ?_⟩
  rcases List.mem_append.1 hp with hp | hp
  · obtain ⟨w₁, hm⟩ := Call.minted_of_leads h.numbered hl (Option.mem_toList.1 hp)
    obtain ⟨row, hrow, permissions, now, expiresAt, id, haccess⟩ := hm.account
    exact ⟨row, (Store.Memory.mem_liveRows.1 hrow).1, permissions, now, expiresAt, id, haccess⟩
  · exact hkept.minted pair hp

theorem Reached.filed (hw : IsFresh w₀) (h : Reached s w₀ w minted) : Filed s w minted := by
  induction h with
  | start =>
    obtain ⟨⟨roles, defaultRole, hstore⟩, _⟩ := hw
    refine ⟨?_, fun r hr => ?_, nofun⟩
    · rw [hstore]
      exact Store.Memory.numbered_empty roles defaultRole
    · rw [hstore] at hr
      cases hr
  | call h c hl ih => exact ih.call hl
  | @delete w minted h userId ih =>
    have hrows : KeepsRows w.store w.store := fun r hr => ⟨r, hr, rfl, rfl⟩
    refine ih.keep (ih.numbered.softDelete w.now userId) ?_
      (hrows.answer w.now (.softDelete userId))
    unfold HasKnownEmails
    exact Store.Memory.emails_answer (P := fun email => normalize email = email ∧
      email.isEmpty = false) (q := .softDelete userId) ih.emails (fun _ => nofun)
  | pass h wallNanos tickNanos ih => exact ⟨ih.numbered, ih.emails, ih.minted⟩

end Session

namespace Http

open Session

variable {s : Settings} {email : String} {u : Int}

/-! ## Who is looked up -/

theorem holdsTo_orUnauthorized {allows : Ask → Prop} {α : Type} {text : String} {op : Operation α}
    {promises : α → Prop} (h : HoldsTo allows op promises) :
    HoldsTo allows (orUnauthorized text op) promises := by
  refine ⟨Dialog.holds_bind (d := op.run) (h.holds.imp fun _ r hr => ?_)⟩
  cases r with
  | ok a => exact hr
  | error e => exact trivial

/-- What a token is found to say is what it says. -/
theorem verify_holdsTo {allows : Ask → Prop} (hclock : allows .clock) (kind : TokenKind)
    {secret : List UInt8} {c : Claims} :
    HoldsTo allows (verify s kind (Token.sign secret c)) fun claims => claims = c := by
  have hfree : HoldsTo (fun q => q = .clock) (verify s kind (Token.sign secret c))
      fun claims => claims = c := by
    refine (verify_freely s kind _).imp ?_ fun _ _ _ => trivial
    rintro claims _ ⟨signed, hs, rfl⟩
    exact (Token.claims_of_ofToken_sign hs).1
  exact hfree.weaken (fun _ hq => hq ▸ hclock) fun _ h => h

/-- Who bears an access token for an email in normal form is looked up by this very email. -/
theorem authenticate_holdsTo {r : Request} {token : String} (hemail : normalize email = email)
    (htoken : IsAccessFor s u email token) (hb : bearerOf? r = some token) :
    HoldsTo (Ask.IsBy email) (authenticate s r) fun p => p.email = email := by
  obtain ⟨permissions, start, expiresAt, id, rfl⟩ := htoken
  have halive : ∀ u id q, Call.Poses s (.isAlive u id) q → q.IsBy email := by
    rintro u id _ (rfl | rfl) <;> exact trivial
  unfold authenticate
  refine holdsTo_bind (ensures_orFail (fun header hh => ?_) fun _ => trivial)
  refine holdsTo_bind (ensures_orFail (fun borne ht => ?_) fun _ => trivial)
  unfold bearerOf? at hb
  rw [hh, Option.bind_some, ht] at hb
  rw [Option.some.inj hb, Token.token_issueUntil]
  refine holdsTo_bind (holdsTo_orUnauthorized ((verify_holdsTo trivial .access).weaken
    (fun _ h => h) fun claims hc => ?_))
  obtain rfl := hc
  refine holdsTo_bind (ensures_failIf (fun _ => trivial) fun _ => ?_)
  refine holdsTo_bind (holdsTo_orUnauthorized (holdsTo_storeOr hemail fun isKnown => ?_))
  refine holdsTo_bind (ensures_failIf (fun _ => trivial) fun _ => ?_)
  refine holdsTo_bind (holdsTo_orUnauthorized ((isAlive_poses _ _).weaken (halive _ _)
    fun alive _ => ?_))
  refine holdsTo_bind (ensures_failIf (fun _ => trivial) fun _ => ?_)
  refine holdsTo_bind (holdsTo_lift trivial fun now => ?_)
  refine holdsTo_bind (ensures_failIf (fun _ => trivial) fun _ => ?_)
  exact ensures_pure rfl

/-- **All spellings of a name lead to the same place.** What is normalized is normalized for good,
and begins and ends with no white space; so no call tells one spelling from another. An account is
stored, its access token issued, and the bearer of the token looked up, by the email in normal form,
and a code is stored, delivered and confirmed by the identifier in normal form. Whatever has
happened, a pair is for the email of an account, which is in normal form. -/
theorem spellings_lead_to_one_name (s : Settings) :
    (∀ text, normalize (normalize text) = normalize text ∧
      Text.IsTrimmed (normalize text).toList) ∧
    (∀ c : Call, c.normalized.operation s = c.operation s) ∧
    (∀ r, HoldsTo (Ask.IsBy (normalize r.email)) (register s r)
      fun pair => ∃ u, IsAccessFor s u (normalize r.email) pair.access) ∧
    (∀ u email token request, normalize email = email → IsAccessFor s u email token →
      bearerOf? request = some token →
      HoldsTo (Ask.IsBy email) (authenticate s request) fun p => p.email = email) ∧
    (∀ identifier,
      HoldsTo (fun q => q.IsBy (normalize identifier) ∧
          q.StoresAt (s.codeKey (normalize identifier)))
        (sendCode s identifier) (fun _ => True) ∧
      ∀ code, HoldsTo (fun q => q.IsBy (normalize identifier) ∧
          q.TakesAt (s.codeKey (normalize identifier)))
        (confirmCode s identifier code) fun _ => True) ∧
    ∀ w₀ w minted, IsFresh w₀ → Reached s w₀ w minted → ∀ pair ∈ minted, ∃ r ∈ w.store.rows,
      normalize r.user.email = r.user.email ∧ IsAccessFor s r.user.id r.user.email pair.access := by
  refine ⟨fun text => ⟨normalize_normalize text, (Text.isTrimmed_trim text).lowercase⟩,
    Call.operation_normalized s, register_holdsTo, fun u email token request hemail htoken hb =>
      authenticate_holdsTo hemail htoken hb, fun identifier =>
      ⟨sendCode_holdsTo identifier, confirmCode_holdsTo identifier⟩, ?_⟩
  intro w₀ w minted hw h pair hp
  have hfiled := h.filed hw
  obtain ⟨r, hr, haccess⟩ := hfiled.minted pair hp
  exact ⟨r, hr, (hfiled.emails r hr).1, haccess⟩

/-- The bearer of the sample token is looked up by the email as it is registered from any of its
spellings, and a pair that a registration mints is for such an email. -/
theorem sampleRequest_asks_by_name :
    HoldsTo (Ask.IsBy (normalize "\u2003USER@Example.com "))
        (authenticate sampleSettings sampleRequest)
        (fun p => p.email = normalize "\u2003USER@Example.com ") ∧
      ∃ w pair minted, Reached sampleSettings sampleWorld w (pair :: minted) ∧
        ∃ r ∈ w.store.rows, normalize r.user.email = r.user.email ∧
          IsAccessFor sampleSettings r.user.id r.user.email pair.access := by
  obtain ⟨_, _, _, hbearer, _, hminted⟩ := spellings_lead_to_one_name sampleSettings
  constructor
  · have hname : normalize "\u2003USER@Example.com " = "user@example.com" := by decide +kernel
    have hnormal : normalize "user@example.com" = "user@example.com" := by decide +kernel
    rw [hname]
    exact hbearer 1 _ _ sampleRequest hnormal ⟨_, _, _, _, rfl⟩ bearer_sampleRequest
  · have hreached : Reached sampleSettings sampleWorld _ _ :=
      Reached.start.run (.register (sampleRegistration "1"))
    have haccess : (Event.apply sampleSettings (sampleWorld, [])
        (.call (.register (sampleRegistration "1")))).2.map TokenPair.access = _ :=
      access_of_registered
    obtain ⟨pair, hpair, _⟩ := List.map_eq_singleton_iff.1 haccess
    rw [hpair] at hreached
    exact ⟨_, pair, [], hreached, hminted _ _ _ sampleWorld_isFresh hreached pair (.head _)⟩

end Http

end SignIn
