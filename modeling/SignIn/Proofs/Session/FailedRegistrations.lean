-- What a registration that fails leaves behind. The account is written before
-- anything is minted for it, and nothing takes it back: what fails up to there
-- changes nothing, and what fails behind it leaves an account without tokens
-- that anyone has been handed, under an email that is taken from then on.
import SignIn.Proofs.Session.FailedRefreshes
import SignIn.ServerSettings

namespace SignIn

open Dialog (Ensures Anything ensures_bind)
open Operation
open Text (normalize)
open World (Turn Still CallsFail)

namespace Store.Memory

theorem createToken_cases (m : Memory) (now : Time.Instant) (u : Int) (t : String)
    (expiresAt : Time.Instant) :
    m.createToken now u t expiresAt = (.ok (), m.putToken now u t expiresAt) ∨
      m.findToken t ≠ none ∧
        m.createToken now u t expiresAt =
          (.error (.conflict "refresh token already stored"), m) := by
  unfold createToken
  by_cases h : (m.findToken t).isSome
  · rw [if_pos h]
    exact Or.inr ⟨Option.isSome_iff_ne_none.1 h, rfl⟩
  · rw [if_neg h]
    exact Or.inl rfl

theorem HasUser.findUser {m : Memory} {u : Int} (h : m.HasUser u) :
    ∃ user, m.findUser u = some user := by
  obtain ⟨row, hrow, hid⟩ := h
  unfold Memory.findUser
  cases hf : m.liveRows.find? fun r => r.user.id == u with
  | some found => exact ⟨found.user, rfl⟩
  | none =>
    have := List.find?_eq_none.1 hf row hrow
    simp [hid] at this

end Store.Memory

namespace World

variable {mayFail : Prop} {w w' : World} {u : Int} {t : String} {expiresAt : Time.Instant}

theorem Turn.creation_ok
    (h : Turn mayFail w (.store (.createToken u t expiresAt)) (.ok ()) w') :
    w'.store = w.store.putToken w.now u t expiresAt := by
  have ha : w.store.createToken w.now u t expiresAt = (.ok (), w'.store) := h.store_ok.1
  rcases w.store.createToken_cases w.now u t expiresAt with he | ⟨_, he⟩
  · rw [he] at ha
    exact (congrArg Prod.snd ha).symm
  · rw [he] at ha
    cases ha

/-- The call that stores a token fails, or the store has the token already. -/
theorem Turn.creation_error {c : StoreError}
    (h : Turn mayFail w (.store (.createToken u t expiresAt)) (.error c) w') :
    CallsFail mayFail w ∨
      w.store.findToken t ≠ none ∧ c = .conflict "refresh token already stored" := by
  rcases h.store_error.2 with hm | hf | ha
  · exact Or.inl (Or.inl hm)
  · exact Or.inl (Or.inr hf)
  · change (w.store.createToken w.now u t expiresAt).1 = _ at ha
    rcases w.store.createToken_cases w.now u t expiresAt with he | ⟨hstored, he⟩
    · rw [he] at ha
      cases ha
    · rw [he] at ha
      cases ha
      exact Or.inr ⟨hstored, rfl⟩

end World

namespace Session

variable {s : Settings} {r : Registration} {mayFail : Prop} {w₀ w w' : World}

/-! ## Failures behind the account -/

/-- How minting a pair for a user can fail, and what the store is then: with a call that looks the
user or the permissions up, because one of the tokens would end at no instant that can be held, with
the call that stores the refresh token or because the token is stored already, or with the call that
writes the marker. Only the last one leaves a refresh token in the store. -/
inductive FailsMinting (s : Settings) (u : Int) (now : Time.Instant) (callsFail : Prop)
    (m : Store.Memory) : AuthError → Store.Memory → Prop
  | lookup (h : callsFail) (c : StoreError) : FailsMinting s u now callsFail m (.repository c) m
  | issue {kind : TokenKind} {e : AuthError} (h : Token.expiry s kind now = .error e) :
      FailsMinting s u now callsFail m e m
  | store (h : callsFail) (c : StoreError) : FailsMinting s u now callsFail m (storeFailed c) m
  | stored {t : String} (ht : IsRefreshOf s u t) (h : m.findToken t ≠ none) :
      FailsMinting s u now callsFail m (storeFailed (.conflict "refresh token already stored")) m
  | mark {t : String} {refreshEnd : Time.Instant} (h : callsFail) (c : CacheError)
      (ht : IsRefreshOf s u t) (he : Token.expiry s .refresh now = .ok refreshEnd) :
      FailsMinting s u now callsFail m (markFailed c) (m.putToken now u t refreshEnd)

theorem FailsMinting.mono {u : Int} {now : Time.Instant} {p q : Prop} {m m' : Store.Memory}
    {e : AuthError} (h : FailsMinting s u now p m e m') (hpq : p → q) :
    FailsMinting s u now q m e m' := by
  cases h with
  | lookup h c => exact .lookup (hpq h) c
  | issue h => exact .issue h
  | store h c => exact .store (hpq h) c
  | stored ht h => exact .stored ht h
  | mark h c ht he => exact .mark (hpq h) c ht he

/-- The minting has failed, and the cache is as it was. -/
def MintingFailed (s : Settings) (u : Int) (mayFail : Prop) (w : World) (e : AuthError)
    (w' : World) : Prop :=
  w'.cache = w.cache ∧ FailsMinting s u w.now (CallsFail mayFail w) w.store e w'.store

theorem MintingFailed.of_still {u : Int} {e : AuthError} (h : Still w w')
    (he : FailsMinting s u w.now (CallsFail mayFail w) w.store e w.store) :
    MintingFailed s u mayFail w e w' := by
  refine ⟨h.same.cache, ?_⟩
  rw [h.same.store]
  exact he

/-- For a user who is there, nothing that comes before the refresh token is stored fails but for a
call or for an instant that cannot be held. -/
theorem failsMinting_of_unprepared {u : Int} {user : User} {e : AuthError}
    (hu : w.store.findUser u = some user)
    (h : Unprepared (Turn mayFail) Still s u w.now w w' e) :
    FailsMinting s u w.now (CallsFail mayFail w) w.store e w.store := by
  cases h with
  | lookup ht =>
    exact .lookup (callsFail_of_told (q := .findUser u) (fun _ _ => nofun) ht) _
  | unknown ht =>
    have hnone := findUser_of_told (fun _ h => .of_eq h.same.store) ht
    cases hu.symm.trans hnone
  | unissued hissue =>
    cases hissue with
    | @lookup role c ht =>
      exact .lookup (callsFail_of_told (q := .permissionsOf role) (fun _ _ => nofun) ht) c
    | expiry he => exact .issue he

/-- Storing the refresh token and writing the marker, for a pair that has been issued. -/
theorem deposit_fails {u : Int} {access refresh : Token.Issued} (hstill : Still w₀ w)
    (ha : Token.expiry s .access w₀.now = .ok access.expiresAt)
    (hr : Token.expiry s .refresh w₀.now = .ok refresh.expiresAt)
    (ht : IsRefreshOf s u refresh.token) :
    Ensures (Turn mayFail) Anything w (deposit s u w₀.now access refresh) (fun _ _ => True)
      (MintingFailed s u mayFail w₀) := by
  unfold deposit
  refine ensures_bind (ensures_storeOr trivial (fun _ w₁ hturn => ?_) fun c w₁ hturn => ?_)
  · have hstored := hturn.creation_ok
    refine ensures_conclude ha trivial (fun _ _ => trivial) fun c w₂ hmark => ?_
    obtain ⟨hsame, hfails⟩ := hmark.cache_error
    constructor
    · rw [hsame.cache, hturn.store_ok.2.1, hstill.same.cache]
    · rw [hsame.store, hstored, hstill.same.store, hstill.same.now]
      exact .mark (hstill.callsFail (hturn.callsFail hfails)) c ht hr
  · have h₁ : Still w₀ w₁ := hstill.trans ⟨hturn.store_error.1, hturn.faults⟩
    apply MintingFailed.of_still h₁
    rcases hturn.creation_error with hc | ⟨hstored, rfl⟩
    · exact .store (hstill.callsFail hc) c
    · rw [hstill.same.store] at hstored
      exact .stored ht hstored

/-- For a user who is there, minting fails in one of these ways. -/
theorem createPair_fails {u : Int} {email : String} {user : User}
    (hu : w.store.findUser u = some user) :
    Ensures (Turn mayFail) Anything w (createPair s u email w.now) (fun _ _ => True)
      (MintingFailed s u mayFail w) := by
  refine ensures_createPair (along_still w)
    (fun e w₁ h₁ he => .of_still h₁ (failsMinting_of_unprepared hu he))
    fun access refresh w₁ h₁ hp => ?_
  obtain ⟨_, _, _, _, ha, hr⟩ := hp
  refine deposit_fails h₁ ha.expiry hr.expiry ?_
  obtain ⟨refreshEnd, id, _, _, rfl⟩ := hr
  exact ⟨w.now, refreshEnd, id, rfl⟩

/-! ## Registering -/

/-- The store with the account that a registration asks for, under the next id, and all else as it
was. What is asked for can be stored: there is an email, a password and a birth date, and no account
has the email or the phone. -/
structure Opens (s : Settings) (r : Registration) (now : Time.Instant) (m m' : Store.Memory) :
    Prop where
  has_email : (normalize r.email).isEmpty = false
  has_password : r.password.isEmpty = false
  free : m.isTaken (normalize r.email) (Text.trim r.phone) = false
  added : ∃ birthDate salt, parseBirthDate r.birthDate s.birthDatePattern = .ok birthDate ∧
    m' = { m with
      rows := m.rows ++ [m.newRow now
        (newUser r (normalize r.email) birthDate (Password.hash salt r.password))]
      lastUserId := m.lastUserId + 1 }

theorem Opens.hasUser {now : Time.Instant} {m m' : Store.Memory} (h : Opens s r now m m') :
    m'.HasUser (m.lastUserId + 1) := by
  obtain ⟨birthDate, salt, _, rfl⟩ := h.added
  refine ⟨_, Store.Memory.mem_liveRows.2 ⟨List.mem_append_right _ List.mem_cons_self, rfl⟩, rfl⟩

/-- Once an account has been opened, its email and its phone are taken. -/
theorem Opens.isTaken {now : Time.Instant} {m m' : Store.Memory} (h : Opens s r now m m') :
    m'.isTaken (normalize r.email) (Text.trim r.phone) = true := by
  obtain ⟨birthDate, salt, _, rfl⟩ := h.added
  refine List.any_eq_true.2 ⟨_, Store.Memory.mem_liveRows.2
    ⟨List.mem_append_right _ List.mem_cons_self, rfl⟩, ?_⟩
  simp [Store.Memory.newRow, newUser]

theorem opens_of_turn {birthDate : Time.Date} {salt : List UInt8} {u : Int} {w₁ : World}
    (hsame : World.SameState w w₁) (hcomplete : IsComplete s r birthDate)
    (ht : Turn mayFail w₁ (.store (.createUser
      (newUser r (normalize r.email) birthDate (Password.hash salt r.password)))) (.ok u) w') :
    u = w.store.lastUserId + 1 ∧ Opens s r w.now w.store w'.store := by
  have hcreated : w₁.store.createUser w₁.now
      (newUser r (normalize r.email) birthDate (Password.hash salt r.password)) =
        (.ok u, w'.store) := ht.store_ok.1
  rw [hsame.store, hsame.now] at hcreated
  by_cases htaken : w.store.isTaken (normalize r.email) (Text.trim r.phone) = true
  · simp [Store.Memory.createUser, newUser, htaken] at hcreated
  · obtain ⟨hu, hm⟩ := Store.Memory.createUser_of_ok (congrArg Prod.fst hcreated)
    rw [hcreated] at hm
    exact ⟨hu, hcomplete.email, hcomplete.password, by simpa using htaken, birthDate, salt,
      hcomplete.birthDate, hm⟩

/-- What a registration that has failed has made of the world since `w`. -/
def RegisterFailed (s : Settings) (r : Registration) (mayFail : Prop) (w : World) (e : AuthError)
    (w' : World) : Prop :=
  (w'.store = w.store ∧ w'.cache = w.cache) ∨
    ∃ m, Opens s r w.now w.store m ∧ w'.cache = w.cache ∧
      FailsMinting s (w.store.lastUserId + 1) w.now (CallsFail mayFail w) m e w'.store

theorem register_fails (r : Registration) :
    Ensures (Turn mayFail) Anything w (register s r) (fun _ _ => True)
      (RegisterFailed s r mayFail w) := by
  refine ensures_register (fun _ _ => Or.inl ⟨rfl, rfl⟩) trivial
    fun birthDate salt w₁ hcomplete hsalt => ?_
  have h₁ : Still w w₁ := hsalt.still (q := .freshSalt) trivial
  refine ensures_bind (ensures_storeOr trivial (fun u w₂ hturn => ?_) fun e w₂ hturn => ?_)
  · obtain ⟨rfl, hopens⟩ := opens_of_turn h₁.same hcomplete hturn
    obtain ⟨user, hfound⟩ := hopens.hasUser.findUser
    refine ensures_bind (ensures_ask trivial fun now w₃ ht => ?_)
    obtain ⟨rfl, rfl⟩ := ht.clock
    refine (createPair_fails hfound).imp (fun _ _ _ => trivial) fun e w₄ h => Or.inr ?_
    obtain ⟨hcache, hfails⟩ := h
    obtain ⟨_, hcache₂, hnow, _⟩ := hturn.store_ok
    refine ⟨w₃.store, hopens, ?_, ?_⟩
    · rw [hcache, hcache₂, h₁.same.cache]
    · rw [hnow, h₁.same.now] at hfails
      exact hfails.mono fun hc => h₁.callsFail (hturn.callsFail hc)
  · have h₂ := h₁.trans ⟨hturn.store_error.1, hturn.faults⟩
    exact Or.inl ⟨h₂.same.store, h₂.same.cache⟩

/-! ## Registering again -/

theorem FailsMinting.sameAccounts {u : Int} {now : Time.Instant} {callsFail : Prop}
    {m m' : Store.Memory} {e : AuthError} (h : FailsMinting s u now callsFail m e m') :
    Store.Memory.SameAccounts m m' := by
  cases h with
  | mark => exact ⟨rfl, rfl, rfl⟩
  | _ => exact .refl m

/-- What the store says to an account whose email or phone it has already. -/
def takenError : AuthError := .repository (.conflict "email or phone number already registered")

/-- While the email or the phone is taken, a registration that is otherwise in order is refused for
just that, unless a call fails. -/
theorem register_taken {birthDate : Time.Date} (hcomplete : IsComplete s r birthDate)
    (htaken : w.store.isTaken (normalize r.email) (Text.trim r.phone) = true) :
    Ensures (Turn mayFail) Anything w (register s r) (fun _ _ => False) fun e _ =>
      e = takenError ∨ CallsFail mayFail w := by
  refine ensures_register (fun e hnot => absurd hcomplete (hnot birthDate)) trivial
    fun birthDate' salt w₁ hcomplete' hsalt => ?_
  have h₁ : Still w w₁ := hsalt.still (q := .freshSalt) trivial
  rw [← h₁.same.store] at htaken
  refine ensures_bind (ensures_storeOr trivial (fun u w₂ hturn => ?_) fun c w₂ hturn => ?_)
  · have hcreated := (opens_of_turn (.refl w₁) hcomplete' hturn).2.free
    simp [htaken] at hcreated
  · rcases hturn.store_error.2 with hm | hf | ha
    · exact Or.inr (Or.inl hm)
    · exact Or.inr (h₁.callsFail (Or.inr hf))
    · simp [Store.Memory.answer, Store.Memory.createUser, newUser, htaken] at ha
      cases ha
      exact Or.inl rfl

/-- **A registration that fails** leaves store and cache as they were, unless it fails behind the
account. Then exactly the account that it asks for is there besides, and the cache is as it was: a
call to the store or the cache has failed, one of the tokens would end at no instant that can be
held, or the refresh token was stored already. From then on the same registration is refused,
because its email is taken. -/
theorem failed_register_adds_nothing_or_account {e : AuthError}
    (hl : Dialog.Leads (Turn mayFail) w (register s r).run (.error e) w') :
    (w'.store = w.store ∧ w'.cache = w.cache) ∨
      ∃ m, Opens s r w.now w.store m ∧ w'.cache = w.cache ∧
        FailsMinting s (w.store.lastUserId + 1) w.now (CallsFail mayFail w) m e w'.store ∧
        ∀ s' w₁ reply w₂, s'.birthDatePattern = s.birthDatePattern → w₁.store = w'.store →
          Dialog.Leads (Turn mayFail) w₁ (register s' r).run reply w₂ →
            reply = .error takenError ∨ (∃ e', reply = .error e') ∧ CallsFail mayFail w₁ := by
  have hend : RegisterFailed s r mayFail w e w' := (register_fails r).of_leads hl
  rcases hend with hsame | ⟨m, hopens, hcache, hfails⟩
  · exact Or.inl hsame
  · refine Or.inr ⟨m, hopens, hcache, hfails, ?_⟩
    intro s' w₁ reply w₂ hpattern hstore hagain
    obtain ⟨birthDate, _, hbirth, _⟩ := hopens.added
    have htaken : w₁.store.isTaken (normalize r.email) (Text.trim r.phone) = true := by
      rw [hstore, ← hopens.isTaken]
      unfold Store.Memory.isTaken
      rw [hfails.sameAccounts.liveRows_eq]
    rw [← hpattern] at hbirth
    have hrefused : Ensures (Turn mayFail) Anything w₁ (register s' r) (fun _ _ => False)
        fun e _ => e = takenError ∨ CallsFail mayFail w₁ :=
      register_taken (r := r) ⟨hopens.has_email, hopens.has_password, hbirth⟩ htaken
    cases reply with
    | ok pair => exact (hrefused.of_leads hagain).elim
    | error e' =>
      have he : e' = takenError ∨ CallsFail mayFail w₁ := hrefused.of_leads hagain
      rcases he with rfl | hc
      · exact Or.inl rfl
      · exact Or.inr ⟨⟨e', rfl⟩, hc⟩

/-- The world after a registration under settings with which no access token can be issued. -/
def sampleLeft : World :=
  (sampleWorld.run false (register sampleUnbounded (sampleRegistration "1")).run).2

theorem result_sampleLeft :
    (sampleWorld.run false (register sampleUnbounded (sampleRegistration "1")).run).1 =
      .error (.tokenCreation "token lifetime out of range") := by
  decide +kernel

theorem emails_sampleLeft :
    sampleLeft.store.rows.map (fun row => row.user.email) = ["user@example.com"] := by
  decide +kernel

/-- With other settings the registration is repeated, and refused because of what it has left. -/
theorem sampleLeft_refuses : ∃ m,
    Opens sampleUnbounded (sampleRegistration "1") .epoch sampleWorld.store m ∧
      (sampleLeft.run false (register sampleSettings (sampleRegistration "1")).run).1 =
        .error takenError := by
  have hl := World.leads_run False sampleWorld
    (register sampleUnbounded (sampleRegistration "1")).run
  rw [result_sampleLeft] at hl
  rcases failed_register_adds_nothing_or_account hl with ⟨hstore, _⟩ | ⟨m, hopens, _, _, hagain⟩
  · have hemails := emails_sampleLeft
    unfold sampleLeft at hemails
    rw [hstore] at hemails
    cases hemails
  · refine ⟨m, hopens, ?_⟩
    rcases hagain sampleSettings sampleLeft _ _ rfl rfl (World.leads_run False sampleLeft _) with
      hrefused | ⟨_, hfails | hfaults⟩
    · exact hrefused
    · exact hfails.elim
    · exact absurd (by decide +kernel) hfaults

/-- Variables that let access tokens last as long as can be asked for. -/
def unboundedLookup (name : String) : Option String :=
  if name = "ACCESS_TOKEN_TTL_SECS" then some "18446744073709551615" else none

/-- A registration can fail and leave its account behind: the server accepts the lifetime, no access
token can be issued, and where there was no account there is one with the email. -/
theorem sampleUnbounded_leaves_account :
    let r := sampleWorld.run false (register sampleUnbounded (sampleRegistration "1")).run
    (ServerSettings.ofLookup "access secret" "refresh secret" unboundedLookup).map
        ServerSettings.session = .ok sampleUnbounded ∧
      r.1 = .error (.tokenCreation "token lifetime out of range") ∧
      sampleWorld.store.rows = [] ∧
      r.2.store.rows.map (fun row => row.user.email) = ["user@example.com"] := by
  intro r
  refine ⟨by decide +kernel, result_sampleLeft, rfl, emails_sampleLeft⟩

end Session

end SignIn
