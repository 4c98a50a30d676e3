-- What operations do to accounts and liveness markers. Most of their questions
-- leave the accounts as they are and put no marker in the cache; an operation
-- that mints a pair writes one marker, and that at its very end.
import SignIn.Proofs.Turns
import SignIn.Proofs.Cache.Entries
import SignIn.Proofs.Session.Keys
import SignIn.Proofs.Session.Calls

namespace SignIn.Session

open Operation
open Dialog (Ensures Anything Along Told ensures_pure ensures_bind ensures_failIf)
open Store.Memory (SameAccounts SparesAccounts)
open World (Turn IsAside)

variable {s : Settings} {mayFail : Prop} {w₀ w : World}

/-! ## Quiet -/

/-- The accounts are the same, and every marker was there before. -/
structure Quiet (s : Settings) (w w' : World) : Prop where
  accounts : SameAccounts w.store w'.store
  markers : ∀ u e, w'.cache.find? (s.accessKey u) = some e → w.cache.find? (s.accessKey u) = some e

theorem Quiet.refl (s : Settings) (w : World) : Quiet s w w := ⟨.refl w.store, fun _ _ h => h⟩

theorem Quiet.trans {w w' w'' : World} (h : Quiet s w w') (h' : Quiet s w' w'') : Quiet s w w'' :=
  ⟨h.accounts.trans h'.accounts, fun u e hm => h.markers u e (h'.markers u e hm)⟩

theorem Quiet.of_sameState {w w' : World} (h : World.SameState w w') : Quiet s w w' := by
  refine ⟨?_, fun u e hm => ?_⟩
  · rw [h.store]
    exact .refl _
  · rw [h.cache] at hm
    exact hm

theorem Quiet.of_store_ok {w' : World} {q : Store.Request} {a : q.Answer} (hq : SparesAccounts q)
    (ht : Turn mayFail w (.store q) (.ok a) w') : Quiet s w w' := by
  obtain ⟨ha, hc, _⟩ := ht.store_ok
  have hs := hq.same w.store w.now
  rw [ha] at hs
  refine ⟨hs, fun u e hm => ?_⟩
  rw [hc] at hm
  exact hm

theorem Quiet.of_cache_ok {w' : World} {q : Cache.Request} {a : q.Answer}
    (hq : ∀ u value d, q ≠ .set (s.accessKey u) value d)
    (ht : Turn mayFail w (.cache q) (.ok a) w') : Quiet s w w' := by
  obtain ⟨ha, hs, _⟩ := ht.cache_ok
  have hc : (w.cache.answer w.ticks q).2 = w'.cache := congrArg Prod.snd ha
  refine ⟨?_, fun u e hm => ?_⟩
  · rw [hs]
    exact .refl _
  · rw [← hc] at hm
    exact Cache.Memory.find?_of_answer (fun value d => hq u value d) hm

/-- A question that leaves accounts and markers as they are. -/
def IsQuiet (s : Settings) : Ask → Prop
  | .store q => SparesAccounts q
  | .cache q => ∀ u value d, q ≠ .set (s.accessKey u) value d
  | _ => True

theorem Quiet.turn {w' : World} {q : Ask} {a : q.Answer} (ht : Turn mayFail w q a w')
    (hq : IsQuiet s q) : Quiet s w w' := by
  cases q with
  | store q =>
    cases a with
    | ok a => exact .of_store_ok hq ht
    | error e => exact .of_sameState ht.store_error.1
  | cache q =>
    cases a with
    | ok a => exact .of_cache_ok hq ht
    | error e => exact .of_sameState ht.cache_error.1
  | clock | deliver | freshId | freshCode | freshSalt =>
    refine .of_sameState (ht.aside ?_)
    exact trivial

theorem along_quiet {kind : Ask → Prop} (h : ∀ q, kind q → IsQuiet s q) (w : World) :
    Along (Turn mayFail) Anything kind (Quiet s) w where
  refl := .refl s
  trans := .trans
  asks _ _ := trivial
  turns _ hq ht := .turn ht (h _ hq)

theorem isQuiet_of_preliminary (q : Ask) (hq : q.IsPreliminary) : IsQuiet s q :=
  Ask.preliminary_cases trivial trivial (fun _ => trivial) (fun _ => trivial) (fun _ => trivial)
    q hq

/-- However the operation ends: if it fails, all has been quiet since `w₀`, and if it succeeds, it
ends as `post` says. -/
abbrev QuietOr {α : Type} (s : Settings) (mayFail : Prop) (w₀ w : World) (op : Operation α)
    (post : α → World → Prop) : Prop :=
  Ensures (Turn mayFail) Anything w op post fun _ w' => Quiet s w₀ w'

theorem quietOr_storeOr {q : Store.Request} {onError : StoreError → AuthError}
    {post : q.Answer → World → Prop} (hq : SparesAccounts q) (hw : Quiet s w₀ w)
    (h : ∀ a w', Quiet s w₀ w' → w.store.answer w.now q = (.ok a, w'.store) → post a w') :
    QuietOr s mayFail w₀ w (storeOr onError q) post := by
  refine ensures_storeOr trivial (fun a w' ht => ?_) (fun e w' ht => ?_)
  · exact h a w' (hw.trans (.of_store_ok hq ht)) ht.store_ok.1
  · exact hw.trans (.of_sameState ht.store_error.1)

theorem quietOr_cacheOr {q : Cache.Request} {onError : CacheError → AuthError}
    {post : q.Answer → World → Prop} (hq : ∀ u value d, q ≠ .set (s.accessKey u) value d)
    (hw : Quiet s w₀ w)
    (h : ∀ a w', Quiet s w₀ w' → w.cache.answer w.ticks q = (a, w'.cache) → post a w') :
    QuietOr s mayFail w₀ w (cacheOr onError q) post := by
  refine ensures_cacheOr trivial (fun a w' ht => ?_) (fun e w' ht => ?_)
  · exact h a w' (hw.trans (.of_cache_ok hq ht)) ht.cache_ok.1
  · exact hw.trans (.of_sameState ht.cache_error.1)

/-! ## What has been told -/

section

variable {R : World → World → Prop} {w' : World}

/-- What the store has told on the way is its answer somewhere on the way. -/
theorem exists_answer_of_told {q : Store.Request} {a : q.Answer}
    (h : Told (Turn mayFail) R w (.store q) (.ok a) w') :
    ∃ w₁, R w w₁ ∧ (w₁.store.answer w₁.now q).1 = .ok a := by
  obtain ⟨w₁, w₂, hw₁, ht, _⟩ := h
  exact ⟨w₁, hw₁, congrArg Prod.fst ht.store_ok.1⟩

theorem now_of_told (hR : ∀ w₁, R w w₁ → w₁.now = w.now) {now : Time.Instant}
    (h : Told (Turn mayFail) R w .clock now w') : now = w.now := by
  obtain ⟨w₁, _, hw₁, ht, _⟩ := h
  exact ht.clock.1.trans (hR w₁ hw₁)

variable (hR : ∀ w₁, R w w₁ → SameAccounts w.store w₁.store)
include hR

theorem findUser_of_told {u : Int} {found : Option User}
    (h : Told (Turn mayFail) R w (.store (.findUser u)) (.ok found) w') :
    w.store.findUser u = found := by
  obtain ⟨w₁, hw₁, ha⟩ := exists_answer_of_told h
  rw [← (hR w₁ hw₁).findUser_eq]
  exact Except.ok.inj ha

theorem grantedTo_of_told {permissions : List String} {role : Option Int}
    (h : Granted (Turn mayFail) R w permissions w' role) :
    permissions = w.store.grantedTo role := by
  cases role with
  | none => exact h
  | some role =>
    obtain ⟨w₁, hw₁, ha⟩ := exists_answer_of_told h
    rw [← (hR w₁ hw₁).grantedTo_eq]
    exact (Except.ok.inj ha).symm

theorem findCredentials_of_told {email : String} {found : Option Credentials}
    (h : Told (Turn mayFail) R w (.store (.findCredentials email)) (.ok found) w') :
    w.store.findCredentials email = found := by
  obtain ⟨w₁, hw₁, ha⟩ := exists_answer_of_told h
  rw [← Except.ok.inj ha]
  unfold Store.Memory.findCredentials
  rw [(hR w₁ hw₁).liveRows_eq]

theorem findByPhone_of_told {phone : String} {found : Option User}
    (h : Told (Turn mayFail) R w (.store (.findByPhone phone)) (.ok found) w') :
    w.store.findByPhone phone = found := by
  obtain ⟨w₁, hw₁, ha⟩ := exists_answer_of_told h
  rw [← Except.ok.inj ha]
  unfold Store.Memory.findByPhone
  rw [(hR w₁ hw₁).liveRows_eq]

end

/-! ## Operations that mint -/

/-- A pair has been minted since `w₀`: its access token is for a user whose account is there, says
what the account says, and its id has been written into the user's marker, after nothing else. -/
def Minted (s : Settings) (w₀ : World) (pair : TokenPair) (w' : World) : Prop :=
  ∃ user now expiresAt entry w₁, w₀.store.findUser user.id = some user ∧
    pair.access = (Token.issueUntil s .access user.id user.email (w₀.store.grantedTo user.role) now
      expiresAt entry.value).token ∧
    Quiet s w₀ w₁ ∧ w'.store = w₁.store ∧ w'.cache = w₁.cache.put (s.accessKey user.id) entry

/-- The marker is written last. -/
theorem conclude_mints {user : User} {now expiresAt : Time.Instant} {id : String}
    {next : Token.Issued} (hw : Quiet s w₀ w) (hu : w₀.store.findUser user.id = some user)
    (he : Token.expiry s .access now = .ok expiresAt) :
    QuietOr s mayFail w₀ w (conclude s user.id now (Token.issueUntil s .access user.id user.email
      (w₀.store.grantedTo user.role) now expiresAt id) next) (Minted s w₀) := by
  refine ensures_conclude he trivial (fun w₁ ht => ?_) fun _ w₁ ht =>
    hw.trans (.of_sameState ht.cache_error.1)
  obtain ⟨ha, hs, _⟩ := ht.cache_ok
  exact ⟨user, now, expiresAt, ⟨id, _⟩, w, hu, rfl, hw, hs, (congrArg Prod.snd ha).symm⟩

/-- Minting fails quietly or mints. -/
theorem createPair_mints {userId : Int} {email : String} (now : Time.Instant) (hw : Quiet s w₀ w)
    (hemail : ∀ user, w₀.store.findUser userId = some user → user.email = email) :
    QuietOr s mayFail w₀ w (createPair s userId email now) (Minted s w₀) := by
  refine ensures_createPair (along_quiet isQuiet_of_preliminary w) (fun _ _ h _ => hw.trans h)
    fun access refresh w₁ h₁ hp => ?_
  obtain ⟨user, permissions, hfound, hgranted, ⟨expiresAt, id, he, _, rfl⟩, _⟩ := hp
  have hu : w₀.store.findUser userId = some user := by
    rw [← hw.accounts.findUser_eq]
    exact findUser_of_told (fun _ h => h.accounts) hfound
  obtain ⟨_, _, _, rfl⟩ := Store.Memory.mem_of_findUser hu
  rw [grantedTo_of_told (fun _ h => h.accounts) hgranted, hw.accounts.grantedTo_eq,
    ← hemail user hu]
  exact ensures_bind (quietOr_storeOr trivial (hw.trans h₁) fun _ w₂ h₂ _ =>
    conclude_mints h₂ hu he)

/-- A refresh fails quietly or mints. -/
theorem refresh_mints (token : String) (hw : Quiet s w₀ w) :
    QuietOr s mayFail w₀ w (refresh s token) (Minted s w₀) := by
  refine ensures_refresh (along_quiet isQuiet_of_preliminary w) (fun _ _ h => hw.trans h)
    fun u user now next w₁ h₁ he => ?_
  have hu : w₀.store.findUser u = some user := by
    rw [← hw.accounts.findUser_eq]
    exact findUser_of_told (fun _ h => h.accounts) he.account
  obtain ⟨_, _, _, rfl⟩ := Store.Memory.mem_of_findUser hu
  have h₁ := hw.trans h₁
  have hspares : IsQuiet s (.store (.rotateToken user.id token next.token next.expiresAt)) :=
    trivial
  refine ensures_rotate trivial (fun _ w₂ ht => h₁.trans (.turn ht hspares))
    (fun w₂ ht => h₁.trans (.turn ht hspares)) fun w₂ ht => ?_
  have h₂ := h₁.trans (.turn ht hspares)
  refine ensures_remint (along_quiet isQuiet_of_preliminary w₂) (fun _ => trivial) trivial
    (fun _ _ h _ => h₂.trans h) fun permissions access w₃ h₃ hgranted ha => ?_
  obtain ⟨expiresAt, id, he, _, rfl⟩ := ha
  rw [grantedTo_of_told (fun _ h => h.accounts) hgranted, h₂.accounts.grantedTo_eq]
  exact conclude_mints (h₂.trans h₃) hu he

/-- A live account has the email that it is minted for. -/
theorem email_of_mem {m : Store.Memory} (hn : m.Numbered) {r : Store.Row} (hr : r ∈ m.liveRows)
    {user : User} (hu : m.findUser r.user.id = some user) : user.email = r.user.email := by
  rw [hn.findUser_of_mem hr] at hu
  rw [Option.some.inj hu]

theorem login_mints (email password : String) (hn : w₀.store.Numbered) (hw : Quiet s w₀ w) :
    QuietOr s mayFail w₀ w (login s email password) (Minted s w₀) := by
  have hquiet : ∀ q, LoginAsks email q → IsQuiet s q := by
    rintro _ (rfl | rfl) <;> exact trivial
  refine ensures_login (along_quiet hquiet w) (fun _ _ h => hw.trans h)
    fun credentials now w₁ h₁ hc _ => ?_
  obtain ⟨r, hr, hid, hemail⟩ := Store.Memory.mem_of_findCredentials
    (findCredentials_of_told (fun _ h => h.accounts) hc)
  rw [hw.accounts.liveRows_eq] at hr
  refine createPair_mints now (hw.trans h₁) fun user hu => ?_
  rw [← hid] at hu
  rw [email_of_mem hn hr hu, hemail]

theorem confirmCode_mints (identifier code : String) (hn : w₀.store.Numbered)
    (hw : Quiet s w₀ w) :
    QuietOr s mayFail w₀ w (confirmCode s identifier code) fun c w' =>
      match c.tokens with
      | some pair => Minted s w₀ pair w'
      | none => Quiet s w₀ w' := by
  have hquiet : ∀ q, ConfirmationAsks s identifier q → IsQuiet s q := by
    rintro _ (rfl | rfl | rfl | rfl)
    · exact fun _ _ _ => nofun
    · exact fun _ _ _ => nofun
    · exact trivial
    · exact trivial
  refine ensures_confirmCode (along_quiet hquiet w) (fun _ _ h => hw.trans h)
    (fun w₁ h₁ _ => hw.trans h₁) fun user now w₁ h₁ hp _ => ?_
  obtain ⟨r, hr, rfl⟩ := Store.Memory.mem_of_findByPhone
    (findByPhone_of_told (fun _ h => h.accounts) hp)
  rw [hw.accounts.liveRows_eq] at hr
  exact createPair_mints now (hw.trans h₁) fun user hu => email_of_mem hn hr hu

/-! ## Operations that are quiet -/

/-- A call that mints nothing is quiet if it deletes no account. -/
theorem Call.isQuiet_of_poses {c : Call} (hk : s.HasDefaultKeys)
    (hd : ∀ u, c ≠ .deleteAccount u) {q : Ask} (hq : c.Poses s q) : IsQuiet s q := by
  cases c with
  | register | login | refresh | confirmCode => exact hq.elim
  | deleteAccount u => exact absurd rfl (hd u)
  | logout u t =>
    rcases hq with rfl | rfl | rfl
    · exact trivial
    · exact trivial
    · exact fun _ _ _ => nofun
  | sendCode identifier =>
    rcases hq with rfl | ⟨code, rfl⟩ | ⟨code, rfl⟩
    · exact trivial
    · intro u value d he
      injection he with hkey
      exact hk.codeKey_ne_accessKey _ u hkey
    · exact trivial
  | revokeAll u =>
    rcases hq with rfl | rfl
    · exact trivial
    · exact fun _ _ _ => nofun
  | purge | profile | emailExists =>
    cases hq
    exact trivial
  | isAlive u id =>
    rcases hq with rfl | rfl <;> exact fun _ _ _ => nofun

theorem emailExists_quiet (email : String) (hw : Quiet s w₀ w) :
    QuietOr s mayFail w₀ w (emailExists email) fun b w' =>
      Quiet s w₀ w' ∧ b = w.store.emailExists (Text.normalize email) :=
  quietOr_storeOr trivial hw fun _ _ h ha =>
    ⟨h, (Except.ok.inj (congrArg Prod.fst ha)).symm⟩

/-- Only the token whose id a marker names is alive. -/
theorem isAlive_quiet (userId : Int) (id : String) (hw : Quiet s w₀ w) :
    QuietOr s mayFail w₀ w (isAlive s userId id) fun b w' => Quiet s w₀ w' ∧
      (b = true → ∃ e, w₀.cache.find? (s.accessKey userId) = some e ∧ e.value = id) := by
  unfold isAlive
  refine ensures_bind (quietOr_cacheOr (fun _ _ _ => nofun) hw fun left w₁ h₁ _ => ?_)
  cases left with
  | none => exact ensures_pure ⟨h₁, fun h => by cases h⟩
  | some left =>
    dsimp only
    split
    · exact ensures_pure ⟨h₁, fun h => by cases h⟩
    · refine ensures_bind (quietOr_cacheOr (fun _ _ _ => nofun) h₁ fun marker w₂ h₂ ha => ?_)
      refine ensures_pure ⟨h₂, fun h => ?_⟩
      have hm : marker = some id := eq_of_beq (α := Option String) h
      have hget : ((w₁.cache.live w₁.ticks (s.accessKey userId)).1.map Cache.Entry.value) =
          some id := by rw [← hm]; exact congrArg Prod.fst ha
      obtain ⟨e, he, hv⟩ := Option.map_eq_some_iff.1 hget
      exact ⟨e, h₁.markers _ _ (Cache.Memory.find?_of_live he).1, hv⟩

/-! ## Operations on accounts -/

/-- An account has been created, and nothing else has changed. -/
def Created (u : NewUser) (w w₁ : World) : Prop :=
  ∃ now, w₁.store = (w.store.createUser now u).2 ∧ w₁.cache = w.cache

/-- An account has been deleted, if it was there, and nothing else has changed. -/
def Deleted (userId : Int) (w w₁ : World) : Prop :=
  ∃ now, w₁.store = (w.store.softDelete now userId).2 ∧ w₁.cache = w.cache

theorem register_mints (r : Registration) (hn : w.store.Numbered) :
    Ensures (Turn mayFail) Anything w (register s r)
      (fun pair w' => ∃ u w₁, Created u w w₁ ∧ Minted s w₁ pair w')
      (fun _ w' => Quiet s w w' ∨ ∃ u w₁, Created u w w₁ ∧ Quiet s w₁ w') := by
  refine ensures_register (fun _ _ => Or.inl (.refl s w)) trivial
    fun birthDate salt w₁ _ hsalt => ?_
  have h₁ := hsalt.aside (q := .freshSalt) trivial
  refine ensures_bind (ensures_storeOr trivial (fun id w₂ ht => ?_) fun e w₂ ht =>
    Or.inl ((Quiet.of_sameState h₁).trans (.of_sameState ht.store_error.1)))
  obtain ⟨ha, hc, _⟩ := ht.store_ok
  rw [h₁.store, h₁.now] at ha
  have hcreated : Created (newUser r (Text.normalize r.email) birthDate
      (Password.hash salt r.password)) w w₂ :=
    ⟨w.now, (congrArg Prod.snd ha).symm, hc.trans h₁.cache⟩
  refine ensures_bind (ensures_ask trivial fun now w₃ ht => ?_)
  have h₃ : Quiet s w₂ w₃ := .of_sameState (ht.aside (q := .clock) trivial)
  refine (createPair_mints now h₃ fun user hu => ?_).imp
    (fun pair w' hm => ⟨_, w₂, hcreated, hm⟩) fun e w' hq => Or.inr ⟨_, w₂, hcreated, hq⟩
  have hstore : w₂.store = (w.store.createUser w.now _).2 := (congrArg Prod.snd ha).symm
  rw [hstore] at hu
  exact hn.email_created (congrArg Prod.fst ha) hu

theorem deleteAccount_deletes (userId : Int) :
    Ensures (Turn mayFail) Anything w (deleteAccount s userId)
      (fun _ w' => ∃ w₁, Deleted userId w w₁ ∧ Quiet s w₁ w' ∧
        w'.cache.find? (s.accessKey userId) = none)
      (fun _ w' => Quiet s w w' ∨
        (mayFail ∨ w.faults ≠ []) ∧ ∃ w₁, Deleted userId w w₁ ∧ Quiet s w₁ w') := by
  unfold deleteAccount
  refine ensures_bind (ensures_storeOr trivial (fun found w₁ ht => ?_) fun e w₁ ht =>
    Or.inl (.of_sameState ht.store_error.1))
  obtain ⟨ha, hc, _⟩ := ht.store_ok
  have hdeleted : Deleted userId w w₁ := ⟨w.now, (congrArg Prod.snd ha).symm, hc⟩
  refine ensures_bind (ensures_failIf (fun hf => Or.inl ?_) fun _ => ?_)
  · -- There was nothing to delete.
    have hfound : (w.store.softDelete w.now userId).1 = found :=
      Except.ok.inj (congrArg Prod.fst ha)
    have hnone : (w.store.softDelete w.now userId).1 = false :=
      hfound.trans ((Bool.not_eq_true' found).mp hf)
    have hstore : w₁.store = w.store := by
      rw [← Store.Memory.softDelete_of_false hnone]
      exact (congrArg Prod.snd ha).symm
    refine ⟨?_, fun u e hm => ?_⟩
    · rw [hstore]
      exact .refl _
    · rw [hc] at hm
      exact hm
  · unfold revokeAll
    refine ensures_bind (ensures_bind (ensures_storeOr trivial (fun _ w₂ ht₂ => ?_)
      fun e w₂ ht₂ => ?_))
    · have hq : SparesAccounts (.revokeAll userId) := trivial
      have h₂ : Quiet s w₁ w₂ := .of_store_ok hq ht₂
      refine ensures_bind (ensures_cacheOr trivial (fun _ w₃ ht₃ => ?_) fun e w₃ ht₃ => ?_)
      · have hcache : w₃.cache = (w₂.cache.delete w₂.ticks (s.accessKey userId)).2 :=
          (congrArg Prod.snd ht₃.cache_ok.1).symm
        have hd : ∀ u v d,
            (.delete (s.accessKey userId) : Cache.Request) ≠ .set (s.accessKey u) v d :=
          fun _ _ _ => nofun
        refine ensures_pure (ensures_pure ⟨w₁, hdeleted, h₂.trans (.of_cache_ok hd ht₃), ?_⟩)
        rw [hcache]
        exact Cache.Memory.find?_delete _ _ _
      · obtain ⟨hs₃, hm⟩ := ht₃.cache_error
        refine Or.inr ⟨hm.imp_right fun hn hf => hn (ht₂.faults (ht.faults hf)), w₁, hdeleted,
          h₂.trans (.of_sameState hs₃)⟩
    · obtain ⟨hs₂, hm | hn | he⟩ := ht₂.store_error
      · exact Or.inr ⟨Or.inl hm, w₁, hdeleted, .of_sameState hs₂⟩
      · exact Or.inr ⟨Or.inr fun hf => hn (ht.faults hf), w₁, hdeleted, .of_sameState hs₂⟩
      · cases he

/-! ## What a call can have done -/

/-- What a call can have done since `w`, with the pair that it has minted. An account may be left
deleted with its marker in place, but only where calls to the store or the cache fail. -/
inductive Change (s : Settings) (mayFail : Prop) (w : World) : Option TokenPair → World → Prop
  | quiet {w' : World} (h : Quiet s w w') : Change s mayFail w none w'
  | minted {pair : TokenPair} {w' : World} (h : Minted s w pair w') :
    Change s mayFail w (some pair) w'
  | created {u : NewUser} {w₁ w' : World} (hc : Created u w w₁) (h : Quiet s w₁ w') :
    Change s mayFail w none w'
  | registered {u : NewUser} {pair : TokenPair} {w₁ w' : World} (hc : Created u w w₁)
    (h : Minted s w₁ pair w') : Change s mayFail w (some pair) w'
  | deleted {userId : Int} {w₁ w' : World} (hd : Deleted userId w w₁) (h : Quiet s w₁ w')
    (hm : (mayFail ∨ w.faults ≠ []) ∨ w'.cache.find? (s.accessKey userId) = none) :
    Change s mayFail w none w'

variable {s : Settings} {mayFail : Prop} {w : World}

/-- A call that mints nothing and deletes nobody is quiet. -/
theorem Call.changes_of_poses {c : Call} (hk : s.HasDefaultKeys) (hc : c.mints = false)
    (hd : ∀ u, c ≠ .deleteAccount u) :
    Ensures (Turn mayFail) Anything w (c.operation s) (Change s mayFail w)
      fun _ w' => Change s mayFail w none w' := by
  refine (Call.ensures_of_poses hc (along_quiet (fun q => c.isQuiet_of_poses hk hd) w)).imp
    (fun minted w' h => ?_) fun _ _ h => .quiet h
  obtain ⟨rfl, hq⟩ := h
  exact .quiet hq

theorem changes_of_minted {op : Operation TokenPair}
    (h : QuietOr s mayFail w w op (Minted s w)) :
    Ensures (Turn mayFail) Anything w (do return some (← op)) (Change s mayFail w)
      fun _ w' => Change s mayFail w none w' :=
  ensures_bind (h.imp (fun _ _ hm => ensures_pure (.minted hm)) fun _ _ hq => .quiet hq)

theorem Call.operation_changes (c : Call) (hk : s.HasDefaultKeys) (hn : w.store.Numbered) :
    Ensures (Turn mayFail) Anything w (c.operation s) (Change s mayFail w)
      fun _ w' => Change s mayFail w none w' := by
  have h₀ : Quiet s w w := .refl s w
  cases c with
  | register r =>
    refine ensures_bind ((register_mints r hn).imp (fun pair w' hm => ?_) fun _ w' hf => ?_)
    · obtain ⟨u, w₁, hc, hm⟩ := hm
      exact ensures_pure (.registered hc hm)
    · rcases hf with hq | ⟨u, w₁, hc, hq⟩
      · exact .quiet hq
      · exact .created hc hq
  | login email password => exact changes_of_minted (login_mints email password hn h₀)
  | refresh token => exact changes_of_minted (refresh_mints token h₀)
  | confirmCode identifier code =>
    refine ensures_bind ((confirmCode_mints identifier code hn h₀).imp (fun c w' hc => ?_)
      fun _ _ hq => .quiet hq)
    refine ensures_pure ?_
    split at hc
    · rename_i pair hp
      rw [hp]
      exact .minted hc
    · rename_i hp
      rw [hp]
      exact .quiet hc
  | deleteAccount userId =>
    refine ensures_bind ((deleteAccount_deletes userId).imp (fun _ w' hd => ?_) fun _ w' hf => ?_)
    · obtain ⟨w₁, hd, hq, hm⟩ := hd
      exact ensures_pure (.deleted hd hq (Or.inr hm))
    · rcases hf with hq | ⟨hm, w₁, hd, hq⟩
      · exact .quiet hq
      · exact .deleted hd hq (Or.inl hm)
  | logout | sendCode | revokeAll | purge | profile | emailExists | isAlive =>
    exact Call.changes_of_poses hk rfl fun _ => nofun

/-- However a call ends, it has changed accounts and markers in one of the ways that calls do. -/
theorem Call.changes {c : Call} (hk : s.HasDefaultKeys) (hn : w.store.Numbered) {r : Reply}
    {w' : World} (h : Dialog.Leads (Turn mayFail) w (c.program s) r w') :
    Change s mayFail w (mintedBy r) w' := by
  have hr := (c.operation_changes hk hn).holds.of_leads h
  cases r <;> exact hr

end SignIn.Session
