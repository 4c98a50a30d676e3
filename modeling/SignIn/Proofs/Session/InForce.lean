-- How long a mint is in force. The marker that a mint writes, and the account that
-- it is for, stay as they are through all calls but those that end the user's
-- sessions or mint for the user again.
import SignIn.Proofs.Session.Asking
import SignIn.Proofs.Cache.Consuming
import SignIn.Proofs.Text.Normalizing

namespace SignIn.Session

open Dialog (Ensures Along Anything ensures_bind ensures_failIf ensures_pure)
open Operation
open Text (normalize)
open World (Turn)

variable {s : Settings} {w w' : World} {mayFail : Prop} {u : Int} {email : String}
  {e : Cache.Entry}

/-! ## Emails of accounts -/

/-- The emails of all accounts are normalized, and none is empty. -/
def HasKnownEmails (w : World) : Prop :=
  ∀ r ∈ w.store.rows, normalize r.user.email = r.user.email ∧ r.user.email.isEmpty = false

theorem HasKnownEmails.turn (h : HasKnownEmails w) {c : Call} {q : Ask} {a : q.Answer}
    (hq : c.MayAsk s q) (ht : Turn mayFail w q a w') : HasKnownEmails w' := by
  unfold HasKnownEmails
  rcases ht.store_eq with hs | ⟨r, rfl, hs⟩
  · rw [hs]
    exact h
  · rw [hs]
    refine Store.Memory.emails_answer
      (P := fun email => normalize email = email ∧ email.isEmpty = false) h fun n hn => ?_
    subst hn
    obtain ⟨hne, r, _, hemail⟩ := hq
    exact ⟨by rw [hemail, Text.normalize_normalize], hne⟩

theorem HasKnownEmails.call (h : HasKnownEmails w) (c : Call) :
    HasKnownEmails (w.run false (c.program s)).2 := by
  obtain ⟨_, h', _⟩ := (World.leads_run False w (c.program s)).keeps_said
    (I := fun w _ => HasKnownEmails w) c.program_speaks
    (fun _ _ _ _ _ hI hq ht => HasKnownEmails.turn hI hq.2 ht) h
  exact h'

/-- In every run the emails of accounts are normalized. -/
theorem hasKnownEmails_runEvents (hw : IsFresh w) (events : List Event) :
    HasKnownEmails (runEvents s w events).1 := by
  have hfold : ∀ (events : List Event) (st : World × List TokenPair), HasKnownEmails st.1 →
      HasKnownEmails (events.foldl (Event.apply s) st).1 := by
    intro events
    induction events with
    | nil => exact fun _ h => h
    | cons event events ih =>
      intro st h
      refine ih _ ?_
      cases event with
      | call c => exact h.call c
      | pass wallNanos tickNanos => exact h
  refine hfold events (w, []) fun r hr => ?_
  obtain ⟨⟨roles, defaultRole, hstore⟩, _⟩ := hw
  change r ∈ w.store.rows at hr
  rw [hstore] at hr
  cases hr

/-! ## What a mint leaves behind -/

/-- No call fails, the entry is the user's marker, and the user has an account with the email. -/
structure InForce (s : Settings) (u : Int) (email : String) (e : Cache.Entry) (w : World) :
    Prop where
  faults : w.faults = []
  marker : w.cache.find? (s.accessKey u) = some e
  account : ∃ r ∈ w.store.liveRows, r.user.id = u ∧ r.user.email = email

/-- What holds while a call is under way that began in a world: the clocks stand still, and what has
been stored last is there. -/
structure Begun (w w' : World) (said : List Said) : Prop where
  faults : w'.faults = []
  now : w'.now = w.now
  ticks : w'.ticks = w.ticks
  clock : ∀ t, ⟨.clock, t⟩ ∈ said → t = w.now
  latest : ∀ key value lifetime rest,
    said = ⟨.cache (.set key value lifetime), .ok ()⟩ :: rest →
    w'.cache.find? key = some ⟨value, w.ticks + lifetime.nanos⟩

theorem Begun.turn {w₀ : World} {said : List Said} (h : Begun w₀ w said) {q : Ask} {a : q.Answer}
    (ht : Turn False w q a w') : Begun w₀ w' (⟨q, a⟩ :: said) := by
  obtain ⟨hnow, hticks⟩ := ht.clocks
  refine ⟨ht.faults h.faults, hnow.trans h.now, hticks.trans h.ticks, fun t hm => ?_,
    fun key value lifetime rest hs => ?_⟩
  · rcases List.mem_cons.1 hm with hm | hm
    · cases hm
      exact ht.clock.1.trans h.now
    · exact h.clock t hm
  · cases hs
    have hset : (w.cache.answer w.ticks (.set key value lifetime)).2 = w'.cache :=
      congrArg Prod.snd ht.cache_ok.1
    rw [← hset, ← h.ticks]
    change (w.cache.put key ⟨value, w.ticks + lifetime.nanos⟩).find? key = _
    rw [Cache.Memory.find?_put, if_pos rfl]

/-- A call that mints a pair leaves the marker of a token that was issued just now. -/
theorem marker_of_minted (hf : w.faults = []) {c : Call} {pair : TokenPair}
    (hrun : w.run false (c.program s) = (.ok (some pair), w')) :
    w'.faults = [] ∧ w'.now = w.now ∧ w'.ticks = w.ticks ∧
    ∃ u email permissions expiresAt id, Token.expiry s .access w.now = .ok expiresAt ∧
      pair.access = (Token.issueUntil s .access u email permissions w.now expiresAt id).token ∧
      w'.cache.find? (s.accessKey u) = some ⟨id, w.ticks + s.accessLifetime.nanos⟩ := by
  have hl := World.leads_run False w (c.program s)
  rw [hrun] at hl
  obtain ⟨said, h, hends⟩ := hl.keeps_said (I := Begun w) c.program_speaks
    (fun _ _ _ _ _ hI _ ht => hI.turn ht) ⟨hf, rfl, rfl, fun _ hm => (nomatch hm), nofun⟩
  obtain ⟨u, email, permissions, now, expiresAt, id, rest, hsaid, _, hclock, he, hp⟩ := hends
  have hnow : now = w.now := h.clock now (by rw [hsaid]; exact .tail _ hclock)
  subst hnow
  exact ⟨h.faults, h.now, h.ticks, u, email, permissions, expiresAt, id, he, hp,
    h.latest _ _ _ _ hsaid⟩

/-- The access token of a minted pair is for an account that is there. -/
theorem Minted.account {pair : TokenPair} (h : Minted s w pair w') :
    ∃ r ∈ w'.store.liveRows, ∃ permissions now expiresAt id, pair.access =
      (Token.issueUntil s .access r.user.id r.user.email permissions now expiresAt id).token := by
  obtain ⟨user, now, expiresAt, entry, w₁, hu, hp, hq, hstore, _⟩ := h
  obtain ⟨r, hr, rfl, _⟩ := Store.Memory.mem_of_findUser hu
  refine ⟨r, ?_, _, now, expiresAt, entry.value, hp⟩
  rw [hstore, hq.accounts.liveRows_eq]
  exact hr

/-- While no call fails, a mint for a user is in force once it has ended. -/
theorem inForce_of_minted (hk : s.HasDefaultKeys) (hn : w.store.Numbered) (hf : w.faults = [])
    {c : Call} {pair : TokenPair} (hrun : w.run false (c.program s) = (.ok (some pair), w'))
    (hu : IsAccessOf s u pair.access)
    (h64 : Text.Decimal.int64Low ≤ u ∧ u ≤ Text.Decimal.int64High) :
    w'.now = w.now ∧ w'.ticks = w.ticks ∧
    ∃ email permissions expiresAt id, Token.expiry s .access w.now = .ok expiresAt ∧
      pair.access = (Token.issueUntil s .access u email permissions w.now expiresAt id).token ∧
      InForce s u email ⟨id, w.ticks + s.accessLifetime.nanos⟩ w' := by
  obtain ⟨hfaults, hnow, hticks, v, email, permissions, expiresAt, id, he, hp, hmarker⟩ :=
    marker_of_minted hf hrun
  obtain rfl : v = u := hu.user_unique ⟨_, _, _, _, _, hp⟩ h64
  obtain ⟨r, hr, permissions', now', expiresAt', id', hp'⟩ : ∃ r ∈ w'.store.liveRows,
      ∃ permissions now expiresAt id, pair.access = (Token.issueUntil s .access r.user.id
        r.user.email permissions now expiresAt id).token := by
    have hl := World.leads_run False w (c.program s)
    rw [hrun] at hl
    cases Call.changes hk hn hl with
    | minted hm => exact hm.account
    | registered _ hm => exact hm.account
  -- The two ways to say for whom the token is are the same.
  have hsame := Token.sign_injective (Token.fits_claimsUntil h64 _ _ _ _ _ _) (hp.symm.trans hp')
  exact ⟨hnow, hticks, email, permissions, expiresAt, id, he, hp, hfaults, hmarker, r, hr,
    congrArg Claims.userId hsame, congrArg Claims.email hsame⟩

/-! ## Calls that leave it in force -/

/-- A question that neither writes nor removes the user's marker nor deletes the user leaves it in
force. -/
theorem InForce.turn (h : InForce s u email e w) (hover : w.ticks < e.expiresAt) {q : Ask}
    {a : q.Answer} (ht : Turn False w q a w')
    (hset : ∀ value lifetime, q ≠ .cache (.set (s.accessKey u) value lifetime))
    (hdelete : q ≠ .cache (.delete (s.accessKey u))) (hq : q ≠ .store (.softDelete u)) :
    InForce s u email e w' := by
  obtain ⟨r, hr, hid, hemail⟩ := h.account
  refine ⟨ht.faults h.faults, ht.find?_of_live hset hdelete hover h.marker, r, ?_, hid, hemail⟩
  rcases ht.store_eq with hs | ⟨q', rfl, hs⟩
  · rw [hs]
    exact hr
  · rw [hs]
    refine Store.Memory.mem_liveRows_answer hr fun hdel => hq ?_
    rw [hdel, hid]

/-- While a call is under way that began in a world: until it stores the user's marker, the mint is
in force. -/
structure Keeping (s : Settings) (u : Int) (email : String) (e : Cache.Entry) (w w' : World)
    (said : List Said) : Prop where
  faults : w'.faults = []
  ticks : w'.ticks = w.ticks
  inForce : ¬ Stored (s.accessKey u) said → InForce s u email e w'

theorem Keeping.turn (hk : s.HasDefaultKeys) {w₀ : World} {said : List Said}
    (h : Keeping s u email e w₀ w said) (hover : w₀.ticks < e.expiresAt) {c : Call}
    (hends : ¬ c.Ends u) {q : Ask} {a : q.Answer} (hq : c.Asks s said q)
    (ht : Turn False w q a w') : Keeping s u email e w₀ w' (⟨q, a⟩ :: said) := by
  refine ⟨ht.faults h.faults, ht.clocks.2.trans h.ticks, fun hnot => ?_⟩
  have hin := h.inForce fun ⟨value, lifetime, hm⟩ => hnot ⟨value, lifetime, .tail _ hm⟩
  have hover' : w.ticks < e.expiresAt := h.ticks ▸ hover
  refine hin.turn hover' ht (fun value lifetime hset => ?_) (fun hdelete => ?_) fun hdeleted => ?_
  · subst hset
    cases a with
    | ok a => exact hnot ⟨value, lifetime, .head _⟩
    | error f =>
      rcases ht.cache_error.2 with hm | hm
      · exact hm
      · exact hm h.faults
  · subst hdelete
    rcases hq.2 with ⟨identifier, code, _, hkey⟩ | ⟨v, hv, hkey⟩
    · exact hk.codeKey_ne_accessKey _ u hkey.symm
    · rw [hk.accessKey_injective hkey] at hends
      exact hends hv
  · subst hdeleted
    have hc : c = .deleteAccount u := hq.2
    subst hc
    exact hends rfl

/-- A call that has stored the marker of a user has minted for the user. -/
theorem minted_of_stored (hk : s.HasDefaultKeys) {c : Call} {said : List Said} {r : Reply}
    (hr : c.EndsWith s said r) (hstored : Stored (s.accessKey u) said) :
    ∃ pair, mintedBy r = some pair ∧ IsAccessOf s u pair.access := by
  unfold Call.EndsWith at hr
  cases hp : mintedBy r with
  | none =>
    rw [hp] at hr
    obtain ⟨identifier, _, hkey⟩ := hr _ hstored
    exact absurd hkey.symm (hk.codeKey_ne_accessKey _ u)
  | some pair =>
    rw [hp] at hr
    obtain ⟨v, email', permissions, now, expiresAt, id, rest, hsaid, hrest, _, _, hacc⟩ := hr
    obtain ⟨value, lifetime, hm⟩ := hstored
    rw [hsaid] at hm
    rcases List.mem_cons.1 hm with hm | hm
    · have hkey : s.accessKey u = s.accessKey v := by
        injection hm with hq _
        injection hq with hq
        injection hq
      obtain rfl := hk.accessKey_injective hkey
      exact ⟨pair, rfl, _, _, _, _, _, hacc⟩
    · exact absurd ⟨_, hm, rfl⟩ hrest

/-- A call that neither is made to end the sessions of the user nor mints for the user leaves it in
force. -/
theorem InForce.call (hk : s.HasDefaultKeys) (h : InForce s u email e w)
    (hover : w.ticks < e.expiresAt) {c : Call} (hends : ¬ c.Ends u)
    (hmints : ∀ pair, (w.run false (c.program s)).1 = .ok (some pair) →
      ¬ IsAccessOf s u pair.access) : InForce s u email e (w.run false (c.program s)).2 := by
  have hl := World.leads_run False w (c.program s)
  generalize w.run false (c.program s) = st at hl hmints ⊢
  obtain ⟨r, w'⟩ := st
  obtain ⟨said, hkeeping, hr⟩ := hl.keeps_said (I := Keeping s u email e w) c.program_speaks
    (fun _ _ _ _ _ hI hq ht => hI.turn hk hover hends hq ht) ⟨h.faults, rfl, fun _ => h⟩
  refine hkeeping.inForce fun hstored => ?_
  obtain ⟨pair, hp, hu⟩ := minted_of_stored hk hr hstored
  cases r with
  | error f => cases hp
  | ok minted =>
    obtain rfl : minted = some pair := hp
    exact hmints pair rfl hu

/-! ## Calls that fail to end sessions -/

/-- The operation leaves the cache as it is if it fails. -/
abbrev SparesCache {α : Type} (w₀ w : World) (op : Operation α) (post : α → World → Prop) : Prop :=
  Ensures (Turn False) Anything w op post fun _ w' => w'.cache = w₀.cache

theorem revokeAll_sparesCache {w₀ : World} (u : Int) (hw : w.cache = w₀.cache) :
    SparesCache w₀ w (revokeAll s u) fun _ _ => True := by
  unfold revokeAll
  refine ensures_bind (ensures_storeOr trivial (fun _ w₁ ht => ?_) fun _ w₁ ht => ?_)
  · have h₁ : w₁.cache = w₀.cache := (ht.cache_eq nofun).trans hw
    refine ensures_bind (ensures_cacheOr trivial (fun _ w₂ _ => ensures_pure trivial)
      fun _ w₂ ht => ?_)
    exact ht.cache_error.1.cache.trans h₁
  · exact (ht.cache_eq nofun).trans hw

theorem logout_sparesCache (u : Int) (token : String) :
    SparesCache w w (logout s u token) fun _ _ => True := by
  have hclock : Along (Turn False) Anything (fun q => q = .clock)
      (fun w₁ w₂ : World => w₂.cache = w₁.cache) w := by
    refine ⟨fun _ => rfl, fun h h' => h'.trans h, fun _ _ => trivial, ?_⟩
    rintro _ _ _ _ _ rfl ht
    exact ht.cache_eq nofun
  refine ensures_logout hclock (fun _ _ h₁ => h₁) fun w₁ h₁ _ => ?_
  refine ensures_bind (ensures_storeOr trivial (fun _ w₂ ht => ?_) fun _ w₂ ht => ?_)
  · refine ensures_bind (ensures_cacheOr trivial (fun _ w₃ _ => ensures_pure trivial)
      fun _ w₃ ht₃ => ?_)
    exact ht₃.cache_error.1.cache.trans ((ht.cache_eq nofun).trans h₁)
  · exact (ht.cache_eq nofun).trans h₁

theorem deleteAccount_sparesCache (u : Int) :
    SparesCache w w (deleteAccount s u) fun _ _ => True := by
  unfold deleteAccount
  refine ensures_bind (ensures_storeOr trivial (fun _ w₁ ht => ?_) fun _ w₁ ht => ?_)
  · have h₁ := ht.cache_eq nofun
    refine ensures_bind (ensures_failIf (fun _ => h₁) fun _ => ?_)
    exact ensures_bind ((revokeAll_sparesCache u h₁).imp (fun _ _ _ => ensures_pure trivial)
      fun _ _ h => h)
  · exact ht.cache_eq nofun

/-- What fails has been quiet and has left the cache as it was, if it is so made. -/
theorem unchanged_of_failed {α : Type} {op : Operation α} {post post' : α → World → Prop}
    (hcache : SparesCache w w op post)
    (hquiet : Ensures (Turn False) Anything w op post' fun _ w' => Quiet s w w') {f : AuthError}
    (hl : Dialog.Leads (Turn False) w
      (do let _ ← op; return none : Operation (Option TokenPair)).run (.error f) w') :
    w'.cache = w.cache ∧ Quiet s w w' := by
  have h₁ : SparesCache w w (do let _ ← op; return none : Operation (Option TokenPair))
      fun _ _ => True :=
    ensures_bind (hcache.imp (fun _ _ _ => ensures_pure trivial) fun _ _ h => h)
  have h₂ : Ensures (Turn False) Anything w
      (do let _ ← op; return none : Operation (Option TokenPair)) (fun _ _ => True)
      fun _ w' => Quiet s w w' :=
    ensures_bind (hquiet.imp (fun _ _ _ => ensures_pure trivial) fun _ _ h => h)
  exact ⟨h₁.holds.of_leads hl, h₂.holds.of_leads hl⟩

/-- A call that is made to end the sessions of the user, and fails, leaves all as it is. -/
theorem InForce.failed (hk : s.HasDefaultKeys) (h : InForce s u email e w) {c : Call}
    (hends : c.Ends u)
    (hfails : ∃ f, (w.run false (c.program s)).1 = .error f) :
    InForce s u email e (w.run false (c.program s)).2 := by
  have hl := World.leads_run False w (c.program s)
  generalize w.run false (c.program s) = st at hl hfails ⊢
  obtain ⟨r, w'⟩ := st
  obtain ⟨f, rfl⟩ : ∃ f, r = .error f := hfails
  have hfaults : w'.faults = [] :=
    hl.keeps (I := fun w => w.faults = []) (fun _ _ _ _ hf ht => ht.faults hf) h.faults
  have hquiet : ∀ {α : Type} {op : Operation α} {c : Call}, (∀ v, c ≠ .deleteAccount v) →
      HoldsTo (c.Poses s) op (fun _ => True) →
      Ensures (Turn False) Anything w op (fun _ _ => True) fun _ w' => Quiet s w w' :=
    fun hd hop => ((along_quiet (fun _ => Call.isQuiet_of_poses hk hd) w).ensures hop).imp
      (fun _ _ _ => trivial) fun _ _ h => h.2
  -- Whichever call it is, it has been quiet, and has left the cache as it was.
  obtain ⟨hcache, hquiet⟩ : w'.cache = w.cache ∧ Quiet s w w' := by
    cases c with
    | logout v token =>
      exact unchanged_of_failed (logout_sparesCache v token)
        (hquiet (c := .logout v token) nofun (logout_poses v token)) hl
    | revokeAll v =>
      exact unchanged_of_failed (revokeAll_sparesCache v rfl)
        (hquiet (c := .revokeAll v) nofun (revokeAll_poses v)) hl
    | deleteAccount v =>
      refine unchanged_of_failed (deleteAccount_sparesCache v) ((deleteAccount_deletes v).imp
        (fun _ _ hd => hd) fun _ w' hd => ?_) hl
      rcases hd with hq | ⟨hm | hm, _⟩
      · exact hq
      · exact hm.elim
      · exact absurd h.faults hm
    | register | login | refresh | sendCode | confirmCode | purge | profile | emailExists
    | isAlive => exact hends.elim
  refine ⟨hfaults, ?_, ?_⟩
  · change w'.cache.find? (s.accessKey u) = some e
    rw [hcache]
    exact h.marker
  · change ∃ r ∈ w'.store.liveRows, _
    rw [hquiet.accounts.liveRows_eq]
    exact h.account

/-! ## While a user is spared -/

/-- What can become of a world while no call deletes the user, ends the user's sessions or mints for
the user again, and time passes. -/
inductive Spared (s : Settings) (u : Int) (w : World) : World → Prop
  | start : Spared s u w w
  | call {w' : World} (h : Spared s u w w') (c : Call)
    (hends : c.Ends u → ∃ f, (w'.run false (c.program s)).1 = .error f)
    (hmints : ∀ pair, (w'.run false (c.program s)).1 = .ok (some pair) →
      ¬ IsAccessOf s u pair.access) : Spared s u w (w'.run false (c.program s)).2
  | pass {w' : World} (h : Spared s u w w') (wallNanos : Int) (tickNanos : Nat) :
    Spared s u w (w'.advance wallNanos tickNanos)

theorem ticks_run {α : Type} (w : World) (p : Program α) : (w.run false p).2.ticks = w.ticks :=
  (World.leads_run False w p).keeps (I := fun w' => w'.ticks = w.ticks)
    (fun _ _ _ _ h ht => ht.clocks.2.trans h) rfl

theorem Spared.ticks_le (h : Spared s u w w') : w.ticks ≤ w'.ticks := by
  induction h with
  | start => exact Nat.le_refl _
  | call h c _ _ ih =>
    rw [ticks_run]
    exact ih
  | pass h wallNanos tickNanos ih => exact Nat.le_trans ih (Nat.le_add_right _ tickNanos)

/-- A mint stays in force while the user is spared, until the marker is over. -/
theorem Spared.inForce (hk : s.HasDefaultKeys) (h : Spared s u w w')
    (hw : InForce s u email e w) (hover : w'.ticks < e.expiresAt) :
    InForce s u email e w' := by
  induction h with
  | start => exact hw
  | @call w' h c hends hmints ih =>
    rw [ticks_run] at hover
    have hin := ih hover
    by_cases hc : c.Ends u
    · exact hin.failed hk hc (hends hc)
    · exact hin.call hk hover hc hmints
  | @pass w' h wallNanos tickNanos ih =>
    have hin := ih (Nat.lt_of_le_of_lt (Nat.le_add_right _ tickNanos) hover)
    exact ⟨hin.faults, hin.marker, hin.account⟩

theorem Spared.knownEmails (h : Spared s u w w') (hw : HasKnownEmails w) : HasKnownEmails w' := by
  induction h with
  | start => exact hw
  | call h c _ _ ih => exact ih.call c
  | pass h wallNanos tickNanos ih => exact ih

end SignIn.Session
