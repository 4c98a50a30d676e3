-- What every operation makes of the number of sessions that everybody has.
-- Signing in gives a user one more, a refresh exchanges one for another, and
-- ending sessions takes them away; and what fails on the way neither leaks nor
-- doubles one.
import SignIn.Proofs.Session.Counts
import SignIn.Proofs.Session.Returning

namespace SignIn.Session

open Dialog (Ensures Told Anything ensures_pure ensures_bind ensures_failIf)
open Operation
open World (Turn Balanced Raised Emptied Steady sessions balanced_of_tokens_eq)
open Text (normalize)
open Text.Decimal (int64Low int64High)

variable {s : Settings} {mayFail : Prop} {a : Act} {w₀ w w' : World} {u v : Int} {t : String}

/-! ## Minting -/

/-- Whether it succeeds or fails, a pair is minted by storing its refresh token; if it fails
behind that, then because the marker could not be written. -/
theorem createPair_credits (hf : w.faults = []) (u : Int) (email : String) (now : Time.Instant) :
    Ensures (Turn mayFail) Anything w (createPair s u email now)
      (fun pair w' => IsAccessOf s u pair.access ∧ Credited s u now w w')
      fun e w' => Balanced w w' ∨ mayFail ∧ (∃ c, e = markFailed c) ∧ Credited s u now w w' := by
  refine ensures_createPair (along_steady writesNothing_of_preliminary w)
    (fun _ _ h _ => Or.inl h.balanced) fun access refresh w₁ h₁ hp => ?_
  obtain ⟨_, _, _, _, haccess, hrefresh⟩ := hp
  refine ensures_bind (ensures_storeOr trivial (fun _ w₂ ht => ?_) fun _ _ ht =>
    Or.inl (h₁.trans ht.steady_of_store_error).balanced)
  -- From here on the token is stored, whatever becomes of the marker.
  have hcredited : Credited s u now w₁ w₂ := by
    have hx := ht.store_ok.1
    change w₁.store.createToken w₁.now u _ _ = _ at hx
    unfold Store.Memory.createToken at hx
    split at hx
    · cases hx
    · rename_i hnone
      exact credited_of_putToken (Option.not_isSome_iff_eq_none.1 hnone) hrefresh.expiry
        (congrArg Prod.snd hx).symm ht.clocks.1
  have hcredited := hcredited.of_steady h₁.balanced h₁.now
  have hf₂ := ht.faults (h₁.faults hf)
  refine ensures_conclude haccess.expiry trivial (fun w₃ hm => ⟨?_, ?_⟩)
    fun c w₃ hm => Or.inr ⟨?_, ⟨c, rfl⟩, ?_⟩
  · obtain ⟨_, _, _, _, rfl⟩ := haccess
    exact ⟨_, _, _, _, _, rfl⟩
  · exact hcredited.balanced hm.steady_of_cache.balanced
  · exact hm.cache_error.2.resolve_right fun hn => hn hf₂
  · exact hcredited.balanced hm.steady_of_cache.balanced

/-! ## Acts in general -/

/-- The failure is that of a call to the cache. -/
def IsOfCache (e : AuthError) : Prop := ∃ c, e = .cache c ∨ e = markFailed c

/-- If the operation succeeds, the numbers of sessions are what the act makes of them; and if it
fails, they are what they were, unless a call to the cache has failed behind the write. -/
abbrev Accounting {α : Type} (s : Settings) (a : Act) (mayFail : Prop) (w₀ w : World)
    (op : Operation α) (post : α → Prop) : Prop :=
  Ensures (Turn mayFail) Anything w op (fun x w' => post x ∧ a.Moves s w₀ w')
    fun e w' => Balanced w₀ w' ∨ mayFail ∧ IsOfCache e ∧ a.Moves s w₀ w'

/-! ## Signing in -/

/-- Minting a pair now signs in the user that it is minted for. -/
theorem createPair_accounts (hmoves : ∀ w', a.Moves s w₀ w' = Joined (a.actor s w₀) w₀ w')
    (hu : a.actor s w₀ = some u) (hlife : 0 < s.refreshLifetime.nanos) (hf : w.faults = [])
    (hb : Balanced w₀ w) (email : String) :
    Accounting s a mayFail w₀ w (createPair s u email w.now) (a.Names s w₀) := by
  have hjoined : ∀ {w'}, Credited s u w.now w w' → a.Moves s w₀ w' := by
    intro w' h
    rw [hmoves, hu]
    exact hb.raised (h.raised hlife rfl)
  refine (createPair_credits hf u email w.now).imp (fun pair w' h => ?_) fun e w' h => ?_
  · exact ⟨⟨u, hu, h.1⟩, hjoined h.2⟩
  · rcases h with h | ⟨hm, ⟨c, hc⟩, h⟩
    · exact Or.inl (hb.trans h)
    · exact Or.inr ⟨hm, ⟨c, Or.inr hc⟩, hjoined h⟩

theorem login_accounts (hlife : 0 < s.refreshLifetime.nanos) (hf : w.faults = [])
    (email password : String) : Accounting s (.call (.login email password)) mayFail w w
      (login s email password) (Act.Names s (.call (.login email password)) w) := by
  refine ensures_login (along_steady (fun _ => writesNothing_of_loginAsks) w)
    (fun _ _ h => Or.inl h.balanced) fun credentials now w₁ h₁ hfound hnow => ?_
  have hu : Act.actor s w (.call (.login email password)) = some credentials.id := by
    change (w.store.findCredentials (normalize email)).map Credentials.id = _
    rw [findCredentials_of_told (fun _ h => .of_eq h.store) hfound]
    rfl
  rw [now_of_told (fun _ h => h.now) hnow, ← h₁.now]
  exact createPair_accounts (fun _ => rfl) hu hlife (h₁.faults hf) h₁.balanced credentials.email

theorem register_accounts (hlife : 0 < s.refreshLifetime.nanos) (hf : w.faults = [])
    (r : Registration) : Accounting s (.call (.register r)) mayFail w w (register s r)
      (Act.Names s (.call (.register r)) w) := by
  refine ensures_register (fun _ _ => Or.inl (.refl w)) trivial fun birthDate salt w₁ _ ht₁ => ?_
  have h₁ := ht₁.steady (q := .freshSalt) trivial
  refine ensures_bind (ensures_storeOr trivial (fun id w₂ ht₂ => ?_) fun _ _ ht₂ =>
    Or.inl (h₁.trans ht₂.steady_of_store_error).balanced)
  obtain ⟨hid, hcreated⟩ := Store.Memory.createUser_of_ok (congrArg Prod.fst ht₂.store_ok.1)
  have hu : Act.actor s w (.call (.register r)) = some id := by
    rw [hid, h₁.store]
    rfl
  have htokens : w₂.store.tokens = w₁.store.tokens := by
    have hstore : (w₁.store.createUser w₁.now _).2 = w₂.store := congrArg Prod.snd ht₂.store_ok.1
    rw [← hstore, hcreated]
  have hb₂ := h₁.balanced.trans (balanced_of_tokens_eq htokens ht₂.clocks.1)
  have hf₂ := ht₂.faults (h₁.faults hf)
  refine ensures_bind (ensures_ask trivial fun now w₃ ht₃ => ?_)
  obtain ⟨rfl, rfl⟩ := ht₃.clock
  exact createPair_accounts (fun _ => rfl) hu hlife hf₂ hb₂ (normalize r.email)

/-- The right code signs in the owner of the phone, and nobody if it has none. -/
theorem confirmCode_accounts (hlife : 0 < s.refreshLifetime.nanos) (hf : w.faults = [])
    (identifier code : String) : Accounting s (.call (.confirmCode identifier code)) mayFail w w
      (confirmCode s identifier code) fun c => ∀ pair, c.tokens = some pair →
        Act.Names s (.call (.confirmCode identifier code)) w pair := by
  refine ensures_confirmCode (along_steady (fun _ => writesNothing_of_confirmationAsks) w)
    (fun _ _ h => Or.inl h.balanced) (fun w₁ h₁ hfound => ⟨nofun, ?_⟩)
    fun user now w₁ h₁ hfound hnow => ?_
  · change Joined ((w.store.findByPhone (normalize identifier)).map User.id) w w₁
    rw [findByPhone_of_told (fun _ h => .of_eq h.store) hfound]
    exact h₁.balanced
  · have hu : Act.actor s w (.call (.confirmCode identifier code)) = some user.id := by
      change (w.store.findByPhone (normalize identifier)).map User.id = _
      rw [findByPhone_of_told (fun _ h => .of_eq h.store) hfound]
      rfl
    rw [now_of_told (fun _ h => h.now) hnow, ← h₁.now]
    refine (createPair_accounts (fun _ => rfl) hu hlife (h₁.faults hf) h₁.balanced user.email).imp
      (fun pair w' h => ⟨?_, h.2⟩) fun _ _ h => h
    rintro pair' hp
    obtain rfl : pair = pair' := Option.some.inj hp
    exact h.1

/-! ## Refreshing -/

/-- What is left of an exchange behind the rotation writes nothing more. -/
theorem remint_steady (user : User) (now : Time.Instant) (next : Token.Issued) :
    Ensures (Turn mayFail) Anything w (remint s user now next) (fun _ w' => Steady w w')
      fun _ w' => Steady w w' :=
  ensures_remint (along_steady writesNothing_of_preliminary w) (fun _ => trivial) trivial
    (fun _ _ h _ => h) fun _ _ _ h₁ _ haccess => ensures_conclude haccess.expiry trivial
      (fun _ ht => h₁.trans ht.steady_of_cache) fun _ _ ht => h₁.trans ht.steady_of_cache

/-- A rotation takes the old token away and brings in the new one; whatever comes behind it, the
numbers stand. -/
theorem rotate_balances {user : User} {next : Token.Issued} (hlife : 0 < s.refreshLifetime.nanos)
    (hindexed : w.store.IsIndexed) (he : Token.expiry s .refresh w.now = .ok next.expiresAt)
    (hnew : w.store.findToken next.token = none) (t : String) (u : Int) :
    Ensures (Turn mayFail) Anything w (rotate s t u user w.now next) (fun _ w' => Balanced w w')
      fun _ w' => Balanced w w' := by
  -- One token goes and one comes, both of them the user's and in their time.
  have hrotated : ∀ {rotated : Bool} {w₁}, Turn mayFail w
      (.store (.rotateToken u t next.token next.expiresAt)) (.ok rotated) w₁ → Balanced w w₁ := by
    intro rotated w₁ ht v
    have hrotated : _ = w₁.store := congrArg Prod.snd ht.store_ok.1
    have hover : w.now < next.expiresAt := by
      have hends := nanos_of_expiry he
      change w.now.nanos < next.expiresAt.nanos
      change next.expiresAt.nanos = w.now.nanos + s.refreshLifetime.nanos at hends
      omega
    unfold sessions
    rw [ht.clocks.1, ← hrotated]
    exact Store.Memory.activeTokens_rotateToken hindexed hnew hover u v
  exact ensures_rotate trivial (fun _ _ ht => ht.steady_of_store_error.balanced)
    (fun _ ht => hrotated ht) fun _ ht => (remint_steady user w.now next).imp
      (fun _ _ h => (hrotated ht).trans h.balanced) fun _ _ h => (hrotated ht).trans h.balanced

/-- However a refresh ends, everybody has as many sessions as before. -/
theorem refresh_balances (hlife : 0 < s.refreshLifetime.nanos) (hindexed : w.store.IsIndexed)
    (hdrawn : StoresDrawn s w) (hids : Function.Injective w.ids.item)
    (h64 : ∀ v, w.store.HasUser v → int64Low ≤ v ∧ v ≤ int64High) (t : String) :
    Ensures (Turn mayFail) Anything w (refresh s t) (fun _ w' => Balanced w w')
      fun _ w' => Balanced w w' := by
  refine ensures_refresh (along_steady writesNothing_of_preliminary w) (fun _ _ h => h.balanced)
    fun u user now next w₁ h₁ hx => ?_
  obtain ⟨hthere, hid⟩ := Store.Memory.HasUser.of_findUser
    (findUser_of_told (fun _ h => .of_eq h.store) hx.account)
  rw [now_of_told (fun _ h => h.now) hx.clock, ← h₁.now]
  have he : Token.expiry s .refresh w₁.now = .ok next.expiresAt := by
    rw [h₁.now, ← now_of_told (fun _ h => h.now) hx.clock]
    exact hx.issued.expiry
  refine (rotate_balances hlife (by rw [h₁.store]; exact hindexed) he ?_ t u).imp
    (fun _ _ h => h₁.balanced.trans h) fun _ _ h => h₁.balanced.trans h
  -- The new token carries an id that has not been drawn yet, so that no stored one is the same.
  obtain ⟨refreshEnd, _, _, ⟨w₂, _, h₂, hturn, _⟩, rfl⟩ := hx.issued
  cases hturn
  rw [h₁.store, hid]
  exact hdrawn.findToken_new hids (h64 _ hthere) h₂.ids _ _

/-! ## Ending sessions -/

/-- A logout revokes a token of the user's own. -/
theorem logout_accounts (hf : w.faults = []) (hindexed : w.store.IsIndexed)
    (hown : Owned s w.store) (u : Int) (t : String) :
    Accounting s (.call (.logout u t)) mayFail w w (logout s u t) fun _ => True := by
  have hclock : ∀ q, q = .clock → WritesNothing q := by
    rintro _ rfl
    exact trivial
  refine ensures_logout (along_steady hclock w) (fun _ _ h => Or.inl h.balanced)
    fun w₁ h₁ hnames => ?_
  refine ensures_bind (ensures_storeOr trivial (fun _ w₂ ht₂ => ?_) fun _ _ ht₂ =>
    Or.inl (h₁.trans ht₂.steady_of_store_error).balanced)
  have hparted : Parted u (Text.trim t) w w₂ := by
    refine parted_of_revokeToken hindexed (fun r hr => ?_) ?_ (ht₂.clocks.1.trans h₁.now)
    · exact ((hown _ r (Store.Memory.mem_of_findToken hr)).eq_of_names hnames).symm
    · rw [← h₁.store, ← h₁.now]
      exact (congrArg Prod.snd ht₂.store_ok.1).symm
  refine ensures_bind (ensures_cacheOr trivial (fun _ w₃ ht₃ => ensures_pure ⟨trivial, ?_⟩)
    fun c w₃ ht₃ => Or.inr ⟨?_, ⟨c, Or.inl rfl⟩, ?_⟩)
  · exact hparted.balanced ht₃.steady_of_cache.balanced
  · exact ht₃.cache_error.2.resolve_right fun hn => hn (ht₂.faults (h₁.faults hf))
  · exact hparted.balanced ht₃.steady_of_cache.balanced

/-- A revocation of all tells how many there were to revoke. -/
theorem revokeAll_empties (hf : w.faults = []) (u : Int) :
    Ensures (Turn mayFail) Anything w (revokeAll s u)
      (fun n w' => n = unrevoked w u ∧ Emptied u w w')
      fun e w' => Balanced w w' ∨ mayFail ∧ IsOfCache e ∧ Emptied u w w' := by
  unfold revokeAll
  refine ensures_bind (ensures_storeOr trivial (fun n w₁ ht₁ => ?_) fun _ _ ht₁ =>
    Or.inl ht₁.steady_of_store_error.balanced)
  have hx := ht₁.store_ok.1
  have hn : unrevoked w u = n := Except.ok.inj (congrArg Prod.fst hx)
  have hemptied : Emptied u w w₁ := by
    intro v
    have hstore : (w.store.revokeAll w.now u).2 = w₁.store := congrArg Prod.snd hx
    unfold sessions
    rw [ht₁.clocks.1, ← hstore]
    exact Store.Memory.activeTokens_revokeAll w.store w.now u v
  refine ensures_bind (ensures_cacheOr trivial (fun _ w₂ ht₂ => ensures_pure ⟨hn.symm, ?_⟩)
    fun c w₂ ht₂ => Or.inr ⟨?_, ⟨c, Or.inl rfl⟩, ?_⟩)
  · exact hemptied.balanced ht₂.steady_of_cache.balanced
  · exact ht₂.cache_error.2.resolve_right fun hn => hn (ht₁.faults hf)
  · exact hemptied.balanced ht₂.steady_of_cache.balanced

theorem deleteAccount_accounts (hf : w.faults = []) (u : Int) :
    Accounting s (.call (.deleteAccount u)) mayFail w w (deleteAccount s u) fun _ => True := by
  unfold deleteAccount
  refine ensures_bind (ensures_storeOr trivial (fun found w₁ ht₁ => ?_) fun _ _ ht₁ =>
    Or.inl ht₁.steady_of_store_error.balanced)
  have htokens : w₁.store.tokens = w.store.tokens := by
    have hstore : (w.store.softDelete w.now u).2 = w₁.store := congrArg Prod.snd ht₁.store_ok.1
    rw [← hstore, Store.Memory.tokens_softDelete]
  have hb₁ := balanced_of_tokens_eq htokens ht₁.clocks.1
  refine ensures_bind (ensures_failIf (fun _ => Or.inl hb₁) fun _ => ?_)
  refine ensures_bind ((revokeAll_empties (ht₁.faults hf) u).imp
    (fun _ w₂ h => ensures_pure ⟨trivial, hb₁.emptied h.2⟩) fun e w₂ h => ?_)
  exact h.imp hb₁.trans fun ⟨hm, hc, h⟩ => ⟨hm, hc, hb₁.emptied h⟩

/-! ## Every act -/

/-- What is cleared out is nobody's session any more. -/
theorem purge_accounts :
    Accounting s (.call .purge) mayFail w w (purge s) fun _ => True := by
  refine ensures_storeOr trivial (fun n w₁ ht => ⟨trivial, fun v => ?_⟩) fun _ _ ht =>
    Or.inl ht.steady_of_store_error.balanced
  have hstore : (w.store.purge w.now s.retention).2 = w₁.store := congrArg Prod.snd ht.store_ok.1
  unfold sessions
  rw [ht.clocks.1, ← hstore]
  exact Store.Memory.activeTokens_purge w.store w.now s.retention v

/-- What has to be known of a state for the books to be kept from it on. -/
structure InOrder (s : Settings) (w : World) : Prop where
  faults : w.faults = []
  indexed : w.store.IsIndexed
  owned : Owned s w.store
  drawn : StoresDrawn s w
  ids : Function.Injective w.ids.item
  users : ∀ v, w.store.HasUser v → int64Low ≤ v ∧ v ≤ int64High

theorem accounts_of_some {op : Operation TokenPair}
    (h : Accounting s a mayFail w w op (a.Names s w)) :
    Accounting s a mayFail w w (do return some (← op))
      fun minted => ∀ pair, minted = some pair → a.Names s w pair :=
  ensures_bind (h.imp (fun _ _ h => ensures_pure ⟨fun _ hp => Option.some.inj hp ▸ h.1, h.2⟩)
    fun _ _ h => h)

theorem accounts_of_none {α : Type} {op : Operation α}
    (h : Accounting s a mayFail w w op fun _ => True) :
    Accounting s a mayFail w w (do let _ ← op; return (none : Option TokenPair))
      fun minted => ∀ pair, minted = some pair → a.Names s w pair :=
  ensures_bind (h.imp (fun _ _ h => ensures_pure ⟨nofun, h.2⟩) fun _ _ h => h)

/-- A call whose questions write nothing leaves the books as they are. -/
theorem Call.accounts_of_poses {c : Call} (hc : c.mints = false)
    (hnothing : ∀ q, c.Poses s q → WritesNothing q)
    (hmoves : ∀ w', Balanced w w' → Act.Moves s (.call c) w w') :
    Accounting s (.call c) mayFail w w (c.operation s) fun minted =>
      ∀ pair, minted = some pair → Act.Names s (.call c) w pair := by
  refine (Call.ensures_of_poses hc (along_steady hnothing w)).imp (fun minted w' h => ?_)
    fun _ _ h => Or.inl h.balanced
  obtain ⟨rfl, h⟩ := h
  exact ⟨nofun, hmoves w' h.balanced⟩

theorem Act.operation_accounts (hlife : 0 < s.refreshLifetime.nanos) (h : InOrder s w) (a : Act) :
    Accounting s a mayFail w w (a.operation s) fun minted =>
      (∀ t, a ≠ .call (.refresh t)) → ∀ pair, minted = some pair → a.Names s w pair := by
  have hnamed : ∀ {op : Operation (Option TokenPair)},
      Accounting s a mayFail w w op (fun minted => ∀ pair, minted = some pair → a.Names s w pair) →
      Accounting s a mayFail w w op fun minted =>
        (∀ t, a ≠ .call (.refresh t)) → ∀ pair, minted = some pair → a.Names s w pair :=
    fun h => h.imp (fun _ _ hp => ⟨fun _ => hp.1, hp.2⟩) fun _ _ he => he
  cases a with
  | mint u email issuedAt =>
    refine hnamed (accounts_of_some ((createPair_credits h.faults u email issuedAt).imp
      (fun pair w' hp => ⟨⟨u, rfl, hp.1⟩, hp.2⟩) fun e w' he => ?_))
    exact he.imp id fun ⟨hm, ⟨c, hc⟩, hp⟩ => ⟨hm, ⟨c, Or.inr hc⟩, hp⟩
  | call c =>
    cases c with
    | register r => exact hnamed (accounts_of_some (register_accounts hlife h.faults r))
    | login email password =>
      exact hnamed (accounts_of_some (login_accounts hlife h.faults email password))
    | refresh t =>
      refine ensures_bind ((refresh_balances hlife h.indexed h.drawn h.ids h.users t).imp
        (fun pair w' hb => ensures_pure ⟨fun hr => absurd rfl (hr t), hb⟩) fun _ _ hb => Or.inl hb)
    | logout u t =>
      exact hnamed (accounts_of_none (logout_accounts h.faults h.indexed h.owned u t))
    | confirmCode identifier code =>
      exact hnamed (ensures_bind ((confirmCode_accounts hlife h.faults identifier code).imp
        (fun _ _ hp => ensures_pure hp) fun _ _ he => he))
    | revokeAll u =>
      exact hnamed (accounts_of_none ((revokeAll_empties h.faults u).imp
        (fun _ _ hp => ⟨trivial, hp.2⟩) fun _ _ he => he))
    | deleteAccount u => exact hnamed (accounts_of_none (deleteAccount_accounts h.faults u))
    | purge => exact hnamed (accounts_of_none purge_accounts)
    | sendCode identifier =>
      refine hnamed (Call.accounts_of_poses rfl ?_ fun _ hb => hb)
      rintro _ (rfl | ⟨_, rfl⟩ | ⟨_, rfl⟩) <;> exact trivial
    | profile | emailExists =>
      refine hnamed (Call.accounts_of_poses rfl ?_ fun _ hb => hb)
      rintro _ rfl
      exact trivial
    | isAlive =>
      refine hnamed (Call.accounts_of_poses rfl ?_ fun _ hb => hb)
      rintro _ (rfl | rfl) <;> exact trivial

end SignIn.Session
