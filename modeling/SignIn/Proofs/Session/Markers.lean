-- Liveness markers over whole runs. Every marker names the access token that
-- was minted last for its user, and the token says what the account says.
import SignIn.Proofs.Session.Effects

namespace SignIn.Session

open World (Turn)

variable {s : Settings} {mayFail : Prop} {w w' : World} {minted : List TokenPair}

/-! ## The latest mint of a user -/

/-- The text is an access token that was issued to the user. -/
def IsAccessOf (s : Settings) (u : Int) (access : String) : Prop :=
  ∃ email permissions now expiresAt id,
    access = (Token.issueUntil s .access u email permissions now expiresAt id).token

/-- Among the pairs, latest first, the latest one for the user has this access token. -/
def LatestFor (s : Settings) (u : Int) (access : String) (minted : List TokenPair) : Prop :=
  ∃ newer pair older, minted = newer ++ pair :: older ∧ pair.access = access ∧
    IsAccessOf s u access ∧ ∀ p ∈ newer, ∃ v, v ≠ u ∧ IsAccessOf s v p.access

theorem LatestFor.cons {u v : Int} {access : String} (h : LatestFor s u access minted)
    {pair : TokenPair} (hv : v ≠ u) (hp : IsAccessOf s v pair.access) :
    LatestFor s u access (pair :: minted) := by
  obtain ⟨newer, p, older, rfl, ha, hu, hn⟩ := h
  refine ⟨pair :: newer, p, older, rfl, ha, hu, fun q hq => ?_⟩
  rcases List.mem_cons.1 hq with rfl | hq
  · exact ⟨v, hv, hp⟩
  · exact hn q hq

theorem LatestFor.mem {u : Int} {access : String} (h : LatestFor s u access minted) :
    ∃ pair ∈ minted, pair.access = access := by
  obtain ⟨newer, pair, older, rfl, ha, _⟩ := h
  exact ⟨pair, List.mem_append_right _ List.mem_cons_self, ha⟩

/-- An access token is no other user's, as long as ids are of 64 bits. -/
theorem IsAccessOf.user_unique {u v : Int} {access : String} (hu : IsAccessOf s u access)
    (hv : IsAccessOf s v access)
    (h64 : Text.Decimal.int64Low ≤ u ∧ u ≤ Text.Decimal.int64High) : v = u := by
  obtain ⟨email, permissions, now, expiresAt, id, rfl⟩ := hu
  obtain ⟨email', permissions', now', expiresAt', id', he⟩ := hv
  rw [Token.token_issueUntil, Token.token_issueUntil] at he
  have hc := Token.sign_injective (Token.fits_claimsUntil h64 _ _ _ _ _ _) he
  exact congrArg Claims.userId hc

/-! ## The invariant -/

/-- The entry names the access token that was minted last for the user, whose account it says the
email and the permissions of. -/
def Marked (s : Settings) (m : Store.Memory) (minted : List TokenPair) (u : Int)
    (e : Cache.Entry) : Prop :=
  ∃ r ∈ m.rows, r.user.id = u ∧ ∃ now expiresAt, LatestFor s u
    (Token.issueUntil s .access u r.user.email (m.grantedTo r.user.role) now expiresAt
      e.value).token minted

/-- What holds in every run, whatever fails: accounts are numbered, and markers name the latest
mint of their users. -/
structure Good (s : Settings) (w : World) (minted : List TokenPair) : Prop where
  numbered : w.store.Numbered
  marked : ∀ u e, w.cache.find? (s.accessKey u) = some e → Marked s w.store minted u e

/-- Who has a marker is not deleted. -/
def MarkersLive (s : Settings) (w : World) : Prop :=
  ∀ u e, w.cache.find? (s.accessKey u) = some e → ∃ r ∈ w.store.liveRows, r.user.id = u

theorem Good.quiet (h : Good s w minted) (hq : Quiet s w w') : Good s w' minted := by
  refine ⟨hq.accounts.numbered h.numbered, fun u e he => ?_⟩
  obtain ⟨r, hr, hid, now, expiresAt, hl⟩ := h.marked u e (hq.markers u e he)
  refine ⟨r, by rw [hq.accounts.rows]; exact hr, hid, now, expiresAt, ?_⟩
  rw [hq.accounts.grantedTo_eq]
  exact hl

theorem Good.mint (hk : s.HasDefaultKeys) (h : Good s w minted) {pair : TokenPair}
    (hm : Minted s w pair w') : Good s w' (pair :: minted) := by
  obtain ⟨user, now, expiresAt, entry, w₁, hu, hp, hq, hstore, hcache⟩ := hm
  obtain ⟨r, hr, rfl, _⟩ := Store.Memory.mem_of_findUser hu
  have h₁ := h.quiet hq
  have hacc : IsAccessOf s r.user.id pair.access := ⟨_, _, _, _, _, hp⟩
  refine ⟨by rw [hstore]; exact h₁.numbered, fun u e he => ?_⟩
  rw [hcache, Cache.Memory.find?_put] at he
  unfold Marked
  rw [hstore]
  split at he
  · rename_i hkey
    obtain rfl := hk.accessKey_injective hkey
    cases he
    refine ⟨r, ?_, rfl, now, expiresAt, [], pair, minted, rfl, ?_, ?_, fun _ hn => nomatch hn⟩
    · rw [hq.accounts.rows]
      exact (Store.Memory.mem_liveRows.1 hr).1
    · rw [hq.accounts.grantedTo_eq]
      exact hp
    · exact ⟨_, _, _, _, _, rfl⟩
  · rename_i hkey
    obtain ⟨t, ht, hid, now', expiresAt', hl⟩ := h₁.marked u e he
    exact ⟨t, ht, hid, now', expiresAt', hl.cons (fun hne => hkey (by rw [hne])) hacc⟩

theorem Good.created (h : Good s w minted) {u : NewUser} (hc : Created u w w') :
    Good s w' minted := by
  obtain ⟨now, hstore, hcache⟩ := hc
  refine ⟨by rw [hstore]; exact h.numbered.createUser now u, fun v e he => ?_⟩
  rw [hcache] at he
  obtain ⟨r, hr, hid, now', expiresAt, hl⟩ := h.marked v e he
  refine ⟨r, by rw [hstore]; exact Store.Memory.mem_createUser hr now u, hid, now', expiresAt, ?_⟩
  rw [hstore]
  unfold Store.Memory.grantedTo Store.Memory.permissionsOf at hl ⊢
  rw [Store.Memory.roles_createUser]
  exact hl

theorem Good.deleted (h : Good s w minted) {userId : Int} (hd : Deleted userId w w') :
    Good s w' minted := by
  obtain ⟨now, hstore, hcache⟩ := hd
  refine ⟨by rw [hstore]; exact h.numbered.softDelete now userId, fun v e he => ?_⟩
  rw [hcache] at he
  obtain ⟨r, hr, hid, now', expiresAt, hl⟩ := h.marked v e he
  obtain ⟨t, ht, hid', hemail, hrole⟩ := Store.Memory.mem_softDelete hr now userId
  refine ⟨t, by rw [hstore]; exact ht, hid'.trans hid, now', expiresAt, ?_⟩
  rw [hstore, hemail, hrole]
  unfold Store.Memory.grantedTo Store.Memory.permissionsOf at hl ⊢
  rw [Store.Memory.roles_softDelete]
  exact hl

/-- Every call keeps the invariant, whatever fails. -/
theorem Good.change (hk : s.HasDefaultKeys) (h : Good s w minted) {pair : Option TokenPair}
    (hc : Change s mayFail w pair w') : Good s w' (pair.toList ++ minted) := by
  cases hc with
  | quiet hq => exact h.quiet hq
  | minted hm => exact h.mint hk hm
  | created hc hq => exact (h.created hc).quiet hq
  | registered hc hm => exact (h.created hc).mint hk hm
  | deleted hd hq _ => exact (h.deleted hd).quiet hq

/-! ## Markers of users who are not deleted -/

theorem MarkersLive.quiet (h : MarkersLive s w) (hq : Quiet s w w') : MarkersLive s w' := by
  intro u e he
  rw [hq.accounts.liveRows_eq]
  exact h u e (hq.markers u e he)

theorem MarkersLive.mint (hk : s.HasDefaultKeys) (h : MarkersLive s w) {pair : TokenPair}
    (hm : Minted s w pair w') : MarkersLive s w' := by
  obtain ⟨user, now, expiresAt, entry, w₁, hu, _, hq, hstore, hcache⟩ := hm
  obtain ⟨r, hr, rfl, _⟩ := Store.Memory.mem_of_findUser hu
  intro u e he
  rw [hcache, Cache.Memory.find?_put] at he
  rw [hstore]
  split at he
  · rename_i hkey
    rw [hq.accounts.liveRows_eq]
    exact ⟨r, hr, (hk.accessKey_injective hkey).symm⟩
  · exact h.quiet hq u e he

theorem MarkersLive.created (h : MarkersLive s w) {u : NewUser} (hc : Created u w w') :
    MarkersLive s w' := by
  obtain ⟨now, hstore, hcache⟩ := hc
  intro v e he
  rw [hcache] at he
  obtain ⟨r, hr, hid⟩ := h v e he
  rw [Store.Memory.mem_liveRows] at hr
  refine ⟨r, ?_, hid⟩
  rw [hstore, Store.Memory.mem_liveRows]
  exact ⟨Store.Memory.mem_createUser hr.1 now u, hr.2⟩

/-- Where no call fails, every call keeps the markers to users who are not deleted. -/
theorem MarkersLive.change (hk : s.HasDefaultKeys) (h : MarkersLive s w) (hf : w.faults = [])
    {pair : Option TokenPair} (hc : Change s False w pair w') : MarkersLive s w' := by
  cases hc with
  | quiet hq => exact h.quiet hq
  | minted hm => exact h.mint hk hm
  | created hc hq => exact (h.created hc).quiet hq
  | registered hc hm => exact (h.created hc).mint hk hm
  | @deleted userId w₁ _ hd hq hm =>
    have hnone : w'.cache.find? (s.accessKey userId) = none := by
      rcases hm with (hm | hm) | hm
      · exact hm.elim
      · exact absurd hf hm
      · exact hm
    obtain ⟨now, hstore, hcache⟩ := hd
    intro u e he
    have hne : u ≠ userId := by
      rintro rfl
      rw [hnone] at he
      cases he
    have he₁ := hq.markers u e he
    rw [hcache] at he₁
    obtain ⟨r, hr, hid⟩ := h u e he₁
    refine ⟨r, ?_, hid⟩
    rw [hq.accounts.liveRows_eq, hstore]
    exact Store.Memory.mem_liveRows_softDelete hr (by rw [hid]; exact hne)

/-! ## Runs -/

/-- A world without accounts, tokens and cached entries. -/
def IsFresh (w : World) : Prop :=
  (∃ roles defaultRole, w.store = .empty roles defaultRole) ∧ w.cache = .empty

theorem IsFresh.good (h : IsFresh w) : Good s w [] := by
  obtain ⟨⟨roles, defaultRole, hstore⟩, hcache⟩ := h
  refine ⟨by rw [hstore]; exact Store.Memory.numbered_empty roles defaultRole, fun u e he => ?_⟩
  rw [hcache] at he
  cases he

theorem IsFresh.markersLive (h : IsFresh w) : MarkersLive s w := by
  intro u e he
  rw [h.2] at he
  cases he

/-- What happens to a service: calls that run one after the other, and time that passes. -/
inductive Event
  | call (c : Call)
  | pass (wallNanos : Int) (tickNanos : Nat)
  deriving DecidableEq

/-- What an event makes of a world and the pairs minted so far, latest first. -/
def Event.apply (s : Settings) (st : World × List TokenPair) : Event → World × List TokenPair
  | .call c =>
    let (r, w) := st.1.run false (c.program s)
    (w, (mintedBy r).toList ++ st.2)
  | .pass wallNanos tickNanos => (st.1.advance wallNanos tickNanos, st.2)

/-- What a sequence of events makes of a world, and the pairs that it mints, latest first. -/
def runEvents (s : Settings) (w : World) (events : List Event) : World × List TokenPair :=
  events.foldl (Event.apply s) (w, [])

/-- Of two calls the second one runs in the world that the first one leaves. -/
theorem runEvents_pair (w : World) (c c' : Call) : (runEvents s w [.call c, .call c']).1 =
    ((w.run false (c.program s)).2.run false (c'.program s)).2 := rfl

/-- What holds while no call fails. -/
structure Sound (s : Settings) (w : World) (minted : List TokenPair) : Prop where
  good : Good s w minted
  markersLive : MarkersLive s w
  faults : w.faults = []

theorem Sound.apply (hk : s.HasDefaultKeys) (h : Sound s w minted) (e : Event) :
    Sound s (e.apply s (w, minted)).1 (e.apply s (w, minted)).2 := by
  cases e with
  | call c =>
    have hl := World.leads_run False w (c.program s)
    have hc := Call.changes hk h.good.numbered hl
    exact ⟨h.good.change hk hc, h.markersLive.change hk h.faults hc,
      hl.keeps (I := fun w => w.faults = []) (fun _ _ _ _ hf ht => ht.faults hf) h.faults⟩
  | pass wallNanos tickNanos => exact ⟨⟨h.good.numbered, h.good.marked⟩, h.markersLive, h.faults⟩

theorem Sound.foldl (hk : s.HasDefaultKeys) (events : List Event) (st : World × List TokenPair)
    (h : Sound s st.1 st.2) :
    Sound s (events.foldl (Event.apply s) st).1 (events.foldl (Event.apply s) st).2 := by
  induction events generalizing st with
  | nil => exact h
  | cons e events ih => exact ih _ (h.apply hk e)

/-- Every run of calls from a fresh world is sound. -/
theorem sound_runEvents (hk : s.HasDefaultKeys) (hw : IsFresh w) (hf : w.faults = [])
    (events : List Event) : Sound s (runEvents s w events).1 (runEvents s w events).2 :=
  Sound.foldl hk events (w, []) ⟨hw.good, hw.markersLive, hf⟩

/-! ## Runs in which calls fail -/

/-- What can become of a world while calls run one after the other in which any call to the store or
the cache may fail without effect, accounts are deleted behind the service's back, and time passes;
with the pairs that have been minted, latest first. -/
inductive Reached (s : Settings) (w₀ : World) : World → List TokenPair → Prop
  | start : Reached s w₀ w₀ []
  | call {w w' : World} {minted : List TokenPair} {r : Reply} (h : Reached s w₀ w minted) (c : Call)
    (hl : Dialog.Leads (Turn True) w (c.program s) r w') :
    Reached s w₀ w' ((mintedBy r).toList ++ minted)
  | delete {w : World} {minted : List TokenPair} (h : Reached s w₀ w minted) (userId : Int) :
    Reached s w₀ { w with store := (w.store.softDelete w.now userId).2 } minted
  | pass {w : World} {minted : List TokenPair} (h : Reached s w₀ w minted) (wallNanos : Int)
    (tickNanos : Nat) : Reached s w₀ (w.advance wallNanos tickNanos) minted

/-- Whatever fails, the invariant holds. -/
theorem Reached.good {w₀ : World} (hk : s.HasDefaultKeys) (hw : IsFresh w₀)
    (h : Reached s w₀ w minted) : Good s w minted := by
  induction h with
  | start => exact hw.good
  | call h c hl ih => exact ih.change hk (Call.changes hk ih.numbered hl)
  | delete h userId ih => exact ih.deleted ⟨_, rfl, rfl⟩
  | pass h wallNanos tickNanos ih => exact ⟨ih.numbered, ih.marked⟩

/-- A call that ends as it does when nothing fails is one of the things that can happen. -/
theorem Reached.run {w₀ : World} (h : Reached s w₀ w minted) (c : Call) :
    Reached s w₀ (Event.apply s (w, minted) (.call c)).1 (Event.apply s (w, minted) (.call c)).2 :=
  .call h c (World.leads_run True w (c.program s))

/-! ## A small world -/

/-- Settings with all but the secrets left as they are by default. -/
def sampleSettings : Settings := Settings.withSecrets "access secret" "refresh secret"

theorem sampleSettings_hasDefaultKeys : sampleSettings.HasDefaultKeys := ⟨rfl, rfl⟩

/-- A fresh world with one role, whose ids are the numbers in order. -/
def sampleWorld : World where
  now := Time.Instant.epoch
  ticks := 0
  store := .empty [(1, ["sessions.revoke.any"])] (some 1)
  cache := .empty
  ids := .ofItems Text.Decimal.ofNat
  codes := .ofItems fun _ => "0000"
  salts := .ofItems fun _ => []
  delivery := .log
  outbox := []
  faults := []

theorem sampleWorld_isFresh : IsFresh sampleWorld := ⟨⟨_, _, rfl⟩, rfl⟩

/-- A registration of an email with a phone. -/
def sampleRegistration (phone : String) : Registration where
  person := ⟨"Name", "Surname", "f", none, none, none, none, false, none, none⟩
  birthDate := "10-12-1990"
  role := none
  phone := phone
  email := "user@example.com"
  password := "secret"

/-- When access tokens end that are issued in the small world. -/
def sampleAccessEnd : Time.Instant := ⟨600 * 1000000000, by decide⟩

/-- When refresh tokens end that are issued in it. -/
def sampleRefreshEnd : Time.Instant := ⟨2592000 * 1000000000, by decide⟩

/-- The claims of the access token that the sample registration mints for a user. -/
def sampleClaims (userId : Int) (id : String) : Claims :=
  Token.claimsUntil .access userId "user@example.com" ["sessions.revoke.any"] Time.Instant.epoch
    sampleAccessEnd id

/-- The claims of the refresh token that it mints. -/
def sampleRefreshClaims (userId : Int) (id : String) : Claims :=
  Token.claimsUntil .refresh userId "" [] Time.Instant.epoch sampleRefreshEnd id

end SignIn.Session
