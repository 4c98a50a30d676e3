-- Users are apart: an act leaves the account, the refresh records and the
-- marker of everybody alone but of the user that it acts for. A record is of a
-- token that names its owner, and no two users share a key of the cache, nor
-- do a user and a challenge.
import SignIn.Proofs.Store.Holdings
import SignIn.Proofs.Session.Conduct
import SignIn.Proofs.Session.Histories

namespace SignIn

open Text (normalize)

/-! ## Keys -/

/-- The user's marker has a key of its own, which neither another user's marker nor a challenge is
kept under. -/
structure Settings.HasOwnKey (s : Settings) (u : Int) : Prop where
  users : ∀ v, s.accessKey v = s.accessKey u → v = u
  codes : ∀ identifier, normalize identifier ≠ "" →
    s.codeKey (normalize identifier) ≠ s.accessKey u

theorem Settings.HasDefaultKeys.hasOwnKey {s : Settings} (h : s.HasDefaultKeys) (u : Int) :
    s.HasOwnKey u where
  users _ he := h.accessKey_injective he
  codes identifier _ := h.codeKey_ne_accessKey (normalize identifier) u

namespace Session

open Dialog (Leads)
open World (InCourse)

variable {s : Settings} {a : Act} {w₀ w w' : World} {u v : Int} {t : String}

/-! ## Records and their tokens -/

/-- A token that was issued to a user names nobody else. -/
theorem IsRefreshOf.eq_of_names (h : IsRefreshOf s u t) (hn : Names s t v) : v = u := by
  obtain ⟨now, expiresAt, id, rfl⟩ := h
  obtain ⟨signed, hs, rfl⟩ := hn
  rw [Token.token_issueUntil] at hs
  rw [(Token.claims_of_ofToken_sign hs).1]
  rfl

/-- A refresh token is no other user's, as long as ids are of 64 bits. -/
theorem IsRefreshOf.user_unique (hu : IsRefreshOf s u t) (hv : IsRefreshOf s v t)
    (h64 : Text.Decimal.int64Low ≤ u ∧ u ≤ Text.Decimal.int64High) : v = u := by
  obtain ⟨now, expiresAt, id, rfl⟩ := hu
  obtain ⟨now', expiresAt', id', he⟩ := hv
  rw [Token.token_issueUntil, Token.token_issueUntil] at he
  have hc := Token.sign_injective (Token.fits_claimsUntil h64 _ _ _ _ _ _) he
  exact congrArg Claims.userId hc

/-- The records are of tokens that were issued to their owners. -/
def Owned (s : Settings) (m : Store.Memory) : Prop :=
  ∀ t r, (t, r) ∈ m.tokens → IsRefreshOf s r.userId t

theorem IsFresh.owned (h : IsFresh w) : Owned s w.store := by
  intro t r hm
  rw [h.tokens_eq_nil] at hm
  cases hm

/-- Whoever has a token stored acts for the user that it was issued to. -/
theorem Act.Concerns.stores {q : Store.Request} (h : a.Concerns s w₀ w (.store q))
    (hq : q.stores = some (u, t)) : IsRefreshOf s u t := by
  cases q with
  | createToken =>
    cases hq
    exact h.2
  | rotateToken =>
    cases hq
    exact h.2.2
  | _ => cases hq

theorem Owned.turn (h : Owned s w.store) {q : Ask} {x : q.Answer} (hc : a.Concerns s w₀ w q)
    (ht : InCourse w q x w') : Owned s w'.store := by
  rcases ht.store_eq with hs | ⟨r, now, rfl, hs⟩
  · rw [hs]
    exact h
  · rw [hs]
    intro t record hm
    rcases Store.Memory.stems_of_answer hm with ⟨old, hold, hu, _⟩ | hstored
    · rw [← hu]
      exact h t old hold
    · exact hc.stores hstored

theorem Owned.not_hasRecord {m : Store.Memory} (h : Owned s m) (ht : Names s t u) (hv : u ≠ v) :
    ¬ m.HasRecord v t := by
  rintro ⟨r, hr, rfl⟩
  exact hv ((h t r hr).eq_of_names ht)

/-! ## What is left alone -/

/-- The user's account, refresh records and marker are exactly as they were. -/
structure Untouched (s : Settings) (v : Int) (w w' : World) : Prop where
  rows : w'.store.rowsOf v = w.store.rowsOf v
  records : w'.store.recordsOf v = w.store.recordsOf v
  marker : w'.cache.find? (s.accessKey v) = w.cache.find? (s.accessKey v)

theorem Untouched.refl (s : Settings) (v : Int) (w : World) : Untouched s v w w := ⟨rfl, rfl, rfl⟩

theorem Untouched.trans {w'' : World} (h : Untouched s v w w') (h' : Untouched s v w' w'') :
    Untouched s v w w'' :=
  ⟨h'.rows.trans h.rows, h'.records.trans h.records, h'.marker.trans h.marker⟩

/-- What is the concern of one user spares all others. -/
theorem Act.Concerns.spares {q : Store.Request} (h : a.Concerns s w₀ w (.store q))
    (hown : Owned s w.store) (hp : a ≠ .call .purge) (hv : a.actor s w₀ ≠ some v)
    (h64 : Text.Decimal.int64Low ≤ v ∧ v ≤ Text.Decimal.int64High) : q.Spares w.store v := by
  have hne : ∀ {u}, a.actor s w₀ = some u → u ≠ v := fun hu he => hv (hu.trans (congrArg some he))
  have hissued : ∀ {u t}, u ≠ v → IsRefreshOf s u t → ¬ w.store.HasRecord v t := by
    rintro u t huv ht ⟨r, hr, rfl⟩
    exact huv ((hown t r hr).user_unique ht h64)
  cases q with
  | createUser | softDelete | revokeAll => exact hne h
  | createToken => exact hne h.1
  | rotateToken =>
    obtain ⟨hu, hold, hnew⟩ := h
    exact ⟨hne hu, hown.not_hasRecord hold (hne hu), hissued (hne hu) hnew⟩
  | revokeToken =>
    obtain ⟨u, hu, ht⟩ := h
    exact hown.not_hasRecord ht (hne hu)
  | purge => exact absurd h hp
  | findUser | findCredentials | findByPhone | emailExists | permissionsOf | findToken =>
    exact trivial

theorem exists_of_challenge {identifier : String} (h : a.challenge = some identifier) :
    ∃ written, identifier = normalize written := by
  unfold Act.challenge at h
  split at h
  · exact ⟨_, (Option.some.inj h).symm⟩
  · exact ⟨_, (Option.some.inj h).symm⟩
  · cases h

/-- No question of an act is about the key of a marker but its user's. -/
theorem Act.Concerns.marker_eq (hk : s.HasOwnKey v) {q : Ask} {x : q.Answer}
    (h : a.Concerns s w₀ w q) (hv : a.actor s w₀ ≠ some v) (ht : InCourse w q x w') :
    w'.cache.find? (s.accessKey v) = w.cache.find? (s.accessKey v) := by
  refine ht.find?_eq fun r hr hkey => ?_
  subst hr
  rcases h.key with ⟨u, hu, hu'⟩ | ⟨identifier, habout, hthere, hcode⟩
  · rw [← hk.users u (hu'.symm.trans hkey.symm)] at hv
    exact hv hu
  · obtain ⟨written, rfl⟩ := exists_of_challenge habout
    exact hk.codes written hthere (hcode.symm.trans hkey.symm)

theorem Untouched.turn (hk : s.HasOwnKey v) {q : Ask} {x : q.Answer}
    (hc : a.Concerns s w₀ w q) (hown : Owned s w.store) (hp : a ≠ .call .purge)
    (hv : a.actor s w₀ ≠ some v)
    (h64 : Text.Decimal.int64Low ≤ v ∧ v ≤ Text.Decimal.int64High) (ht : InCourse w q x w') :
    Untouched s v w w' := by
  have hmarker := hc.marker_eq hk hv ht
  rcases ht.store_eq with hs | ⟨r, now, rfl, hs⟩
  · exact ⟨by rw [hs], by rw [hs], hmarker⟩
  · have hspares := hc.spares hown hp hv h64
    refine ⟨?_, ?_, hmarker⟩
    · rw [hs, hspares.rowsOf_eq]
    · rw [hs, hspares.recordsOf_eq]

/-! ## Every act -/

/-- What a history leads to, acts in their course lead to. -/
theorem visited_after (hf : w.faults = []) (history : List Happening) (h : Visited s w₀ w) :
    Visited s w₀ (after s w history) := by
  induction history generalizing w with
  | nil => exact h
  | cons happening later ih =>
    refine ih (happening.faults_next hf) ?_
    cases happening with
    | act cancelled a => exact .act h a (World.passes_run_of_nil cancelled hf _).leads
    | pass wallNanos tickNanos => exact .pass h wallNanos tickNanos

/-- Whatever is stored in the course of acts, its record is the one of the user it was issued to. -/
theorem Visited.owned (h : Visited s w₀ w) (hw : IsFresh w₀) : Owned s w.store :=
  h.keeps (I := fun w => Owned s w.store) (fun _ _ _ _ _ _ hi hc ht => hi.turn hc ht)
    (fun _ _ _ hi => hi) hw.owned

/-- An act leaves everybody alone but the user that it acts for. -/
theorem Act.untouched (hk : s.HasOwnKey v) (hown : Owned s w.store) (hp : a ≠ .call .purge)
    (hv : a.actor s w ≠ some v) (h64 : Text.Decimal.int64Low ≤ v ∧ v ≤ Text.Decimal.int64High)
    {r : Reply} (hl : Leads InCourse w (a.program s) r w') : Untouched s v w w' := by
  refine ((a.conduct s w).holds.keeps hl (I := fun w' => Owned s w'.store ∧ Untouched s v w w')
    (fun w₁ q x w₂ hi hc ht => ?_) ⟨hown, .refl s v w⟩).2
  exact ⟨hi.1.turn hc ht, hi.2.trans (.turn hk hc hi.1 hp hv h64 ht)⟩

/-- An act leaves the marker of everybody alone but of the user that it acts for. -/
theorem Act.marker_eq (hk : s.HasOwnKey v) (hv : a.actor s w ≠ some v) {r : Reply}
    (hl : Leads InCourse w (a.program s) r w') :
    w'.cache.find? (s.accessKey v) = w.cache.find? (s.accessKey v) :=
  (a.conduct s w).holds.keeps hl
    (I := fun w' => w'.cache.find? (s.accessKey v) = w.cache.find? (s.accessKey v))
    (fun _ _ _ _ hi hc ht => (hc.marker_eq hk hv ht).trans hi) rfl

/-- An act that acts for nobody leaves the store as it is. -/
theorem Act.store_eq_of_none (hp : a ≠ .call .purge) (hn : a.actor s w = none) {r : Reply}
    (hl : Leads InCourse w (a.program s) r w') : w'.store = w.store := by
  have hsome : ∀ {u}, a.actor s w ≠ some u := fun hu => by
    rw [hn] at hu
    cases hu
  refine (a.conduct s w).holds.keeps hl (I := fun w' => w'.store = w.store)
    (fun w₁ q x w₂ hi hc ht => ?_) rfl
  rcases ht.store_eq with hs | ⟨q, now, rfl, hs⟩
  · exact hs.trans hi
  · have hlookup : q.IsLookup := by
      cases q with
      | createUser | softDelete | revokeAll => exact (hsome hc).elim
      | createToken | rotateToken => exact (hsome hc.1).elim
      | revokeToken => exact (hsome hc.choose_spec.1).elim
      | purge => exact absurd hc hp
      | findUser | findCredentials | findByPhone | emailExists | permissionsOf | findToken =>
        exact trivial
    rw [hs, hlookup.answer_eq]
    exact hi

/-- **Users are isolated from each other.** In every state that acts can lead to, each carried out
in its course: a record of a refresh token is its owner's by the claims of the token, which no
reading of it takes for another's; an act leaves the account, the records and the marker of
everybody alone but of the user that it acts for; and asking for a one-time code leaves the store
and all markers alone. -/
theorem users_are_isolated (hk : s.HasDefaultKeys) (hw : IsFresh w₀) (h : Visited s w₀ w) :
    (∀ t r, (t, r) ∈ w.store.tokens →
      (∃ c, t = Token.sign (Token.secretOf s .refresh) c ∧ c.userId = r.userId) ∧
        ∀ u, Names s t u → u = r.userId) ∧
    ∀ (a : Act) reply w', Leads InCourse w (a.program s) reply w' →
      (a ≠ .call .purge → ∀ v, Text.Decimal.int64Low ≤ v ∧ v ≤ Text.Decimal.int64High →
        a.actor s w ≠ some v → Untouched s v w w') ∧
      ∀ identifier, a = .call (.sendCode identifier) → w'.store = w.store ∧
        ∀ v, w'.cache.find? (s.accessKey v) = w.cache.find? (s.accessKey v) := by
  have hown := h.owned hw
  refine ⟨fun t r hm => ⟨?_, fun u hn => (hown t r hm).eq_of_names hn⟩,
    fun a reply w' hl => ⟨?_, ?_⟩⟩
  · obtain ⟨now, expiresAt, id, ht⟩ := hown t r hm
    exact ⟨_, ht.trans (Token.token_issueUntil _ _ _ _ _ _ _ _), rfl⟩
  · intro hp v h64 hv
    exact a.untouched (hk.hasOwnKey v) hown hp hv h64 hl
  · rintro identifier rfl
    have hpurge : Act.call (.sendCode identifier) ≠ .call .purge := nofun
    have hnobody : Act.actor s w (.call (.sendCode identifier)) = none := rfl
    refine ⟨Act.store_eq_of_none hpurge hnobody hl, fun v => ?_⟩
    exact Act.marker_eq (hk.hasOwnKey v) (by rw [hnobody]; nofun) hl

/-- Two users register. -/
def sampleArrivals : List Happening :=
  [.act false (.call (.register (sampleRegistration "1"))),
    .act false (.call (.register { sampleRegistration "2" with email := "other@example.com" }))]

/-- When the sessions of the one are ended, the other is as before. -/
theorem sampleUsers_are_isolated :
    let w := after sampleSettings sampleWorld sampleArrivals
    let w' := (w.run false (Act.program sampleSettings (.call (.revokeAll 2)))).2
    w.store.HasUser 1 ∧ w.store.HasUser 2 ∧ Untouched sampleSettings 1 w w' := by
  have hvisited : Visited sampleSettings sampleWorld
      (after sampleSettings sampleWorld sampleArrivals) := visited_after rfl _ .start
  have hf : (after sampleSettings sampleWorld sampleArrivals).faults = [] := faults_after rfl _
  have h := (users_are_isolated sampleSettings_hasDefaultKeys sampleWorld_isFresh hvisited).2
    (.call (.revokeAll 2)) _ _ (World.passes_run_of_nil false hf _).leads
  have hother : (some 2 : Option Int) ≠ some 1 := by decide
  exact ⟨by decide +kernel, by decide +kernel, h.1 (by decide) 1 (by decide) hother⟩

end Session

end SignIn
