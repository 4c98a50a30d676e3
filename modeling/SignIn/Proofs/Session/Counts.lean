-- How many sessions everybody has, and what single writes make of it: a token
-- that is stored gives its user one more, a token that is revoked takes one
-- away, and what is done to the tokens of one user is nothing to anybody else.
import SignIn.Proofs.Store.Counting
import SignIn.Proofs.Session.Isolation
import SignIn.Proofs.Session.Writing

namespace SignIn

open Dialog (Along Anything)
open World (Turn)

namespace World

/-! ## Numbers of sessions -/

/-- How many sessions a user has: refresh tokens that can be used. -/
def sessions (w : World) (u : Int) : Nat := w.store.activeTokens w.now u

/-- Everybody has as many sessions as before. -/
def Balanced (w w' : World) : Prop := ∀ v, w'.sessions v = w.sessions v

/-- The user has one session more, and everybody else has as many as before. -/
def Raised (u : Int) (w w' : World) : Prop :=
  ∀ v, w'.sessions v = w.sessions v + if v = u then 1 else 0

/-- The user has no session, and everybody else has as many as before. -/
def Emptied (u : Int) (w w' : World) : Prop :=
  ∀ v, w'.sessions v = if v = u then 0 else w.sessions v

variable {mayFail : Prop} {w w' w'' : World} {u v : Int}

theorem Balanced.refl (w : World) : Balanced w w := fun _ => rfl

theorem Balanced.trans (h : Balanced w w') (h' : Balanced w' w'') : Balanced w w'' :=
  fun v => (h' v).trans (h v)

theorem Balanced.raised (h : Balanced w w') (h' : Raised u w' w'') : Raised u w w'' :=
  fun v => by rw [h' v, h v]

theorem Balanced.emptied (h : Balanced w w') (h' : Emptied u w' w'') : Emptied u w w'' :=
  fun v => by rw [h' v, h v]

theorem Raised.balanced (h : Raised u w w') (h' : Balanced w' w'') : Raised u w w'' :=
  fun v => by rw [h' v, h v]

theorem Raised.of_ne (h : Raised u w w') (hv : v ≠ u) : w'.sessions v = w.sessions v := by
  rw [h v, if_neg hv, Nat.add_zero]

theorem Emptied.balanced (h : Emptied u w w') (h' : Balanced w' w'') : Emptied u w w'' :=
  fun v => by rw [h' v, h v]

theorem Emptied.of_ne (h : Emptied u w w') (hv : v ≠ u) : w'.sessions v = w.sessions v := by
  rw [h v, if_neg hv]

theorem balanced_of_tokens_eq (ht : w'.store.tokens = w.store.tokens) (hn : w'.now = w.now) :
    Balanced w w' := by
  intro v
  unfold sessions Store.Memory.activeTokens
  rw [ht, hn]

/-! ## Steps that write nothing -/

/-- The store is as it was, and no time has passed. -/
structure Steady (w w' : World) : Prop where
  store : w'.store = w.store
  now : w'.now = w.now
  ids : w.ids.Later w'.ids
  faults : w.faults = [] → w'.faults = []

theorem Steady.refl (w : World) : Steady w w := ⟨rfl, rfl, .refl _, id⟩

theorem Steady.trans (h : Steady w w') (h' : Steady w' w'') : Steady w w'' :=
  ⟨h'.store.trans h.store, h'.now.trans h.now, h.ids.trans h'.ids, h'.faults ∘ h.faults⟩

theorem Steady.balanced (h : Steady w w') : Balanced w w' :=
  balanced_of_tokens_eq (by rw [h.store]) h.now

theorem Turn.steady {q : Ask} {x : q.Answer} (h : Turn mayFail w q x w')
    (hq : Session.WritesNothing q) : Steady w w' := by
  refine ⟨?_, h.clocks.1, h.drawing.ids, h.faults⟩
  rcases h.store_eq with hs | ⟨r, rfl, hs⟩
  · exact hs
  · rw [hs, Store.Request.IsLookup.answer_eq hq]

/-- The cache is no part of the books. -/
theorem Turn.steady_of_cache {q : Cache.Request} {x : Except CacheError q.Answer}
    (h : Turn mayFail w (.cache q) x w') : Steady w w' := h.steady (q := .cache q) trivial

theorem Turn.steady_of_store_error {q : Store.Request} {e : StoreError}
    (h : Turn mayFail w (.store q) (.error e) w') : Steady w w' :=
  ⟨h.store_error.1.store, h.clocks.1, h.drawing.ids, h.faults⟩

end World

namespace Session

open World (Balanced Raised Emptied Steady sessions balanced_of_tokens_eq)

variable {s : Settings} {mayFail : Prop} {a : Act} {w₀ w w' : World} {u v : Int} {t : String}

theorem along_steady {kind : Ask → Prop} (hk : ∀ q, kind q → WritesNothing q) (w : World) :
    Along (Turn mayFail) Anything kind Steady w where
  refl := .refl
  trans := .trans
  asks _ _ := trivial
  turns _ hq ht := ht.steady (hk _ hq)

/-! ## Tokens that come and go -/

/-- What comes of a refresh token that is stored for a user: one session more, unless its time was
over at once. -/
def Credited (s : Settings) (u : Int) (issuedAt : Time.Instant) (w w' : World) : Prop :=
  if issuedAt.nanos + s.refreshLifetime.nanos ≤ w.now.nanos then Balanced w w' else Raised u w w'

theorem Credited.of_steady {issuedAt : Time.Instant} (h : Credited s u issuedAt w w')
    (hb : Balanced w₀ w) (hn : w.now = w₀.now) : Credited s u issuedAt w₀ w' := by
  unfold Credited at h ⊢
  rw [← hn]
  split
  · rename_i hstale
    rw [if_pos hstale] at h
    exact hb.trans h
  · rename_i hlasts
    rw [if_neg hlasts] at h
    exact hb.raised h

theorem Credited.balanced {issuedAt : Time.Instant} {w'' : World}
    (h : Credited s u issuedAt w w') (hb : Balanced w' w'') : Credited s u issuedAt w w'' := by
  unfold Credited at h ⊢
  split
  · rename_i hstale
    rw [if_pos hstale] at h
    exact h.trans hb
  · rename_i hlasts
    rw [if_neg hlasts] at h
    exact h.balanced hb

theorem Credited.raised {issuedAt : Time.Instant} (h : Credited s u issuedAt w w')
    (hlife : 0 < s.refreshLifetime.nanos) (hi : issuedAt = w.now) : Raised u w w' := by
  unfold Credited at h
  rw [hi, if_neg (by omega)] at h
  exact h

theorem credited_of_putToken {issuedAt expiresAt : Time.Instant}
    (hnew : w.store.findToken t = none) (he : Token.expiry s .refresh issuedAt = .ok expiresAt)
    (hs : w'.store = w.store.putToken w.now u t expiresAt) (hn : w'.now = w.now) :
    Credited s u issuedAt w w' := by
  have hends : expiresAt.nanos = issuedAt.nanos + s.refreshLifetime.nanos := nanos_of_expiry he
  have hover : (w.now < expiresAt) = ¬ issuedAt.nanos + s.refreshLifetime.nanos ≤ w.now.nanos := by
    rw [← hends, Int.not_le]
    rfl
  have hput : ∀ v, w'.sessions v = w.sessions v +
      if v = u ∧ ¬ issuedAt.nanos + s.refreshLifetime.nanos ≤ w.now.nanos then 1 else 0 := by
    intro v
    unfold sessions
    rw [hs, hn, Store.Memory.activeTokens_putToken hnew]
    simp only [hover]
  unfold Credited
  split
  · rename_i hstale
    intro v
    rw [hput v, if_neg fun hc => hc.2 hstale, Nat.add_zero]
  · rename_i hlasts
    intro v
    rw [hput v]
    simp only [hlasts, not_false_eq_true, and_true]

/-- The user has one session less if the token could be used. -/
def Parted (u : Int) (t : String) (w w' : World) : Prop :=
  if w.store.isUsable w.now t = true then Raised u w' w else Balanced w w'

theorem parted_of_revokeToken (hindexed : w.store.IsIndexed)
    (hu : ∀ r, w.store.findToken t = some r → r.userId = u)
    (hs : w'.store = (w.store.revokeToken w.now t).2) (hn : w'.now = w.now) : Parted u t w w' := by
  have hrevoke : ∀ v, w'.sessions v + (if v = u ∧ w.store.isUsable w.now t = true then 1 else 0) =
      w.sessions v := by
    intro v
    unfold sessions
    rw [hs, hn]
    exact Store.Memory.activeTokens_revokeToken hindexed hu w.now v
  unfold Parted
  split
  · rename_i husable
    intro v
    rw [← hrevoke v]
    simp only [husable, and_true]
  · rename_i hunusable
    intro v
    rw [← hrevoke v, if_neg fun hc => hunusable hc.2, Nat.add_zero]

theorem Parted.balanced {w'' : World} (h : Parted u t w w') (hb : Balanced w' w'') :
    Parted u t w w'' := by
  unfold Parted at h ⊢
  split
  · rename_i husable
    rw [if_pos husable] at h
    exact fun v => by rw [h v, hb v]
  · rename_i hunusable
    rw [if_neg hunusable] at h
    exact h.trans hb

/-- How many refresh tokens of a user are not revoked, used up or not. -/
def unrevoked (w : World) (u : Int) : Nat :=
  w.store.tokens.countP fun e => Store.Memory.isUnrevokedOf u e.2

/-! ## What acts make of the numbers -/

/-- Whoever is signed in has one session more. -/
def Joined (who : Option Int) (w w' : World) : Prop :=
  match who with
  | some u => Raised u w w'
  | none => Balanced w w'

/-- What an act makes of the numbers of sessions when it succeeds. A pair that is minted directly
may be told to be so old that its refresh token is over when it is stored; a refresh stores a new
token for the old one. -/
def Act.Moves (s : Settings) (a : Act) (w w' : World) : Prop :=
  match a with
  | .mint u _ issuedAt => Credited s u issuedAt w w'
  | .call (.register _) | .call (.login _ _) | .call (.confirmCode _ _) =>
    Joined (a.actor s w) w w'
  | .call (.logout u t) => Parted u (Text.trim t) w w'
  | .call (.revokeAll u) | .call (.deleteAccount u) => Emptied u w w'
  | .call (.refresh _) | .call .purge | .call (.sendCode _) | .call (.profile _)
  | .call (.emailExists _) | .call (.isAlive _ _) => Balanced w w'

theorem Credited.of_ne {issuedAt : Time.Instant} (h : Credited s u issuedAt w w') (hv : v ≠ u) :
    w'.sessions v = w.sessions v := by
  unfold Credited at h
  split at h
  · exact h v
  · exact h.of_ne hv

theorem Joined.of_ne {who : Option Int} (h : Joined who w w') (hv : who ≠ some v) :
    w'.sessions v = w.sessions v := by
  cases who with
  | some u => exact Raised.of_ne h fun he => hv (congrArg some he.symm)
  | none => exact h v

theorem Parted.of_ne (h : Parted u t w w') (hv : v ≠ u) : w'.sessions v = w.sessions v := by
  unfold Parted at h
  split at h
  · exact (h.of_ne hv).symm
  · exact h v

/-- Nobody's number changes but that of the user that the act acts for. -/
theorem Act.Moves.of_ne (h : a.Moves s w w') (hv : a.actor s w ≠ some v) :
    w'.sessions v = w.sessions v := by
  have hne : ∀ {u}, a.actor s w = some u → v ≠ u := by
    rintro u hu rfl
    exact hv hu
  cases a with
  | mint u email issuedAt => exact Credited.of_ne h (hne rfl)
  | call c =>
    cases c with
    | register | login | confirmCode =>
      refine Joined.of_ne ?_ hv
      exact h
    | logout u t => exact Parted.of_ne h (hne rfl)
    | revokeAll u | deleteAccount u => exact Emptied.of_ne h (hne rfl)
    | refresh | purge | sendCode | profile | emailExists | isAlive => exact h v

/-- The pair is for the user that the act acts for. -/
def Act.Names (s : Settings) (a : Act) (w : World) (pair : TokenPair) : Prop :=
  ∃ u, a.actor s w = some u ∧ IsAccessOf s u pair.access

end Session

end SignIn
