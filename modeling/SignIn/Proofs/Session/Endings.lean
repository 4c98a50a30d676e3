-- Sessions that are ended stay ended. What a logout or a revocation of all
-- tokens spends is never exchanged again, and no access token of the user is
-- alive until a pair is minted for the user.
import SignIn.Proofs.Session.Histories
import SignIn.Proofs.Session.Asking
import SignIn.Proofs.Session.Outcomes
import SignIn.Proofs.Text.Normalizing
import Mathlib.Data.List.Nodup

namespace SignIn.Session

open Operation
open Dialog (Ensures ensures_pure ensures_bind ensures_failIf)
open World (Turn)

variable {s : Settings} {mayFail : Prop} {w w₀ : World} {u : Int} {t : String}

/-! ## The texts of tokens -/

/-- There is no white space in a token. -/
theorem trim_sign (secret : List UInt8) (c : Claims) :
    Text.trim (Token.sign secret c) = Token.sign secret c := by
  have hsymbols :
      ('.' :: Codec.Base64.urlSafe.symbols).all (fun ch => !Text.isBlank ch) = true := by
    decide +kernel
  have hblank : ∀ ch ∈ (Token.sign secret c).toList, Text.isBlank ch = false := by
    intro ch hch
    simpa using List.all_eq_true.1 hsymbols ch (Token.mem_sign hch)
  apply Text.IsTrimmed.trim_eq
  exact ⟨fun ch hch => hblank ch (List.mem_of_mem_head? hch),
    fun ch hch => hblank ch (List.mem_of_getLast? hch)⟩

theorem IsRefreshOf.trim_eq (h : IsRefreshOf s u t) : Text.trim t = t := by
  obtain ⟨now, expiresAt, id, rfl⟩ := h
  rw [Token.token_issueUntil]
  exact trim_sign _ _

/-! ## What is spent -/

/-- The refresh tokens that a call is made to end: the one that it is made with, or all that have
been stored for the user. -/
def Call.Spends (stored : List (Int × String)) (t : String) : Call → Prop
  | .logout _ presented => Text.trim t = Text.trim presented
  | .revokeAll u | .deleteAccount u => (u, t) ∈ stored
  | _ => False

/-- The refresh token that a call is made with to end it. -/
def Call.presented : Call → Option String
  | .logout _ presented => some (Text.trim presented)
  | _ => none

/-- What a call spends, as far as it has no white space around it, was there before or is
presented. -/
theorem Call.mem_of_spends {c : Call} {stored : List (Int × String)} (h : c.Spends stored t)
    (ht : Text.trim t = t) : t ∈ c.presented.toList ++ stored.map Prod.snd := by
  cases c with
  | logout v presented =>
    have hsame : Text.trim t = Text.trim presented := h
    rw [ht] at hsame
    exact List.mem_append_left _ (List.mem_singleton.2 hsame)
  | revokeAll v => exact List.mem_append_right _ (List.mem_map.2 ⟨(v, t), h, rfl⟩)
  | deleteAccount v => exact List.mem_append_right _ (List.mem_map.2 ⟨(v, t), h, rfl⟩)
  | _ => exact h.elim

/-- No two refresh tokens have the same text: neither two of those before, nor one of them, or the
one that is presented, and a later one. -/
structure AreDistinct (before : List (Int × String)) (presented : Option String)
    (later : List (Int × String)) : Prop where
  apart : (before.map Prod.snd).Nodup
  fresh : ∀ t ∈ presented.toList ++ before.map Prod.snd, t ∉ later.map Prod.snd

/-- A logout leaves neither the token usable nor a marker. -/
theorem logout_ends (hw : w.store.IsKeyed) (presented : String) :
    Ensures (Turn mayFail) (Act.MayAsk s (.call (.logout u presented))) w (logout s u presented)
      (fun _ w' => w'.store.holdsUnrevoked (Text.trim presented) = false ∧
        w'.cache.find? (s.accessKey u) = none) fun _ _ => True := by
  refine ensures_logout (((Act.call (.logout u presented)).along_preliminary w).mono
    fun _ hq => hq ▸ trivial) (fun _ _ _ => trivial) fun w₁ h₁ _ => ?_
  refine ensures_bind (ensures_storeOr trivial (fun _ w₂ ht₂ => ?_) fun _ _ _ => trivial)
  refine ensures_bind (ensures_cacheOr (Or.inr ⟨u, rfl⟩) (fun _ w₃ ht₃ => ensures_pure ⟨?_, ?_⟩)
    fun _ _ _ => trivial)
  · have hkeyed : w₁.store.IsKeyed := by
      rw [h₁.store]
      exact hw
    have hstore : (w₁.store.revokeToken w₁.now (Text.trim presented)).2 = w₂.store :=
      congrArg Prod.snd ht₂.store_ok.1
    rw [ht₃.cache_ok.2.1, ← hstore]
    exact hkeyed.holdsUnrevoked_revokeToken _ _
  · exact ht₃.find?_of_delete

/-- A revocation of all tokens leaves none of the user's unrevoked, nor a marker. -/
theorem revokeAll_ends {a : Act} :
    Ensures (Turn mayFail) (a.MayAsk s) w (revokeAll s u)
      (fun _ w' => w'.store = (w.store.revokeAll w.now u).2 ∧
        w'.cache.find? (s.accessKey u) = none) fun _ _ => True := by
  unfold revokeAll
  refine ensures_bind (ensures_storeOr trivial (fun _ w₁ ht₁ => ?_) fun _ _ _ => trivial)
  refine ensures_bind (ensures_cacheOr (Or.inr ⟨u, rfl⟩) (fun _ w₂ ht₂ => ensures_pure ⟨?_, ?_⟩)
    fun _ _ _ => trivial)
  · rw [ht₂.cache_ok.2.1]
    exact (congrArg Prod.snd ht₁.store_ok.1).symm
  · exact ht₂.find?_of_delete

/-- A deletion finds the account, marks it, and revokes all tokens. -/
theorem deleteAccount_ends :
    Ensures (Turn mayFail) (Act.MayAsk s (.call (.deleteAccount u))) w (deleteAccount s u)
      (fun _ w' => (w.store.softDelete w.now u).1 = true ∧
        w'.store = ((w.store.softDelete w.now u).2.revokeAll w.now u).2 ∧
        w'.cache.find? (s.accessKey u) = none) fun _ _ => True := by
  unfold deleteAccount
  refine ensures_bind (ensures_storeOr rfl (fun found w₁ ht₁ => ?_) fun _ _ _ => trivial)
  refine ensures_bind (ensures_failIf (fun _ => trivial) fun hfound => ?_)
  refine ensures_bind (revokeAll_ends.imp (fun _ w₂ h₂ => ensures_pure ⟨?_, ?_, h₂.2⟩)
    fun _ _ h => h)
  · obtain rfl : found = true := (Bool.not_eq_false' found).mp hfound
    exact Except.ok.inj (congrArg Prod.fst ht₁.store_ok.1)
  · have hstore : (w.store.softDelete w.now u).2 = w₁.store := congrArg Prod.snd ht₁.store_ok.1
    rw [h₂.1, hstore, ht₁.clocks.1]

/-- What an operation ensures of its success holds when it has succeeded as a call. -/
theorem exists_of_succeeded {α : Type} {op : Operation α} {asks : World → Ask → Prop}
    {post : α → World → Prop} {w' : World}
    (h : Ensures (Turn mayFail) asks w op post fun _ _ => True)
    (hl : Dialog.Leads (Turn mayFail) w
      (do let _ ← op; return none : Operation (Option TokenPair)).run (.ok none) w') :
    ∃ x, post x w' := by
  have hcall : Ensures (Turn mayFail) asks w
      (do let _ ← op; return none : Operation (Option TokenPair)) (fun _ w' => ∃ x, post x w')
      fun _ _ => True :=
    ensures_bind (h.imp (fun x _ hx => ensures_pure ⟨x, hx⟩) fun _ _ h => h)
  exact hcall.holds.of_leads hl

/-- Where each text has one owner, a token of a user has no unrevoked record once all of the user's
are revoked. -/
theorem unheld_revokeAll {m : Store.Memory} {stored : List (Int × String)}
    (hlogged : Logged stored m) (hdistinct : (stored.map Prod.snd).Nodup) (now : Time.Instant)
    (ht : (u, t) ∈ stored) : (m.revokeAll now u).2.holdsUnrevoked t = false := by
  refine Bool.eq_false_iff.2 fun hb => ?_
  obtain ⟨r, hm, hr⟩ := Store.Memory.holdsUnrevoked_iff.1 hb
  obtain ⟨hold, hne⟩ := Store.Memory.mem_revokeAll hm hr
  have hsame := List.inj_on_of_nodup_map hdistinct (hlogged t r hold) ht rfl
  exact hne (congrArg Prod.fst hsame)

/-- A call that has ended the sessions of a user has left no marker, and no token that it spends
unrevoked. -/
theorem Call.ends_sessions {c : Call} {stored : List (Int × String)} {w' : World}
    (hends : c.Ends u) (hkeyed : w.store.IsKeyed) (hlogged : Logged stored w.store)
    (hdistinct : (stored.map Prod.snd).Nodup)
    (hissued : ∀ t r, (t, r) ∈ w'.store.tokens → IsRefreshOf s r.userId t)
    (hl : Dialog.Leads (Turn mayFail) w (c.program s) (.ok none) w') :
    w'.cache.find? (s.accessKey u) = none ∧
      ∀ t, c.Spends stored t → w'.store.holdsUnrevoked t = false := by
  cases c with
  | logout v presented =>
    obtain rfl : v = u := hends
    obtain ⟨_, hunheld, hnone⟩ := exists_of_succeeded (logout_ends hkeyed presented) hl
    refine ⟨hnone, fun t ht => Bool.eq_false_iff.2 fun hb => ?_⟩
    -- A text that is held is that of a token, and has no white space.
    obtain ⟨r, hm, _⟩ := Store.Memory.holdsUnrevoked_iff.1 hb
    have ht : Text.trim t = Text.trim presented := ht
    rw [← ht, (hissued t r hm).trim_eq] at hunheld
    exact Bool.false_ne_true (hunheld.symm.trans hb)
  | revokeAll v =>
    obtain rfl : v = u := hends
    obtain ⟨_, hstore, hnone⟩ := exists_of_succeeded (revokeAll_ends (a := .call .purge)) hl
    refine ⟨hnone, fun t ht => ?_⟩
    rw [hstore]
    exact unheld_revokeAll hlogged hdistinct w.now ht
  | deleteAccount v =>
    obtain rfl : v = u := hends
    obtain ⟨_, _, hstore, hnone⟩ := exists_of_succeeded deleteAccount_ends hl
    refine ⟨hnone, fun t ht => ?_⟩
    rw [hstore]
    refine unheld_revokeAll (fun t r hm => hlogged t r ?_) hdistinct w.now ht
    rw [← Store.Memory.tokens_softDelete]
    exact hm
  | _ => exact hends.elim

/-- The marker stays away until a pair is minted for the user. -/
theorem unmarked_after (hk : s.HasDefaultKeys) (hf : w.faults = []) {later : List Happening}
    (hnone : w.cache.find? (s.accessKey u) = none)
    (hm : ∀ pair ∈ mintedIn s w later, ¬ IsAccessOf s u pair.access) :
    (after s w later).cache.find? (s.accessKey u) = none := by
  induction later generalizing w with
  | nil => exact hnone
  | cons h later ih =>
    refine ih (h.faults_next hf) (Happening.unmarked_next hk hf hnone fun v pair hp hv hvu => ?_)
      fun pair hp => hm pair (List.mem_append_right _ hp)
    refine hm pair (List.mem_append_left _ hp) ?_
    rw [← hvu]
    exact hv.access

/-- **Ended sessions stay ended.** After a call that has ended the sessions of a user, whatever else
happens: no access token of the user is alive as long as no pair is minted for the user, and no
refresh token that the call has spent is exchanged again. -/
theorem ended_sessions_stay_ended (hk : s.HasDefaultKeys) (hw : IsFresh w₀) (hf : w₀.faults = [])
    (before later : List Happening) {c : Call} (hends : c.Ends u)
    (hok : ((after s w₀ before).run false (c.program s)).1 = .ok none)
    (hdistinct : AreDistinct (storedIn s w₀ before) c.presented
      (storedIn s (after s w₀ (before ++ [.act false (.call c)])) later)) :
    let w₁ := after s w₀ (before ++ [.act false (.call c)])
    let w₂ := after s w₁ later
    ((∀ pair ∈ mintedIn s w₁ later, ¬ IsAccessOf s u pair.access) →
      ∀ id, (w₂.run false (isAlive s u id).run).1 = .ok false) ∧
    ∀ t, c.Spends (storedIn s w₀ before) t →
      ∀ pair, (w₂.run false (refresh s t).run).1 ≠ .ok pair := by
  intro w₁ w₂
  have hf₁ : w₁.faults = [] := faults_after hf _
  have hf₂ : w₂.faults = [] := faults_after hf₁ later
  have hl := World.leads_run_of_nil false (faults_after (s := s) hf before) (c.program s)
  have hw₁ : w₁ = ((after s w₀ before).run false (c.program s)).2 := after_append ..
  rw [hok, ← hw₁] at hl
  obtain ⟨hnone, hunheld⟩ := c.ends_sessions hends (isKeyed_after hf before hw.isKeyed)
    (logged_after hf hw.tokens_eq_nil before) hdistinct.apart
    (fun t r hm => isRefreshOf_of_mem_tokens hk hf hw.tokens_eq_nil _ hm) hl
  refine ⟨fun hm id => ?_, fun t ht pair hrefresh => ?_⟩
  · refine run_isAlive_of_over id (fun e he => ?_) hf₂
    rw [unmarked_after hk hf₁ hnone hm] at he
    cases he
  · -- The token has not been stored again.
    have hnew : t ∉ (storedIn s w₁ later).map Prod.snd := by
      intro hm
      obtain ⟨⟨v, t'⟩, hstored, rfl⟩ := List.mem_map.1 hm
      have hissued := isRefreshOf_of_mem_storedIn hk hf₁ hstored
      exact hdistinct.fresh _ (c.mem_of_spends ht hissued.trim_eq) hm
    have hheld : w₂.store.holdsUnrevoked t = true :=
      (World.ensured_of_ok (refresh_serves (a := .call .purge) hk t) hf₂ hrefresh).2
    rw [unheld_after hf₁ (hunheld t ht) hnew] at hheld
    cases hheld

/-! ## A session that is ended -/

/-- A user registers. -/
def sampleBefore : List Happening := [.act false (.call (.register (sampleRegistration "1")))]

/-- Two hundred days pass, and old tokens are cleared out. -/
def sampleLater : List Happening :=
  [.pass (200 * 86400 * Time.second) (200 * 86400 * 1000000000), .act false (.call .purge)]

/-- The refresh token that the user gets. -/
def sampleRefreshToken : String :=
  Token.sign (Token.secretOf sampleSettings .refresh) (sampleRefreshClaims 1 "1")

theorem tokens_sampleBefore {w : World} (hstore : w.store = sampleWorld.store)
    (hids : w.ids = sampleWorld.ids) (hf : w.faults = []) (hnow : w.now = Time.Instant.epoch) :
    (after sampleSettings w sampleBefore).store.tokens =
      [(sampleRefreshToken, ⟨1, 1, .epoch, sampleRefreshEnd, none⟩)] := by
  change (Happening.next sampleSettings w (.act false _)).store.tokens = _
  rw [next_register]
  exact (run_firstRegistration "1" "secret" rfl hstore hids hf hnow).2

theorem storedIn_sampleBefore :
    storedIn sampleSettings sampleWorld sampleBefore = [(1, sampleRefreshToken)] := by
  have hlength : (storedIn sampleSettings sampleWorld sampleBefore).length = 1 := by
    decide +kernel
  obtain ⟨x, hx⟩ := List.length_eq_one_iff.1 hlength
  have hstored : (1, sampleRefreshToken) ∈ storedIn sampleSettings sampleWorld sampleBefore := by
    refine logged_after (w := sampleWorld) rfl rfl sampleBefore _
      ⟨1, 1, .epoch, sampleRefreshEnd, none⟩ ?_
    rw [tokens_sampleBefore rfl rfl rfl rfl]
    exact .head _
  rw [hx, List.mem_singleton] at hstored
  rw [hx, ← hstored]

/-- When all sessions of the user are ended, they are still ended after the two hundred days, when
the token is not even in the store any more. -/
theorem sampleSessions_stay_ended :
    let w := after sampleSettings (after sampleSettings sampleWorld
      (sampleBefore ++ [.act false (.call (.revokeAll 1))])) sampleLater
    w.store.tokens = [] ∧
      (∀ id, (w.run false (isAlive sampleSettings 1 id).run).1 = .ok false) ∧
      ∀ pair, (w.run false (refresh sampleSettings sampleRefreshToken).run).1 ≠ .ok pair := by
  have hstored : storedIn sampleSettings (after sampleSettings sampleWorld
      (sampleBefore ++ [.act false (.call (.revokeAll 1))])) sampleLater = [] := by decide +kernel
  have hminted : mintedIn sampleSettings (after sampleSettings sampleWorld
      (sampleBefore ++ [.act false (.call (.revokeAll 1))])) sampleLater = [] := by decide +kernel
  have hdistinct : AreDistinct (storedIn sampleSettings sampleWorld sampleBefore) none
      (storedIn sampleSettings (after sampleSettings sampleWorld
        (sampleBefore ++ [.act false (.call (.revokeAll 1))])) sampleLater) := by
    rw [hstored, storedIn_sampleBefore]
    exact ⟨by simp, by simp⟩
  have h := ended_sessions_stay_ended (u := 1) (c := .revokeAll 1) sampleSettings_hasDefaultKeys
    sampleWorld_isFresh rfl sampleBefore sampleLater rfl
    (by rw [run_revokeAll (by decide +kernel)]) hdistinct
  refine ⟨by decide +kernel, h.1 fun pair hp => ?_, h.2 sampleRefreshToken ?_⟩
  · rw [hminted] at hp
    cases hp
  · change (1, sampleRefreshToken) ∈ _
    rw [storedIn_sampleBefore]
    exact .head _

end SignIn.Session
