-- The books are kept: in whatever state a history leads to, every act leaves
-- everybody the number of sessions that it should. What can be late is the
-- failure of a call, or a refresh token that is told to be an old one.
import SignIn.Proofs.Session.Accounting
import SignIn.Proofs.Session.Endings
import SignIn.Proofs.Session.Unfinished

namespace SignIn.Session

open World (Turn Balanced Emptied balanced_of_tokens_eq)
open Text.Decimal (int64Low int64High)

variable {s : Settings} {mayFail : Prop} {a : Act} {w₀ w w' : World} {v : Int}

/-- The books are kept when an act ends: if it succeeds, the numbers of sessions are what it makes
of them, and if it fails, they are what they were, unless a call to the cache has failed behind the
write. Nobody's number changes but that of the user that the act acts for, and a pair that it mints
is for that user. -/
structure Accounted (s : Settings) (mayFail : Prop) (w : World) (a : Act) (r : Reply)
    (w' : World) : Prop where
  succeeded : ∀ pair, r = .ok pair → a.Moves s w w'
  failed : ∀ e, r = .error e → Balanced w w' ∨ mayFail ∧ IsOfCache e ∧ a.Moves s w w'
  minted : (∀ t, a ≠ .call (.refresh t)) → ∀ pair, r = .ok (some pair) → a.Names s w pair
  others : ∀ v, a.actor s w ≠ some v → w'.sessions v = w.sessions v

/-- However calls fail, the books are kept. -/
theorem accounted_of_leads (hlife : 0 < s.refreshLifetime.nanos) (h : InOrder s w) {r : Reply}
    (hl : Dialog.Leads (Turn mayFail) w (a.program s) r w') : Accounted s mayFail w a r w' := by
  have hend := (a.operation_accounts hlife h).holds.of_leads hl
  cases r with
  | ok minted =>
    obtain ⟨hnames, hmoves⟩ := hend
    refine ⟨fun _ _ => hmoves, nofun, fun hr pair hp => ?_, fun v hv => hmoves.of_ne hv⟩
    exact hnames hr pair (Except.ok.inj hp)
  | error e =>
    refine ⟨nofun, fun e' he => Except.error.inj he ▸ hend, nofun, fun v hv => ?_⟩
    rcases hend with hb | ⟨_, _, hmoves⟩
    · exact hb v
    · exact hmoves.of_ne hv

/-- Where no failure is set, the books are kept, whether or not the caller has given up. -/
theorem accounted_run (hlife : 0 < s.refreshLifetime.nanos) (h : InOrder s w) (a : Act)
    (cancelled : Bool) : Accounted s False w a (w.run cancelled (a.program s)).1
      (w.run cancelled (a.program s)).2 := by
  cases cancelled with
  | false => exact accounted_of_leads hlife h (World.leads_run False w (a.program s))
  | true =>
    -- A run that is refused all calls is one in which calls fail, and it writes nothing.
    have hl := World.leads_run_of_nil true h.faults (a.program s)
    have hnow := hl.keeps (I := fun w' => w'.now = w.now)
      (fun _ _ _ _ hn ht => ht.clocks.1.trans hn) rfl
    have hb : Balanced w (w.run true (a.program s)).2 :=
      balanced_of_tokens_eq (by rw [(store_run_cancelled h.faults (a.program s)).1]) hnow
    have hbooks := accounted_of_leads hlife h hl
    exact ⟨hbooks.succeeded, fun _ _ => Or.inl hb, hbooks.minted, hbooks.others⟩

/-! ## States that acts lead to -/

/-- The ids of those who are there are positive, and not above the latest. -/
theorem id_of_hasUser {m : Store.Memory} (h : m.Placed) (hv : m.HasUser v) :
    0 < v ∧ v ≤ m.lastUserId := by
  obtain ⟨r, hr, rfl⟩ := hv
  obtain ⟨i, hi⟩ := List.mem_iff_getElem?.1 (Store.Memory.mem_liveRows.1 hr).1
  have hplace := h.place i r hi
  have hlast := h.last
  have hlt := (List.getElem?_eq_some_iff.1 hi).1
  omega

theorem inOrder_after (hw : IsFresh w₀) (hf : w₀.faults = [])
    (hids : Function.Injective w₀.ids.item) (history : List Happening)
    (hlast : (after s w₀ history).store.lastUserId ≤ int64High) :
    InOrder s (after s w₀ history) := by
  obtain ⟨roles, defaultRole, hstore⟩ := hw.1
  have hindexed : w₀.store.IsIndexed := hstore ▸ Store.Memory.isIndexed_empty roles defaultRole
  have hplaced : w₀.store.Placed := hstore ▸ Store.Memory.placed_empty roles defaultRole
  have hplaced := store_after (s := s) (P := Store.Memory.Placed)
    (fun _ now q h => h.answer now q) hf history hplaced
  refine ⟨faults_after hf history, ?_, ?_, storesDrawn_after hw hf history, ?_, fun v hv => ?_⟩
  · exact store_after (P := Store.Memory.IsIndexed) (fun _ now q h => h.answer now q) hf history
      hindexed
  · exact (visited_after hf history .start).owned hw
  · rw [(drawing_after hf history).ids.item]
    exact hids
  · have hid := id_of_hasUser hplaced hv
    have hlow : int64Low ≤ 0 := by decide
    omega

/-- **The books are kept.** In every state that a history leads to, at any instant, every act leaves
everybody the number of sessions that it should, whether or not its caller has given up; and where
calls to the store or the cache may fail without effect at any moment, it does so up to a failure of
the cache behind the store's write. A refresh, however it ends, leaves everybody as many sessions as
before. A revocation of all tells how many of the user's tokens were not revoked. Refresh tokens
live for some time, no token id comes twice, and the ids of users are of 64 bits. -/
theorem sessions_are_accounted (hw : IsFresh w₀) (hf : w₀.faults = [])
    (hids : Function.Injective w₀.ids.item) (hlife : 0 < s.refreshLifetime.nanos)
    (history : List Happening) (hlast : (after s w₀ history).store.lastUserId ≤ int64High) :
    let w := after s w₀ history
    (∀ a cancelled, Accounted s False w a (w.run cancelled (a.program s)).1
      (w.run cancelled (a.program s)).2) ∧
    (∀ a r w', Dialog.Leads (Turn True) w (a.program s) r w' → Accounted s True w a r w') ∧
    (∀ t r w', Dialog.Leads (Turn True) w (Call.program s (.refresh t)) r w' → Balanced w w') ∧
    ∀ u cancelled n, (w.run cancelled (revokeAll s u).run).1 = .ok n →
      n = unrevoked w u ∧ Emptied u w (w.run cancelled (revokeAll s u).run).2 := by
  intro w
  have h : InOrder s w := inOrder_after hw hf hids history hlast
  refine ⟨accounted_run hlife h, fun a r w' hl => accounted_of_leads hlife h hl,
    fun t r w' hl => ?_, fun u cancelled n hn => ?_⟩
  · have hbooks : Accounted s True w (.call (.refresh t)) r w' := accounted_of_leads hlife h hl
    cases r with
    | ok pair => exact hbooks.succeeded pair rfl
    | error e => exact (hbooks.failed e rfl).elim (fun hb => hb) fun hb => hb.2.2
  · exact World.ensured_of_ok (revokeAll_empties h.faults u) h.faults hn

/-- Two months on, a user registers. -/
def sampleSignUp : List Happening :=
  [.pass (60 * 86400 * Time.second) (60 * 86400 * 1000000000),
    .act false (.call (.register (sampleRegistration "1")))]

/-- Whatever the user's client tries to refresh, and whatever fails meanwhile, the user has one
session. -/
theorem sampleSessions_are_accounted :
    let w := after sampleSettings saltedWorld sampleSignUp
    w.sessions 1 = 1 ∧ ∀ t r w', Dialog.Leads (Turn True) w
      (Call.program sampleSettings (.refresh t)) r w' → w'.sessions 1 = 1 := by
  intro w
  have hone : w.sessions 1 = 1 := by decide +kernel
  refine ⟨hone, fun t r w' hl => ?_⟩
  have hbooks := sessions_are_accounted (s := sampleSettings) saltedWorld_isFresh rfl
    saltedWorld_ids_injective (by decide) sampleSignUp (by decide +kernel)
  exact (hbooks.2.2.1 t r w' hl 1).trans hone

/-- Whether a pair was minted. -/
def isMinted : Reply → Bool
  | .ok (some _) => true
  | _ => false

theorem pair_of_isMinted {r : Reply} (h : isMinted r = true) : ∃ pair, r = .ok (some pair) := by
  rcases r with e | _ | pair
  · cases h
  · cases h
  · exact ⟨pair, rfl⟩

theorem findToken_sampleBefore :
    (after sampleSettings saltedWorld sampleBefore).store.findToken sampleRefreshToken =
      some ⟨1, 1, .epoch, sampleRefreshEnd, none⟩ := by
  unfold Store.Memory.findToken
  rw [tokens_sampleBefore (w := saltedWorld) rfl rfl rfl rfl, List.lookup_cons, beq_self_eq_true]

/-- The books are not kept to the letter. A pair that is minted directly, as if at the epoch, gives
its user no session two months later; and a logout that fails, since the marker of the user's access
token cannot be deleted, has ended the session all the same. -/
theorem books_are_not_exact :
    let w := after sampleSettings saltedWorld sampleSignUp
    let minted := w.run false (Act.program sampleSettings (.mint 1 "user@example.com" .epoch))
    let w₁ := stuck (after sampleSettings saltedWorld sampleBefore) (.client "down")
    let left := w₁.run false (Call.program sampleSettings (.logout 1 sampleRefreshToken))
    ((∃ pair, minted.1 = .ok (some pair)) ∧ minted.2.sessions 1 = w.sessions 1) ∧
      left.1 = .error (.cache (.client "down")) ∧ w₁.sessions 1 = left.2.sessions 1 + 1 := by
  intro w minted w₁ left
  have hminted : isMinted minted.1 = true := by decide +kernel
  have hfound := findToken_sampleBefore
  have howner : ∀ r, (after sampleSettings saltedWorld sampleBefore).store.findToken
      sampleRefreshToken = some r → r.userId = 1 := by
    intro r hr
    cases hfound.symm.trans hr
    rfl
  have hverify : Token.verify sampleRefreshToken .refresh (Token.secretOf sampleSettings .refresh)
      (after sampleSettings saltedWorld sampleBefore).now.unixSeconds =
        .ok (sampleRefreshClaims 1 "1") :=
    Token.verify_sign _ (Token.fits_claimsUntil (by decide) _ _ _ _ _ _) rfl (by decide)
      (by decide +kernel) (by decide +kernel)
  have hindexed : (after sampleSettings saltedWorld sampleBefore).store.IsIndexed := by
    unfold Store.Memory.IsIndexed
    rw [tokens_sampleBefore (w := saltedWorld) rfl rfl rfl rfl]
    exact List.nodup_singleton _
  obtain ⟨w', hleft, hparted⟩ := run_logout_stuck (t := sampleRefreshToken) (s := sampleSettings)
    (faults_after rfl _) hindexed howner (.client "down") (trim_sign _ _)
    (by simp [sampleRefreshToken, Token.sign]) hverify
  have hleft : left = (.error (.cache (.client "down")), w') := hleft
  have hparted : Parted 1 sampleRefreshToken w₁ w' := hparted
  have husable : w₁.store.isUsable w₁.now sampleRefreshToken = true := by
    change ((after sampleSettings saltedWorld sampleBefore).store.findToken _).any _ = true
    rw [hfound]
    decide +kernel
  unfold Parted at hparted
  rw [if_pos husable] at hparted
  rw [hleft]
  refine ⟨⟨?_, by decide +kernel⟩, rfl, hparted 1⟩
  exact pair_of_isMinted hminted

end SignIn.Session
