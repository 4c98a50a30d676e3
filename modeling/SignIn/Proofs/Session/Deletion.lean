-- The deletion of an account is final: no token is minted for the user any
-- more, nothing is left of the user's sessions, and whoever registers the email
-- again gets an id that no account has had.
import SignIn.Proofs.Session.Endings

namespace SignIn.Session

open Operation
open Dialog (run_bind_of_ok)
open Text (normalize)
open World (Turn)

variable {s : Settings} {w w₀ : World} {u : Int}

/-! ## Looking for who is gone -/

theorem run_profile_of_absent (hf : w.faults = []) (h : ¬ w.store.HasUser u) :
    (w.run false (profile u).run).1 = .error .userNotFound := by
  have hfind : Dialog.run (World.answer false) w (store (.findUser u)).run = (.ok none, w) :=
    World.run_lookup hf (by rw [← Store.Memory.findUser_of_not_hasUser h]; rfl)
  unfold profile World.run
  rw [run_bind_of_ok _ hfind]
  rfl

theorem softDelete_of_absent (h : ¬ w.store.HasUser u) :
    w.store.softDelete w.now u = (false, w.store) := by
  have hany : (w.store.liveRows.any fun r => r.user.id == u) = false := by
    refine Bool.eq_false_iff.2 fun ha => h ?_
    obtain ⟨r, hr, hid⟩ := List.any_eq_true.1 ha
    exact ⟨r, hr, eq_of_beq hid⟩
  unfold Store.Memory.softDelete
  rw [hany]
  rfl

theorem run_deleteAccount_of_absent (hf : w.faults = []) (h : ¬ w.store.HasUser u) :
    (w.run false (deleteAccount s u).run).1 = .error .userNotFound := by
  have hdelete : Dialog.run (World.answer false) w (store (.softDelete u)).run =
      (.ok false, w) := by
    refine World.run_storeOr hf ?_
    change (Except.ok (w.store.softDelete w.now u).1, (w.store.softDelete w.now u).2) = _
    rw [softDelete_of_absent h]
    rfl
  exact congrArg Prod.fst (run_bind_of_ok (α := Bool) _ hdelete)

theorem run_emailExists (hf : w.faults = []) (email : String) :
    w.run false (emailExists email).run = (.ok (w.store.emailExists (normalize email)), w) :=
  World.run_lookup hf rfl

theorem AllRevoked.activeTokens_eq_zero (h : AllRevoked u w.store) :
    w.store.activeTokens w.now u = 0 := by
  refine List.countP_eq_zero.2 fun ⟨t, r⟩ hm hb => ?_
  obtain ⟨hu, hactive⟩ := Bool.and_eq_true_iff.1 hb
  have hrevoked := h t r hm (eq_of_beq hu)
  rw [Store.Memory.isRevoked_of_isActive hactive] at hrevoked
  cases hrevoked

/-! ## What a deletion leaves -/

/-- Right after a deletion: the account is gone, no token of the user is unrevoked, the user has no
marker, and nobody has the email. -/
structure IsDeleted (s : Settings) (u : Int) (email : String) (w : World) : Prop where
  gone : w.store.Gone u
  revoked : AllRevoked u w.store
  unmarked : w.cache.find? (s.accessKey u) = none
  unknown : ∀ row ∈ w.store.liveRows, row.user.email ≠ email

/-- A deletion that has succeeded has found the account, and leaves nothing of it. -/
theorem isDeleted_of_deleted {mayFail : Prop} {w' : World} (hn : w.store.Numbered)
    (ha : w.store.Apart)
    (hl : Dialog.Leads (Turn mayFail) w (Call.program s (.deleteAccount u)) (.ok none) w') :
    ∃ r ∈ w.store.liveRows, r.user.id = u ∧ IsDeleted s u r.user.email w' := by
  obtain ⟨_, hfound, hstore, hnone⟩ := exists_of_succeeded deleteAccount_ends hl
  obtain ⟨r, hr, hid⟩ : w.store.HasUser u := by
    by_contra habsent
    rw [softDelete_of_absent habsent] at hfound
    cases hfound
  have hsame : Store.Memory.SameAccounts (w.store.softDelete w.now u).2 w'.store := by
    rw [hstore]
    exact ⟨rfl, rfl, rfl⟩
  have habsent : ¬ w'.store.HasUser u := by
    rintro ⟨row, hrow, hu⟩
    rw [hsame.liveRows_eq] at hrow
    exact Store.Memory.not_hasUser_softDelete w.store w.now u ⟨row, hrow, hu⟩
  refine ⟨r, hr, hid, ⟨?_, habsent⟩, ?_, hnone, fun row hrow hemail => ?_⟩
  · have hlast : w.store.lastUserId ≤ (w.store.softDelete w.now u).2.lastUserId :=
      w.store.lastUserId_le_answer w.now (.softDelete u)
    have hle := hn.le_last r (Store.Memory.mem_liveRows.1 hr).1
    rw [hid] at hle
    rw [hsame.last]
    exact Int.le_trans hle hlast
  · rw [hstore]
    exact allRevoked_revokeAll _ _
  · -- Nobody else has had the email.
    have hrow' := hrow
    rw [hsame.liveRows_eq] at hrow'
    rcases Store.Memory.mem_liveRows_of_answer (q := .softDelete u) hrow' with hrow' | ⟨_, he, _⟩
    · rw [ha row hrow' r hr (Or.inl hemail)] at hrow
      exact habsent ⟨r, hrow, hid⟩
    · cases he

/-! ## Ever after -/

/-- Who is gone gets no marker again. -/
theorem unmarked_after_of_gone (hk : s.HasDefaultKeys) (hf : w.faults = [])
    (later : List Happening) (hgone : w.store.Gone u)
    (hnone : w.cache.find? (s.accessKey u) = none) :
    (after s w later).cache.find? (s.accessKey u) = none := by
  induction later generalizing w with
  | nil => exact hnone
  | cons h later ih =>
    have hgone' : (h.next s w).store.Gone u := gone_after hf [h] hgone
    refine ih (h.faults_next hf) hgone' (Happening.unmarked_next hk hf hnone fun v pair _ hv => ?_)
    rintro rfl
    exact hgone'.absent hv.account

/-- Whoever gets a pair is not gone. -/
theorem served_of_gone (hk : s.HasDefaultKeys) (hf : w.faults = []) {later : List Happening}
    (hgone : w.store.Gone u) {pair : TokenPair} (hp : pair ∈ mintedIn s w later) :
    ∃ v, v ≠ u ∧ IsAccessOf s v pair.access ∧ IsRefreshOf s v pair.refresh := by
  obtain ⟨mid, h, rest, _, hm⟩ := exists_of_mem_collect hp
  cases h with
  | pass => cases hm
  | act cancelled a =>
    have hleaves := a.leaves cancelled hk (faults_after (s := s) hf mid)
    rw [Option.mem_toList.1 hm] at hleaves
    obtain ⟨v, hv, _⟩ := hleaves
    refine ⟨v, ?_, hv.access, hv.refresh⟩
    rintro rfl
    have hgone' := gone_after (s := s) hf (mid ++ [.act cancelled a]) hgone
    rw [after_append] at hgone'
    exact hgone'.absent hv.account

/-- An account has been created since by a registration of the email, under an id that no account
had before. -/
def RegisteredAnew (s : Settings) (w₀ : World) (past later : List Happening) (email : String)
    (id : Int) : Prop :=
  ∃ (mid rest : List Happening) (cancelled : Bool) (r : Registration),
    later = mid ++ .act cancelled (.call (.register r)) :: rest ∧
    normalize r.email = email ∧
    (after s w₀ (past ++ mid ++ [.act cancelled (.call (.register r))])).store.HasUser id ∧
    ∀ early, early <+: past ++ mid → ∀ row ∈ (after s w₀ early).store.rows, row.user.id ≠ id

/-- Ids beyond the latest one have not been in use. -/
theorem unused_of_lt (hf : w₀.faults = []) (hn : w₀.store.Numbered) {past early : List Happening}
    (he : early <+: past) {id : Int} (hid : (after s w₀ past).store.lastUserId < id)
    {row : Store.Row} (hrow : row ∈ (after s w₀ early).store.rows) : row.user.id ≠ id := by
  obtain ⟨rest, rfl⟩ := he
  rw [after_append] at hid
  have hle := (numbered_after hf early hn).le_last row hrow
  have hlast := lastUserId_le_after (s := s) (faults_after (s := s) hf early) rest
  omega

/-- **Deletion is final.** After an account has been deleted, whatever else happens: no pair names
the user, the account is not found, the user has neither an active refresh token nor a marker, and
the email is reported as unknown until it is registered again, under an id that no account has ever
had. -/
theorem deletion_is_final (hk : s.HasDefaultKeys) (hw : IsFresh w₀) (hf : w₀.faults = [])
    (before later : List Happening)
    (hok : ((after s w₀ before).run false (Call.program s (.deleteAccount u))).1 = .ok none) :
    let past := before ++ [.act false (.call (.deleteAccount u))]
    let w := after s (after s w₀ past) later
    (∀ pair ∈ mintedIn s (after s w₀ past) later,
      ∃ v, v ≠ u ∧ IsAccessOf s v pair.access ∧ IsRefreshOf s v pair.refresh) ∧
    (w.run false (profile u).run).1 = .error .userNotFound ∧
    (w.run false (deleteAccount s u).run).1 = .error .userNotFound ∧
    w.store.activeTokens w.now u = 0 ∧
    w.cache.find? (s.accessKey u) = none ∧
    ∃ r ∈ (after s w₀ before).store.liveRows, r.user.id = u ∧
      ∀ email, normalize email = r.user.email →
        (w.run false (emailExists email).run).1 = .ok false ∨
        (w.run false (emailExists email).run).1 = .ok true ∧
          ∃ row ∈ w.store.liveRows, row.user.email = r.user.email ∧ row.user.id ≠ u ∧
            RegisteredAnew s w₀ past later r.user.email row.user.id := by
  intro past w
  have hnumbered : w₀.store.Numbered := (hw.good (s := s)).numbered
  have hf₁ : (after s w₀ past).faults = [] := faults_after hf past
  have hfw : w.faults = [] := faults_after hf₁ later
  have hl := World.leads_run_of_nil false (faults_after (s := s) hf before)
    (Call.program s (.deleteAccount u))
  have hpast : after s w₀ past =
    ((after s w₀ before).run false (Call.program s (.deleteAccount u))).2 := after_append ..
  rw [hok, ← hpast] at hl
  obtain ⟨r, hr, hid, hdeleted⟩ := isDeleted_of_deleted (numbered_after hf before hnumbered)
    (apart_after hf before hw.apart) hl
  have hgone := gone_after (s := s) hf₁ later hdeleted.gone
  refine ⟨fun pair hp => served_of_gone hk hf₁ hdeleted.gone hp,
    run_profile_of_absent hfw hgone.absent, run_deleteAccount_of_absent hfw hgone.absent,
    (allRevoked_after hk hf₁ hdeleted.gone hdeleted.revoked).activeTokens_eq_zero,
    unmarked_after_of_gone hk hf₁ later hdeleted.gone hdeleted.unmarked,
    r, hr, hid, fun email hemail => ?_⟩
  rw [run_emailExists hfw, hemail]
  by_cases hexists : w.store.emailExists r.user.email = true
  · obtain ⟨row, hrow, hrowEmail⟩ := Store.Memory.emailExists_iff.1 hexists
    refine Or.inr ⟨congrArg _ hexists, row, hrow, hrowEmail, ?_, ?_⟩
    · rintro rfl
      exact hgone.absent ⟨row, hrow, rfl⟩
    · rcases mem_liveRows_after hk hf₁ hrow with hold |
        ⟨mid, cancelled, r', rest, hsplit, hnew, hthere⟩
      · exact absurd hrowEmail (hdeleted.unknown row hold)
      · refine ⟨mid, rest, cancelled, r', hsplit, hnew.email.symm.trans hrowEmail, ?_,
          fun early he row' hrow' => unused_of_lt hf hnumbered he ?_ hrow'⟩
        · rw [List.append_assoc, after_append]
          exact ⟨row, hthere, rfl⟩
        · rw [after_append]
          exact hnew.id
  · exact Or.inl (congrArg _ (Bool.eq_false_iff.2 hexists))

/-- The email and the phone of a deleted account are registered again. -/
def sampleReturn : List Happening := [.act false (.call (.register (sampleRegistration "1")))]

/-- The account is not found any more, and who returns has another id. -/
theorem sampleAccount_stays_deleted :
    let w := after sampleSettings (after sampleSettings sampleWorld
      (sampleBefore ++ [.act false (.call (.deleteAccount 1))])) sampleReturn
    (w.run false (profile 1).run).1 = .error .userNotFound ∧
      w.store.activeTokens w.now 1 = 0 ∧
      ∃ row ∈ w.store.liveRows,
        row.user.email = normalize "user@example.com" ∧ row.user.id ≠ 1 := by
  have h := deletion_is_final (u := 1) sampleSettings_hasDefaultKeys sampleWorld_isFresh rfl
    sampleBefore sampleReturn (by decide +kernel)
  obtain ⟨_, hprofile, _, hactive, _, r, hr, _, hemail⟩ := h
  have hknown : ∀ r ∈ (after sampleSettings sampleWorld sampleBefore).store.liveRows,
      normalize "user@example.com" = r.user.email := by decide +kernel
  refine ⟨hprofile, hactive, ?_⟩
  rcases hemail "user@example.com" (hknown r hr) with hunknown | ⟨_, row, hrow, hsame, hne, _⟩
  · exact absurd hunknown (by decide +kernel)
  · exact ⟨row, hrow, hsame.trans (hknown r hr).symm, hne⟩

end SignIn.Session
