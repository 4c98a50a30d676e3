-- How many refresh tokens of a user can be used, and what each write to the
-- store makes of the number. No text is listed twice, so that what becomes of
-- one record counts once, and for its owner only.
import Mathlib.Data.List.Nodup
import SignIn.Proofs.Store.Records
import SignIn.Proofs.Store.Retention

namespace SignIn.Store

/-- Where no key comes twice, a change under one of them counts once. -/
theorem countP_map_key {α β : Type} [DecidableEq α] {l : List (α × β)} {k : α} {b : β}
    (hl : (l.map Prod.fst).Nodup) (hk : (k, b) ∈ l) (f : β → β) (p : α × β → Bool) :
    (l.map fun e => if e.1 = k then (e.1, f e.2) else e).countP p + (p (k, b)).toNat =
      l.countP p + (p (k, f b)).toNat := by
  induction l with
  | nil => cases hk
  | cons e l ih =>
    rw [List.map_cons, List.nodup_cons] at hl
    rw [List.map_cons, List.countP_cons, List.countP_cons]
    by_cases he : e.1 = k
    · -- Behind its one place the key does not come again.
      have habsent : ∀ y, (k, y) ∉ l := fun y hy => hl.1 (he ▸ List.mem_map.2 ⟨(k, y), hy, rfl⟩)
      have hrest : (l.map fun e => if e.1 = k then (e.1, f e.2) else e) = l := by
        refine (List.map_congr_left fun e' he' => if_neg fun heq => ?_).trans (List.map_id l)
        exact habsent e'.2 (heq ▸ he')
      obtain rfl : (k, b) = e := by
        rcases List.mem_cons.1 hk with heq | hm
        · exact heq
        · exact absurd hm (habsent b)
      simp only [hrest, if_true]
      cases p (k, b) <;> cases p (k, f b) <;> rfl
    · have hm : (k, b) ∈ l := by
        rcases List.mem_cons.1 hk with heq | hm
        · exact absurd (congrArg Prod.fst heq).symm he
        · exact hm
      have := ih hl.2 hm
      simp only [if_neg he]
      omega

namespace Memory

variable {m : Memory} {now expiresAt : Time.Instant} {u : Int} {t : String} {r : RefreshRecord}

/-! ## Texts -/

/-- No text is listed twice. -/
def IsIndexed (m : Memory) : Prop := (m.tokens.map Prod.fst).Nodup

theorem isIndexed_empty (roles : List (Int × List String)) (defaultRole : Option Int) :
    (empty roles defaultRole).IsIndexed := List.nodup_nil

theorem IsIndexed.of_sublist (h : m.IsIndexed) {m' : Memory}
    (hs : m'.tokens.Sublist m.tokens) : m'.IsIndexed :=
  List.Nodup.sublist (hs.map Prod.fst) h

/-- Records that are changed under their texts leave the texts as they are. -/
theorem IsIndexed.of_map (h : m.IsIndexed) {m' : Memory}
    {f : String × RefreshRecord → String × RefreshRecord} (hf : ∀ e, (f e).1 = e.1)
    (hm : m'.tokens = m.tokens.map f) : m'.IsIndexed := by
  unfold IsIndexed
  rw [hm, List.map_map, show Prod.fst ∘ f = Prod.fst from funext hf]
  exact h

theorem IsIndexed.mapToken (h : m.IsIndexed) (t : String) (f : RefreshRecord → RefreshRecord) :
    (m.mapToken t f).IsIndexed := by
  refine h.of_map (fun e => ?_) rfl
  dsimp only
  split <;> rfl

theorem IsIndexed.putToken (h : m.IsIndexed) (now : Time.Instant) (u : Int) (t : String)
    (expiresAt : Time.Instant) : (m.putToken now u t expiresAt).IsIndexed := by
  unfold IsIndexed Memory.putToken
  dsimp only
  rw [List.map_append, List.map_singleton, ← List.concat_eq_append]
  refine List.Nodup.concat (fun ht => ?_) (List.Nodup.sublist (List.filter_sublist.map _) h)
  obtain ⟨e, he, rfl⟩ := List.mem_map.1 ht
  simpa using (List.mem_filter.1 he).2

theorem IsIndexed.answer (h : m.IsIndexed) (now : Time.Instant) (q : Request) :
    (m.answer now q).2.IsIndexed := by
  cases q with
  | createUser new =>
    change (m.createUser now new).2.IsIndexed
    unfold createUser
    split <;> exact h
  | softDelete id =>
    change (m.softDelete now id).2.IsIndexed
    unfold softDelete
    split <;> exact h
  | findUser | findCredentials | findByPhone | emailExists | permissionsOf | findToken => exact h
  | createToken u t expiresAt =>
    change (m.createToken now u t expiresAt).2.IsIndexed
    unfold createToken
    split
    · exact h
    · exact h.putToken now u t expiresAt
  | rotateToken u old new expiresAt =>
    change (m.rotateToken now u old new expiresAt).2.IsIndexed
    rcases rotateToken_cases m now u old new expiresAt with he | ⟨_, _, _, _, he⟩
    · rw [he]
      exact h
    · rw [he]
      exact (h.mapToken old _).putToken now u new expiresAt
  | revokeToken t =>
    change (m.revokeToken now t).2.IsIndexed
    unfold revokeToken
    split
    · exact h
    · split
      · exact h
      · exact h.mapToken t _
  | revokeAll u =>
    refine h.of_map (fun e => ?_) rfl
    dsimp only
    split <;> rfl
  | purge olderThan => exact h.of_sublist List.filter_sublist

/-! ## Single writes -/

/-- Whether a text has a record that can be used. -/
def isUsable (m : Memory) (now : Time.Instant) (t : String) : Bool :=
  (m.findToken t).any fun r => r.isActive now

theorem isActive_revokedAt (now now' : Time.Instant) (r : RefreshRecord) :
    (revokedAt now' r).isActive now = false := rfl

/-- No change of a record brings in another text. -/
theorem findToken_mapToken_of_none (h : m.findToken t = none) (t' : String)
    (f : RefreshRecord → RefreshRecord) : (m.mapToken t' f).findToken t = none := by
  refine List.lookup_eq_none_iff.2 fun e he => ?_
  obtain ⟨old, hold, rfl⟩ := List.mem_map.1 he
  have hne := List.lookup_eq_none_iff.1 h old hold
  dsimp only
  split <;> exact hne

/-- A token that is stored anew counts for its user while its time is not over. -/
theorem activeTokens_putToken (h : m.findToken t = none) (now now' : Time.Instant) (u : Int)
    (expiresAt : Time.Instant) (v : Int) :
    (m.putToken now' u t expiresAt).activeTokens now v =
      m.activeTokens now v + if v = u ∧ now < expiresAt then 1 else 0 := by
  have hsame : (m.tokens.filter fun e => e.1 != t) = m.tokens := by
    refine List.filter_eq_self.2 fun e he => ?_
    have hne := List.lookup_eq_none_iff.1 h e he
    simpa [bne, Bool.beq_comm] using hne
  have hcounts : ((u == v) && (⟨m.lastTokenId + 1, u, now', expiresAt, none⟩ :
      RefreshRecord).isActive now) = true ↔ v = u ∧ now < expiresAt := by
    rw [Bool.and_eq_true_iff, isActive_iff, beq_iff_eq]
    exact and_congr eq_comm (and_iff_right rfl)
  unfold activeTokens putToken
  change List.countP _ ((m.tokens.filter fun e => e.1 != t) ++ [_]) = _
  rw [hsame, List.countP_append, List.countP_singleton]
  simp only [hcounts]

/-- A token that is revoked no longer counts for its user. -/
theorem activeTokens_mapToken (h : m.IsIndexed) (hf : m.findToken t = some r)
    (now now' : Time.Instant) (v : Int) :
    (m.mapToken t (revokedAt now')).activeTokens now v +
      (if v = r.userId ∧ r.isActive now = true then 1 else 0) = m.activeTokens now v := by
  have hchange := countP_map_key h (mem_of_findToken hf) (revokedAt now')
    fun e => e.2.userId == v && e.2.isActive now
  rw [isActive_revokedAt, Bool.and_false, Bool.toNat_false, Nat.add_zero] at hchange
  refine Eq.trans (congrArg _ ?_) hchange
  by_cases hc : v = r.userId ∧ r.isActive now = true
  · rw [if_pos hc, hc.1, hc.2, beq_self_eq_true]
    rfl
  · rw [if_neg hc]
    refine (Bool.toNat_eq_zero.2 (Bool.eq_false_iff.2 fun hb => hc ?_)).symm
    obtain ⟨hu, ha⟩ := Bool.and_eq_true_iff.1 hb
    exact ⟨(eq_of_beq hu).symm, ha⟩

/-- A revocation takes a token from its owner if it could be used. -/
theorem activeTokens_revokeToken (h : m.IsIndexed) (hu : ∀ r, m.findToken t = some r → r.userId = u)
    (now : Time.Instant) (v : Int) :
    (m.revokeToken now t).2.activeTokens now v +
      (if v = u ∧ m.isUsable now t = true then 1 else 0) = m.activeTokens now v := by
  unfold revokeToken isUsable
  cases hf : m.findToken t with
  | none =>
    rw [Option.any_none, if_neg fun hc => Bool.false_ne_true hc.2]
    rfl
  | some r =>
    rw [← hu r hf]
    dsimp only
    cases hr : r.isRevoked with
    | true =>
      have hover : r.isActive now = false := by
        unfold RefreshRecord.isActive
        rw [hr]
        rfl
      rw [if_pos rfl, Option.any_some, hover, if_neg fun hc => Bool.false_ne_true hc.2]
      rfl
    | false => exact activeTokens_mapToken h hf now now v

/-- A rotation leaves as many tokens as before, if the new one is new and its time not over. -/
theorem activeTokens_rotateToken {old new : String} (h : m.IsIndexed)
    (hnew : m.findToken new = none) (hover : now < expiresAt) (u v : Int) :
    (m.rotateToken now u old new expiresAt).2.activeTokens now v = m.activeTokens now v := by
  rcases rotateToken_cases m now u old new expiresAt with he | ⟨r, hr, rfl, hactive, he⟩
  · rw [he]
  · rw [he, activeTokens_putToken (findToken_mapToken_of_none hnew old _),
      ← activeTokens_mapToken h hr now now v]
    simp only [hactive, hover]

/-- A revocation of all leaves the user none, and everybody else as many as before. -/
theorem activeTokens_revokeAll (m : Memory) (now : Time.Instant) (u v : Int) :
    (m.revokeAll now u).2.activeTokens now v = if v = u then 0 else m.activeTokens now v := by
  unfold revokeAll activeTokens
  dsimp only
  rw [List.countP_map]
  split
  · rename_i hv
    refine List.countP_eq_zero.2 fun ⟨t, r⟩ _ hb => ?_
    dsimp only [Function.comp_apply] at hb
    split at hb
    · rw [isActive_revokedAt, Bool.and_false] at hb
      cases hb
    · rename_i hnot
      obtain ⟨hu, ha⟩ := Bool.and_eq_true_iff.1 hb
      refine hnot ?_
      unfold isUnrevokedOf
      rw [← hv, hu, isRevoked_of_isActive ha]
      rfl
  · rename_i hv
    refine List.countP_congr fun ⟨t, r⟩ _ => ?_
    dsimp only [Function.comp_apply]
    split
    · rename_i hmine
      unfold isUnrevokedOf at hmine
      have hu : r.userId = u := eq_of_beq (Bool.and_eq_true_iff.1 hmine).1
      have hother : (r.userId == v) = false :=
        beq_eq_false_iff_ne.2 fun he => hv (he.symm.trans hu)
      change (r.userId == v && false) = true ↔ _
      rw [hother, Bool.false_and, Bool.false_and]
    · exact Iff.rfl

/-- What is cleared out could not be used any more. -/
theorem activeTokens_purge (m : Memory) (now : Time.Instant) (olderThan : Time.Duration) (v : Int) :
    (m.purge now olderThan).2.activeTokens now v = m.activeTokens now v := by
  unfold activeTokens
  rw [tokens_purge, List.countP_filter]
  refine List.countP_congr fun ⟨t, r⟩ _ => ?_
  rw [Bool.and_eq_true_iff]
  refine ⟨And.left, fun hb => ⟨hb, ?_⟩⟩
  exact decide_eq_true (not_endedBefore_of_isActive (Bool.and_eq_true_iff.1 hb).2)

end Memory

end SignIn.Store
