-- A refresh token is spent once at most, however many calls try to exchange it
-- at the same time, and in whatever order they and other calls take turns.
import SignIn.Proofs.Session.Racing

namespace SignIn.Session

open World (Turn)
open Pool (Runs start)

variable {s : Settings} {w : World} {calls : List Call} {t : String} {p m : Pool Reply} {i j : Nat}

/-- A call has found the user and is yet to rotate the token. -/
structure AwaitsRotation (p : Pool Reply) (i : Nat) : Prop where
  going : ∃ q next, p.ops[i]? = some (.ask q next)
  found : FoundUser (p.saidBy i)
  unrotated : ¬ AskedToRotate (p.saidBy i)

/-- A call that exchanges the token says what the exchange of the token says. -/
theorem isTalking_refresh {mayFail : Prop} (hr : Runs mayFail (begin s w calls) p)
    (hi : calls[i]? = some (.refresh t)) :
    Pool.IsTalking (RefreshTalk s t) (RefreshEnds t) i p := by
  refine hr.isTalking (d := Call.program s (.refresh t)) ?_ refreshCall_talks
  rw [List.getElem?_map, hi]
  rfl

/-! ## At most once -/

/-- Where no two refresh tokens have the same text, none is rotated twice. -/
theorem rotations_count_le {mayFail : Prop} (hr : Runs mayFail (begin s w calls) p)
    (hnew : (p.minted ++ w.store.tokens.map Prod.fst).Nodup) (t : String) :
    p.rotations.count t ≤ 1 := by
  have hle := Runs.rotations_le hr t
  have hone : (p.minted ++ w.store.tokens.map Prod.fst).count t ≤ 1 :=
    List.nodup_iff_count.1 hnew t
  have hstored : (w.store.holdsUnrevoked t).toNat ≤ (w.store.tokens.map Prod.fst).count t := by
    cases hb : w.store.holdsUnrevoked t with
    | false => exact Nat.zero_le _
    | true =>
      obtain ⟨r, hm, _⟩ := Store.Memory.holdsUnrevoked_iff.1 hb
      exact List.count_pos_iff.2 (List.mem_map_of_mem hm)
  rw [List.count_append] at hone
  omega

/-- Who mints a pair for the token has rotated it. -/
theorem rotated_of_done {mayFail : Prop} (hr : Runs mayFail (begin s w calls) p)
    (hi : calls[i]? = some (.refresh t)) {pair : TokenPair}
    (hd : p.ops[i]? = some (.done (.ok (some pair)))) :
    ∃ x ∈ p.saidBy i, x.rotates = some t := by
  obtain ⟨x, hx, hr⟩ := ((isTalking_refresh hr hi).of_done hd).won _ rfl
  exact ⟨x, hx, Said.rotates_eq_some.2 hr⟩

/-! ## Exactly once -/

/-- The question with which a call goes on that awaits the rotation. -/
theorem AwaitsRotation.next {mayFail : Prop} (h : AwaitsRotation m i)
    (hr : Runs mayFail (begin s w calls) m) (hi : calls[i]? = some (.refresh t)) {q : Ask}
    {next : q.Answer → Program Reply} (hq : m.ops[i]? = some (.ask q next)) :
    q = .freshId ∨
      ∃ u new expiresAt, q = .store (.rotateToken u t new expiresAt) ∧ Names s t u := by
  obtain ⟨_, htalk⟩ := (isTalking_refresh hr hi).of_ask hq
  cases htalk with
  | clock h' | findToken h' | findUser h' => exact absurd h.found h'
  | refreshId => exact Or.inl rfl
  | rotate _ hu new expiresAt => exact Or.inr ⟨_, new, expiresAt, rfl, hu⟩
  | permissions h' | accessId h' | mark h' =>
    exact absurd h'.rotationAsked.askedToRotate h.unrotated

/-- While no call fails, every rotation is answered. -/
theorem rotation_answered (hf : w.faults = []) (hr : Runs False (begin s w calls) p) :
    p.world.faults = [] ∧ ∀ x ∈ p.log, ∀ u old new expiresAt,
      x.said.1 = .store (.rotateToken u old new expiresAt) →
      ∃ done, x.said.rotation = some (old, done) := by
  refine hr.keeps (I := fun p => p.world.faults = [] ∧ ∀ x ∈ p.log, ∀ u old new expiresAt,
    x.said.1 = .store (.rotateToken u old new expiresAt) →
    ∃ done, x.said.rotation = some (old, done)) (fun p p' hp hs => ?_)
    ⟨hf, fun x hx => absurd hx List.not_mem_nil⟩
  cases hs with
  | pass => exact hp
  | @ask i q next a w' hi ht =>
    refine ⟨ht.faults hp.1, fun x hx u old new expiresAt hq => ?_⟩
    rcases List.mem_cons.1 hx with rfl | hx
    · dsimp only at hq
      subst hq
      cases a with
      | ok done => exact ⟨done, rfl⟩
      | error e =>
        obtain ⟨_, hm | hn | he⟩ := ht.store_error
        · exact hm.elim
        · exact absurd hp.1 hn
        · cases he
    · exact hp.2 x hx u old new expiresAt hq

/-- The rotation of a token that can be used is done. -/
theorem rotates_turn (hf : m.world.faults = []) (h : IsUsable s m.world t) {u : Int} {new : String}
    {expiresAt : Time.Instant} {next : (Ask.store (.rotateToken u t new expiresAt)).Answer →
      Program Reply} (hu : Names s t u)
    (hq : m.ops[i]? = some (.ask (.store (.rotateToken u t new expiresAt)) next)) :
    ∃ x ∈ (m.turn i).saidBy i, x.rotates = some t := by
  obtain ⟨r, hr, hn, ha⟩ := h
  obtain rfl := hn.unique hu
  have hanswer : (m.world.answer false (.store (.rotateToken r.userId t new expiresAt))).1 =
      .ok true := by
    rw [World.answer_store hf]
    change Except.ok (m.world.store.rotateToken m.world.now r.userId t new expiresAt).1 = _
    rw [Store.Memory.rotateToken_of_active hr rfl ha]
    rfl
  unfold Pool.turn
  rw [hq]
  dsimp only
  rw [Pool.saidBy_cons_self]
  refine ⟨_, .head _, ?_⟩
  rw [hanswer]
  rfl

/-- A call that awaits the rotation of a token, and is over with the rotation refused, fails. -/
theorem lost_of_done (hf : w.faults = []) (hm : Runs False (begin s w calls) m)
    (hr : Runs False m p) (hi : calls[i]? = some (.refresh t)) (h : AwaitsRotation m i)
    (hnot : ¬ ∃ x ∈ p.saidBy i, x.rotates = some t) {r : Reply}
    (hd : p.ops[i]? = some (.done r)) : r = .error .refreshTokenInvalid := by
  obtain ⟨q, next, hq⟩ := h.going
  have hends := (isTalking_refresh (hm.trans hr) hi).of_done hd
  obtain ⟨x, hx, hxq⟩ := hr.asked_of_done hq hd
  -- Whether it is to draw an id first or not, it comes to the rotation.
  obtain ⟨y, hy, u, new, expiresAt, hyq⟩ : RotationAsked t (p.saidBy i) := by
    rcases h.next hm hi hq with rfl | ⟨u, new, expiresAt, rfl, _⟩
    · exact hends.drawn ⟨x, hx, Or.inl hxq⟩
    · exact ⟨x, hx, u, new, expiresAt, hxq⟩
  obtain ⟨n, hn⟩ := Pool.mem_saidBy.1 hy
  obtain ⟨done, hdone⟩ := (rotation_answered hf (hm.trans hr)).2 _ hn u t new expiresAt hyq
  cases done with
  | true => exact absurd ⟨y, hy, Said.rotates_eq_some.2 hdone⟩ hnot
  | false => exact hends.lost ⟨y, hy, hdone⟩

/-! ## Both -/

/-- However calls take turns, and whatever fails, a refresh token is rotated once at most, and one
call at most mints a pair for it, as long as no two refresh tokens have the same text. If all calls
that exchange the token await its rotation when the first of them rotates it, nothing fails, and the
token can be used, then that one rotates it, and when they are over the others have been refused. -/
theorem spent_at_most_once (hr : Runs True (begin s w calls) p)
    (hnew : (p.minted ++ w.store.tokens.map Prod.fst).Nodup) :
    (p.rotations.count t ≤ 1 ∧
      ∀ (i j : Nat) (pair pair' : TokenPair),
        calls[i]? = some (.refresh t) → calls[j]? = some (.refresh t) →
        p.ops[i]? = some (.done (.ok (some pair))) →
        p.ops[j]? = some (.done (.ok (some pair'))) → i = j) ∧
    ∀ (m : Pool Reply) (i : Nat) q next, w.faults = [] → Runs False (begin s w calls) m →
      (∀ j : Nat, calls[j]? = some (.refresh t) → AwaitsRotation m j) → IsUsable s m.world t →
      calls[i]? = some (.refresh t) → m.ops[i]? = some (.ask q next) → q.isRotation = true →
      Runs False (m.turn i) p →
      (∀ j : Nat, calls[j]? = some (.refresh t) → j ≠ i → ∃ r, p.ops[j]? = some (.done r)) →
      p.rotations.count t = 1 ∧ (∃ x ∈ p.saidBy i, x.rotates = some t) ∧
        ∀ j : Nat, calls[j]? = some (.refresh t) → j ≠ i →
          p.ops[j]? = some (.done (.error .refreshTokenInvalid)) := by
  have hone := rotations_count_le hr hnew t
  refine ⟨⟨hone, fun i j pair pair' hi hj hdi hdj => ?_⟩,
    fun m i q next hf hm hawait husable hi hq hrot hrun hover => ?_⟩
  · obtain ⟨x, hx, hxt⟩ := rotated_of_done hr hi hdi
    obtain ⟨y, hy, hyt⟩ := rotated_of_done hr hj hdj
    exact Pool.op_unique hone hx hy hxt hyt
  · have hmf := (rotation_answered hf hm).1
    obtain ⟨x, hx, hxt⟩ : ∃ x ∈ (m.turn i).saidBy i, x.rotates = some t := by
      rcases (hawait i hi).next hm hi hq with rfl | ⟨u, new, expiresAt, rfl, hu⟩
      · cases hrot
      · exact rotates_turn hmf husable hu hq
    have hxp := hrun.mem_saidBy hx
    refine ⟨?_, ⟨x, hxp, hxt⟩, fun j hj hji => ?_⟩
    · obtain ⟨n, hn⟩ := Pool.mem_saidBy.1 hxp
      have hpos : 0 < p.rotations.count t :=
        List.count_pos_iff.2 (List.mem_filterMap.2 ⟨_, hn, hxt⟩)
      omega
    · obtain ⟨r, hd⟩ := hover j hj hji
      have hnot : ¬ ∃ y ∈ p.saidBy j, y.rotates = some t := fun ⟨y, hy, hyt⟩ =>
        hji (Pool.op_unique hone hy hxp hyt hxt)
      rw [hd, lost_of_done hf hm ((Pool.runs_turn m i).trans hrun) hj (hawait j hj) hnot hd]

/-- The pool once the second one has been refused. -/
def sampleRace : Pool Reply where
  world := sampleWon.world
  ops := [minting (remint sampleSettings sampleUser .epoch (sampleNext 0)),
    .done (.error .refreshTokenInvalid)]
  log := ⟨1, 0, ⟨.store (.rotateToken 1 sampleToken (sampleNext 1).token
    (sampleNext 1).expiresAt), .ok false⟩⟩ :: sampleWon.log

theorem turn_sampleWon : sampleWon.turn 1 = sampleRace :=
  turn_rotate (p := sampleWon) (i := 1) rfl rfl (Store.Memory.rotateToken_of_inactive
    findToken_sampleRotated sampleRecord_isInactive)

/-- Of two refreshes that meet at the rotation the first one wins, and the other one is refused. -/
theorem sampleRace_spends_once :
    (sampleRace.rotations.count sampleToken ≤ 1 ∧
      ∀ (i j : Nat) (pair pair' : TokenPair),
        [Call.refresh sampleToken, .refresh sampleToken][i]? = some (.refresh sampleToken) →
        [Call.refresh sampleToken, .refresh sampleToken][j]? = some (.refresh sampleToken) →
        sampleRace.ops[i]? = some (.done (.ok (some pair))) →
        sampleRace.ops[j]? = some (.done (.ok (some pair'))) → i = j) ∧
    sampleRace.rotations.count sampleToken = 1 ∧
      (∃ x ∈ sampleRace.saidBy 0, x.rotates = some sampleToken) ∧
      ∀ j : Nat, [Call.refresh sampleToken, .refresh sampleToken][j]? =
          some (.refresh sampleToken) → j ≠ 0 →
        sampleRace.ops[j]? = some (.done (.error .refreshTokenInvalid)) := by
  have hwon : ∀ mayFail, Runs mayFail (sampleMeeting.turn 0) sampleRace := by
    intro mayFail
    rw [turn_sampleMeeting, ← turn_sampleWon]
    exact Pool.runs_turn sampleWon 1
  have hrun : Runs True (begin sampleSettings sampleSession
      [.refresh sampleToken, .refresh sampleToken]) sampleRace :=
    (sampleMeeting_runs.trans (Pool.runs_turn _ 0)).trans (hwon True)
  have hnew : (sampleRace.minted ++ sampleSession.store.tokens.map Prod.fst).Nodup := by
    have h₁ : (sampleNext 1).token ∉ [(sampleNext 0).token, sampleToken] := by
      rw [List.mem_cons, List.mem_singleton, not_or]
      exact ⟨sample_token_ne (by decide), sample_token_ne (by decide)⟩
    have h₀ : (sampleNext 0).token ∉ [sampleToken] := by
      rw [List.mem_singleton]
      exact sample_token_ne (by decide)
    exact List.nodup_cons.2 ⟨h₁, List.nodup_cons.2 ⟨h₀, List.pairwise_singleton _ _⟩⟩
  have hawait : ∀ j : Nat, [Call.refresh sampleToken, .refresh sampleToken][j]? =
      some (.refresh sampleToken) → AwaitsRotation sampleMeeting j := by
    have hlookups : ∀ n, ¬ AskedToRotate ((sampleLookups n n).map Exchange.said) := fun n => by
      simp [AskedToRotate, sampleLookups, Ask.isRotation]
    intro j hj
    rcases j with _ | _ | j
    · exact ⟨⟨_, _, rfl⟩, ⟨_, .tail _ (.head _), rfl⟩, hlookups 0⟩
    · exact ⟨⟨_, _, rfl⟩, ⟨_, .tail _ (.head _), rfl⟩, hlookups 1⟩
    · cases hj
  have h := spent_at_most_once hrun hnew (t := sampleToken)
  refine ⟨h.1, h.2 sampleMeeting 0 _ _ rfl sampleMeeting_runs hawait
    ⟨_, findToken_sampleSession, names_sampleToken, sampleRecord_isActive⟩ rfl rfl rfl
    (hwon False) fun j hj hne => ?_⟩
  rcases j with _ | _ | j
  · exact absurd rfl hne
  · exact ⟨_, rfl⟩
  · cases hj

end SignIn.Session
