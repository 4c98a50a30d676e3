-- What a revocation next to a refresh comes to, compared to the two running one
-- after the other. The outcome is that of neither order exactly if the refresh
-- has written a marker behind the revocation that is not over yet.
import SignIn.Proofs.Session.Racing
import SignIn.Proofs.Session.Revocation

namespace SignIn.Session

open Operation
open Dialog (Leads run_bind_of_ok)
open World (Turn)
open Pool (Runs)

variable {s : Settings} {t : String} {u : Int} {w w' : World} {p : Pool Reply} {said : List Said}

/-! ## Outcomes -/

/-- The refresh tokens of a user that can be used. -/
def activeOf (w : World) (u : Int) : List String :=
  (w.store.tokens.filter fun (_, r) => r.userId == u && r.isActive w.now).map Prod.fst

/-- Whether the marker of a user is there. -/
def isMarked (s : Settings) (w : World) (u : Int) : Bool :=
  (w.cache.get w.ticks (s.accessKey u)).1.isSome

/-- What can be seen of the sessions of a user. -/
def outcome (s : Settings) (w : World) (u : Int) : List String × Bool :=
  (activeOf w u, isMarked s w u)

theorem AllRevoked.activeOf_eq_nil (h : AllRevoked u w.store) : activeOf w u = [] := by
  unfold activeOf
  refine List.map_eq_nil_iff.2 (List.filter_eq_nil_iff.2 fun ⟨v, r⟩ hm hb => ?_)
  obtain ⟨hu, ha⟩ := Bool.and_eq_true_iff.1 hb
  have hrevoked := h v r hm (eq_of_beq hu)
  rw [Store.Memory.isRevoked_of_isActive ha] at hrevoked
  cases hrevoked

theorem isMarked_of_none (h : w.cache.find? (s.accessKey u) = none) : isMarked s w u = false := by
  refine Bool.eq_false_iff.2 fun hm => ?_
  obtain ⟨e, he, _⟩ := Cache.Memory.get_isSome_iff.1 hm
  rw [h] at he
  cases he

/-- After a revocation that nothing comes behind, nothing is left. -/
theorem AllRevoked.outcome_eq (h : AllRevoked u w.store)
    (hc : w.cache.find? (s.accessKey u) = none) : outcome s w u = ([], false) := by
  unfold outcome
  rw [h.activeOf_eq_nil, isMarked_of_none hc]

/-! ## One after the other -/

theorem run_revokeAll (hf : w.faults = []) : w.run false (Call.program s (.revokeAll u)) =
    (.ok none, { w with
      store := (w.store.revokeAll w.now u).2
      cache := (w.cache.delete w.ticks (s.accessKey u)).2 }) := by
  let w₁ : World := { w with store := (w.store.revokeAll w.now u).2 }
  have h₁ : Dialog.run (World.answer false) w (store (.revokeAll u)).run =
      (.ok (w.store.revokeAll w.now u).1, w₁) := World.run_storeOr hf rfl
  have h₂ : Dialog.run (World.answer false) w₁ (cache (.delete (s.accessKey u))).run =
      (.ok (w.cache.delete w.ticks (s.accessKey u)).1,
        { w₁ with cache := (w.cache.delete w.ticks (s.accessKey u)).2 }) :=
    World.run_cacheOr (w := w₁) hf rfl
  have h : Dialog.run (World.answer false) w (revokeAll s u).run =
      (.ok (w.store.revokeAll w.now u).1,
        { w₁ with cache := (w.cache.delete w.ticks (s.accessKey u)).2 }) := by
    unfold revokeAll
    refine (run_bind_of_ok (α := Nat) _ h₁).trans ?_
    exact run_bind_of_ok (α := Bool) _ h₂
  exact run_bind_of_ok (α := Nat) _ h

/-- All tokens of the user are revoked, the marker is gone, and the exchange of a token that goes on
has not rotated it. -/
structure IsRefused (s : Settings) (t : String) (u : Int) (w : World) (said : List Said) :
    Prop where
  faults : w.faults = []
  revoked : AllRevoked u w.store
  unmarked : w.cache.find? (s.accessKey u) = none
  unrotated : ¬ Rotated t true said
  truthful : ∀ x ∈ said, Said.isTrue x = true

theorem IsRefused.cons (h : IsRefused s t u w said) {x : Said} (hf : w'.faults = [])
    (hs : w'.store = w.store) (hc : w'.cache = w.cache) (hr : x.rotation ≠ some (t, true))
    (ht : Said.isTrue x = true) : IsRefused s t u w' (x :: said) where
  faults := hf
  revoked := by
    rw [hs]
    exact h.revoked
  unmarked := by
    rw [hc]
    exact h.unmarked
  unrotated := by
    rintro ⟨y, hy, hyr⟩
    rcases List.mem_cons.1 hy with rfl | hy
    · exact hr hyr
    · exact h.unrotated ⟨y, hy, hyr⟩
  truthful := List.forall_mem_cons.2 ⟨ht, h.truthful⟩

theorem IsLookup.rotation_eq_none {q : Ask} (h : IsLookup q) (a : q.Answer) :
    Said.rotation ⟨q, a⟩ = none := by
  cases q with
  | store q =>
    cases q with
    | rotateToken => exact h.elim
    | _ => rfl
  | _ => rfl

/-- Whatever the exchange asks, it rotates nothing, and so it does not come to write the marker. -/
theorem IsRefused.turn (h : IsRefused s t u w said) (hn : ∀ v, Names s t v → v = u) {q : Ask}
    {a : q.Answer} (hq : RefreshTalk s t said q) (ht : Turn False w q a w') :
    IsRefused s t u w' (⟨q, a⟩ :: said) := by
  have hf := ht.faults h.faults
  cases refresh_effect h.faults hn h.truthful hq ht with
  | lookup hl hs hc _ htrue =>
    refine h.cons hf hs hc ?_ htrue
    rw [hl.rotation_eq_none]
    exact fun he => by cases he
  | rotate hs hc =>
    rw [h.revoked.rotateToken] at hs
    obtain ⟨rfl, hstore⟩ := Prod.mk.inj hs
    exact h.cons hf hstore.symm hc (fun he => by cases he) rfl
  | mark => exact absurd (hq.2.rotated_of_isMark rfl) h.unrotated
  | revoke => cases hq.2
  | delete => cases hq.2

theorem outcome_revoke_refresh (hf : w.faults = []) (hn : ∀ v, Names s t v → v = u) :
    outcome s (runEvents s w [.call (.revokeAll u), .call (.refresh t)]).1 u = ([], false) := by
  let w₁ := (w.run false (Call.program s (.revokeAll u))).2
  have h₁ : IsRefused s t u w₁ [] := by
    unfold w₁
    rw [run_revokeAll hf]
    exact ⟨hf, allRevoked_revokeAll _ _, Cache.Memory.find?_delete _ _ _,
      fun ⟨_, hx, _⟩ => absurd hx List.not_mem_nil, fun _ hx => absurd hx List.not_mem_nil⟩
  have hl := World.leads_run False w₁ (Call.program s (.refresh t))
  obtain ⟨said, h, _⟩ := hl.keeps_said refreshCall_talks
    (fun w said q a w' h hq ht => h.turn hn hq ht) h₁
  rw [runEvents_pair]
  exact h.revoked.outcome_eq h.unmarked

theorem outcome_refresh_revoke (hf : w.faults = []) :
    outcome s (runEvents s w [.call (.refresh t), .call (.revokeAll u)]).1 u = ([], false) := by
  let w₁ := (w.run false (Call.program s (.refresh t))).2
  have hl := World.leads_run False w (Call.program s (.refresh t))
  have hf₁ : w₁.faults = [] :=
    hl.keeps (I := fun w => w.faults = []) (fun _ _ _ _ hf ht => ht.faults hf) hf
  rw [runEvents_pair, run_revokeAll hf₁]
  exact AllRevoked.outcome_eq (allRevoked_revokeAll _ _) (Cache.Memory.find?_delete _ _ _)

/-! ## Side by side -/

theorem contended_runs (hf : w.faults = []) (hn : ∀ v, Names s t v → v = u)
    (hr : Runs False (begin s w [.revokeAll u, .refresh t]) p) : Contended s t u p :=
  hr.keeps (fun _ _ h hs => h.step hn hs) (contended_begin hf)

/-- When the revocation is over, all tokens are revoked, and the marker is the one that has been
written behind. -/
theorem Contended.at_end (h : Contended s t u p) {r : Reply} (hd : p.ops[0]? = some (.done r)) :
    AllRevoked u p.world.store ∧ ∀ id ends,
      p.world.cache.find? (s.accessKey u) = some ⟨id, ends⟩ ↔ MarkedBehind s u p.log id ends := by
  have hsaid : ∃ n b, p.saidBy 0 =
      [⟨.cache (.delete (s.accessKey u)), .ok b⟩, ⟨.store (.revokeAll u), .ok n⟩] := by
    rcases h.revoker.of_done hd with hsaid | ⟨x, hx, hfail⟩
    · exact hsaid
    · rw [h.unfailed x hx] at hfail
      cases hfail
  obtain ⟨n, b, hsaid⟩ := hsaid
  have hmem : ∀ x, x ∈ [⟨.cache (.delete (s.accessKey u)), .ok b⟩,
      (⟨.store (.revokeAll u), .ok n⟩ : Said)] → ∃ k, (⟨0, k, x⟩ : Exchange) ∈ p.log := by
    intro x hx
    rw [← hsaid] at hx
    exact Pool.mem_saidBy.1 hx
  obtain ⟨_, hdelete⟩ := hmem _ (.head _)
  obtain ⟨_, hrevoke⟩ := hmem _ (.tail _ (.head _))
  refine ⟨h.standing.revoked ⟨_, hrevoke, rfl⟩, fun id ends => ⟨fun he => ?_, ?_⟩⟩
  · exact h.standing.unmarked ⟨_, hdelete, rfl, rfl⟩ _ he
  · exact h.standing.marked id ends

/-- However a revocation of all tokens of a user and a refresh of one of them take turns while
nothing fails, once the revocation is over no refresh token of the user can be used. An access token
of the user is alive only if the refresh has marked it behind the revocation, and as long as its
marker is not over; and exactly then the outcome is that of neither order. -/
theorem revocation_stands_iff (hf : w.faults = []) (hn : ∀ v, Names s t v → v = u)
    (hr : Runs False (begin s w [.revokeAll u, .refresh t]) p) {r : Reply}
    (hd : p.ops[0]? = some (.done r)) :
    activeOf p.world u = [] ∧
      (∀ id, (p.world.run false (isAlive s u id).run).1 = .ok true ↔
        ∃ ends, MarkedBehind s u p.log id ends ∧ p.world.ticks < ends) ∧
      ((outcome s p.world u =
            outcome s (runEvents s w [.call (.revokeAll u), .call (.refresh t)]).1 u ∨
          outcome s p.world u =
            outcome s (runEvents s w [.call (.refresh t), .call (.revokeAll u)]).1 u) ↔
        ¬ ∃ id ends, MarkedBehind s u p.log id ends ∧ p.world.ticks < ends) := by
  have h := contended_runs hf hn hr
  obtain ⟨hrevoked, hmarker⟩ := h.at_end hd
  have hnone := hrevoked.activeOf_eq_nil
  refine ⟨hnone, fun id => ?_, ?_⟩
  · rw [isAlive_iff h.faults]
    constructor
    · rintro ⟨e, he, rfl, hover⟩
      exact ⟨e.expiresAt, (hmarker _ _).1 he, hover⟩
    · rintro ⟨ends, hb, hover⟩
      exact ⟨_, (hmarker _ _).2 hb, rfl, hover⟩
  · rw [outcome_revoke_refresh hf hn, outcome_refresh_revoke hf, or_self]
    have hmarked : isMarked s p.world u = true ↔
        ∃ id ends, MarkedBehind s u p.log id ends ∧ p.world.ticks < ends := by
      unfold isMarked
      rw [Cache.Memory.get_isSome_iff]
      constructor
      · rintro ⟨e, he, hover⟩
        exact ⟨e.value, e.expiresAt, (hmarker _ _).1 he, hover⟩
      · rintro ⟨id, ends, hb, hover⟩
        exact ⟨_, (hmarker _ _).2 hb, hover⟩
    rw [← hmarked, Bool.not_eq_true]
    unfold outcome
    rw [hnone, Prod.mk.injEq, eq_self, true_and]

/-- A refresh that has rotated its token, with a revocation about to begin. -/
def sampleUnderWay : Pool Reply where
  world := { sampleSession with store := sampleRotated, ids := sampleSession.ids.next.2 }
  ops := [Call.program sampleSettings (.revokeAll 1),
    minting (remint sampleSettings sampleUser .epoch (sampleNext 0))]
  log := ⟨1, 0, ⟨.store (.rotateToken 1 sampleToken (sampleNext 0).token
    (sampleNext 0).expiresAt), .ok true⟩⟩ :: sampleLookups 1 0

theorem sampleUnderWay_runs {mayFail : Prop} : Runs mayFail (begin sampleSettings sampleSession
    [.revokeAll 1, .refresh sampleToken]) sampleUnderWay := by
  let met : Pool Reply :=
    { world := { sampleSession with ids := sampleSession.ids.next.2 }
      ops := [Call.program sampleSettings (.revokeAll 1),
        minting (rotate sampleSettings sampleToken 1 sampleUser .epoch (sampleNext 0))]
      log := sampleLookups 1 0 ++ [] }
  have hmet : Runs mayFail (begin sampleSettings sampleSession
      [.revokeAll 1, .refresh sampleToken]) met :=
    Pool.runs_runUntil (i := 1) rfl
      (runUntil_sampleRefresh sampleSession.ids (n := 0) rfl 1 [])
  have hturn : met.turn 1 = sampleUnderWay :=
    turn_rotate (p := met) (i := 1) rfl rfl (Store.Memory.rotateToken_of_active
      findToken_sampleSession rfl sampleRecord_isActive)
  rw [← hturn]
  exact hmet.trans (Pool.runs_turn met 1)

/-- The revocation has come to its end, and then the refresh. -/
def sampleBehind : Pool Reply := (sampleUnderWay.finish 0).finish 1

theorem sampleBehind_runs {mayFail : Prop} : Runs mayFail (begin sampleSettings sampleSession
    [.revokeAll 1, .refresh sampleToken]) sampleBehind :=
  (sampleUnderWay_runs.trans (Pool.runs_finish _ 0)).trans (Pool.runs_finish _ 1)

/-- Both have succeeded, and the marker has been written behind. -/
theorem sampleBehind_ends :
    sampleBehind.ops[0]? = some (.done (.ok none)) ∧
      (∃ pair, sampleBehind.ops[1]? = some (.done (.ok (some pair)))) ∧
      sampleBehind.world.faults = [] ∧ sampleBehind.world.ticks = 0 ∧
      AllRevoked 1 sampleBehind.world.store ∧
      sampleBehind.world.cache.find? (sampleSettings.accessKey 1) =
        some ⟨Text.Decimal.ofNat 1, 600 * 1000000000⟩ := by
  obtain ⟨hw₀, ho₀⟩ := Pool.finish_of_getElem? (p := sampleUnderWay) (i := 0) rfl
  rw [run_revokeAll rfl] at hw₀ ho₀
  have hi : (sampleUnderWay.finish 0).ops[1]? =
      some (minting (remint sampleSettings sampleUser .epoch (sampleNext 0))) := by
    rw [ho₀]
    rfl
  have hf : (sampleUnderWay.finish 0).world.faults = [] := by
    rw [hw₀]
    rfl
  obtain ⟨hw₁, ho₁⟩ := Pool.finish_of_getElem? hi
  have hend : Token.expiry sampleSettings .access .epoch = .ok sampleAccessEnd := rfl
  rw [run_minting (run_remint hf hend)] at hw₁ ho₁
  rw [hw₀] at hw₁
  rw [ho₀] at ho₁
  unfold sampleBehind
  rw [hw₁, ho₁]
  refine ⟨rfl, ⟨_, rfl⟩, rfl, rfl, allRevoked_revokeAll _ _, ?_⟩
  exact (Cache.Memory.find?_put _ _ _ _).trans (if_pos rfl)

theorem sampleToken_isUsable : IsUsable sampleSettings sampleSession sampleToken :=
  ⟨_, findToken_sampleSession, names_sampleToken, sampleRecord_isActive⟩

theorem sampleBehind_stands_iff :
    IsUsable sampleSettings sampleSession sampleToken ∧ activeOf sampleBehind.world 1 = [] ∧
      (∀ id, (sampleBehind.world.run false (isAlive sampleSettings 1 id).run).1 = .ok true ↔
        ∃ ends, MarkedBehind sampleSettings 1 sampleBehind.log id ends ∧
          sampleBehind.world.ticks < ends) ∧
      ((outcome sampleSettings sampleBehind.world 1 = outcome sampleSettings (runEvents
          sampleSettings sampleSession [.call (.revokeAll 1), .call (.refresh sampleToken)]).1 1 ∨
        outcome sampleSettings sampleBehind.world 1 = outcome sampleSettings (runEvents
          sampleSettings sampleSession [.call (.refresh sampleToken), .call (.revokeAll 1)]).1 1) ↔
        ¬ ∃ id ends, MarkedBehind sampleSettings 1 sampleBehind.log id ends ∧
          sampleBehind.world.ticks < ends) :=
  ⟨sampleToken_isUsable, revocation_stands_iff rfl (fun _ hv => hv.unique names_sampleToken)
    sampleBehind_runs sampleBehind_ends.1⟩

/-- An access token stays alive next to a revocation, though in either order none does. -/
theorem sampleBehind_outlives :
    IsUsable sampleSettings sampleSession sampleToken ∧
      Runs False (begin sampleSettings sampleSession [.revokeAll 1, .refresh sampleToken])
        sampleBehind ∧
      sampleBehind.ops[0]? = some (.done (.ok none)) ∧
      (∃ pair, sampleBehind.ops[1]? = some (.done (.ok (some pair)))) ∧
      activeOf sampleBehind.world 1 = [] ∧
      (∃ id, (sampleBehind.world.run false (isAlive sampleSettings 1 id).run).1 = .ok true) ∧
      outcome sampleSettings sampleBehind.world 1 ≠ outcome sampleSettings (runEvents
        sampleSettings sampleSession [.call (.revokeAll 1), .call (.refresh sampleToken)]).1 1 ∧
      outcome sampleSettings sampleBehind.world 1 ≠ outcome sampleSettings (runEvents
        sampleSettings sampleSession [.call (.refresh sampleToken), .call (.revokeAll 1)]).1 1 := by
  obtain ⟨h₀, h₁, hf, hticks, hrevoked, hmarker⟩ := sampleBehind_ends
  have hover : sampleBehind.world.ticks < 600 * 1000000000 := by
    rw [hticks]
    decide
  have hmarked : isMarked sampleSettings sampleBehind.world 1 = true :=
    Cache.Memory.get_isSome_iff.2 ⟨_, hmarker, hover⟩
  have hne : outcome sampleSettings sampleBehind.world 1 ≠ ([], false) := by
    unfold outcome
    rw [hmarked]
    exact fun he => by cases congrArg Prod.snd he
  refine ⟨sampleToken_isUsable, sampleBehind_runs, h₀, h₁, hrevoked.activeOf_eq_nil,
    ⟨_, (isAlive_iff hf).2 ⟨_, hmarker, rfl, hover⟩⟩, ?_, ?_⟩
  · rw [outcome_revoke_refresh rfl fun _ hv => hv.unique names_sampleToken]
    exact hne
  · rw [outcome_refresh_revoke rfl]
    exact hne

end SignIn.Session
