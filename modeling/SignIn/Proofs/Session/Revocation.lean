-- A revocation of all tokens of a user next to a refresh of one of them. No
-- token of the user stays active, but a marker that the refresh writes behind
-- the revocation stays, and with it the access token that it names.
import SignIn.Proofs.Session.Refreshing

namespace SignIn.Session

open Operation
open Dialog (Ensures Noting ensures_pure ensures_bind)
open World (Turn)
open Pool (Runs)

variable {s : Settings} {t : String} {u : Int} {w w' : World} {p p' : Pool Reply}
  {said : List Said}

/-! ## What the revocation says -/

/-- What may be asked while all tokens of a user are revoked. -/
inductive RevokeTalk (s : Settings) (u : Int) : List Said → Ask → Prop
  | revoke : RevokeTalk s u [] (.store (.revokeAll u))
  | delete (n : Nat) : RevokeTalk s u [⟨.store (.revokeAll u), .ok n⟩]
    (.cache (.delete (s.accessKey u)))

theorem RevokeTalk.isMark {q : Ask} (h : RevokeTalk s u said q) : q.isMark = false := by
  cases h <;> rfl

/-- The marker is deleted last. -/
theorem RevokeTalk.undeleted {q : Ask} (h : RevokeTalk s u said q) :
    ∀ x ∈ said, x.1 ≠ .cache (.delete (s.accessKey u)) := by
  intro x hx he
  cases h with
  | revoke => cases hx
  | delete n =>
    rw [List.mem_singleton.1 hx] at he
    cases he

/-- What has been said when they are, unless something failed. -/
def RevokeEnds (s : Settings) (u : Int) (said : List Said) (_ : Reply) : Prop :=
  (∃ n b, said = [⟨.cache (.delete (s.accessKey u)), .ok b⟩, ⟨.store (.revokeAll u), .ok n⟩]) ∨
    ∃ x ∈ said, x.failed = true

theorem revokeCall_talks : Dialog.Holds Noting (RevokeTalk s u) (RevokeEnds s u) []
    (Call.program s (.revokeAll u)) := by
  have h : Ensures Noting (RevokeTalk s u) [] (Call.operation s (.revokeAll u))
      (fun a said => RevokeEnds s u said (.ok a)) fun e said => RevokeEnds s u said (.error e) := by
    unfold Call.operation revokeAll
    refine ensures_bind (ensures_bind (ensures_storeOr .revoke (fun n said₁ h₁ => ?_)
      fun e said₁ h₁ => ?_))
    · subst h₁
      refine ensures_bind (ensures_cacheOr (.delete n) (fun b said₂ h₂ => ?_) fun e said₂ h₂ => ?_)
      · exact ensures_pure (ensures_pure (Or.inl ⟨n, b, h₂⟩))
      · exact Or.inr ⟨_, by rw [h₂]; exact .head _, rfl⟩
    · exact Or.inr ⟨_, by rw [h₁]; exact .head _, rfl⟩
  refine h.holds.imp fun said r hr => ?_
  cases r <;> exact hr

/-! ## What the two do -/

/-- Questions that change neither the store nor the cache, as a refresh asks them. -/
def IsLookup : Ask → Prop
  | .clock | .freshId => True
  | .store (.findToken _) | .store (.findUser _) | .store (.permissionsOf _) => True
  | _ => False

/-- Whether an account that was found has the id that it was looked for under. -/
def Said.isTrue (x : Said) : Bool := x.foundUser.all fun (v, user) => user.id == v

theorem Said.id_of_isTrue {x : Said} (h : Said.isTrue x = true) {v : Int} {user : User}
    (hf : x.foundUser = some (v, user)) : user.id = v := by
  unfold Said.isTrue at h
  rw [hf] at h
  exact eq_of_beq h

/-- What a turn of the two operations does while nothing fails. -/
inductive Effect (s : Settings) (t : String) (u : Int) (w w' : World) : (q : Ask) → q.Answer → Prop
  | lookup {q : Ask} {a : q.Answer} (hq : IsLookup q) (hs : w'.store = w.store)
    (hc : w'.cache = w.cache)
    (hok : Said.failed ⟨q, a⟩ = false) (ht : Said.isTrue ⟨q, a⟩ = true) : Effect s t u w w' q a
  | rotate {new : String} {expiresAt : Time.Instant} {done : Bool}
    (hs : w.store.rotateToken w.now u t new expiresAt = (done, w'.store))
    (hc : w'.cache = w.cache) :
    Effect s t u w w' (.store (.rotateToken u t new expiresAt)) (.ok done)
  | mark {id : String} {left : Time.Duration} (hs : w'.store = w.store)
    (hc : w'.cache = w.cache.set w.ticks (s.accessKey u) id left) :
    Effect s t u w w' (.cache (.set (s.accessKey u) id left)) (.ok ())
  | revoke {n : Nat} (hs : w'.store = (w.store.revokeAll w.now u).2) (hc : w'.cache = w.cache) :
    Effect s t u w w' (.store (.revokeAll u)) (.ok n)
  | delete {b : Bool} (hs : w'.store = w.store)
    (hc : w'.cache = (w.cache.delete w.ticks (s.accessKey u)).2) :
    Effect s t u w w' (.cache (.delete (s.accessKey u))) (.ok b)

theorem revoke_effect (hf : w.faults = []) {q : Ask} {a : q.Answer} (hq : RevokeTalk s u said q)
    (ht : Turn False w q a w') : Effect s t u w w' q a := by
  obtain ⟨rfl, rfl⟩ := ht.eq_answer
  cases hq with
  | revoke =>
    rw [World.answer_store hf]
    exact .revoke rfl rfl
  | delete n =>
    rw [World.answer_cache hf]
    exact .delete rfl rfl

theorem refresh_effect (hf : w.faults = []) (hn : ∀ v, Names s t v → v = u)
    (htrue : ∀ x ∈ said, Said.isTrue x = true) {q : Ask} {a : q.Answer}
    (hq : RefreshTalk s t said q) (ht : Turn False w q a w') : Effect s t u w w' q a := by
  obtain ⟨rfl, rfl⟩ := ht.eq_answer
  obtain ⟨_, hq⟩ := hq
  cases hq with
  | clock | refreshId | accessId => exact .lookup trivial rfl rfl rfl rfl
  | findToken | permissions =>
    rw [World.answer_store hf]
    exact .lookup trivial rfl rfl rfl rfl
  | @findUser _ v =>
    rw [World.answer_store hf]
    refine .lookup trivial rfl rfl rfl ?_
    change Said.isTrue ⟨.store (.findUser v), .ok (w.store.findUser v)⟩ = true
    cases hu : w.store.findUser v with
    | none => rfl
    | some user =>
      obtain ⟨_, _, _, hid⟩ := Store.Memory.mem_of_findUser hu
      change (user.id == v) = true
      exact beq_iff_eq.2 hid
  | rotate _ hu new expiresAt =>
    obtain rfl := hn _ hu
    rw [World.answer_store hf]
    exact .rotate rfl rfl
  | mark _ hu hx id left =>
    obtain ⟨x, hx, hfound⟩ := hx
    obtain rfl := hn _ hu
    rw [Said.id_of_isTrue (htrue x hx) hfound, World.answer_cache hf]
    exact .mark rfl rfl

/-! ## What stands of the revocation -/

/-- All refresh tokens of the user are revoked. -/
def AllRevoked (u : Int) (m : Store.Memory) : Prop :=
  ∀ v r, (v, r) ∈ m.tokens → r.userId = u → r.isRevoked = true

theorem AllRevoked.rotateToken {m : Store.Memory} (h : AllRevoked u m) (now : Time.Instant)
    (new : String) (expiresAt : Time.Instant) :
    m.rotateToken now u t new expiresAt = (false, m) := by
  rcases Store.Memory.rotateToken_cases m now u t new expiresAt with he | ⟨r, hr, hu, ha, _⟩
  · exact he
  · have hrevoked := h t r (Store.Memory.mem_of_findToken hr) hu
    rw [Store.Memory.isRevoked_of_isActive ha] at hrevoked
    cases hrevoked

theorem allRevoked_revokeAll (m : Store.Memory) (now : Time.Instant) :
    AllRevoked u (m.revokeAll now u).2 := by
  intro v r hm hu
  cases hr : r.isRevoked with
  | true => rfl
  | false => exact absurd hu (Store.Memory.mem_revokeAll hm hr).2

/-- The exchange deletes the marker for the revocation. -/
def IsDeletion (s : Settings) (u : Int) (x : Exchange) : Prop :=
  x.op = 0 ∧ x.said.1 = .cache (.delete (s.accessKey u))

/-- The exchange writes the marker for the refresh. -/
def IsMarking (s : Settings) (u : Int) (id : String) (left : Time.Duration) (x : Exchange) : Prop :=
  x.op = 1 ∧ x.said.1 = .cache (.set (s.accessKey u) id left)

/-- The refresh has written the marker behind the revocation, which had deleted it. -/
def MarkedBehind (s : Settings) (u : Int) (log : List Exchange) (id : String) (ends : Nat) : Prop :=
  ∃ x y left, [x, y].Sublist log ∧ IsMarking s u id left x ∧ IsDeletion s u y ∧
    ends = x.ticks + left.nanos

theorem markedBehind_cons {x : Exchange} {log : List Exchange} {id : String} {ends : Nat} :
    MarkedBehind s u (x :: log) id ends ↔ MarkedBehind s u log id ends ∨
      ∃ left, IsMarking s u id left x ∧ (∃ y ∈ log, IsDeletion s u y) ∧
        ends = x.ticks + left.nanos := by
  constructor
  · rintro ⟨y, z, left, hs, hm, hd, he⟩
    rcases List.sublist_cons_iff.1 hs with hs | ⟨r, hr, hs⟩
    · exact Or.inl ⟨y, z, left, hs, hm, hd, he⟩
    · cases hr
      exact Or.inr ⟨left, hm, ⟨z, List.singleton_sublist.1 hs, hd⟩, he⟩
  · rintro (⟨y, z, left, hs, h⟩ | ⟨left, hm, ⟨z, hz, hd⟩, he⟩)
    · exact ⟨y, z, left, hs.cons x, h⟩
    · exact ⟨x, z, left, (List.singleton_sublist.2 hz).cons_cons x, hm, hd, he⟩

/-- What stands of the revocation: once the tokens have been revoked they all are, and once the
marker has been deleted it is there only if the refresh has written it behind. -/
structure Standing (s : Settings) (u : Int) (w : World) (log : List Exchange) : Prop where
  revoked : (∃ x ∈ log, x.said.1 = .store (.revokeAll u)) → AllRevoked u w.store
  unmarked : (∃ x ∈ log, IsDeletion s u x) → ∀ e, w.cache.find? (s.accessKey u) = some e →
    MarkedBehind s u log e.value e.expiresAt
  marked : ∀ id ends, MarkedBehind s u log id ends →
    w.cache.find? (s.accessKey u) = some ⟨id, ends⟩

variable {log : List Exchange} {i : Nat}

/-- A turn that leaves the marker alone. -/
theorem Standing.aside (h : Standing s u w log) {x : Exchange} (hc : w'.cache = w.cache)
    (hs : (∃ y ∈ x :: log, y.said.1 = .store (.revokeAll u)) → AllRevoked u w'.store)
    (hm : x.said.1.isMark = false) (hd : ¬ IsDeletion s u x) : Standing s u w' (x :: log) := by
  have hnot : ∀ id left, ¬ IsMarking s u id left x := fun id left ⟨_, hx⟩ => by
    rw [hx] at hm
    cases hm
  refine ⟨hs, fun ⟨y, hy, hyd⟩ e he => ?_, fun id ends hb => ?_⟩
  · rcases List.mem_cons.1 hy with rfl | hy
    · exact absurd hyd hd
    · rw [hc] at he
      exact markedBehind_cons.2 (Or.inl (h.unmarked ⟨y, hy, hyd⟩ e he))
  · rw [hc]
    rcases markedBehind_cons.1 hb with hb | ⟨left, hm, _⟩
    · exact h.marked id ends hb
    · exact absurd hm (hnot id left)

/-- Every turn of the two keeps what stands, as long as the marker is deleted once at most, and
written once at most. -/
theorem Standing.step (h : Standing s u w log) {q : Ask} {a : q.Answer} (he : Effect s t u w w' q a)
    (hmark : q.isMark = true → i = 1 ∧ ∀ x ∈ log, x.op = 1 → x.said.1.isMark = false)
    (hdelete : q = .cache (.delete (s.accessKey u)) → i = 0 ∧ ∀ x ∈ log, ¬ IsDeletion s u x) :
    Standing s u w' (⟨i, w.ticks, ⟨q, a⟩⟩ :: log) := by
  have hrest : ∀ {x : Exchange}, x.said.1 ≠ .store (.revokeAll u) →
      (∃ y ∈ x :: log, y.said.1 = .store (.revokeAll u)) →
      ∃ y ∈ log, y.said.1 = .store (.revokeAll u) := by
    rintro x hx ⟨y, hy, hq⟩
    rcases List.mem_cons.1 hy with rfl | hy
    · exact absurd hq hx
    · exact ⟨y, hy, hq⟩
  cases he with
  | lookup hq hs hc _ _ =>
    refine h.aside hc (fun hr => ?_) ?_ fun hd => ?_
    · rw [hs]
      exact h.revoked (hrest (fun he => by cases he; exact hq) hr)
    · cases q with
      | cache => exact hq.elim
      | _ => rfl
    · cases hd.2
      exact hq
  | rotate hs hc =>
    refine h.aside hc (fun hr => ?_) rfl fun hd => nomatch hd.2
    have hall := h.revoked (hrest (fun he => by cases he) hr)
    rw [hall.rotateToken] at hs
    have hstore : w.store = w'.store := congrArg Prod.snd hs
    rw [← hstore]
    exact hall
  | revoke hs hc =>
    refine h.aside hc (fun _ => ?_) rfl fun hd => nomatch hd.2
    rw [hs]
    exact allRevoked_revokeAll _ _
  | delete hs hc =>
    obtain ⟨rfl, hfirst⟩ := hdelete rfl
    have hnone : w'.cache.find? (s.accessKey u) = none := by
      rw [hc]
      exact Cache.Memory.find?_delete _ _ _
    refine ⟨fun hr => ?_, fun _ e he => ?_, fun id ends hb => ?_⟩
    · rw [hs]
      exact h.revoked (hrest (fun he => by cases he) hr)
    · rw [hnone] at he
      cases he
    · rcases markedBehind_cons.1 hb with ⟨_, y, _, hsub, _, hd, _⟩ | ⟨_, hm, _⟩
      · exact absurd hd (hfirst y (hsub.subset (.tail _ (.head _))))
      · cases hm.1
  | @mark id left hs hc =>
    obtain ⟨rfl, hfirst⟩ := hmark rfl
    have hset : w'.cache.find? (s.accessKey u) = some ⟨id, w.ticks + left.nanos⟩ := by
      rw [hc]
      unfold Cache.Memory.set
      rw [Cache.Memory.find?_put, if_pos rfl]
    refine ⟨fun hr => ?_, fun ⟨y, hy, hd⟩ e he => ?_, fun id' ends hb => ?_⟩
    · rw [hs]
      exact h.revoked (hrest (fun he => by cases he) hr)
    · rw [hset] at he
      cases he
      rcases List.mem_cons.1 hy with rfl | hy
      · cases hd.1
      · exact markedBehind_cons.2 (Or.inr ⟨left, ⟨rfl, rfl⟩, ⟨y, hy, hd⟩, rfl⟩)
    · rcases markedBehind_cons.1 hb with ⟨x, _, left', hsub, hm, _⟩ | ⟨left', hm, _, he⟩
      · have hnot := hfirst x (hsub.subset (.head _)) hm.1
        rw [hm.2] at hnot
        cases hnot
      · cases hm.2
        rw [hset, he]

/-! ## The two in a pool -/

/-- A revocation and a refresh that are under way while nothing fails. -/
structure Contended (s : Settings) (t : String) (u : Int) (p : Pool Reply) : Prop where
  faults : p.world.faults = []
  two : p.ops.length = 2
  revoker : Pool.IsTalking (RevokeTalk s u) (RevokeEnds s u) 0 p
  refresher : Pool.IsTalking (RefreshTalk s t) (RefreshEnds t) 1 p
  unfailed : ∀ x ∈ p.saidBy 0, x.failed = false
  truthful : ∀ x ∈ p.saidBy 1, Said.isTrue x = true
  standing : Standing s u p.world p.log

theorem contended_begin (hf : w.faults = []) :
    Contended s t u (begin s w [.revokeAll u, .refresh t]) where
  faults := hf
  two := rfl
  revoker := ⟨_, rfl, revokeCall_talks⟩
  refresher := ⟨_, rfl, refreshCall_talks⟩
  unfailed _ hx := absurd hx List.not_mem_nil
  truthful _ hx := absurd hx List.not_mem_nil
  standing :=
    { revoked := fun ⟨_, hx, _⟩ => absurd hx List.not_mem_nil
      unmarked := fun ⟨_, hx, _⟩ => absurd hx List.not_mem_nil
      marked := fun _ _ ⟨_, _, _, hs, _⟩ => absurd (hs.subset (.head _)) List.not_mem_nil }

/-- Every turn is answered without a failure, and truthfully. -/
theorem Effect.answered {q : Ask} {a : q.Answer} (h : Effect s t u w w' q a) :
    Said.failed ⟨q, a⟩ = false ∧ Said.isTrue ⟨q, a⟩ = true := by
  cases h with
  | lookup _ _ _ hok ht => exact ⟨hok, ht⟩
  | rotate | mark | revoke | delete => exact ⟨rfl, rfl⟩

theorem said_mem_saidBy {x : Exchange} (hx : x ∈ p.log) : x.said ∈ p.saidBy x.op :=
  Pool.mem_saidBy.2 ⟨x.ticks, hx⟩

theorem Contended.step (hn : ∀ v, Names s t v → v = u) (h : Contended s t u p)
    (hs : Pool.Step False p p') : Contended s t u p' := by
  have hrevoker := hs.isTalking h.revoker
  have hrefresher := hs.isTalking h.refresher
  cases hs with
  | pass =>
    exact ⟨h.faults, h.two, hrevoker, hrefresher, h.unfailed, h.truthful, h.standing.revoked,
      h.standing.unmarked, h.standing.marked⟩
  | @ask i q next a w' hi ht =>
    have hlt := (List.getElem?_eq_some_iff.1 hi).1
    rw [h.two] at hlt
    have hfaults := ht.faults h.faults
    have htwo : (p.ops.set i (next a)).length = 2 := by rw [List.length_set, h.two]
    match i with
    | 0 =>
      have htalk := h.revoker.of_ask hi
      have he : Effect s t u p.world w' q a := revoke_effect h.faults htalk ht
      refine ⟨hfaults, htwo, hrevoker, hrefresher, ?_, ?_, h.standing.step he ?_ ?_⟩
      · rw [Pool.saidBy_cons_self]
        exact List.forall_mem_cons.2 ⟨he.answered.1, h.unfailed⟩
      · rw [Pool.saidBy_cons_of_ne Nat.zero_ne_one]
        exact h.truthful
      · exact fun hm => absurd hm (Bool.eq_false_iff.1 htalk.isMark)
      · refine fun _ => ⟨rfl, fun x hx hd => htalk.undeleted x.said ?_ hd.2⟩
        rw [← hd.1]
        exact said_mem_saidBy hx
    | 1 =>
      have htalk := h.refresher.of_ask hi
      have he : Effect s t u p.world w' q a := refresh_effect h.faults hn h.truthful htalk ht
      refine ⟨hfaults, htwo, hrevoker, hrefresher, ?_, ?_, h.standing.step he ?_ ?_⟩
      · rw [Pool.saidBy_cons_of_ne Nat.one_ne_zero]
        exact h.unfailed
      · rw [Pool.saidBy_cons_self]
        exact List.forall_mem_cons.2 ⟨he.answered.2, h.truthful⟩
      · refine fun _ => ⟨rfl, fun x hx hop => ?_⟩
        refine Bool.eq_false_iff.2 fun hm => htalk.1 ⟨x.said, ?_, hm⟩
        rw [← hop]
        exact said_mem_saidBy hx
      · rintro rfl
        cases htalk.2
    | i + 2 => omega

end SignIn.Session
