-- A challenge is consumed once at most, however many calls confirm it at the
-- same time, and in whatever order they and other calls take turns.
import SignIn.Proofs.Session.Asking
import SignIn.Proofs.Cache.Consuming

namespace SignIn.Session

open Operation
open Dialog (Ensures Noting ensures_bind ensures_failIf ensures_orFail)
open Pool (Runs start)
open Text (normalize)
open World (Turn)

variable {s : Settings} {w : World} {calls : List Call} {p : Pool Reply} {identifier code : String}
  {said : List Said} {mayFail : Prop}

/-! ## Calls for an identifier -/

/-- The call sends a code to the identifier. -/
def Call.sends (identifier : String) : Call → Bool
  | .sendCode id => normalize id == normalize identifier
  | _ => false

/-- The call confirms a code of the identifier. -/
def Call.confirms (identifier : String) : Call → Bool
  | .confirmCode id _ => normalize id == normalize identifier
  | _ => false

/-- Where the challenge of the identifier is kept. -/
def challengeKey (s : Settings) (identifier : String) : String := s.codeKey (normalize identifier)

/-- Only calls that send a code to the identifier store its challenge. -/
theorem sends_of_set (hk : s.HasDefaultKeys) {c : Call} {value : String} {lifetime : Time.Duration}
    (h : c.MayAsk s (.cache (.set (challengeKey s identifier) value lifetime))) :
    c.sends identifier = true := by
  rcases h with ⟨id, rfl, hkey⟩ | ⟨u, hkey⟩
  · exact beq_iff_eq.2 (hk.codeKey_injective hkey).symm
  · exact absurd hkey (hk.codeKey_ne_accessKey _ u)

/-- Only calls that confirm a code of the identifier remove its challenge. -/
theorem confirms_of_delete (hk : s.HasDefaultKeys) {c : Call}
    (h : c.MayAsk s (.cache (.delete (challengeKey s identifier)))) :
    c.confirms identifier = true := by
  rcases h with ⟨id, code, rfl, hkey⟩ | ⟨u, _, hkey⟩
  · exact beq_iff_eq.2 (hk.codeKey_injective hkey).symm
  · exact absurd hkey (hk.codeKey_ne_accessKey _ u)

/-- The calls of a kind that have said something of a kind. -/
def whoSaid (calls : List Call) (p : Pool Reply) (isOf : Call → Bool) (f : Said → Bool) :
    List Nat :=
  (List.range calls.length).filter fun i => calls[i]?.any isOf && (p.saidBy i).any f

theorem mem_whoSaid {isOf : Call → Bool} {f : Said → Bool} {i : Nat} :
    i ∈ whoSaid calls p isOf f ↔
      ∃ c, calls[i]? = some c ∧ isOf c = true ∧ ∃ x ∈ p.saidBy i, f x = true := by
  unfold whoSaid
  rw [List.mem_filter, List.mem_range, Bool.and_eq_true_iff, List.any_eq_true, Option.any_eq_true]
  refine ⟨fun ⟨_, ⟨c, hc, hof⟩, hx⟩ => ⟨c, hc, hof, hx⟩, fun ⟨c, hc, hof, hx⟩ => ?_⟩
  exact ⟨(List.getElem?_eq_some_iff.1 hc).1, ⟨c, hc, hof⟩, hx⟩

theorem nodup_whoSaid (isOf : Call → Bool) (f : Said → Bool) : (whoSaid calls p isOf f).Nodup :=
  List.filter_sublist.nodup List.nodup_range

/-- The calls that send a code to the identifier and have stored its challenge. -/
def storers (s : Settings) (identifier : String) (calls : List Call) (p : Pool Reply) : List Nat :=
  whoSaid calls p (Call.sends identifier) (Said.stores (challengeKey s identifier))

/-- The calls that confirm a code of the identifier and have got past its challenge: they have
removed it. -/
def passers (s : Settings) (identifier : String) (calls : List Call) (p : Pool Reply) : List Nat :=
  whoSaid calls p (Call.confirms identifier) (Said.removes (challengeKey s identifier))

/-! ## What a confirmation says -/

/-- The account that has the identifier for its phone has been asked for. -/
def AskedForOwner (identifier : String) (said : List Said) : Prop :=
  ∃ x ∈ said, x.1 = .store (.findByPhone (normalize identifier))

/-- The challenge of the identifier has been removed. -/
def Consumed (s : Settings) (identifier : String) (said : List Said) : Prop :=
  ∃ x ∈ said, x.removes (challengeKey s identifier) = true

/-- What a confirmation asks: for the stored code; then, if it is the right one, that it be removed;
and anything else only once it has removed it. -/
inductive ConfirmAsks (s : Settings) (identifier code : String) : List Said → Ask → Prop
  | get : ConfirmAsks s identifier code [] (.cache (.get (challengeKey s identifier)))
  | delete : ConfirmAsks s identifier code
      [⟨.cache (.get (challengeKey s identifier)), .ok (some (normalize code))⟩]
      (.cache (.delete (challengeKey s identifier)))
  | past {said : List Said} (h : Consumed s identifier said) (q : Ask) :
    ConfirmAsks s identifier code said q

/-- How a confirmation ends: at the challenge, in one of these ways, or past it. -/
inductive ConfirmEnds (s : Settings) (identifier code : String) : List Said → Reply → Prop
  | blank (h : (normalize identifier).isEmpty = true ∨ (normalize code).isEmpty = true)
    (r : AuthError) : ConfirmEnds s identifier code [] (.error r)
  | unread (e : CacheError) (r : AuthError) : ConfirmEnds s identifier code
      [⟨.cache (.get (challengeKey s identifier)), .error e⟩] (.error r)
  | absent : ConfirmEnds s identifier code
      [⟨.cache (.get (challengeKey s identifier)), .ok none⟩] (.error .codeInvalidOrExpired)
  | mismatch {stored : String} (h : stored ≠ normalize code) : ConfirmEnds s identifier code
      [⟨.cache (.get (challengeKey s identifier)), .ok (some stored)⟩] (.error .codeMismatch)
  | unremoved (e : CacheError) (r : AuthError) : ConfirmEnds s identifier code
      [⟨.cache (.delete (challengeKey s identifier)), .error e⟩,
        ⟨.cache (.get (challengeKey s identifier)), .ok (some (normalize code))⟩] (.error r)
  | late : ConfirmEnds s identifier code
      [⟨.cache (.delete (challengeKey s identifier)), .ok false⟩,
        ⟨.cache (.get (challengeKey s identifier)), .ok (some (normalize code))⟩]
      (.error .codeInvalidOrExpired)
  | past {said : List Said} (h : Consumed s identifier said)
    (ho : AskedForOwner identifier said) (r : Reply) : ConfirmEnds s identifier code said r

theorem confirmCode_talks :
    Ensures Noting (ConfirmAsks s identifier code) [] (confirmCode s identifier code)
      (fun _ said => Consumed s identifier said ∧ AskedForOwner identifier said)
      fun e said => ConfirmEnds s identifier code said (.error e) := by
  have hlater : ∀ said q a, Consumed s identifier said ∧ AskedForOwner identifier said →
      Consumed s identifier (⟨q, a⟩ :: said) ∧ AskedForOwner identifier (⟨q, a⟩ :: said) := by
    rintro said q a ⟨⟨x, hx, hr⟩, ⟨y, hy, hq⟩⟩
    exact ⟨⟨x, .tail _ hx, hr⟩, ⟨y, .tail _ hy, hq⟩⟩
  unfold confirmCode
  refine ensures_bind (ensures_failIf (fun hb => .blank ?_ _) fun _ => ?_)
  · exact Bool.or_eq_true_iff.1 hb
  refine ensures_bind (ensures_cacheOr .get (fun found said₁ h₁ => ?_) fun e said₁ h₁ => ?_)
  · subst h₁
    cases found with
    | none => exact ensures_bind (Dialog.ensures_throw .absent)
    | some stored =>
      refine ensures_bind (Dialog.ensures_pure ?_)
      refine ensures_bind (ensures_failIf (fun hne => .mismatch (bne_iff_ne.1 hne)) fun heq => ?_)
      obtain rfl : stored = normalize code := by simpa using heq
      refine ensures_bind (ensures_cacheOr .delete (fun removed said₂ h₂ => ?_)
        fun e said₂ h₂ => ?_)
      · subst h₂
        cases removed with
        | false => exact ensures_bind (Dialog.ensures_throw .late)
        | true =>
          have hconsumed : Consumed s identifier
              [⟨.cache (.delete (challengeKey s identifier)), .ok true⟩,
                ⟨.cache (.get (challengeKey s identifier)), .ok (some (normalize code))⟩] :=
            ⟨_, .head _, by simp [Said.removes]⟩
          refine ensures_bind (Dialog.ensures_pure ?_)
          refine ensures_bind (ensures_storeOr (.past hconsumed _) (fun owner said₃ h₃ => ?_)
            fun e said₃ h₃ => ?_)
          · obtain ⟨x, hx, hr⟩ := hconsumed
            refine Dialog.ensures_of_kept hlater (fun _ q h => .past h.1 q) (fun _ _ h => h)
              (fun _ _ h => .past h.1 h.2 _) ?_ _
            rw [h₃]
            exact ⟨⟨x, .tail _ hx, hr⟩, ⟨_, .head _, rfl⟩⟩
          · rw [h₃]
            obtain ⟨x, hx, hr⟩ := hconsumed
            exact .past ⟨x, .tail _ hx, hr⟩ ⟨_, .head _, rfl⟩ _
      · rw [h₂]
        exact .unremoved e _
  · rw [h₁]
    exact .unread e _

/-- Whatever is answered, a confirmation asks what it may and ends as it may. -/
theorem confirmCall_talks :
    Ensures Noting (ConfirmAsks s identifier code) []
      (Call.operation s (.confirmCode identifier code))
      (fun a said => ConfirmEnds s identifier code said (.ok a))
      fun e said => ConfirmEnds s identifier code said (.error e) :=
  ensures_bind (confirmCode_talks.imp (fun _ _ h => Dialog.ensures_pure (.past h.1 h.2 _))
    fun _ _ h => h)

theorem getElem?_programs {i : Nat} {c : Call} (hi : calls[i]? = some c) :
    (calls.map (Call.program s))[i]? = some (c.operation s).run := by
  rw [List.getElem?_map, hi]
  rfl

theorem isTalking_confirm (hr : Runs mayFail (begin s w calls) p) {i : Nat}
    (hi : calls[i]? = some (.confirmCode identifier code)) :
    Pool.IsTalking (ConfirmAsks s identifier code) (ConfirmEnds s identifier code) i p :=
  hr.isTalking_of_ensures (getElem?_programs hi) confirmCall_talks

/-! ## At most once -/

variable {i : Nat} {c : Call} {x : Said}

theorem call_of_log (hr : Runs mayFail (begin s w calls) p) {y : Exchange} (hy : y ∈ p.log) :
    (∃ c, calls[y.op]? = some c) ∧ y.said ∈ p.saidBy y.op := by
  have hlt := hr.op_lt hy
  rw [List.length_map] at hlt
  exact ⟨⟨_, List.getElem?_eq_getElem hlt⟩, Pool.mem_saidBy.2 ⟨y.ticks, hy⟩⟩

/-- Whatever a call has said, it was allowed to ask. -/
theorem mayAsk_of_said (hr : Runs mayFail (begin s w calls) p) (hi : calls[i]? = some c)
    (hx : x ∈ p.saidBy i) : c.MayAsk s x.1 := by
  refine hr.saidBy_keeps_of_ensures (J := fun said => ∀ x ∈ said, c.MayAsk s x.1)
    (getElem?_programs hi) c.operation_speaks (fun said q a hJ hq x hx => ?_)
    (fun x hx => nomatch hx) x hx
  rcases List.mem_cons.1 hx with rfl | hx
  · exact hq.2
  · exact hJ x hx

/-- No call stores more than one entry in the cache. -/
theorem countP_isMark_le_one (hr : Runs mayFail (begin s w calls) p) (i : Nat) :
    (p.saidBy i).countP (fun x => x.1.isMark) ≤ 1 := by
  by_cases hi : ∃ c, calls[i]? = some c
  · obtain ⟨c, hi⟩ := hi
    refine hr.saidBy_keeps_of_ensures (J := fun said => said.countP (fun x => x.1.isMark) ≤ 1)
      (getElem?_programs hi) c.operation_speaks (fun said q a hJ hq => ?_) (Nat.zero_le 1)
    rw [List.countP_cons]
    by_cases hm : q.isMark = true
    · have hnone : said.countP (fun x => x.1.isMark) = 0 :=
        List.countP_eq_zero.2 fun x hx hxm => hq.1 hm ⟨x, hx, hxm⟩
      exact Nat.le_of_eq (by rw [if_pos hm, hnone])
    · rw [if_neg hm]
      exact hJ
  · have hnil : p.saidBy i = [] := by
      refine List.eq_nil_iff_forall_not_mem.2 fun x hx => ?_
      obtain ⟨n, hn⟩ := Pool.mem_saidBy.1 hx
      exact hi (call_of_log hr hn).1
    rw [hnil]
    exact Nat.zero_le 1

/-- Whatever fails, no more calls get past the challenge than have stored one, or one more where one
was there at the start. -/
theorem passers_length_le (hk : s.HasDefaultKeys) (hr : Runs mayFail (begin s w calls) p)
    (identifier : String) : (passers s identifier calls p).length ≤
      w.cache.count (challengeKey s identifier) + (storers s identifier calls p).length := by
  have hpassers : (passers s identifier calls p).length ≤
      p.log.countP (·.said.removes (challengeKey s identifier)) := by
    refine Pool.length_le_countP (nodup_whoSaid _ _) fun i hi => ?_
    obtain ⟨_, _, _, hx⟩ := mem_whoSaid.1 hi
    exact hx
  have hstorers : p.log.countP (·.said.stores (challengeKey s identifier)) ≤
      (storers s identifier calls p).length := by
    refine Pool.countP_le_length (fun i => ?_) fun y hy hstores => ?_
    · refine Nat.le_trans (List.countP_mono_left fun x _ hx => ?_) (countP_isMark_le_one hr i)
      obtain ⟨value, lifetime, rfl⟩ := Said.stores_eq_true hx
      rfl
    · obtain ⟨⟨c, hc⟩, hsaid⟩ := call_of_log hr hy
      have hm := mayAsk_of_said hr hc hsaid
      obtain ⟨value, lifetime, he⟩ := Said.stores_eq_true hstores
      rw [he] at hm
      exact mem_whoSaid.2 ⟨c, hc, sends_of_set hk hm, y.said, hsaid, hstores⟩
  have hle := hr.removals_le (challengeKey s identifier)
  omega

theorem Call.eq_of_confirms (h : c.confirms identifier = true) :
    ∃ id code, c = .confirmCode id code ∧ normalize id = normalize identifier := by
  cases c with
  | confirmCode id code => exact ⟨id, code, rfl, beq_iff_eq.1 h⟩
  | register | login | refresh | logout | sendCode | revokeAll | deleteAccount | purge | profile
  | emailExists | isAlive => cases h

theorem challengeKey_congr {id : String} (h : normalize id = normalize identifier) :
    challengeKey s id = challengeKey s identifier := congrArg s.codeKey h

/-- Only who has consumed the challenge asks for the owner. -/
theorem consumed_of_askedForOwner (hr : Runs mayFail (begin s w calls) p)
    (hi : calls[i]? = some (.confirmCode identifier code))
    (h : AskedForOwner identifier (p.saidBy i)) : Consumed s identifier (p.saidBy i) := by
  refine hr.saidBy_keeps_of_ensures
    (J := fun said => AskedForOwner identifier said → Consumed s identifier said)
    (getElem?_programs hi) confirmCall_talks (fun said q a hJ hasks howner => ?_)
    (fun ⟨y, hy, _⟩ => nomatch hy) h
  have hsaid : Consumed s identifier said := by
    obtain ⟨y, hy, hq⟩ := howner
    rcases List.mem_cons.1 hy with rfl | hy
    · dsimp only at hq
      subst hq
      cases hasks with
      | past h => exact h
    · exact hJ ⟨y, hy, hq⟩
  obtain ⟨z, hz, hremoves⟩ := hsaid
  exact ⟨z, .tail _ hz, hremoves⟩

/-- Who has returned a confirmation, or has gone on to sign in the owner, has got past the
challenge. -/
theorem mem_passers (hr : Runs mayFail (begin s w calls) p) (hi : calls[i]? = some c)
    (hc : c.confirms identifier = true)
    (h : (∃ a, p.ops[i]? = some (.done (.ok a))) ∨ AskedForOwner identifier (p.saidBy i)) :
    i ∈ passers s identifier calls p := by
  obtain ⟨id, code, rfl, hid⟩ := Call.eq_of_confirms hc
  have hconsumed : Consumed s id (p.saidBy i) := by
    rcases h with ⟨a, hd⟩ | ⟨y, hy, hq⟩
    · have hends := (isTalking_confirm hr hi).of_done hd
      generalize p.saidBy i = said at hends
      cases hends with
      | past h _ => exact h
    · exact consumed_of_askedForOwner hr hi ⟨y, hy, by rw [hid]; exact hq⟩
  unfold Consumed at hconsumed
  rw [challengeKey_congr hid] at hconsumed
  exact mem_whoSaid.2 ⟨_, hi, hc, hconsumed⟩

/-! ## Exactly once -/

/-- The call confirms this code of the identifier. -/
def Call.confirmsWith (identifier value : String) : Call → Bool
  | .confirmCode id code => normalize id == normalize identifier && normalize code == value
  | _ => false

/-- One challenge has been there, and no other one. Nothing has failed, and as long as nobody has
removed the challenge, it is there and has been found by everybody. -/
structure Undisturbed (key : String) (e : Cache.Entry) (p : Pool Reply) : Prop where
  faults : p.world.faults = []
  answered : ∀ y ∈ p.log, ∀ q f, y.said ≠ ⟨.cache q, .error f⟩
  entry : ∀ f, p.world.cache.find? key = some f → f = e
  found : ∀ y ∈ p.log, ∀ value, y.said = ⟨.cache (.get key), .ok (some value)⟩ → value = e.value
  untouched : p.log.countP (·.said.removes key) = 0 → p.world.cache.find? key = some e ∧
    ∀ y ∈ p.log, y.said ≠ ⟨.cache (.get key), .ok none⟩ ∧ y.said.1 ≠ .cache (.delete key)

variable {key : String} {e : Cache.Entry} {p' : Pool Reply}

/-- Where nothing fails, a deletion removes an entry that is live. -/
theorem removes_of_delete {w w' : World} {a : (Ask.cache (.delete key)).Answer}
    (ht : Turn False w (.cache (.delete key)) a w') (hf : w.faults = [])
    (hlive : (w.cache.live w.ticks key).1 = some e) :
    Said.removes key ⟨.cache (.delete key), a⟩ = true := by
  rcases ht.cache_cases with ⟨⟨f, rfl⟩, _, hm | hm⟩ | ⟨b, rfl, hb, _⟩
  · exact hm.elim
  · exact absurd hf hm
  · have hdone : (w.cache.live w.ticks key).1.isSome = b := congrArg Prod.fst hb
    rw [hlive] at hdone
    subst hdone
    simp [Said.removes]

theorem Undisturbed.ask (h : Undisturbed key e p) (hover : p.world.ticks < e.expiresAt)
    {q : Ask} {a : q.Answer} {w' : World} (ht : Turn False p.world q a w')
    (hset : ∀ value lifetime, q ≠ .cache (.set key value lifetime)) (i : Nat)
    (ops : List (Program Reply)) :
    Undisturbed key e ⟨w', ops, ⟨i, p.world.ticks, ⟨q, a⟩⟩ :: p.log⟩ := by
  have hget : ∀ value, (⟨q, a⟩ : Said) = ⟨.cache (.get key), .ok value⟩ →
      value = (p.world.cache.live p.world.ticks key).1.map Cache.Entry.value := by
    intro value hx
    cases hx
    exact (congrArg Prod.fst ht.cache_ok.1).symm
  refine ⟨ht.faults h.faults, fun y hy r f hx => ?_,
    fun f hf => h.entry f (ht.find?_of_find? hset hf), fun y hy value hx => ?_, fun hnone => ?_⟩
  · rcases List.mem_cons.1 hy with rfl | hy
    · cases hx
      rcases ht.cache_error.2 with hm | hm
      · exact hm
      · exact hm h.faults
    · exact h.answered y hy r f hx
  · rcases List.mem_cons.1 hy with rfl | hy
    · obtain ⟨f, hf, rfl⟩ := Option.map_eq_some_iff.1 (hget _ hx).symm
      rw [h.entry f (Cache.Memory.find?_of_live hf).1]
    · exact h.found y hy value hx
  · rw [List.countP_cons] at hnone
    obtain ⟨hentry, huntouched⟩ := h.untouched (by omega)
    have hlive := Cache.Memory.live_of_find? hentry hover
    have hdelete : q ≠ .cache (.delete key) := by
      rintro rfl
      rw [if_pos (removes_of_delete ht h.faults (congrArg Prod.fst hlive))] at hnone
      omega
    refine ⟨ht.find?_of_live hset hdelete hover hentry, fun y hy => ?_⟩
    rcases List.mem_cons.1 hy with rfl | hy
    · refine ⟨fun hx => ?_, hdelete⟩
      have hvalue := hget _ hx
      rw [hlive] at hvalue
      cases hvalue
    · exact huntouched y hy

/-- While no call fails and the challenge is not over, it stays undisturbed where nobody stores
another one. -/
theorem Runs.undisturbed (hk : s.HasDefaultKeys) (hf : w.faults = [])
    (hr : Runs False (begin s w calls) p)
    (he : w.cache.find? (challengeKey s identifier) = some e)
    (hsends : ∀ c ∈ calls, c.sends identifier = false) (hover : p.world.ticks < e.expiresAt) :
    Undisturbed (challengeKey s identifier) e p := by
  induction hr with
  | refl =>
    refine ⟨hf, (fun y hy => nomatch hy), fun f hfound => ?_, (fun y hy => nomatch hy),
      fun _ => ⟨he, fun y hy => nomatch hy⟩⟩
    exact Option.some.inj (hfound.symm.trans he)
  | @step p₁ p₂ h hs ih =>
    cases hs with
    | pass wallNanos tickNanos =>
      have h₁ := ih (Nat.lt_of_le_of_lt (Nat.le_add_right _ tickNanos) hover)
      exact ⟨h₁.faults, h₁.answered, h₁.entry, h₁.found, h₁.untouched⟩
    | @ask i q next a w' hi ht =>
      have hticks : w'.ticks = p₁.world.ticks := ht.clocks.2
      refine (ih (hticks ▸ hover)).ask (hticks ▸ hover) ht (fun value lifetime hq => ?_) i _
      subst hq
      have hlt := (List.getElem?_eq_some_iff.1 hi).1
      have hrun := h.step (.ask hi ht)
      obtain ⟨⟨c, hc⟩, hsaid⟩ := call_of_log hrun (List.mem_cons_self)
      have hsends' := sends_of_set hk (mayAsk_of_said hrun hc hsaid)
      rw [hsends c (List.mem_of_getElem? hc)] at hsends'
      cases hsends'

theorem Call.eq_of_confirmsWith {value : String} (h : c.confirmsWith identifier value = true) :
    ∃ id code, c = .confirmCode id code ∧ normalize id = normalize identifier ∧
      normalize code = value := by
  cases c with
  | confirmCode id code =>
    obtain ⟨hid, hcode⟩ : normalize id = normalize identifier ∧ normalize code = value := by
      simpa [Call.confirmsWith] using h
    exact ⟨id, code, rfl, hid, hcode⟩
  | register | login | refresh | logout | sendCode | revokeAll | deleteAccount | purge | profile
  | emailExists | isAlive => cases h

theorem Call.confirms_of_confirmsWith {value : String}
    (h : c.confirmsWith identifier value = true) : c.confirms identifier = true := by
  obtain ⟨id, code, rfl, hid, _⟩ := Call.eq_of_confirmsWith h
  exact beq_iff_eq.2 hid

/-- Who confirms the right code and is over has got past the challenge, or has been refused after
finding that it is not there any more. -/
theorem done_of_confirmsWith (hr : Runs mayFail (begin s w calls) p)
    (hu : Undisturbed (challengeKey s identifier) e p)
    (hid : (normalize identifier).isEmpty = false) (hvalue : e.value.isEmpty = false)
    (hi : calls[i]? = some c) (hc : c.confirmsWith identifier e.value = true) {r : Reply}
    (hd : p.ops[i]? = some (.done r)) :
    (Consumed s identifier (p.saidBy i) ∧ AskedForOwner identifier (p.saidBy i)) ∨
      r = .error .codeInvalidOrExpired ∧ ¬ Consumed s identifier (p.saidBy i) ∧
        ∃ x ∈ p.saidBy i, x = ⟨.cache (.get (challengeKey s identifier)), .ok none⟩ ∨
          x.1 = .cache (.delete (challengeKey s identifier)) := by
  obtain ⟨id, code, rfl, hnorm, hcode⟩ := Call.eq_of_confirmsWith hc
  have hends := (isTalking_confirm hr hi).of_done hd
  have hanswered : ∀ x ∈ p.saidBy i, ∀ q f, x ≠ ⟨.cache q, .error f⟩ := fun x hx q f => by
    obtain ⟨n, hn⟩ := Pool.mem_saidBy.1 hx
    exact hu.answered _ hn q f
  have hfound : ∀ value, ⟨.cache (.get (challengeKey s identifier)), .ok (some value)⟩ ∈
      p.saidBy i → value = e.value := fun value hx => by
    obtain ⟨n, hn⟩ := Pool.mem_saidBy.1 hx
    exact hu.found _ hn value rfl
  unfold Consumed AskedForOwner
  rw [← challengeKey_congr hnorm] at hfound ⊢
  rw [← hnorm] at hid ⊢
  generalize p.saidBy i = said at *
  cases hends with
  | blank h r =>
    rw [hid, hcode, hvalue] at h
    rcases h with h | h <;> cases h
  | unread f r => exact absurd rfl (hanswered _ (.head _) _ f)
  | absent => exact Or.inr ⟨rfl, by simp [Said.removes], _, .head _, Or.inl rfl⟩
  | mismatch h => exact absurd ((hfound _ (.head _)).trans hcode.symm) h
  | unremoved f r => exact absurd rfl (hanswered _ (.head _) _ f)
  | late => exact Or.inr ⟨rfl, by simp [Said.removes], _, .head _, Or.inr rfl⟩
  | past h ho r => exact Or.inl ⟨h, ho⟩

/-- Only who has found the right code removes the challenge. -/
theorem confirmsWith_of_removes (hk : s.HasDefaultKeys) (hr : Runs mayFail (begin s w calls) p)
    (hu : Undisturbed (challengeKey s identifier) e p) {y : Exchange} (hy : y ∈ p.log)
    (hremoves : y.said.removes (challengeKey s identifier) = true) :
    ∃ c, calls[y.op]? = some c ∧ c.confirmsWith identifier e.value = true := by
  obtain ⟨⟨c, hc⟩, hsaid⟩ := call_of_log hr hy
  have hm := mayAsk_of_said hr hc hsaid
  rw [Said.removes_eq_true hremoves] at hm
  obtain ⟨id, code, rfl, hid⟩ := Call.eq_of_confirms (confirms_of_delete hk hm)
  have hget : (∃ x ∈ p.saidBy y.op, x.1 = .cache (.delete (challengeKey s id))) →
      ⟨.cache (.get (challengeKey s id)), .ok (some (normalize code))⟩ ∈ p.saidBy y.op := by
    refine hr.saidBy_keeps_of_ensures (J := fun said => (∃ x ∈ said,
      x.1 = .cache (.delete (challengeKey s id))) →
        ⟨.cache (.get (challengeKey s id)), .ok (some (normalize code))⟩ ∈ said)
      (getElem?_programs hc) confirmCall_talks (fun said q a hJ hasks hdelete => ?_)
      fun ⟨x, hx, _⟩ => nomatch hx
    cases hasks with
    | get =>
      obtain ⟨x, hx, hq⟩ := hdelete
      rcases List.mem_cons.1 hx with rfl | hx
      · cases hq
      · cases hx
    | delete => exact .tail _ (.head _)
    | past h _ =>
      obtain ⟨x, hx, hremoved⟩ := h
      exact .tail _ (hJ ⟨x, hx, by rw [Said.removes_eq_true hremoved]⟩)
  rw [challengeKey_congr hid] at hget
  have hvalue := hget ⟨_, hsaid, by rw [Said.removes_eq_true hremoves]⟩
  obtain ⟨n, hn⟩ := Pool.mem_saidBy.1 hvalue
  have hcode : normalize code = e.value := hu.found _ hn _ rfl
  exact ⟨_, hc, by simp [Call.confirmsWith, hid, hcode]⟩

/-- The challenge does not outlast a call that confirms its code and is over. -/
theorem exists_removes_of_done (hr : Runs mayFail (begin s w calls) p)
    (hu : Undisturbed (challengeKey s identifier) e p)
    (hid : (normalize identifier).isEmpty = false) (hvalue : e.value.isEmpty = false)
    (hi : calls[i]? = some c) (hc : c.confirmsWith identifier e.value = true) {r : Reply}
    (hd : p.ops[i]? = some (.done r)) :
    ∃ y ∈ p.log, y.said.removes (challengeKey s identifier) = true := by
  refine List.countP_pos_iff.1 (Nat.pos_of_ne_zero fun hnone => ?_)
  rcases done_of_confirmsWith hr hu hid hvalue hi hc hd with
    ⟨⟨x, hx, hrem⟩, _⟩ | ⟨_, _, x, hx, hq⟩
  · obtain ⟨n, hn⟩ := Pool.mem_saidBy.1 hx
    exact List.countP_eq_zero.1 hnone _ hn hrem
  · obtain ⟨n, hn⟩ := Pool.mem_saidBy.1 hx
    obtain ⟨hget, hdelete⟩ := (hu.untouched hnone).2 _ hn
    rcases hq with hq | hq
    · exact hget hq
    · exact hdelete hq

theorem storers_eq_nil (hsends : ∀ c ∈ calls, c.sends identifier = false) :
    storers s identifier calls p = [] := by
  refine List.eq_nil_iff_forall_not_mem.2 fun i hi => ?_
  obtain ⟨c, hc, hsent, _⟩ := mem_whoSaid.1 hi
  rw [hsends c (List.mem_of_getElem? hc)] at hsent
  cases hsent

/-- Where nobody stores a challenge, whoever gets past it is alone. -/
theorem passers_eq_singleton (hk : s.HasDefaultKeys) (hr : Runs mayFail (begin s w calls) p)
    (hsends : ∀ c ∈ calls, c.sends identifier = false)
    (hi : i ∈ passers s identifier calls p) : passers s identifier calls p = [i] := by
  have hle := passers_length_le hk hr identifier
  have hcount := w.cache.count_le_one (challengeKey s identifier)
  rw [storers_eq_nil hsends] at hle
  generalize passers s identifier calls p = is at hle hi
  match is, hle, hi with
  | [j], _, h => rw [List.mem_singleton.1 h]
  | j :: k :: is, hle, _ =>
    simp only [List.length_cons, List.length_nil] at hle
    omega

/-! ## Both -/

/-- However calls take turns, and whatever fails, no more calls get past the challenge of an
identifier than calls have stored one, beside the one that may have been there at the start. If
nothing fails, nobody stores another one, the challenge is not over, and the calls that confirm its
code are, then exactly one of these has got past it, and the others have been refused. -/
theorem challenge_consumed_at_most_once (hk : s.HasDefaultKeys)
    (hr : Runs True (begin s w calls) p) (identifier : String) :
    ((passers s identifier calls p).length ≤
        w.cache.count (challengeKey s identifier) + (storers s identifier calls p).length ∧
      ∀ (i : Nat) (c : Call), calls[i]? = some c → c.confirms identifier = true →
        (∃ a, p.ops[i]? = some (.done (.ok a))) ∨ AskedForOwner identifier (p.saidBy i) →
        i ∈ passers s identifier calls p) ∧
    ∀ e : Cache.Entry, w.faults = [] → Runs False (begin s w calls) p →
      w.cache.find? (challengeKey s identifier) = some e → p.world.ticks < e.expiresAt →
      (∀ c ∈ calls, c.sends identifier = false) → (normalize identifier).isEmpty = false →
      e.value.isEmpty = false → (∃ c ∈ calls, c.confirmsWith identifier e.value = true) →
      (∀ (i : Nat) (c : Call), calls[i]? = some c → c.confirmsWith identifier e.value = true →
        ∃ r, p.ops[i]? = some (.done r)) →
      ∃ j c, calls[j]? = some c ∧ c.confirmsWith identifier e.value = true ∧
        passers s identifier calls p = [j] ∧ AskedForOwner identifier (p.saidBy j) ∧
        ∀ (i : Nat) (c : Call), calls[i]? = some c → c.confirmsWith identifier e.value = true →
          i ≠ j → p.ops[i]? = some (.done (.error .codeInvalidOrExpired)) := by
  refine ⟨⟨passers_length_le hk hr identifier, fun i c hi hc h => mem_passers hr hi hc h⟩, ?_⟩
  intro e hf hrun he hover hsends hid hvalue hsome hdone
  have hu := Runs.undisturbed hk hf hrun he hsends hover
  obtain ⟨c₀, hmem, hc₀⟩ := hsome
  obtain ⟨i₀, hi₀⟩ := List.getElem?_of_mem hmem
  obtain ⟨r₀, hd₀⟩ := hdone i₀ c₀ hi₀ hc₀
  obtain ⟨y, hy, hremoves⟩ := exists_removes_of_done hr hu hid hvalue hi₀ hc₀ hd₀
  obtain ⟨c, hc, hright⟩ := confirmsWith_of_removes hk hr hu hy hremoves
  have hpasser : y.op ∈ passers s identifier calls p :=
    mem_whoSaid.2 ⟨c, hc, Call.confirms_of_confirmsWith hright, y.said, (call_of_log hr hy).2,
      hremoves⟩
  have hone := passers_eq_singleton hk hr hsends hpasser
  refine ⟨y.op, c, hc, hright, hone, ?_, fun i c hi hc hne => ?_⟩
  · obtain ⟨r, hd⟩ := hdone y.op c hc hright
    rcases done_of_confirmsWith hr hu hid hvalue hc hright hd with ⟨_, howner⟩ | ⟨_, hnot, _⟩
    · exact howner
    · exact absurd ⟨y.said, (call_of_log hr hy).2, hremoves⟩ hnot
  · obtain ⟨r, hd⟩ := hdone i c hi hc
    rcases done_of_confirmsWith hr hu hid hvalue hi hc hd with ⟨⟨x, hx, hrem⟩, _⟩ | ⟨rfl, _⟩
    · have hm : i ∈ passers s identifier calls p :=
        mem_whoSaid.2 ⟨c, hi, Call.confirms_of_confirmsWith hc, x, hx, hrem⟩
      rw [hone] at hm
      exact absurd (List.mem_singleton.1 hm) hne
    · exact hd

/-- The small world with a challenge in it. -/
def sampleChallenge : World :=
  { sampleWorld with
    cache := sampleWorld.cache.set 0 (sampleSettings.codeKey "1") "0000" Settings.codeLifetime }

def sampleConfirmation : Call := .confirmCode "1" "0000"

/-- Two confirmations of it that have both found the code before either of them removes it. -/
def sampleConfirmations : Pool Reply :=
  (((((begin sampleSettings sampleChallenge [sampleConfirmation, sampleConfirmation]).turn 0).turn
    1).turn 0).turn 1).turn 0

theorem sampleConfirmations_runs {mayFail : Prop} : Runs mayFail
    (begin sampleSettings sampleChallenge [sampleConfirmation, sampleConfirmation])
    sampleConfirmations :=
  ((((Pool.runs_turn _ 0).trans (Pool.runs_turn _ 1)).trans (Pool.runs_turn _ 0)).trans
    (Pool.runs_turn _ 1)).trans (Pool.runs_turn _ 0)

/-- Of two confirmations that meet the first one gets past the challenge, and the other one is
refused. -/
theorem sampleConfirmations_consume_once :
    (passers sampleSettings "1" [sampleConfirmation, sampleConfirmation]
        sampleConfirmations).length ≤
      1 + (storers sampleSettings "1" [sampleConfirmation, sampleConfirmation]
        sampleConfirmations).length ∧
    ∃ j c, [sampleConfirmation, sampleConfirmation][j]? = some c ∧
      c.confirmsWith "1" "0000" = true ∧
      passers sampleSettings "1" [sampleConfirmation, sampleConfirmation] sampleConfirmations =
        [j] ∧ AskedForOwner "1" (sampleConfirmations.saidBy j) ∧
      ∀ (i : Nat) (c : Call), [sampleConfirmation, sampleConfirmation][i]? = some c →
        c.confirmsWith "1" "0000" = true → i ≠ j →
        sampleConfirmations.ops[i]? = some (.done (.error .codeInvalidOrExpired)) := by
  have hright : sampleConfirmation.confirmsWith "1" "0000" = true := by decide +kernel
  have hfound : sampleChallenge.cache.find? (challengeKey sampleSettings "1") =
      some ⟨"0000", 300000000000⟩ := by decide +kernel
  have h := challenge_consumed_at_most_once sampleSettings_hasDefaultKeys
    sampleConfirmations_runs "1"
  have hcount : sampleChallenge.cache.count (challengeKey sampleSettings "1") = 1 := by
    unfold Cache.Memory.count
    rw [hfound]
    rfl
  have hle := h.1.1
  rw [hcount] at hle
  have hover : sampleConfirmations.world.ticks < 300000000000 := by decide +kernel
  have hsends : ∀ c ∈ [sampleConfirmation, sampleConfirmation], c.sends "1" = false := by
    intro c hc
    rcases List.mem_cons.1 hc with rfl | hc
    · rfl
    · rw [List.mem_singleton.1 hc]
      rfl
  have hdone : ∀ (i : Nat) (c : Call), [sampleConfirmation, sampleConfirmation][i]? = some c →
      c.confirmsWith "1" "0000" = true →
      ∃ r, sampleConfirmations.ops[i]? = some (.done r) := by
    intro i c hi _
    have hops : sampleConfirmations.ops.all Dialog.isDone = true := by decide +kernel
    have hlength : sampleConfirmations.ops.length = 2 := by decide +kernel
    have hlt : i < sampleConfirmations.ops.length := by
      rw [hlength]
      exact (List.getElem?_eq_some_iff.1 hi).1
    have hi := List.all_eq_true.1 hops _ (List.getElem_mem hlt)
    obtain ⟨r, hr⟩ := Dialog.eq_done_of_isDone hi
    exact ⟨r, by rw [List.getElem?_eq_getElem hlt, hr]⟩
  exact ⟨hle, h.2 ⟨"0000", 300000000000⟩ rfl sampleConfirmations_runs hfound hover hsends
    (by decide +kernel) (by decide) ⟨_, .head _, hright⟩ hdone⟩

end SignIn.Session
