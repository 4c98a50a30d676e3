-- What calls may ask. Accounts are created by registrations and deleted by
-- deletions only; an entry of the cache is stored and removed only by the calls
-- whose entry it is. A call that mints a pair writes the marker last.
import SignIn.Proofs.Session.Refreshing
import SignIn.Proofs.Session.Runs

namespace SignIn.Session

open Operation
open Dialog (Ensures Along Told Noting ensures_pure ensures_bind ensures_failIf)
open Text (normalize)

variable {s : Settings} {c : Call} {said₀ said : List Said}

/-! ## What may be asked -/

/-- The call is made to end the sessions of the user. -/
def Call.Ends (u : Int) : Call → Prop
  | .logout v _ | .revokeAll v | .deleteAccount v => v = u
  | _ => False

/-- The questions a call may ask, as far as they create or delete accounts, or store or remove
entries of the cache. -/
def Call.MayAsk (s : Settings) (c : Call) : Ask → Prop
  | .store (.createUser u) =>
    u.email.isEmpty = false ∧ ∃ r, c = .register r ∧ u.email = normalize r.email
  | .store (.softDelete u) => c = .deleteAccount u
  | .cache (.set key _ _) =>
    (∃ identifier, c = .sendCode identifier ∧ key = s.codeKey (normalize identifier)) ∨
      ∃ u, key = s.accessKey u
  | .cache (.delete key) =>
    (∃ identifier code, c = .confirmCode identifier code ∧
      key = s.codeKey (normalize identifier)) ∨ ∃ u, c.Ends u ∧ key = s.accessKey u
  | _ => True

/-- The questions a call may ask after what has been said: of the cache it stores one entry. -/
def Call.Asks (s : Settings) (c : Call) (said : List Said) (q : Ask) : Prop :=
  (q.isMark = true → ¬ AskedToMark said) ∧ c.MayAsk s q

theorem Call.asks_of_not_isMark {q : Ask} (hq : q.isMark = false) (h : c.MayAsk s q) :
    c.Asks s said q := by
  refine ⟨fun hm => ?_, h⟩
  rw [hq] at hm
  cases hm

/-! ## How calls may end -/

/-- An entry of the key has been stored. -/
def Stored (key : String) (said : List Said) : Prop :=
  ∃ value lifetime, ⟨.cache (.set key value lifetime), .ok ()⟩ ∈ said

/-- It has been said last that the marker of a user names the access token of the pair, which was
issued when the clock told the time. -/
def MarkedLast (s : Settings) (pair : TokenPair) (said : List Said) : Prop :=
  ∃ u email permissions now expiresAt id rest,
    said = ⟨.cache (.set (s.accessKey u) id s.accessLifetime), .ok ()⟩ :: rest ∧
    ¬ AskedToMark rest ∧ ⟨.clock, now⟩ ∈ rest ∧ Token.expiry s .access now = .ok expiresAt ∧
    pair.access = (Token.issueUntil s .access u email permissions now expiresAt id).token

/-- How a call may end: with the marker of the pair that it mints, or without an entry stored but
the challenge that it is made to store. -/
def Call.EndsWith (s : Settings) (c : Call) (said : List Said) (r : Reply) : Prop :=
  match mintedBy r with
  | some pair => MarkedLast s pair said
  | none => ∀ key, Stored key said →
    ∃ identifier, c = .sendCode identifier ∧ key = s.codeKey (normalize identifier)

/-- Something has been said since, but no entry was to be stored. -/
structure Plain (said₀ said : List Said) : Prop where
  since : said₀ <:+ said
  unmarked : ¬ AskedToMark said

theorem Plain.next (h : Plain said₀ said) {q : Ask} {a : q.Answer} {said' : List Said}
    (hs : Noting said q a said') (hq : q.isMark = false) : Plain said₀ said' := by
  refine ⟨?_, unmarked_next h.unmarked hs hq⟩
  rw [hs]
  exact h.since.trans (List.suffix_cons _ _)

theorem Plain.start (h : ¬ AskedToMark said) : Plain said said := ⟨List.suffix_rfl, h⟩

theorem Plain.trans {said' : List Said} (h : Plain said₀ said) (h' : Plain said said') :
    Plain said₀ said' := ⟨h.since.trans h'.since, h'.unmarked⟩

theorem Plain.not_stored (h : Plain said₀ said) (key : String) : ¬ Stored key said :=
  fun ⟨_, _, hm⟩ => h.unmarked ⟨_, hm, rfl⟩

/-- Whatever is answered, a part of a call asks what the call may ask, and if it fails, no entry has
been stored. -/
abbrev SaysOr {α : Type} (s : Settings) (c : Call) (said : List Said) (op : Operation α)
    (post : α → List Said → Prop) : Prop :=
  Ensures Noting (c.Asks s) said op post fun _ said' => ∀ key, ¬ Stored key said'

theorem says_ask {q : Ask} {post : q.Answer → List Said → Prop} (h : Plain said₀ said)
    (hq : q.isMark = false) (hm : c.MayAsk s q)
    (hp : ∀ a said', said' = ⟨q, a⟩ :: said → Plain said₀ said' → post a said') :
    SaysOr s c said (ask q) post :=
  ensures_ask (c.asks_of_not_isMark hq hm) fun a said' hs => hp a said' hs (h.next hs hq)

theorem says_storeOr {q : Store.Request} {onError : StoreError → AuthError}
    {post : q.Answer → List Said → Prop} (h : Plain said₀ said) (hm : c.MayAsk s (.store q))
    (hp : ∀ a said', Plain said₀ said' → post a said') :
    SaysOr s c said (storeOr onError q) post :=
  ensures_storeOr (c.asks_of_not_isMark rfl hm) (fun a said' hs => hp a said' (h.next hs rfl))
    fun _ _ hs => (h.next hs rfl).not_stored

/-- Questions that store no entry lead on from one thing said to the next. -/
theorem Call.along_plain (c : Call) {kind : Ask → Prop} (hk : ∀ q, kind q → q.isMark = false)
    (hm : ∀ q, kind q → c.MayAsk s q) (said : List Said) :
    Along Noting (c.Asks s) kind (fun said said' => ¬ AskedToMark said → Plain said said')
      said where
  refl _ h := ⟨List.suffix_rfl, h⟩
  trans h h' hs := (h hs).trans (h' (h hs).unmarked)
  asks _ hq := c.asks_of_not_isMark (hk _ hq) (hm _ hq)
  turns _ hq ht h := (Plain.start h).next ht (hk _ hq)

theorem Call.along_preliminary (c : Call) (said : List Said) :
    Along Noting (c.Asks s) Ask.IsPreliminary
      (fun said said' => ¬ AskedToMark said → Plain said said') said :=
  c.along_plain (Ask.preliminary_cases rfl rfl (fun _ => rfl) (fun _ => rfl) fun _ => rfl)
    (Ask.preliminary_cases trivial trivial (fun _ => trivial) (fun _ => trivial) fun _ => trivial)
    said

/-- What has been told on the way has been said. -/
theorem mem_of_told {q : Ask} {x : q.Answer} {said' : List Said}
    (h : Told Noting (fun said said' => ¬ AskedToMark said → Plain said said') said q x said')
    (hs : ¬ AskedToMark said) (hq : q.isMark = false) : ⟨q, x⟩ ∈ said' := by
  obtain ⟨said₁, said₂, h₁, ht, h₂⟩ := h
  have hnext := (h₁ hs).next ht hq
  refine (h₂ hnext.unmarked).since.subset ?_
  rw [ht]
  exact .head _

/-! ## Operations -/

/-- The marker is written last, for as long as access tokens live. -/
theorem conclude_speaks {u : Int} {email : String} {permissions : List String}
    {now expiresAt : Time.Instant} {id : String} {refresh : Token.Issued}
    (h : ¬ AskedToMark said) (hclock : ⟨.clock, now⟩ ∈ said)
    (he : Token.expiry s .access now = .ok expiresAt) :
    SaysOr s c said (conclude s u now
      (Token.issueUntil s .access u email permissions now expiresAt id) refresh)
      (MarkedLast s) := by
  refine ensures_conclude he ⟨fun _ => h, Or.inr ⟨u, rfl⟩⟩ (fun said₁ hs => ?_)
    fun e said₁ hs => ?_
  · exact ⟨u, email, permissions, now, expiresAt, id, said, hs, h, hclock, he, rfl⟩
  · rw [hs]
    rintro key ⟨value, lifetime, hm⟩
    rcases List.mem_cons.1 hm with hm | hm
    · cases hm
    · exact h ⟨_, hm, rfl⟩

theorem createPair_speaks {u : Int} {email : String} {now : Time.Instant}
    (h : ¬ AskedToMark said) (hclock : ⟨.clock, now⟩ ∈ said) :
    SaysOr s c said (createPair s u email now) (MarkedLast s) := by
  refine ensures_createPair (c.along_preliminary said) (fun _ _ hr _ => (hr h).not_stored)
    fun access refresh said₁ hr hp => ?_
  obtain ⟨_, _, _, _, ⟨expiresAt, id, he, _, rfl⟩, _⟩ := hp
  exact ensures_bind (says_storeOr (hr h) trivial fun _ said₂ h₂ =>
    conclude_speaks h₂.unmarked (h₂.since.subset hclock) he)

/-- A pair is minted at the time that the clock tells. -/
theorem clock_createPair_speaks {u : Int} {email : String} (h : ¬ AskedToMark said) :
    SaysOr s c said (do createPair s u email (← clock)) (MarkedLast s) := by
  refine ensures_bind (says_ask (.start h) rfl trivial fun now said₁ hs h₁ => ?_)
  refine createPair_speaks h₁.unmarked ?_
  rw [hs]
  exact .head _

theorem register_speaks (r : Registration) (h : ¬ AskedToMark said) :
    SaysOr s (.register r) said (register s r) (MarkedLast s) := by
  refine ensures_register (fun _ _ => (Plain.start h).not_stored)
    (Call.asks_of_not_isMark rfl trivial) fun birthDate salt said₁ hr hs => ?_
  refine ensures_bind (says_storeOr ((Plain.start h).next hs rfl) ⟨hr.email, r, rfl, rfl⟩
    fun u said₂ h₂ => ?_)
  exact clock_createPair_speaks h₂.unmarked

theorem login_speaks (email password : String) (h : ¬ AskedToMark said) :
    SaysOr s c said (login s email password) (MarkedLast s) := by
  have halong : Along Noting (c.Asks s) (LoginAsks email)
      (fun said said' => ¬ AskedToMark said → Plain said said') said := by
    refine c.along_plain ?_ ?_ said
    · rintro _ (rfl | rfl) <;> rfl
    · rintro _ (rfl | rfl) <;> exact trivial
  exact ensures_login halong (fun _ _ hr => (hr h).not_stored) fun credentials now said₁ hr _ ht =>
    createPair_speaks (hr h).unmarked (mem_of_told ht h rfl)

theorem refresh_speaks (token : String) (h : ¬ AskedToMark said) :
    SaysOr s c said (refresh s token) (MarkedLast s) := by
  refine ensures_refresh (c.along_preliminary said) (fun _ _ hr => (hr h).not_stored)
    fun u user now next said₁ hr hx => ?_
  have h₁ := hr h
  have hclock := mem_of_told hx.clock h rfl
  refine ensures_rotate (c.asks_of_not_isMark rfl trivial)
    (fun _ _ hs => (h₁.next hs rfl).not_stored)
    (fun _ hs => (h₁.next hs rfl).not_stored) fun said₂ hs => ?_
  have h₂ := (Plain.start h₁.unmarked).next hs rfl
  refine ensures_remint (c.along_preliminary said₂) (fun _ => trivial) trivial
    (fun _ _ hr _ => (hr h₂.unmarked).not_stored) fun permissions access said₃ hr _ ha => ?_
  obtain ⟨expiresAt, id, he, _, rfl⟩ := ha
  have h₃ := h₂.trans (hr h₂.unmarked)
  exact conclude_speaks h₃.unmarked (h₃.since.subset hclock) he

theorem confirmCode_speaks (identifier code : String) (h : ¬ AskedToMark said) :
    SaysOr s (.confirmCode identifier code) said (confirmCode s identifier code)
      fun confirmation said' => match confirmation.tokens with
        | some pair => MarkedLast s pair said'
        | none => ∀ key, ¬ Stored key said' := by
  have halong : Along Noting (Call.Asks s (.confirmCode identifier code))
      (ConfirmationAsks s identifier)
      (fun said said' => ¬ AskedToMark said → Plain said said') said := by
    refine Call.along_plain _ ?_ ?_ said
    · rintro _ (rfl | rfl | rfl | rfl) <;> rfl
    · rintro _ (rfl | rfl | rfl | rfl)
      · exact trivial
      · exact Or.inl ⟨identifier, code, rfl, rfl⟩
      · exact trivial
      · exact trivial
  exact ensures_confirmCode halong (fun _ _ hr => (hr h).not_stored)
    (fun _ hr _ => (hr h).not_stored) fun user now said₁ hr _ ht =>
      createPair_speaks (hr h).unmarked (mem_of_told ht h rfl)

theorem endsWith_error {e : AuthError} (h : ∀ key, ¬ Stored key said) :
    c.EndsWith s said (.error e) :=
  fun key hs => absurd hs (h key)

/-- A call that neither mints anything nor sends a code stores nothing. -/
theorem Call.speaks_of_poses (hc : c.mints = false) (hs : ∀ identifier, c ≠ .sendCode identifier)
    (h : ¬ AskedToMark said) :
    Ensures Noting (c.Asks s) said (c.operation s) (fun a said' => c.EndsWith s said' (.ok a))
      fun e said' => c.EndsWith s said' (.error e) := by
  have halong : Along Noting (c.Asks s) (c.Poses s)
      (fun said said' => ¬ AskedToMark said → Plain said said') said := by
    refine c.along_plain (fun q hq => ?_) (fun q hq => ?_) said
    · cases c with
      | register | login | refresh | confirmCode => exact hq.elim
      | sendCode identifier => exact absurd rfl (hs identifier)
      | logout | deleteAccount => rcases hq with rfl | rfl | rfl <;> rfl
      | revokeAll | isAlive => rcases hq with rfl | rfl <;> rfl
      | purge | profile | emailExists => cases hq; rfl
    · cases c with
      | register | login | refresh | confirmCode => exact hq.elim
      | sendCode identifier => exact absurd rfl (hs identifier)
      | logout u t =>
        rcases hq with rfl | rfl | rfl
        · exact trivial
        · exact trivial
        · exact Or.inr ⟨u, rfl, rfl⟩
      | revokeAll u =>
        rcases hq with rfl | rfl
        · exact trivial
        · exact Or.inr ⟨u, rfl, rfl⟩
      | deleteAccount u =>
        rcases hq with rfl | rfl | rfl
        · exact rfl
        · exact trivial
        · exact Or.inr ⟨u, rfl, rfl⟩
      | isAlive u id => rcases hq with rfl | rfl <;> exact trivial
      | purge | profile | emailExists =>
        cases hq
        exact trivial
  refine (Call.ensures_of_poses hc halong).imp (fun minted said' hm => ?_)
    fun _ _ hr => endsWith_error (hr h).not_stored
  obtain ⟨rfl, hr⟩ := hm
  exact fun key hs => absurd hs ((hr h).not_stored key)

/-- The challenge of the identifier is all that may have been stored. -/
def OnlyChallenge (s : Settings) (identifier : String) (said : List Said) : Prop :=
  ∀ key, Stored key said → key = s.codeKey (normalize identifier)

theorem OnlyChallenge.next {identifier : String} (h : OnlyChallenge s identifier said) {q : Ask}
    {a : q.Answer} {said' : List Said} (hs : Noting said q a said')
    (hq : ∀ key value lifetime, q = .cache (.set key value lifetime) →
      key = s.codeKey (normalize identifier)) : OnlyChallenge s identifier said' := by
  rw [hs]
  rintro key ⟨value, lifetime, hm⟩
  rcases List.mem_cons.1 hm with hm | hm
  · exact hq key value lifetime (congrArg Sigma.fst hm).symm
  · exact h key ⟨value, lifetime, hm⟩

/-- A challenge is stored once, and delivered after that. -/
theorem sendCode_speaks (identifier : String) (h : Plain said₀ said) :
    Ensures Noting (Call.Asks s (.sendCode identifier)) said (sendCode s identifier)
      (fun _ said' => OnlyChallenge s identifier said')
      fun _ said' => OnlyChallenge s identifier said' := by
  have hplain : ∀ said₁, Plain said₀ said₁ → OnlyChallenge s identifier said₁ :=
    fun said₁ h₁ key hs => absurd hs (h₁.not_stored key)
  have hstore : ∀ code said₁, Plain said₀ said₁ →
      Ensures Noting (Call.Asks s (.sendCode identifier)) said₁ (do
        cache (.set (s.codeKey (normalize identifier)) code Settings.codeLifetime)
        deliver (normalize identifier) code) (fun _ said' => OnlyChallenge s identifier said')
        fun _ said' => OnlyChallenge s identifier said' := by
    intro code said₁ h₁
    have hset : ∀ a said₂, Noting said₁ (.cache (.set (s.codeKey (normalize identifier)) code
        Settings.codeLifetime)) a said₂ → OnlyChallenge s identifier said₂ := by
      intro a said₂ h₂
      refine (hplain said₁ h₁).next h₂ fun key value lifetime hq => ?_
      cases hq
      rfl
    refine ensures_bind (ensures_cacheOr ⟨fun _ => h₁.unmarked, Or.inl ⟨identifier, rfl, rfl⟩⟩
      (fun _ said₂ h₂ => ?_) fun _ said₂ h₂ => hset _ said₂ h₂)
    refine ⟨And.intro (Call.asks_of_not_isMark rfl trivial) fun a said₃ h₃ => ?_⟩
    have hlast := (hset _ said₂ h₂).next h₃ nofun
    cases a <;> exact hlast
  unfold sendCode
  refine ensures_bind (ensures_failIf (fun _ => hplain said h) fun _ => ?_)
  unfold newCode
  split
  · exact ensures_bind (ensures_pure (hstore _ _ h))
  · refine ensures_bind ?_
    exact ensures_ask (Call.asks_of_not_isMark rfl trivial) fun code said₁ hs =>
      hstore code said₁ (h.next hs rfl)

/-! ## Calls -/

theorem says_of_marked {op : Operation TokenPair} (h : SaysOr s c said op (MarkedLast s)) :
    Ensures Noting (c.Asks s) said (do return some (← op))
      (fun a said' => c.EndsWith s said' (.ok a)) fun e said' => c.EndsWith s said' (.error e) :=
  ensures_bind (h.imp (fun _ _ hm => ensures_pure hm) fun _ _ => endsWith_error)

/-- Whatever is answered, a call asks what it may ask and ends as it may end. -/
theorem Call.operation_speaks (c : Call) :
    Ensures Noting (c.Asks s) [] (c.operation s) (fun a said => c.EndsWith s said (.ok a))
      fun e said => c.EndsWith s said (.error e) := by
  have h₀ : ¬ AskedToMark [] := fun ⟨_, hx, _⟩ => nomatch hx
  cases c with
  | register r => exact says_of_marked (register_speaks r h₀)
  | login email password => exact says_of_marked (login_speaks email password h₀)
  | refresh token => exact says_of_marked (refresh_speaks token h₀)
  | sendCode identifier =>
    exact ensures_bind ((sendCode_speaks identifier (.start h₀)).imp
      (fun _ _ h => ensures_pure fun key hs => ⟨identifier, rfl, h key hs⟩)
      fun _ _ h key hs => ⟨identifier, rfl, h key hs⟩)
  | confirmCode identifier code =>
    refine ensures_bind ((confirmCode_speaks identifier code h₀).imp
      (fun confirmation said hc => ?_) fun _ _ => endsWith_error)
    refine ensures_pure ?_
    unfold EndsWith mintedBy
    cases hp : confirmation.tokens with
    | some pair =>
      rw [hp] at hc
      exact hc
    | none =>
      rw [hp] at hc
      exact fun key hs => absurd hs (hc key)
  | logout | revokeAll | deleteAccount | purge | profile | emailExists | isAlive =>
    exact Call.speaks_of_poses rfl (fun _ => nofun) h₀

theorem Call.program_speaks (c : Call) :
    Dialog.Holds Noting (c.Asks s) (c.EndsWith s) [] (c.program s) :=
  c.operation_speaks.holds_run

end SignIn.Session
