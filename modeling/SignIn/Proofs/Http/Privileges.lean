-- Nobody gains privileges by requests. Whatever is sent, accounts keep their
-- roles, new ones get the default role, and an access token that is answered
-- carries what is granted to the role of its user.
import SignIn.Http.Service
import SignIn.Proofs.Json.Members
import SignIn.Proofs.Session.Writing
import SignIn.Proofs.Store.Roles

namespace SignIn.Http

open Dialog (Ensures Holds ensures_pure ensures_bind ensures_failIf ensures_orFail holds_bind)
open Session (Act Writing Entitles sampleSettings sampleWorld)
open Store.Memory (KeepsRoles SameAccounts)
open World (Turn)

variable {s : Settings} {mayFail : Prop} {w₀ w w' : World} {r : Request} {response : Response}

/-! ## Access tokens in responses -/

/-- The access token that a response carries, if it carries one. -/
def Response.accessToken? (response : Response) : Option String :=
  match response.body with
  | .json (.object members) =>
    match members.lookup "access_token" with
    | some (.string t) => some t
    | _ => none
  | _ => none

theorem accessToken?_error (e : ApiError) : e.response.accessToken? = none := by
  have hbody : ∀ b : ErrorBody, (Response.json e.status b.json).accessToken? = none := by
    rintro ⟨code, text, missing⟩
    cases missing <;> rfl
  exact hbody e.body

theorem accessToken?_pair (status : Nat) (pair : TokenPair) :
    (Response.json status (pairJson pair)).accessToken? = some pair.access := rfl

theorem accessToken?_confirmation (status : Nat) (c : Confirmation) :
    (Response.json status (ConfirmationBody.ofConfirmation c).json).accessToken? =
      c.tokens.map TokenPair.access := by
  obtain ⟨confirmed, registered, tokens⟩ := c
  cases tokens <;> rfl

/-- What every answer carries besides adds no token. -/
theorem accessToken?_of_finish {route : Option Route} {t : String}
    (h : (finish r route response).accessToken? = some t) : response.accessToken? = some t := by
  have hbody : (openToAll (withAllow r route response)).body = response.body := by
    unfold openToAll withAllow
    split
    · rfl
    · split <;> rfl
  unfold finish at h
  dsimp only at h
  split at h
  · cases h
  · unfold Response.accessToken? at h ⊢
    rw [hbody] at h
    exact h

/-- A body that cannot be read is refused in plain text. -/
theorem accessToken?_of_readBody {α : Type} {read : Json.Reader α} {refusal : Response}
    (h : readBody read r = .error refusal) : refusal.accessToken? = none := by
  unfold readBody at h
  split at h
  · cases h
    rfl
  · split at h
    · cases h
      rfl
    · split at h <;> cases h <;> rfl

/-- No body asks for a role. -/
theorem role_of_readBody {body : Registration} (h : readBody Registration.read r = .ok body) :
    body.role = none := by
  unfold readBody at h
  split at h
  · cases h
  · split at h
    · cases h
    · split at h
      · rename_i a hread
        cases h
        obtain ⟨rest, hvalue, _⟩ := Json.readWhole_eq_ok hread
        obtain ⟨values, _, _, hpure⟩ := Json.Reader.bind_eq_value hvalue
        rw [← (Json.Reader.pure_eq_value hpure).1]
        rfl
      · cases h
      · cases h

/-! ## What a request asks and answers -/

/-- No account is asked for with a role of its own. -/
def AsksNoRole (q : Ask) : Prop := ∀ new, q = .store (.createUser new) → new.role = none

/-- The access token is for a user of the store, and carries what is granted to the user's role. -/
def IsGranted (s : Settings) (m : Store.Memory) (t : String) : Prop :=
  ∃ c, t = Token.sign (Token.secretOf s .access) c ∧
    ∃ row ∈ m.rows, row.user.id = c.userId ∧ c.permissions = m.grantedTo row.user.role

theorem IsGranted.keeps {m m' : Store.Memory} {t : String} (h : IsGranted s m t)
    (hk : KeepsRoles m m') : IsGranted s m' t := by
  obtain ⟨c, ht, row, hrow, hid, hc⟩ := h
  obtain ⟨row', hrow', hid', hrole⟩ := hk.kept row hrow
  refine ⟨c, ht, row', hrow', hid'.trans hid, ?_⟩
  rw [hc, hrole, hk.grantedTo_eq]

theorem isGranted_of_entitles {m m' : Store.Memory} {u : Int} {email : String} {pair : TokenPair}
    (h : Entitles s m u email pair) (hm : SameAccounts m m') : IsGranted s m' pair.access := by
  obtain ⟨user, now, accessEnd, accessId, _, _, huser, rfl⟩ := h
  obtain ⟨row, hrow, rfl, hid⟩ := Store.Memory.mem_of_findUser huser
  rw [← hm.liveRows_eq] at hrow
  refine ⟨_, Token.token_issueUntil .., row, (Store.Memory.mem_liveRows.1 hrow).1, hid, ?_⟩
  rw [hm.grantedTo_eq]
  rfl

/-- Whatever is answered to it, the program asks for no account with a role of its own, and an
access token that it answers carries what is granted to its user's role. -/
structure Honest (s : Settings) (mayFail : Prop) (w : World) (p : Program Response) : Prop where
  holds : Holds (Turn mayFail) (fun _ => AsksNoRole)
    (fun w' response => ∀ t, response.accessToken? = some t → IsGranted s w'.store t) w p

theorem honest_pure (h : response.accessToken? = none) : Honest s mayFail w (pure response) := by
  have hnone : ∀ t, response.accessToken? = some t → IsGranted s w.store t := by
    intro t ht
    rw [h] at ht
    cases ht
  exact ⟨hnone⟩

/-- The act is not a registration that asks for a role. -/
def IsRoleless : Act → Prop
  | .call (.register body) => body.role = none
  | _ => True

theorem asksNoRole_of_writes {a : Act} (ha : IsRoleless a) {q : Ask} (h : a.Writes s w q) :
    AsksNoRole q := by
  rintro new rfl
  obtain ⟨body, rfl, _, _, _, rfl⟩ := h
  exact ha

theorem honest_answer {α : Type} {a : Act} {op : Operation α} {post : α → World → Prop}
    {onError : AuthError → ApiError} {onOk : α → Response} (ha : IsRoleless a)
    (h : Writing s a mayFail w op post)
    (hok : ∀ x w', post x w' → ∀ t, (onOk x).accessToken? = some t → IsGranted s w'.store t) :
    Honest s mayFail w (answer op onError onOk) := by
  unfold answer
  refine ⟨holds_bind ((h.holds.asks_imp fun _ _ => asksNoRole_of_writes ha).imp fun w' x hx => ?_)⟩
  cases x with
  | ok x => exact hok x w' hx
  | error e => exact (honest_pure (accessToken?_error _)).holds

/-- An operation that mints nothing, and whose answer carries no token. -/
theorem honest_answer_poses {α : Type} {c : Session.Call} {op : Operation α} {promises : α → Prop}
    {onError : AuthError → ApiError} {onOk : α → Response} (hc : c.mints = false)
    (h : HoldsTo (c.Poses s) op promises) (hok : ∀ x, (onOk x).accessToken? = none) :
    Honest s mayFail w (answer op onError onOk) := by
  have hroleless : IsRoleless (.call c) := by
    cases c with
    | register => cases hc
    | _ => exact trivial
  refine honest_answer hroleless (Session.writing_of_poses h) fun x _ _ t ht => ?_
  rw [hok x] at ht
  cases ht

/-- An operation whose answer is a pair of tokens. -/
theorem honest_answer_pair {a : Act} {op : Operation TokenPair} {post : TokenPair → World → Prop}
    {onError : AuthError → ApiError} {status : Nat} (ha : IsRoleless a)
    (h : Writing s a mayFail w op post)
    (hpost : ∀ pair w', post pair w' → IsGranted s w'.store pair.access) :
    Honest s mayFail w (answer op onError fun pair => .json status (pairJson pair)) := by
  refine honest_answer ha h fun pair w' hp t ht => ?_
  rw [accessToken?_pair] at ht
  rw [← Option.some.inj ht]
  exact hpost pair w' hp

theorem honest_withBody {α : Type} {read : Json.Reader α} {f : α → Program Response}
    (h : ∀ body, readBody read r = .ok body → Honest s mayFail w (f body)) :
    Honest s mayFail w (withBody read r f) := by
  unfold withBody
  split
  · exact h _ ‹_›
  · exact honest_pure (accessToken?_of_readBody ‹_›)

theorem answerPublic_honest (r : Request) (route : Route) :
    Honest s mayFail w (answerPublic s r route) := by
  have hpurge : IsRoleless (.call .purge) := trivial
  unfold answerPublic
  cases route with
  | registration =>
    refine honest_withBody fun body hbody => ?_
    have hbody : IsRoleless (.call (.register body)) := role_of_readBody hbody
    refine honest_answer_pair hbody (Session.register_writes body) ?_
    rintro pair w' ⟨_, m, _, _, hsame, hentitled⟩
    exact isGranted_of_entitles hentitled hsame
  | login =>
    refine honest_withBody fun body _ => honest_answer_pair hpurge
      (Session.login_writes body.email body.password) ?_
    rintro pair w' ⟨hsame, _, _, hentitled⟩
    exact isGranted_of_entitles hentitled hsame
  | refresh =>
    refine honest_withBody fun body _ => honest_answer_pair hpurge (Session.refresh_writes _) ?_
    rintro pair w' ⟨hsame, _, _, hentitled⟩
    exact isGranted_of_entitles hentitled hsame
  | logout =>
    exact honest_withBody fun body _ => honest_answer_poses rfl (Session.logout_poses _ _)
      fun _ => rfl
  | sendCode =>
    exact honest_withBody fun body _ => honest_answer_poses rfl (Session.sendCode_poses _)
      fun _ => rfl
  | confirmCode =>
    refine honest_withBody fun body _ => honest_answer hpurge
      (Session.confirmCode_writes body.identifier body.code) fun c w' hc t ht => ?_
    rw [accessToken?_confirmation] at ht
    obtain ⟨pair, hp, rfl⟩ := Option.map_eq_some_iff.1 ht
    obtain ⟨hsame, _, _, hentitled⟩ := hc pair hp
    exact isGranted_of_entitles hentitled hsame
  | ownAccount | revokeSessions => exact honest_pure rfl

/-- Whoever is admitted, no account has been asked for on the way. -/
theorem authenticate_asks (r : Request) :
    Ensures (Turn mayFail) (fun _ => AsksNoRole) w (authenticate s r) (fun _ _ => True)
      fun _ _ => True := by
  have hpart : ∀ {α : Type} {op : Operation α} {w₁ : World} {text : String}
      {post : α → World → Prop}, Writing s (.call .purge) mayFail w₁ op post →
      Ensures (Turn mayFail) (fun _ => AsksNoRole) w₁ (orUnauthorized text op) post
        fun _ _ => True := by
    intro α op w₁ text post h
    have hpurge : IsRoleless (.call .purge) := trivial
    refine ⟨holds_bind ((h.holds.asks_imp fun _ _ => asksNoRole_of_writes hpurge).imp
      fun w' x hx => ?_)⟩
    cases x with
    | ok x => exact hx
    | error e => exact trivial
  unfold authenticate
  refine ensures_bind (ensures_orFail (fun header _ => ?_) fun _ => trivial)
  refine ensures_bind (ensures_orFail (fun token _ => ?_) fun _ => trivial)
  have hverify : HoldsTo (fun q => q = .clock) (Session.verify s .access token) fun _ => True :=
    (Session.verify_freely s .access token).imp (fun _ _ _ => trivial) fun _ _ _ => trivial
  refine ensures_bind ((hpart (Session.writing_of_holdsTo hverify ?_)).imp (fun c w₁ _ => ?_)
    fun _ _ h => h)
  · rintro _ _ rfl
    exact trivial
  refine ensures_bind (ensures_failIf (fun _ => trivial) fun _ => ?_)
  have hknown : HoldsTo (Session.Call.Poses s (.emailExists c.email))
      (Session.emailExists c.email) fun _ => True := holdsTo_storeOr rfl fun _ => trivial
  refine ensures_bind ((hpart (Session.writing_of_holdsTo hknown ?_)).imp (fun known w₂ _ => ?_)
    fun _ _ h => h)
  · rintro _ _ rfl
    exact trivial
  refine ensures_bind (ensures_failIf (fun _ => trivial) fun _ => ?_)
  refine ensures_bind ((hpart (Session.writing_of_holdsTo (Session.isAlive_poses c.userId c.id)
    ?_)).imp (fun alive w₃ _ => ?_) fun _ _ h => h)
  · rintro _ _ (rfl | rfl) <;> exact trivial
  refine ensures_bind (ensures_failIf (fun _ => trivial) fun _ => ?_)
  have hclock : AsksNoRole .clock := by
    intro new h
    cases h
  refine ensures_bind ⟨And.intro hclock fun now w₄ _ => ?_⟩
  exact ensures_bind (ensures_failIf (fun _ => trivial) fun _ => ensures_pure trivial)

theorem honest_guarded {permission : String} {p : Principal} {next : Program Response}
    (h : Honest s mayFail w next) : Honest s mayFail w (guarded permission p next) := by
  unfold guarded
  split
  · exact h
  · exact honest_pure (accessToken?_error _)

theorem answerPrincipal_honest (r : Request) (p : Principal) (route : Option Route) :
    Honest s mayFail w (answerPrincipal s r p route) := by
  unfold answerPrincipal
  split
  · split
    · exact honest_guarded (honest_answer_poses rfl (Session.profile_poses _) fun _ => rfl)
    · split
      · exact honest_guarded (honest_answer_poses rfl (Session.deleteAccount_poses _) fun _ => rfl)
      · exact honest_pure rfl
  · split
    · refine honest_guarded ?_
      split
      · exact honest_pure rfl
      · exact honest_answer_poses rfl (Session.revokeAll_poses _) fun _ => rfl
    · exact honest_pure rfl
  · exact honest_pure rfl

theorem answerProtected_honest (r : Request) (route : Option Route) :
    Honest s mayFail w (answerProtected s r route) := by
  unfold answerProtected
  refine ⟨holds_bind ((authenticate_asks r).holds.imp fun w' x _ => ?_)⟩
  cases x with
  | ok p => exact (answerPrincipal_honest r p route).holds
  | error e => exact (honest_pure (accessToken?_error e)).holds

/-- Every request is answered honestly. -/
theorem respond_honest (s : Settings) (mayFail : Prop) (w : World) (r : Request) :
    Honest s mayFail w (respond s r) := by
  have hroute : ∀ route, Honest s mayFail w (answerRoute s r route) := by
    intro route
    unfold answerRoute
    split
    · exact honest_pure rfl
    · split
      · exact answerProtected_honest r none
      · split
        · split
          · exact answerPublic_honest r _
          · exact honest_pure rfl
        · exact answerProtected_honest r _
  unfold respond
  exact ⟨holds_bind ((hroute _).holds.imp fun w' response h t ht =>
    h t (accessToken?_of_finish ht))⟩

/-! ## Conversations -/

/-- What can become of a world while requests are answered one after the other, in which any call to
the store or the cache may fail without effect, and time passes; with the responses, latest
first. -/
inductive Conversation (s : Settings) (w₀ : World) : World → List Response → Prop
  | start : Conversation s w₀ w₀ []
  | request {w w' : World} {responses : List Response} (h : Conversation s w₀ w responses)
    (r : Request) {response : Response}
    (hl : Dialog.Leads (Turn True) w (respond s r) response w') :
    Conversation s w₀ w' (response :: responses)
  | pass {w : World} {responses : List Response} (h : Conversation s w₀ w responses)
    (wallNanos : Int) (tickNanos : Nat) :
    Conversation s w₀ (w.advance wallNanos tickNanos) responses

/-- A request that is answered while no call fails is a part of a conversation. -/
theorem Conversation.run {responses : List Response} (h : Conversation s w₀ w responses)
    (r : Request) : Conversation s w₀ (w.run false (respond s r)).2
      ((w.run false (respond s r)).1 :: responses) :=
  .request h r (World.leads_run True w (respond s r))

theorem keepsRoles_of_leads (hl : Dialog.Leads (Turn True) w (respond s r) response w') :
    KeepsRoles w.store w'.store := by
  refine (respond_honest s True w r).holds.keeps hl (I := fun w' => KeepsRoles w.store w'.store)
    (fun w₁ q x w₂ hk hq ht => ?_) (.refl w.store)
  rcases ht.store_eq with hs | ⟨q, rfl, hs⟩
  · rw [hs]
    exact hk
  · rw [hs]
    exact hk.answer w₁.now fun new hnew => hq new (congrArg Ask.store hnew)

/-- What a conversation keeps: every role, and what each token that has been answered carries. -/
theorem Conversation.keepsRoles {responses : List Response}
    (h : Conversation s w₀ w responses) : KeepsRoles w₀.store w.store ∧
      ∀ response ∈ responses, ∀ t, response.accessToken? = some t → IsGranted s w.store t := by
  induction h with
  | start => exact ⟨.refl _, nofun⟩
  | pass h wallNanos tickNanos ih => exact ih
  | request h r hl ih =>
    have hstep := keepsRoles_of_leads hl
    refine ⟨ih.1.trans hstep, fun response hr t ht => ?_⟩
    rcases List.mem_cons.1 hr with rfl | hr
    · exact (respond_honest s True _ r).holds.of_leads hl t ht
    · exact (ih.2 response hr t ht).keeps hstep

theorem Conversation.numbered {responses : List Response} (h : Conversation s w₀ w responses)
    (hn : w₀.store.Numbered) : w.store.Numbered := by
  induction h with
  | start => exact hn
  | pass h wallNanos tickNanos ih => exact ih
  | request h r hl ih =>
    refine hl.keeps (I := fun w => w.store.Numbered) (fun w₁ q x w₂ hn ht => ?_) ih
    rcases ht.store_eq with hs | ⟨q, _, hs⟩
    · rw [hs]
      exact hn
    · rw [hs]
      exact hn.answer w₁.now q

/-- **No privileges are gained by requests.** Whatever requests are answered from a store in which
every id stands for one account: who is there keeps the role, who is added has the default role, and
every access token that is answered carries exactly what is granted to the role of its user. -/
theorem no_privileges_are_gained (hn : w₀.store.Numbered) {w₁ : World}
    {earlier later : List Response} (h₁ : Conversation s w₀ w₁ earlier)
    (h₂ : Conversation s w₁ w later) :
    (∀ old ∈ w₁.store.rows, (∃ row ∈ w.store.rows, row.user.id = old.user.id) ∧
        ∀ row ∈ w.store.rows, row.user.id = old.user.id → row.user.role = old.user.role) ∧
      (∀ row ∈ w.store.rows, (∀ old ∈ w₀.store.rows, old.user.id ≠ row.user.id) →
        row.user.role = w₀.store.defaultRole) ∧
      ∀ response ∈ later ++ earlier, ∀ t, response.accessToken? = some t →
        ∃ c, t = Token.sign (Token.secretOf s .access) c ∧
          (∃ row ∈ w.store.rows, row.user.id = c.userId) ∧
          ∀ row ∈ w.store.rows, row.user.id = c.userId →
            c.permissions = w₀.store.grantedTo row.user.role := by
  obtain ⟨hroles₁, htokens₁⟩ := h₁.keepsRoles
  obtain ⟨hroles₂, htokens₂⟩ := h₂.keepsRoles
  have hroles := hroles₁.trans hroles₂
  have hnumbered : w.store.Numbered := h₂.numbered (h₁.numbered hn)
  refine ⟨fun old hold => ?_, fun row hrow hnew => hroles.role_of_new hrow hnew,
    fun response hr t ht => ?_⟩
  · obtain ⟨row, hrow, hid, hrole⟩ := hroles₂.kept old hold
    refine ⟨⟨row, hrow, hid⟩, fun other ho hoid => ?_⟩
    rw [hnumbered.eq_of_id ho hrow (hoid.trans hid.symm)]
    exact hrole
  · have hgranted : IsGranted s w.store t := by
      rcases List.mem_append.1 hr with hr | hr
      · exact htokens₂ response hr t ht
      · exact (htokens₁ response hr t ht).keeps hroles₂
    obtain ⟨c, hc, row, hrow, hid, hperm⟩ := hgranted
    refine ⟨c, hc, ⟨row, hrow, hid⟩, fun other ho hoid => ?_⟩
    rw [hnumbered.eq_of_id ho hrow (hoid.trans hid.symm), hperm, hroles.grantedTo_eq]

/-- A registration that asks for a role. -/
def samplePromotion : Request where
  method := "POST"
  target := "/api/v1/auth/registration"
  headers := [("content-type", "application/json")]
  body := Text.utf8 (Json.text (.object [("name", .string "Name"), ("surname", .string "Surname"),
    ("gender", .string "f"), ("birth_date", .string "10-12-1990"), ("role_id", .number 7),
    ("phone_number", .string "1"), ("email", .string "user@example.com"),
    ("password", .string "secret")]))

/-- Who asks for a role gets the default one. -/
theorem samplePromotion_gets_default_role :
    let w := (sampleWorld.run false (respond sampleSettings samplePromotion)).2
    w.store.rows.length = 1 ∧ ∀ row ∈ w.store.rows, row.user.role = some 1 := by
  intro w
  have hconversation : Conversation sampleSettings sampleWorld w _ :=
    Conversation.start.run samplePromotion
  have hn : sampleWorld.store.Numbered := Store.Memory.numbered_empty _ _
  obtain ⟨_, hadded, _⟩ := no_privileges_are_gained hn .start hconversation
  refine ⟨by decide +kernel, fun row hrow => hadded row hrow fun old hold => ?_⟩
  have hnone : sampleWorld.store.rows = [] := rfl
  rw [hnone] at hold
  cases hold

end SignIn.Http
