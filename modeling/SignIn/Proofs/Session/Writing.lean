-- What acts write into the store. A new account is the one that its
-- registration asks for, under a hash with a salt that has been drawn; a new
-- refresh token bears an id that has been drawn; and a pair is for the user of
-- an account, with what is granted to the account's role.
import SignIn.Proofs.Course
import SignIn.Proofs.Drawing
import SignIn.Proofs.Session.Histories

namespace SignIn.Session

open Operation
open Dialog (Ensures Along Told ensures_pure ensures_bind)
open Store.Memory (SameAccounts SparesAccounts)
open Text (normalize)
open World (Turn Drawing)

/-! ## What may be written -/

/-- The text is a refresh token whose id has been drawn. -/
def BearsDrawnId (s : Settings) (w : World) (t : String) : Prop :=
  ∃ u now expiresAt id, w.ids.Drawn id ∧
    t = (Token.issueUntil s .refresh u "" [] now expiresAt id).token

/-- The account is what the registration asks for, with a hash of its password under a salt that has
been drawn. -/
def IsAskedBy (w : World) (new : NewUser) (r : Registration) : Prop :=
  ∃ birthDate salt, w.salts.Drawn salt ∧
    new = newUser r (normalize r.email) birthDate (Password.hash salt r.password)

/-- The questions an act may ask in a state of the world, as far as they create or delete accounts,
or store refresh tokens. -/
def Act.Writes (s : Settings) (a : Act) (w : World) : Ask → Prop
  | .store (.createUser new) => ∃ r, a = .call (.register r) ∧ IsAskedBy w new r
  | .store (.softDelete u) => a = .call (.deleteAccount u)
  | .store (.createToken _ t _) | .store (.rotateToken _ _ t _) => BearsDrawnId s w t
  | _ => True

variable {s : Settings} {a : Act} {mayFail : Prop} {w₀ w w' : World} {u : Int} {email : String}

/-- The pair is for the user of an account, with the email, and with what is granted to the
account's role. -/
def Entitles (s : Settings) (m : Store.Memory) (u : Int) (email : String) (pair : TokenPair) :
    Prop :=
  ∃ user now accessEnd accessId refreshEnd refreshId, m.findUser u = some user ∧
    pair = ⟨(Token.issueUntil s .access u email (m.grantedTo user.role) now accessEnd
        accessId).token,
      (Token.issueUntil s .refresh u "" [] now refreshEnd refreshId).token⟩

/-- However it ends, a part of an act has asked what the act may ask; if it succeeds, it ends as
`post` says. -/
abbrev Writing {α : Type} (s : Settings) (a : Act) (mayFail : Prop) (w : World) (op : Operation α)
    (post : α → World → Prop) : Prop :=
  Ensures (Turn mayFail) (a.Writes s) w op post fun _ _ => True

theorem sameAccounts_of_turn {q : Store.Request} {x : q.Answer} (hs : SparesAccounts q)
    (ht : Turn mayFail w (.store q) (.ok x) w') : SameAccounts w.store w'.store := by
  have hsame := hs.same w.store w.now
  rw [ht.store_ok.1] at hsame
  exact hsame

theorem writing_sparing {q : Store.Request} {onError : StoreError → AuthError}
    {post : q.Answer → World → Prop} (hs : SparesAccounts q) (hq : a.Writes s w (.store q))
    (h : ∀ x w', SameAccounts w.store w'.store → post x w') :
    Writing s a mayFail w (storeOr onError q) post :=
  ensures_storeOr hq (fun x w' ht => h x w' (sameAccounts_of_turn hs ht)) fun _ _ _ => trivial

/-- The store is as it was, while more may have been drawn. -/
def Unwritten (w w' : World) : Prop := w'.store = w.store ∧ Drawing w w'

/-- A question that writes nothing to the store. -/
def WritesNothing : Ask → Prop
  | .store q => q.IsLookup
  | _ => True

theorem unwritten_of_turn {q : Ask} {x : q.Answer} (ht : Turn mayFail w q x w')
    (hq : WritesNothing q) : Unwritten w w' := by
  refine ⟨?_, ht.drawing⟩
  rcases ht.store_eq with hs | ⟨r, rfl, hs⟩
  · exact hs
  · rw [hs, Store.Request.IsLookup.answer_eq hq]

/-- What writes nothing may be asked by every act. -/
theorem Act.along_unwritten (a : Act) {kind : Ask → Prop} (hk : ∀ q, kind q → WritesNothing q)
    (w : World) : Along (Turn mayFail) (a.Writes s) kind Unwritten w where
  refl w := ⟨rfl, .refl w⟩
  trans h h' := ⟨h'.1.trans h.1, h.2.trans h'.2⟩
  asks := by
    intro w' q _ hq
    cases q with
    | store q =>
      have hl : q.IsLookup := hk _ hq
      cases q with
      | findUser | findCredentials | findByPhone | emailExists | permissionsOf | findToken =>
        exact trivial
      | _ => exact hl.elim
    | _ => exact trivial
  turns _ hq ht := unwritten_of_turn ht (hk _ hq)

theorem writesNothing_of_preliminary : ∀ q : Ask, q.IsPreliminary → WritesNothing q :=
  Ask.preliminary_cases trivial trivial (fun _ => trivial) (fun _ => trivial) fun _ => trivial

theorem writesNothing_of_loginAsks {q : Ask} (hq : LoginAsks email q) : WritesNothing q := by
  rcases hq with rfl | rfl <;> exact trivial

theorem writesNothing_of_confirmationAsks {identifier : String} {q : Ask}
    (hq : ConfirmationAsks s identifier q) : WritesNothing q := by
  rcases hq with rfl | rfl | rfl | rfl <;> exact trivial

/-- An id that was told on the way has been drawn. -/
theorem drawn_of_told {id : String} (h : Told (Turn mayFail) Unwritten w .freshId id w') :
    w'.ids.Drawn id := by
  obtain ⟨_, _, _, ht, hlater⟩ := h
  exact hlater.2.ids.drawn ht.drawn_id

/-! ## Operations that mint -/

/-- A pair is minted for a user that is there. -/
theorem createPair_writes (u : Int) (email : String) (now : Time.Instant) :
    Writing s a mayFail w (createPair s u email now) fun pair w' =>
      SameAccounts w.store w'.store ∧ Entitles s w.store u email pair := by
  refine ensures_createPair (a.along_unwritten writesNothing_of_preliminary w)
    (fun _ _ _ _ => trivial) fun access refresh w₁ h₁ hp => ?_
  obtain ⟨user, permissions, hfound, hgranted, ⟨accessEnd, accessId, he, _, rfl⟩,
    ⟨refreshEnd, refreshId, _, hid, rfl⟩⟩ := hp
  refine ensures_bind (writing_sparing trivial
    ⟨u, now, refreshEnd, refreshId, drawn_of_told hid, rfl⟩ fun _ w₂ hsame => ?_)
  rw [h₁.1] at hsame
  refine ensures_conclude he trivial (fun w₃ ht => ⟨?_, user, now, accessEnd, accessId, refreshEnd,
    refreshId, findUser_of_told (fun _ h => .of_eq h.1) hfound, ?_⟩) fun _ _ _ => trivial
  · rw [ht.cache_ok.2.1]
    exact hsame
  · rw [grantedTo_of_told (fun _ h => .of_eq h.1) hgranted]

/-- A registration creates the account that it asks for, and the pair is for its user. -/
theorem register_writes (r : Registration) :
    Writing s (.call (.register r)) mayFail w (register s r) fun pair w' =>
      ∃ new m, IsAskedBy w' new r ∧
        w.store.createUser w.now new = (.ok (w.store.lastUserId + 1), m) ∧
        SameAccounts m w'.store ∧
        Entitles s m (w.store.lastUserId + 1) (normalize r.email) pair := by
  refine ensures_register (fun _ _ => trivial) trivial fun birthDate salt w₁ _ ht₁ => ?_
  have hs₁ := ht₁.aside (q := .freshSalt) trivial
  refine ensures_bind (ensures_storeOr ⟨r, rfl, birthDate, salt, ht₁.drawn_salt, rfl⟩
    (fun id w₂ ht₂ => ?_) fun _ _ _ => trivial)
  have ha : w.store.createUser w.now (newUser r (normalize r.email) birthDate
      (Password.hash salt r.password)) = (.ok id, w₂.store) := by
    have ha := ht₂.store_ok.1
    rw [hs₁.store, hs₁.now] at ha
    exact ha
  obtain ⟨rfl, _⟩ := Store.Memory.createUser_of_ok (congrArg Prod.fst ha)
  refine ensures_bind (ensures_ask trivial fun now w₃ ht₃ => ?_)
  have hs₃ := ht₃.aside (q := .clock) trivial
  have hdrawn : w₃.salts.Drawn salt :=
    ht₃.drawing.salts.drawn (ht₂.drawing.salts.drawn ht₁.drawn_salt)
  refine ((createPair_writes _ (normalize r.email) now).keeping
    (I := fun w' => w'.salts.Drawn salt) (fun _ _ _ _ hd ht => ht.drawing.salts.drawn hd)
    hdrawn).imp (fun pair w' hp => ?_) fun _ _ h => h
  obtain ⟨⟨hsame, hentitled⟩, hdrawn⟩ := hp
  rw [hs₃.store] at hsame hentitled
  exact ⟨_, w₂.store, ⟨birthDate, salt, hdrawn, rfl⟩, ha, hsame, hentitled⟩

theorem login_writes (email password : String) :
    Writing s a mayFail w (login s email password) fun pair w' =>
      SameAccounts w.store w'.store ∧ ∃ u email, Entitles s w.store u email pair := by
  refine ensures_login (a.along_unwritten (fun _ => writesNothing_of_loginAsks) w)
    (fun _ _ _ => trivial) fun credentials now w₁ h₁ _ _ => ?_
  refine (createPair_writes _ _ now).imp (fun pair w' hp => ?_) fun _ _ h => h
  rw [h₁.1] at hp
  exact ⟨hp.1, _, _, hp.2⟩

theorem refresh_writes (token : String) :
    Writing s a mayFail w (refresh s token) fun pair w' =>
      SameAccounts w.store w'.store ∧ ∃ u email, Entitles s w.store u email pair := by
  refine ensures_refresh (a.along_unwritten writesNothing_of_preliminary w) (fun _ _ _ => trivial)
    fun u user now next w₁ h₁ hx => ?_
  have huser := findUser_of_told (fun _ h => .of_eq h.1) hx.account
  obtain ⟨_, _, _, rfl⟩ := Store.Memory.mem_of_findUser huser
  obtain ⟨refreshEnd, refreshId, _, hid, rfl⟩ := hx.issued
  refine ensures_rotate ⟨user.id, now, refreshEnd, refreshId, drawn_of_told hid, rfl⟩
    (fun _ _ _ => trivial) (fun _ _ => trivial) fun w₂ ht => ?_
  have hsame : SameAccounts w.store w₂.store := by
    rw [← h₁.1]
    refine sameAccounts_of_turn ?_ ht
    exact trivial
  refine ensures_remint (a.along_unwritten writesNothing_of_preliminary w₂) (fun _ => trivial)
    trivial (fun _ _ _ _ => trivial) fun permissions access w₃ h₃ hgranted ha => ?_
  obtain ⟨accessEnd, accessId, he, _, rfl⟩ := ha
  refine ensures_conclude he trivial (fun w₄ ht₄ => ⟨?_, user.id, user.email, user, now, accessEnd,
    accessId, refreshEnd, refreshId, huser, ?_⟩) fun _ _ _ => trivial
  · rw [ht₄.cache_ok.2.1, h₃.1]
    exact hsame
  · rw [grantedTo_of_told (fun _ h => .of_eq h.1) hgranted, hsame.grantedTo_eq]

theorem confirmCode_writes (identifier code : String) :
    Writing s a mayFail w (confirmCode s identifier code) fun c w' => ∀ pair, c.tokens = some pair →
      SameAccounts w.store w'.store ∧ ∃ u email, Entitles s w.store u email pair := by
  refine ensures_confirmCode (a.along_unwritten (fun _ => writesNothing_of_confirmationAsks) w)
    (fun _ _ _ => trivial) (fun _ _ _ => nofun) fun user now w₁ h₁ _ _ => ?_
  refine (createPair_writes _ _ now).imp (fun pair w' hp pair' hp' => ?_) fun _ _ h => h
  obtain rfl : pair = pair' := Option.some.inj hp'
  rw [h₁.1] at hp
  exact ⟨hp.1, _, _, hp.2⟩

/-! ## Acts -/

/-- What mints nothing creates no account, and stores no token. -/
theorem Act.writes_of_poses {c : Call} {q : Ask} (hq : c.Poses s q) :
    Act.Writes s (.call c) w q := by
  cases c with
  | register | login | refresh | confirmCode => exact hq.elim
  | logout => rcases hq with rfl | rfl | rfl <;> exact trivial
  | sendCode => rcases hq with rfl | ⟨_, rfl⟩ | ⟨_, rfl⟩ <;> exact trivial
  | revokeAll | isAlive => rcases hq with rfl | rfl <;> exact trivial
  | purge | profile | emailExists =>
    cases hq
    exact trivial
  | deleteAccount u =>
    rcases hq with rfl | rfl | rfl
    · exact rfl
    · exact trivial
    · exact trivial

/-- Whatever is asked with an act's leave, the act may ask. -/
theorem writing_of_holdsTo {α : Type} {op : Operation α} {kind : Ask → Prop} {promises : α → Prop}
    (h : HoldsTo kind op promises) (hk : ∀ w q, kind q → a.Writes s w q) :
    Writing s a mayFail w op fun _ _ => True := by
  have halong : Along (Turn mayFail) (a.Writes s) kind (fun _ _ => True) w :=
    Dialog.along_anyway hk
  exact (halong.ensures h).imp (fun _ _ _ => trivial) fun _ _ _ => trivial

theorem writing_of_poses {α : Type} {op : Operation α} {c : Call} {promises : α → Prop}
    (h : HoldsTo (c.Poses s) op promises) : Writing s (.call c) mayFail w op fun _ _ => True :=
  writing_of_holdsTo h fun _ _ => Act.writes_of_poses

theorem writes_of_some {op : Operation TokenPair} {post : TokenPair → World → Prop}
    (h : Writing s a mayFail w op post) :
    Writing s a mayFail w (do return some (← op)) fun _ _ => True :=
  ensures_bind (h.imp (fun _ _ _ => ensures_pure trivial) fun _ _ h => h)

/-- Whatever happens, an act asks only what it may ask. -/
theorem Act.operation_writes (a : Act) :
    Writing s a mayFail w (a.operation s) fun _ _ => True := by
  cases a with
  | mint u email now => exact writes_of_some (createPair_writes u email now)
  | call c =>
    cases c with
    | register r => exact writes_of_some (register_writes r)
    | login email password => exact writes_of_some (login_writes email password)
    | refresh token => exact writes_of_some (refresh_writes token)
    | confirmCode identifier code =>
      exact ensures_bind ((confirmCode_writes identifier code).imp
        (fun _ _ _ => ensures_pure trivial) fun _ _ h => h)
    | logout | sendCode | revokeAll | deleteAccount | purge | profile | emailExists | isAlive =>
      exact writing_of_poses (Call.operation_poses rfl)

/-- For a caller who has given up nothing is written. -/
theorem store_run_cancelled {α : Type} (hf : w.faults = []) (p : Program α) :
    (w.run true p).2.store = w.store ∧ Drawing w (w.run true p).2 := by
  have hstays : ∀ (w : World) q, w.faults = [] → (w.answer true q).2.store = w.store := by
    intro w q hf
    cases q with
    | store q => rw [World.answer_store_cancelled hf]
    | cache q => rw [World.answer_cache_cancelled hf]
    | clock | deliver | freshId | freshCode | freshSalt =>
      refine ((World.turn_answer true hf _).aside ?_).store
      exact trivial
  have hl : Dialog.Leads (fun w _ _ w' => w'.store = w.store ∧ Drawing w w') w p
      (w.run true p).1 (w.run true p).2 :=
    Dialog.leads_run_of_kept (fun w q hf => ⟨⟨hstays w q hf, World.drawing_answer true w q⟩,
      (World.turn_answer_kept true w q hf).2⟩) hf p
  refine hl.keeps (I := fun w' => w'.store = w.store ∧ Drawing w w') (fun w₁ q x w₂ hi ht => ?_)
    ⟨rfl, .refl w⟩
  exact ⟨ht.1.trans hi.1, hi.2.trans ht.2⟩

/-- What holds of the store and the supplies, and is kept by every question to the store that an act
of the history may ask, the history keeps. -/
theorem after_keeps_written {history : List Happening} (hf : w.faults = []) {I : World → Prop}
    (hsame : ∀ w w', w'.store = w.store → Drawing w w' → I w → I w')
    (hturn : ∀ a, .act false a ∈ history → ∀ w w' q, a.Writes s w (.store q) →
      w'.store = (w.store.answer w.now q).2 → Drawing w w' → I w → I w')
    (hw : I w) : I (after s w history) := by
  refine (after_keeps (I := fun w => w.faults = [] ∧ I w) (fun w h hm hi => ?_) ⟨hf, hw⟩).2
  refine ⟨h.faults_next hi.1, ?_⟩
  cases h with
  | pass wallNanos tickNanos => exact hsame w _ rfl ⟨.refl _, .refl _⟩ hi.2
  | act cancelled a =>
    cases cancelled with
    | true =>
      obtain ⟨hstore, hd⟩ := store_run_cancelled hi.1 (a.program s)
      exact hsame w _ hstore hd hi.2
    | false =>
      have hwrites : Writing s a True w (a.operation s) fun _ _ => True := a.operation_writes
      refine hwrites.holds.keeps (World.leads_run_of_nil false hi.1 (a.program s))
        (fun w₁ q x w₂ hi' hq ht => ?_) hi.2
      rcases ht.store_eq with hs | ⟨q, rfl, hs⟩
      · exact hsame w₁ w₂ hs ht.drawing hi'
      · exact hturn a hm w₁ w₂ q hq hs ht.drawing hi'

end SignIn.Session
