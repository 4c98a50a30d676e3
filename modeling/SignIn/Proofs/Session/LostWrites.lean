-- What becomes of an operation when one of its own writes fails: the refresh
-- token that it has minted is not stored, or not exchanged for the old one, or
-- the marker is not written. It ends there, and its error is made from that of
-- the write, whoever keeps the store and the cache.
import SignIn.Proofs.Session.Refreshing
import SignIn.Proofs.Session.Acts
import SignIn.Proofs.Session.Runs

namespace SignIn

/-- Whether a call to the store or the cache has failed because the caller has given up. -/
def Said.gaveUp : Said → Bool
  | ⟨.store _, .error .cancelled⟩ | ⟨.cache _, .error .cancelled⟩ => true
  | _ => false

namespace Session

open Operation
open Dialog (Leads Ensures Along Holds Noting Anything along_of_kept ensures_pure ensures_bind
  run_bind_of_ok run_bind_of_error)
open Text (normalize)

variable {s : Settings} {α β : Type} {said : List Said}

/-! ## Lost writes -/

/-- What is made of it if one of the writes fails that keep what has been minted. -/
def lostWrite : Said → Option AuthError
  | ⟨.store (.createToken _ _ _), .error e⟩ => some (storeFailed e)
  | ⟨.store (.rotateToken _ _ _ _), .error e⟩ => some (.repository e)
  | ⟨.cache (.set _ _ _), .error e⟩ => some (markFailed e)
  | _ => none

/-- There are three writes that can be lost. -/
@[elab_as_elim] theorem lostWrite_cases {motive : Said → AuthError → Prop} {x : Said}
    {e : AuthError} (h : lostWrite x = some e)
    (token : ∀ u t expiresAt c,
      motive ⟨.store (.createToken u t expiresAt), .error c⟩ (storeFailed c))
    (rotation : ∀ u old new expiresAt c,
      motive ⟨.store (.rotateToken u old new expiresAt), .error c⟩ (.repository c))
    (marker : ∀ key value lifetime c,
      motive ⟨.cache (.set key value lifetime), .error c⟩ (markFailed c)) : motive x e := by
  unfold lostWrite at h
  split at h
  · cases h
    exact token ..
  · cases h
    exact rotation ..
  · cases h
    exact marker ..
  · cases h

/-- The failure is classed as that of a lost write: it comes of giving up, or the tokens could not
be created. -/
def IsClassed (x : Said) (e : AuthError) : Prop :=
  if x.gaveUp = true then e.isCancelled = true else ∃ text, e = .tokenCreation text

/-- All lost writes are classed so but one: a rotation that fails while its caller is waiting. -/
theorem isClassed_iff {x : Said} {e : AuthError} (h : lostWrite x = some e) :
    IsClassed x e ↔ ¬ (x.1.isRotation = true ∧ x.gaveUp = false) := by
  refine lostWrite_cases h ?_ ?_ ?_
  · intro u t expiresAt c
    cases c <;> simp [IsClassed, Said.gaveUp, storeFailed, Ask.isRotation, AuthError.isCancelled]
  · intro u old new expiresAt c
    cases c <;> simp [IsClassed, Said.gaveUp, Ask.isRotation, AuthError.isCancelled]
  · intro key value lifetime c
    cases c <;> simp [IsClassed, Said.gaveUp, markFailed, Ask.isRotation, AuthError.isCancelled]

/-! ## Operations that report lost writes -/

/-- No write has been lost. -/
def Unlost (said : List Said) : Prop := ∀ x ∈ said, lostWrite x = none

/-- No write has been lost, or the last thing that was said is a lost write, with this error. -/
def Reported (e : AuthError) (said : List Said) : Prop :=
  Unlost said ∨ ∃ x rest, said = x :: rest ∧ lostWrite x = some e ∧ Unlost rest

/-- Whatever is answered, the operation fails with the first write that is lost. -/
structure Reports (op : Operation α) : Prop where
  ensures : ∀ said, Unlost said →
    Ensures Noting Anything said op (fun _ said' => Unlost said') Reported

theorem unlost_nil : Unlost [] := by simp [Unlost]

theorem Unlost.next (h : Unlost said) {q : Ask} {x : q.Answer} {said' : List Said}
    (hs : Noting said q x said') (hx : lostWrite ⟨q, x⟩ = none) : Unlost said' := by
  rw [hs]
  intro y hy
  rcases List.mem_cons.1 hy with rfl | hy
  · exact hx
  · exact h y hy

theorem reports_pure (a : α) : Reports (pure a : Operation α) := ⟨fun _ h => ensures_pure h⟩

theorem Reports.bind {op : Operation α} {f : α → Operation β} (h : Reports op)
    (hf : ∀ a, Reports (f a)) : Reports (op >>= f) := by
  constructor
  intro said hs
  apply ensures_bind
  apply (h.ensures said hs).imp
  · intro a said' hs'
    exact (hf a).ensures said' hs'
  · intro e said' he
    exact he

theorem reports_ask {q : Ask} (hq : ∀ x, lostWrite ⟨q, x⟩ = none) : Reports (ask q) :=
  ⟨fun _ h => ensures_ask trivial fun x _ hs => h.next hs (hq x)⟩

/-- A call reports a lost write if what it makes of a failure is what a lost write means. -/
theorem reports_storeOr {onError : StoreError → AuthError} {q : Store.Request}
    (hq : ∀ e, lostWrite ⟨.store q, .error e⟩ = none ∨
      lostWrite ⟨.store q, .error e⟩ = some (onError e)) : Reports (storeOr onError q) := by
  constructor
  intro said h
  refine ensures_storeOr trivial (fun a said' hs => h.next hs ?_) fun e said' hs => ?_
  · cases q <;> rfl
  · rcases hq e with hnone | hsome
    · exact Or.inl (h.next hs hnone)
    · exact Or.inr ⟨_, said, hs, hsome, h⟩

/-! ## Operations that mint -/

/-- What is no write that can be lost is no lost write, whatever is answered. -/
theorem along_unlost {kind : Ask → Prop} (hk : ∀ q, kind q → ∀ x, lostWrite ⟨q, x⟩ = none)
    (h : Unlost said) :
    Along Noting Anything kind (fun said said' => Unlost said → Unlost said') said :=
  along_of_kept h (fun _ _ _ _ => trivial) fun _ _ _ _ ht hq hs => ht.next hs (hk _ hq _)

theorem unlost_of_preliminary : ∀ q : Ask, q.IsPreliminary → ∀ x, lostWrite ⟨q, x⟩ = none :=
  Ask.preliminary_cases (fun _ => rfl) (fun _ => rfl) (fun _ _ => rfl) (fun _ _ => rfl)
    fun _ _ => rfl

theorem conclude_reports {u : Int} {now : Time.Instant} {access refresh : Token.Issued}
    (he : Token.expiry s .access now = .ok access.expiresAt) :
    Reports (conclude s u now access refresh) :=
  ⟨fun said h => ensures_conclude he trivial (fun _ hs => h.next hs rfl)
    fun _ _ hs => Or.inr ⟨_, said, hs, rfl, h⟩⟩

theorem createPair_reports (u : Int) (email : String) (now : Time.Instant) :
    Reports (createPair s u email now) := by
  refine ⟨fun said h => ensures_createPair (along_unlost unlost_of_preliminary h)
    (fun _ _ h₁ _ => Or.inl (h₁ h)) fun access refresh said₁ h₁ hp => ?_⟩
  obtain ⟨_, _, _, _, haccess, _⟩ := hp
  have hdeposit : Reports (deposit s u now access refresh) :=
    (reports_storeOr fun _ => Or.inr rfl).bind fun _ => conclude_reports haccess.expiry
  exact hdeposit.ensures said₁ (h₁ h)

theorem register_reports (r : Registration) : Reports (register s r) := by
  refine ⟨fun said h => ensures_register (fun _ _ => Or.inl h) trivial
    fun birthDate salt said₁ _ hs => ?_⟩
  have hrest : Reports (do
      let u ← store (.createUser (newUser r (normalize r.email) birthDate
        (Password.hash salt r.password)))
      createPair s u (normalize r.email) (← clock)) := by
    refine Reports.bind (reports_storeOr fun _ => Or.inl rfl) fun u => ?_
    exact (reports_ask fun _ => rfl).bind fun now => createPair_reports ..
  exact hrest.ensures said₁ (h.next hs rfl)

theorem login_reports (email password : String) : Reports (login s email password) := by
  have hnone : ∀ q, LoginAsks email q → ∀ x, lostWrite ⟨q, x⟩ = none := by
    rintro _ (rfl | rfl) _ <;> rfl
  exact ⟨fun said h => ensures_login (along_unlost hnone h) (fun _ _ h₁ => Or.inl (h₁ h))
    fun _ _ said₁ h₁ _ _ => (createPair_reports ..).ensures said₁ (h₁ h)⟩

theorem confirmCode_reports (identifier code : String) :
    Reports (confirmCode s identifier code) := by
  have hnone : ∀ q, ConfirmationAsks s identifier q → ∀ x, lostWrite ⟨q, x⟩ = none := by
    rintro _ (rfl | rfl | rfl | rfl) _ <;> rfl
  exact ⟨fun said h => ensures_confirmCode (along_unlost hnone h) (fun _ _ h₁ => Or.inl (h₁ h))
    (fun _ h₁ _ => h₁ h) fun _ _ said₁ h₁ _ _ => (createPair_reports ..).ensures said₁ (h₁ h)⟩

theorem remint_reports (user : User) (now : Time.Instant) (next : Token.Issued) :
    Reports (remint s user now next) :=
  ⟨fun _ h => ensures_remint (along_unlost unlost_of_preliminary h) (fun _ => trivial) trivial
    (fun _ _ h₁ _ => Or.inl (h₁ h)) fun _ _ said₁ h₁ _ haccess =>
      (conclude_reports haccess.expiry).ensures said₁ (h₁ h)⟩

theorem refresh_reports (token : String) : Reports (refresh s token) := by
  refine ⟨fun said h => ensures_refresh (along_unlost unlost_of_preliminary h)
    (fun _ _ h₁ => Or.inl (h₁ h)) fun u user now next said₁ h₁ _ => ?_⟩
  have h₁ := h₁ h
  -- Here the failure of the write keeps the error of the store.
  exact ensures_rotate trivial (fun _ _ hs => Or.inr ⟨_, said₁, hs, rfl, h₁⟩)
    (fun _ hs => Or.inl (h₁.next hs rfl)) fun said₂ hs =>
      (remint_reports user now next).ensures said₂ (h₁.next hs rfl)

/-- The acts that mint a pair of tokens if they succeed. -/
def Act.Mints : Act → Prop
  | .mint _ _ _ => True
  | .call (.register _) | .call (.login _ _) | .call (.refresh _) | .call (.confirmCode _ _) => True
  | _ => False

theorem Act.operation_reports {a : Act} (ha : a.Mints) : Reports (a.operation s) := by
  cases a with
  | mint u email now => exact (createPair_reports u email now).bind fun _ => reports_pure _
  | call c =>
    cases c with
    | register r => exact (register_reports r).bind fun _ => reports_pure _
    | login email password => exact (login_reports email password).bind fun _ => reports_pure _
    | refresh token => exact (refresh_reports token).bind fun _ => reports_pure _
    | confirmCode identifier code =>
      exact (confirmCode_reports identifier code).bind fun _ => reports_pure _
    | _ => exact ha.elim

/-! ## How they end -/

theorem Unlost.absurd {x : Said} {e : AuthError} (h : Unlost said) (hx : x ∈ said)
    (he : lostWrite x = some e) : False := by
  rw [h x hx] at he
  cases he

theorem Reported.eq_of_mem {x : Said} {e e' : AuthError} (h : Reported e' said) (hx : x ∈ said)
    (he : lostWrite x = some e) : e' = e := by
  rcases h with hs | ⟨y, rest, rfl, hy, hrest⟩
  · exact (hs.absurd hx he).elim
  · rcases List.mem_cons.1 hx with rfl | hx
    · rw [he] at hy
      exact (Option.some.inj hy).symm
    · exact (hrest.absurd hx he).elim

theorem Reports.holds {op : Operation α} (h : Reports op) :
    Holds Noting Anything (fun said reply => ∀ x e, x ∈ said → lostWrite x = some e →
      reply = .error e) [] op.run := by
  apply (h.ensures [] unlost_nil).holds.imp
  intro said reply hend x e hx he
  cases reply with
  | ok a =>
    have hs : Unlost said := hend
    exact (hs.absurd hx he).elim
  | error e' =>
    have hs : Reported e' said := hend
    rw [hs.eq_of_mem hx he]

/-! ## A rotation that is lost -/

/-- While nothing but the rotation fails, a refresh that gets as far as that fails with the error of
the store. -/
theorem run_refresh_of_lost_rotation {w : World} {t : String} {claims : Claims}
    {record : RefreshRecord} {user : User} {refreshEnd : Time.Instant} {e : StoreError}
    (hfault : w.faults = [⟨"rotate_refresh_token", 0, .store e⟩])
    (hv : Token.verify t .refresh (Token.secretOf s .refresh) w.now.unixSeconds = .ok claims)
    (hr : w.store.findToken t = some record) (hunrevoked : record.isRevoked = false)
    (hin : record.isExpired w.now = false) (hu : w.store.findUser claims.userId = some user)
    (hend : Token.expiry s .refresh w.now = .ok refreshEnd) :
    (w.run false (refresh s t).run).1 = .error (.repository e) := by
  let next := Token.issueUntil s .refresh user.id "" [] w.now refreshEnd w.ids.next.1
  let issued : World := { w with ids := w.ids.next.2 }
  have hverify : Dialog.run (World.answer false) w (verify s .refresh t).run = (.ok claims, w) :=
    run_verify_of_ok hv
  have hclock : Dialog.run (World.answer false) w Operation.clock.run = (.ok w.now, w) := rfl
  have hrecord : Dialog.run (World.answer false) w (store (.findToken t)).run =
      (.ok (some record), w) := by
    apply World.run_storeOr_of_passes
    · simp [World.nextFailure, hfault, Store.Request.name]
    · rw [← hr]
      rfl
  have huser : Dialog.run (World.answer false) w (store (.findUser claims.userId)).run =
      (.ok (some user), w) := by
    apply World.run_storeOr_of_passes
    · simp [World.nextFailure, hfault, Store.Request.name]
    · rw [← hu]
      rfl
  have hissue : Dialog.run (World.answer false) w (issueRefresh s user.id w.now).run =
      (.ok next, issued) := run_issue hend
  have hrotate : Dialog.run (World.answer false) issued
      (store (.rotateToken claims.userId t next.token next.expiresAt)).run =
        (.error (.repository e), issued) := by
    apply World.run_storeOr_of_fails
    simp [World.nextFailure, issued, hfault, Store.Request.name]
  unfold refresh World.run
  rw [run_bind_of_ok _ hverify, run_bind_of_ok _ hclock, run_bind_of_ok _ hrecord,
    run_bind_of_ok (a := record) (r := w) _ rfl, run_bind_of_ok _ (Dialog.run_failIf hunrevoked),
    run_bind_of_ok _ (Dialog.run_failIf hin), run_bind_of_ok _ huser,
    run_bind_of_ok (a := user) (r := w) _ rfl, run_bind_of_ok _ hissue]
  exact congrArg Prod.fst (run_bind_of_error (α := Bool) _ hrotate)

/-! ## What anybody says -/

/-- Answers as somebody does, and notes what is said. -/
def noting {σ : Type} (answer : σ → (q : Ask) → q.Answer × σ) (t : σ × List Said) (q : Ask) :
    q.Answer × (σ × List Said) :=
  ((answer t.1 q).1, ((answer t.1 q).2, ⟨q, (answer t.1 q).1⟩ :: t.2))

/-- Whoever answers, what is noted of a dialog has been said in it. -/
theorem leads_noting {σ : Type} (answer : σ → (q : Ask) → q.Answer × σ) (t : σ)
    (said : List Said) (d : Program α) :
    Leads Noting said d (Dialog.run (noting answer) (t, said) d).1
      (Dialog.run (noting answer) (t, said) d).2.2 := by
  induction d generalizing t said with
  | done a => exact .done said a
  | ask q next ih => exact .ask rfl (ih _ _ _)

end Session

end SignIn
