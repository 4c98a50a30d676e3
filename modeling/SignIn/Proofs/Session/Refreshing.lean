-- What is said while a refresh token is exchanged: lookups, then at most one
-- rotation, and only after a rotation that was done the marker is written.
import SignIn.Proofs.Pool
import SignIn.Proofs.Session.Effects

namespace SignIn.Session

open Operation
open Dialog (Ensures Along Noting ensures_pure ensures_throw ensures_bind ensures_failIf
  ensures_orFail ensures_ofExcept)

variable {s : Settings} {t : String} {said : List Said}

/-! ## What has been said -/

theorem Names.unique {u v : Int} (hu : Names s t u) (hv : Names s t v) : u = v := by
  obtain ⟨a, ha, rfl⟩ := hu
  obtain ⟨b, hb, rfl⟩ := hv
  rw [ha] at hb
  cases hb
  rfl

/-- A refresh token has an active record, of the user that it names. -/
def IsUsable (s : Settings) (w : World) (t : String) : Prop :=
  ∃ r, w.store.findToken t = some r ∧ Names s t r.userId ∧ r.isActive w.now = true

/-- An account has been found. -/
def FoundUser (said : List Said) : Prop := ∃ x ∈ said, x.foundUser.isSome = true

/-- A rotation has been asked for. -/
def AskedToRotate (said : List Said) : Prop := ∃ x ∈ said, x.1.isRotation = true

/-- A marker was to be written. -/
def AskedToMark (said : List Said) : Prop := ∃ x ∈ said, x.1.isMark = true

/-- A rotation of the token has been answered so. -/
def Rotated (t : String) (done : Bool) (said : List Said) : Prop :=
  ∃ x ∈ said, x.rotation = some (t, done)

/-- A rotation of the token has been asked for. -/
def RotationAsked (t : String) (said : List Said) : Prop :=
  ∃ x ∈ said, ∃ u new expiresAt, x.1 = .store (.rotateToken u t new expiresAt)

theorem RotationAsked.askedToRotate (h : RotationAsked t said) : AskedToRotate said := by
  obtain ⟨x, hx, u, new, expiresAt, he⟩ := h
  exact ⟨x, hx, by rw [he]; rfl⟩

theorem Rotated.rotationAsked {done : Bool} (h : Rotated t done said) : RotationAsked t said := by
  obtain ⟨⟨q, a⟩, hx, hr⟩ := h
  refine ⟨⟨q, a⟩, hx, ?_⟩
  cases q with
  | store q =>
    cases q with
    | rotateToken u old new expiresAt =>
      cases a with
      | ok b =>
        cases hr
        exact ⟨u, new, expiresAt, rfl⟩
      | error e => cases hr
    | _ => cases hr
  | _ => cases hr

/-! ## The exchange of a token -/

/-- What may be asked while a token is exchanged, after what has been said. -/
inductive RefreshAsks (s : Settings) (t : String) (said : List Said) : Ask → Prop
  | clock (h : ¬ FoundUser said) : RefreshAsks s t said .clock
  | findToken (h : ¬ FoundUser said) : RefreshAsks s t said (.store (.findToken t))
  | findUser (h : ¬ FoundUser said) {u : Int} (hu : Names s t u) :
    RefreshAsks s t said (.store (.findUser u))
  | refreshId (h : ¬ AskedToRotate said) : RefreshAsks s t said .freshId
  | rotate (h : ¬ AskedToRotate said) {u : Int} (hu : Names s t u) (new : String)
    (expiresAt : Time.Instant) : RefreshAsks s t said (.store (.rotateToken u t new expiresAt))
  | permissions (h : Rotated t true said) (role : Int) :
    RefreshAsks s t said (.store (.permissionsOf role))
  | accessId (h : Rotated t true said) : RefreshAsks s t said .freshId
  | mark (h : Rotated t true said) {u : Int} {user : User} (hu : Names s t u)
    (hf : ∃ x ∈ said, x.foundUser = some (u, user)) (id : String) (left : Time.Duration) :
    RefreshAsks s t said (.cache (.set (s.accessKey user.id) id left))

/-- The marker is written only once the token is rotated. -/
theorem RefreshAsks.rotated_of_isMark {q : Ask} (h : RefreshAsks s t said q)
    (hm : q.isMark = true) : Rotated t true said := by
  cases h with
  | mark h => exact h
  | clock | findToken | findUser | refreshId | rotate | permissions | accessId => cases hm

/-- Nothing more is asked once the marker is written. -/
def RefreshTalk (s : Settings) (t : String) (said : List Said) (q : Ask) : Prop :=
  ¬ AskedToMark said ∧ RefreshAsks s t said q

/-- How the exchange of a token may end. -/
structure RefreshEnds (t : String) {α : Type} (said : List Said) (r : Except AuthError α) :
    Prop where
  won : ∀ a, r = .ok a → Rotated t true said
  lost : Rotated t false said → r = .error .refreshTokenInvalid
  drawn : (∃ x ∈ said, x.1 = .freshId ∨ x.1.isRotation = true) → RotationAsked t said

/-- Without a rotation the exchange fails, if no id has been drawn for the new token. -/
theorem refreshEnds_error {α : Type} (e : AuthError) (h : ¬ AskedToRotate said)
    (hd : ∀ x ∈ said, x.1 ≠ .freshId) :
    RefreshEnds (α := α) t said (.error e) where
  won _ ha := nomatch ha
  lost hr := absurd hr.rotationAsked.askedToRotate h
  drawn := fun ⟨x, hx, hq⟩ => absurd hq (not_or.2 ⟨hd x hx, fun hr => h ⟨x, hx, hr⟩⟩)

theorem unmarked_next (h : ¬ AskedToMark said) {q : Ask} {a : q.Answer} {said' : List Said}
    (hs : Noting said q a said') (hx : q.isMark = false) : ¬ AskedToMark said' := by
  rw [hs]
  rintro ⟨y, hy, hm⟩
  rcases List.mem_cons.1 hy with rfl | hy
  · rw [hx] at hm
    cases hm
  · exact h ⟨y, hy, hm⟩

/-- The token has been rotated for a user who was found. -/
structure IsRotated (t : String) (u : Int) (user : User) (said : List Said) : Prop where
  done : Rotated t true said
  notRefused : ¬ Rotated t false said
  found : ∃ x ∈ said, x.foundUser = some (u, user)

theorem IsRotated.next {u : Int} {user : User} (h : IsRotated t u user said) {q : Ask}
    {a : q.Answer} {said' : List Said} (hs : Noting said q a said')
    (hx : Said.rotation ⟨q, a⟩ = none) : IsRotated t u user said' := by
  rw [hs]
  obtain ⟨⟨y, hy, hd⟩, hn, ⟨z, hz, hf⟩⟩ := h
  refine ⟨⟨y, .tail _ hy, hd⟩, fun ⟨v, hv, hr⟩ => ?_, ⟨z, .tail _ hz, hf⟩⟩
  rcases List.mem_cons.1 hv with rfl | hv
  · rw [hx] at hr
    cases hr
  · exact hn ⟨v, hv, hr⟩

/-- Once the token is rotated, its exchange may end anyhow. -/
theorem IsRotated.refreshEnds {u : Int} {user : User} (h : IsRotated t u user said) {α : Type}
    (r : Except AuthError α) : RefreshEnds t said r where
  won _ _ := h.done
  lost hr := absurd hr h.notRefused
  drawn _ := h.done.rotationAsked

/-- What is said once the token is rotated. -/
theorem remint_talks {u : Int} {user : User} (hu : Names s t u) (h : IsRotated t u user said)
    (hm : ¬ AskedToMark said) (now : Time.Instant) (next : Token.Issued) :
    Ensures Noting (RefreshTalk s t) said (remint s user now next)
      (fun pair said => RefreshEnds t said (.ok pair))
      fun e said => RefreshEnds (α := TokenPair) t said (.error e) := by
  have halong : Along Noting (RefreshTalk s t)
      (fun q => q = .freshId ∨ ∃ role, q = .store (.permissionsOf role))
      (fun said said' => IsRotated t u user said ∧ ¬ AskedToMark said →
        IsRotated t u user said' ∧ ¬ AskedToMark said') said := by
    refine Dialog.along_of_kept ⟨h, hm⟩ ?_ ?_
    · rintro said' _ ⟨h, hm⟩ (rfl | ⟨role, rfl⟩)
      · exact ⟨hm, .accessId h.done⟩
      · exact ⟨hm, .permissions h.done role⟩
    · rintro said' _ a said'' ⟨h, hm⟩ (rfl | ⟨role, rfl⟩) hs
      · exact ⟨h.next hs rfl, unmarked_next hm hs rfl⟩
      · exact ⟨h.next hs rfl, unmarked_next hm hs rfl⟩
  refine ensures_remint halong (fun role => Or.inr ⟨role, rfl⟩) (Or.inl rfl)
    (fun e said₁ h₁ _ => (h₁ ⟨h, hm⟩).1.refreshEnds _) fun permissions access said₁ h₁ _ ha => ?_
  obtain ⟨h₁, hm₁⟩ := h₁ ⟨h, hm⟩
  exact ensures_conclude ha.expiry ⟨hm₁, .mark h₁.done hu h₁.found _ _⟩
    (fun said₂ h₂ => (h₁.next h₂ rfl).refreshEnds _)
    fun c said₂ h₂ => (h₁.next h₂ rfl).refreshEnds _

/-- Nothing has been said but lookups that found no account. -/
structure IsLookingUp (said : List Said) : Prop where
  found : ¬ FoundUser said
  rotate : ¬ AskedToRotate said
  unmarked : ¬ AskedToMark said
  undrawn : ∀ x ∈ said, x.1 ≠ .freshId

theorem IsLookingUp.next (h : IsLookingUp said) {q : Ask} {a : q.Answer} {said' : List Said}
    (hn : Noting said q a said') (hf : Said.foundUser ⟨q, a⟩ = none) (hr : q.isRotation = false)
    (hm : q.isMark = false) (hd : q ≠ .freshId) : IsLookingUp said' := by
  rw [hn]
  refine ⟨fun ⟨y, hy, hy'⟩ => ?_, fun ⟨y, hy, hy'⟩ => ?_, unmarked_next h.unmarked rfl hm,
    fun y hy => ?_⟩
  all_goals rcases List.mem_cons.1 hy with rfl | hy
  · rw [hf] at hy'
    cases hy'
  · exact h.found ⟨y, hy, hy'⟩
  · rw [hr] at hy'
    cases hy'
  · exact h.rotate ⟨y, hy, hy'⟩
  · exact hd
  · exact h.undrawn y hy

theorem IsLookingUp.refreshEnds (h : IsLookingUp said) {α : Type} (e : AuthError) :
    RefreshEnds (α := α) t said (.error e) := refreshEnds_error e h.rotate h.undrawn

theorem unrotated_next (h : ¬ AskedToRotate said) {q : Ask} {a : q.Answer} {said' : List Said}
    (hs : Noting said q a said') (hx : q.isRotation = false) : ¬ AskedToRotate said' := by
  rw [hs]
  rintro ⟨y, hy, hr⟩
  rcases List.mem_cons.1 hy with rfl | hy
  · rw [hx] at hr
    cases hr
  · exact h ⟨y, hy, hr⟩

/-- How the one rotation turns out. -/
theorem rotated_cons_iff (h : ¬ AskedToRotate said) {x : Said} {done : Bool} :
    Rotated t done (x :: said) ↔ x.rotation = some (t, done) := by
  refine ⟨fun ⟨y, hy, hr⟩ => ?_, fun hx => ⟨x, .head said, hx⟩⟩
  rcases List.mem_cons.1 hy with rfl | hy
  · exact hr
  · exact absurd (Rotated.rotationAsked ⟨y, hy, hr⟩).askedToRotate h

/-- No account has been found but that of the user, and nothing asked for behind it. -/
structure IsFound (u : Int) (user : User) (said : List Said) : Prop where
  found : ∃ x ∈ said, x.foundUser = some (u, user)
  rotate : ¬ AskedToRotate said
  unmarked : ¬ AskedToMark said

/-- What is said once the new refresh token is issued: a rotation that is lost, refused or done. -/
theorem rotate_talks {u : Int} {user : User} (hu : Names s t u) (h : IsFound u user said)
    (now : Time.Instant) (next : Token.Issued) :
    Ensures Noting (RefreshTalk s t) said (rotate s t u user now next)
      (fun pair said => RefreshEnds t said (.ok pair))
      fun e said => RefreshEnds (α := TokenPair) t said (.error e) := by
  refine ensures_rotate ⟨h.unmarked, .rotate h.rotate hu _ _⟩ (fun c said₁ hs => ?_)
    (fun said₁ hs => ?_) fun said₁ hs => ?_
  · rw [hs]
    refine ⟨nofun, fun hr => ?_, fun _ => ⟨_, .head _, u, _, _, rfl⟩⟩
    cases (rotated_cons_iff h.rotate).1 hr
  · rw [hs]
    exact ⟨nofun, fun _ => rfl, fun _ => ⟨_, .head _, u, _, _, rfl⟩⟩
  · have hm := unmarked_next h.unmarked hs rfl
    subst hs
    obtain ⟨x, hx, hx'⟩ := h.found
    refine remint_talks hu ⟨(rotated_cons_iff h.rotate).2 rfl, fun hr => ?_, x, .tail _ hx, hx'⟩ hm
      now _
    cases (rotated_cons_iff h.rotate).1 hr

/-- What is said once the user is found. -/
theorem exchange_talks {u : Int} {user : User} (hu : Names s t u) (h : IsFound u user said)
    (hd : ∀ x ∈ said, x.1 ≠ .freshId) (now : Time.Instant) :
    Ensures Noting (RefreshTalk s t) said (exchange s t u user now)
      (fun pair said => RefreshEnds t said (.ok pair))
      fun e said => RefreshEnds (α := TokenPair) t said (.error e) := by
  unfold exchange issueRefresh issue
  refine ensures_bind (ensures_bind (ensures_ofExcept (fun expiresAt _ => ?_) fun e _ =>
    refreshEnds_error e h.rotate hd))
  refine ensures_bind (ensures_ask ⟨h.unmarked, .refreshId h.rotate⟩ fun id said₁ h₁ =>
    ensures_pure ?_)
  have hr₁ := unrotated_next h.rotate h₁ rfl
  have hm₁ := unmarked_next h.unmarked h₁ rfl
  subst h₁
  obtain ⟨x, hx, hx'⟩ := h.found
  exact rotate_talks hu ⟨⟨x, .tail _ hx, hx'⟩, hr₁, hm₁⟩ now _

/-- Whatever is answered, the exchange of a token asks for what it may and ends as it may. -/
theorem refresh_talks :
    Ensures Noting (RefreshTalk s t) [] (refresh s t)
      (fun pair said => RefreshEnds t said (.ok pair))
      fun e said => RefreshEnds (α := TokenPair) t said (.error e) := by
  have h₀ : IsLookingUp [] := by
    refine ⟨?_, ?_, ?_, ?_⟩ <;> simp [FoundUser, AskedToRotate, AskedToMark]
  have htime : Along Noting (RefreshTalk s t) (fun q => q = .clock)
      (fun said said' => IsLookingUp said → IsLookingUp said') [] := by
    refine Dialog.along_of_kept h₀ ?_ ?_
    · rintro said _ h rfl
      exact ⟨h.unmarked, .clock h.found⟩
    · rintro said _ a said' h rfl hs
      exact h.next hs rfl rfl rfl nofun
  rw [refresh_eq]
  refine ensures_bind ((htime.ensures (verify_freely s .refresh t)).imp (fun c said₁ h₁ => ?_)
    fun e _ h => (h.2 h₀).refreshEnds e)
  obtain ⟨⟨signed, hsigned, hclaims⟩, h₁⟩ := h₁
  have hu : Names s t c.userId := ⟨signed, hsigned, by rw [hclaims]⟩
  have h₁ := h₁ h₀
  refine ensures_bind (ensures_ask ⟨h₁.unmarked, .clock h₁.found⟩ fun now said₂ h₂ => ?_)
  have h₂' := h₁.next h₂ rfl rfl rfl nofun
  refine ensures_bind (ensures_storeOr ⟨h₂'.unmarked, .findToken h₂'.found⟩
    (fun found said₃ h₃ => ?_) fun e said₃ h₃ => ?_)
  · have h₃' := h₂'.next h₃ rfl rfl rfl nofun
    refine ensures_bind (ensures_orFail (fun record _ => ?_) fun _ => h₃'.refreshEnds _)
    refine ensures_bind (ensures_failIf (fun _ => h₃'.refreshEnds _) fun _ => ?_)
    refine ensures_bind (ensures_failIf (fun _ => h₃'.refreshEnds _) fun _ => ?_)
    refine ensures_bind (ensures_storeOr ⟨h₃'.unmarked, .findUser h₃'.found hu⟩
      (fun found said₄ h₄ => ?_) fun e said₄ h₄ => ?_)
    · cases found with
      | none =>
        exact ensures_bind (ensures_throw ((h₃'.next h₄ rfl rfl rfl nofun).refreshEnds _))
      | some user =>
        have hr₄ := unrotated_next h₃'.rotate h₄ rfl
        have hm₄ := unmarked_next h₃'.unmarked h₄ rfl
        subst h₄
        refine ensures_bind (ensures_pure ?_)
        refine exchange_talks hu ⟨⟨_, .head _, rfl⟩, hr₄, hm₄⟩ (fun x hx => ?_) now
        rcases List.mem_cons.1 hx with rfl | hx
        · exact nofun
        · exact h₃'.undrawn x hx
    · exact (h₃'.next h₄ rfl rfl rfl nofun).refreshEnds _
  · exact (h₂'.next h₃ rfl rfl rfl nofun).refreshEnds _

/-- The same holds of the call. -/
theorem refreshCall_talks :
    Dialog.Holds Noting (RefreshTalk s t) (RefreshEnds t) [] (Call.program s (.refresh t)) := by
  have hpost : ∀ (pair : TokenPair) (said : List Said), RefreshEnds t said (.ok pair) →
      RefreshEnds t said (.ok (some pair) : Reply) := fun pair said h =>
    ⟨fun _ _ => h.won pair rfl, fun hr => (nomatch h.lost hr), h.drawn⟩
  have hfail : ∀ (e : AuthError) (said : List Said),
      RefreshEnds (α := TokenPair) t said (.error e) → RefreshEnds t said (.error e : Reply) :=
    fun e said h => ⟨nofun, fun hr => by cases h.lost hr; rfl, h.drawn⟩
  have h : Ensures Noting (RefreshTalk s t) [] (Call.operation s (.refresh t))
      (fun a said => RefreshEnds t said (.ok a)) fun e said => RefreshEnds t said (.error e) :=
    ensures_bind (refresh_talks.imp (fun pair said h => ensures_pure (hpost pair said h)) hfail)
  exact h.holds_run

/-- The calls of operations that are about to begin. -/
def begin (s : Settings) (w : World) (calls : List Call) : Pool Reply :=
  Pool.start w (calls.map (Call.program s))

end SignIn.Session
