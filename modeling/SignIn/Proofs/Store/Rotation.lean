-- What a rotation of refresh tokens promises, and when it keeps the promise.
-- A token is stored under a text that is free; a rotation does not look
-- whether its new text is, and takes the place of a record that has it.
import SignIn.Proofs.Store.Coherence
import SignIn.Proofs.Store.Counting

namespace SignIn.Store.Memory

variable {m : Memory} {now expiresAt : Time.Instant} {u : Int} {t old new : String}
  {r : RefreshRecord}

/-! ## Ids of records -/

/-- No record has an id beyond the latest one. -/
def IsCounted (m : Memory) : Prop := ∀ t r, (t, r) ∈ m.tokens → r.id ≤ m.lastTokenId

theorem isCounted_empty (roles : List (Int × List String)) (defaultRole : Option Int) :
    (empty roles defaultRole).IsCounted := fun _ _ h => absurd h List.not_mem_nil

theorem IsCounted.of_subset (h : m.IsCounted) {m' : Memory} (hs : m'.tokens ⊆ m.tokens)
    (hlast : m'.lastTokenId = m.lastTokenId) : m'.IsCounted := by
  intro t r hm
  rw [hlast]
  exact h t r (hs hm)

/-- Records that are changed and keep their ids stay within the ids given. -/
theorem IsCounted.of_map (h : m.IsCounted) {m' : Memory}
    {f : String × RefreshRecord → String × RefreshRecord} (hf : ∀ e, (f e).2.id = e.2.id)
    (hm : m'.tokens = m.tokens.map f) (hlast : m'.lastTokenId = m.lastTokenId) :
    m'.IsCounted := by
  intro t r hr
  rw [hm] at hr
  obtain ⟨e, he, heq⟩ := List.mem_map.1 hr
  have hid := hf e
  rw [heq] at hid
  rw [hlast, show r.id = e.2.id from hid]
  exact h e.1 e.2 he

theorem IsCounted.mapToken (h : m.IsCounted) (t : String) {f : RefreshRecord → RefreshRecord}
    (hf : ∀ r, (f r).id = r.id) : (m.mapToken t f).IsCounted := by
  refine h.of_map (fun e => ?_) rfl rfl
  dsimp only
  split
  · exact hf e.2
  · rfl

theorem IsCounted.putToken (h : m.IsCounted) (now : Time.Instant) (u : Int) (t : String)
    (expiresAt : Time.Instant) : (m.putToken now u t expiresAt).IsCounted := by
  intro t' r hr
  change r.id ≤ m.lastTokenId + 1
  rcases List.mem_append.1 hr with hr | hr
  · have := h t' r (List.mem_filter.1 hr).1
    omega
  · cases List.mem_singleton.1 hr
    simp

theorem IsCounted.answer (h : m.IsCounted) (now : Time.Instant) (q : Request) :
    (m.answer now q).2.IsCounted := by
  cases q with
  | createUser new =>
    change (m.createUser now new).2.IsCounted
    unfold createUser
    split <;> exact h
  | softDelete id =>
    change (m.softDelete now id).2.IsCounted
    unfold softDelete
    split <;> exact h
  | findUser | findCredentials | findByPhone | emailExists | permissionsOf | findToken => exact h
  | createToken u t expiresAt =>
    change (m.createToken now u t expiresAt).2.IsCounted
    unfold createToken
    split
    · exact h
    · exact h.putToken now u t expiresAt
  | rotateToken u old new expiresAt =>
    change (m.rotateToken now u old new expiresAt).2.IsCounted
    rcases rotateToken_cases m now u old new expiresAt with he | ⟨_, _, _, _, he⟩
    · rw [he]
      exact h
    · rw [he]
      apply IsCounted.putToken
      apply h.mapToken
      intro r
      rfl
  | revokeToken t =>
    change (m.revokeToken now t).2.IsCounted
    unfold revokeToken
    split
    · exact h
    · split
      · exact h
      · exact h.mapToken t fun _ => rfl
  | revokeAll u =>
    refine h.of_map (fun e => ?_) rfl rfl
    dsimp only
    split <;> rfl
  | purge olderThan => exact h.of_subset (fun _ hm => (List.mem_filter.1 hm).1) rfl

/-- Whatever the store is asked, the ids of its records stay within those given. -/
theorem isCounted_afterAll (roles : List (Int × List String)) (defaultRole : Option Int)
    (inquiries : List Inquiry) : ((empty roles defaultRole).afterAll inquiries).IsCounted :=
  afterAll_keeps (P := IsCounted) (fun _ now q h => h.answer now q) inquiries
    (isCounted_empty roles defaultRole)

/-! ## Records by their texts -/

/-- A token that has been stored is found with its new record, whatever was there before. -/
theorem findToken_putToken_self (m : Memory) (now : Time.Instant) (u : Int) (t : String)
    (expiresAt : Time.Instant) : (m.putToken now u t expiresAt).findToken t =
      some ⟨m.lastTokenId + 1, u, now, expiresAt, none⟩ := by
  have hgone : (m.tokens.filter fun e => e.1 != t).lookup t = none := by
    apply List.lookup_eq_none_iff.2
    intro e he
    have hne := (List.mem_filter.1 he).2
    simpa [bne, Bool.beq_comm] using hne
  unfold findToken putToken
  change List.lookup t ((m.tokens.filter fun e => e.1 != t) ++ [_]) = _
  simp [List.lookup_append, hgone]

theorem findToken_mapToken_of_ne (h : t ≠ old) (m : Memory) (f : RefreshRecord → RefreshRecord) :
    (m.mapToken old f).findToken t = m.findToken t := by
  unfold findToken mapToken
  dsimp only
  induction m.tokens with
  | nil => rfl
  | cons e es ih =>
    obtain ⟨t', r⟩ := e
    simp only [List.map_cons]
    by_cases ht : t' = old
    · simp only [ht, if_true, List.lookup_cons, beq_false_of_ne h]
      exact ih
    · simp only [ht, if_false, List.lookup_cons]
      rw [ih]

/-! ## Rotations -/

/-- The old token may be replaced: it is the user's, not revoked, and its time is not over. -/
def MayRotate (m : Memory) (now : Time.Instant) (u : Int) (old : String) : Prop :=
  ∃ r, m.findToken old = some r ∧ r.userId = u ∧ r.isRevoked = false ∧ now < r.expiresAt

/-- What a rotation that is done makes of a store: it replaces a token that may be replaced by one
that was not there, under an id that no record had, and leaves all else as it was. -/
structure Rotates (m m' : Memory) (now : Time.Instant) (u : Int) (old new : String)
    (expiresAt : Time.Instant) : Prop where
  may_rotate : m.MayRotate now u old
  revoked : m'.findToken old = (m.findToken old).map (revokedAt now)
  unstored : m.findToken new = none
  stored : ∃ id, m'.findToken new = some ⟨id, u, now, expiresAt, none⟩ ∧
    ∀ t r, (t, r) ∈ m.tokens → r.id < id
  others : ∀ t, t ≠ old → t ≠ new → m'.findToken t = m.findToken t
  accounts : m'.rows = m.rows ∧ m'.lastUserId = m.lastUserId ∧ m'.roles = m.roles

/-- A rotation leaves the store untouched, or it is done as promised. -/
def KeepsPromise (m : Memory) (now : Time.Instant) (u : Int) (old new : String)
    (expiresAt : Time.Instant) : Prop :=
  (m.rotateToken now u old new expiresAt).2 = m ∨
    (m.rotateToken now u old new expiresAt).1 = true ∧
      m.Rotates (m.rotateToken now u old new expiresAt).2 now u old new expiresAt

theorem rotateToken_of_mayRotate (h : m.MayRotate now u old) (new : String)
    (expiresAt : Time.Instant) : m.rotateToken now u old new expiresAt =
      (true, (m.mapToken old (revokedAt now)).putToken now u new expiresAt) := by
  obtain ⟨r, hfound, howner, hunrevoked, hend⟩ := h
  exact rotateToken_of_active hfound howner (isActive_iff.2 ⟨hunrevoked, hend⟩)

theorem rotateToken_of_not_mayRotate (h : ¬ m.MayRotate now u old) (new : String)
    (expiresAt : Time.Instant) : m.rotateToken now u old new expiresAt = (false, m) := by
  rcases rotateToken_cases m now u old new expiresAt with he | ⟨r, hfound, howner, hactive, _⟩
  · exact he
  · have ⟨hunrevoked, hend⟩ := isActive_iff.1 hactive
    exact absurd ⟨r, hfound, howner, hunrevoked, hend⟩ h

/-- A rotation to a text that is free does all that it promises. -/
theorem IsCounted.rotates (h : m.IsCounted) (hmay : m.MayRotate now u old)
    (hnew : m.findToken new = none) (expiresAt : Time.Instant) :
    m.Rotates ((m.mapToken old (revokedAt now)).putToken now u new expiresAt) now u old new
      expiresAt := by
  obtain ⟨r, hfound, _⟩ := id hmay
  have hne : old ≠ new := by
    intro he
    rw [he, hnew] at hfound
    cases hfound
  refine ⟨hmay, ?_, hnew, ⟨m.lastTokenId + 1, ?_, fun t r hr => ?_⟩, fun t hold hnew => ?_, ?_⟩
  · rw [findToken_rotated hfound hne, hfound]
    rfl
  · exact findToken_putToken_self _ now u new expiresAt
  · have := h t r hr
    omega
  · rw [findToken_putToken hnew, findToken_mapToken_of_ne hold]
  · exact ⟨rfl, rfl, rfl⟩

/-- **A rotation keeps its promise** exactly where its new text is free: it is refused and leaves
the store untouched, or the old token is revoked and the new one is stored with a new id, and no
other record is touched. -/
theorem keepsPromise_iff (h : m.IsCounted) (now : Time.Instant) (u : Int) (old new : String)
    (expiresAt : Time.Instant) : m.KeepsPromise now u old new expiresAt ↔
      (m.MayRotate now u old → m.findToken new = none) := by
  constructor
  · rintro (hsame | ⟨_, hrotates⟩) hmay
    · -- A rotation that is done gives an id, so the store is not the same.
      rw [rotateToken_of_mayRotate hmay] at hsame
      have hlast : m.lastTokenId + 1 = m.lastTokenId := congrArg lastTokenId hsame
      omega
    · exact hrotates.unstored
  · intro hfree
    by_cases hmay : m.MayRotate now u old
    · refine Or.inr ?_
      rw [rotateToken_of_mayRotate hmay]
      exact ⟨rfl, h.rotates hmay (hfree hmay) expiresAt⟩
    · exact Or.inl (by rw [rotateToken_of_not_mayRotate hmay])

/-- A rotation to a text that is stored puts a new record in the place of the one there, whosever
that was and even if it was revoked. -/
theorem findToken_rotateToken_new (hmay : m.MayRotate now u old) (new : String)
    (expiresAt : Time.Instant) : (m.rotateToken now u old new expiresAt).2.findToken new =
      some ⟨m.lastTokenId + 1, u, now, expiresAt, none⟩ := by
  rw [rotateToken_of_mayRotate hmay]
  exact findToken_putToken_self _ now u new expiresAt

/-- A token of one user, and one of another user that is revoked. -/
def sampleTokens : Memory :=
  (empty [] none).afterAll
    [⟨.createToken 1 "a" .latest, .epoch, false⟩, ⟨.createToken 2 "b" .latest, .epoch, false⟩,
      ⟨.revokeToken "b", .epoch, false⟩]

theorem sampleTokens_mayRotate : sampleTokens.MayRotate .epoch 1 "a" :=
  ⟨⟨1, 1, .epoch, .latest, none⟩, by decide, rfl, rfl, by decide⟩

theorem sampleTokens_keep_promise : sampleTokens.IsCounted ∧
    sampleTokens.KeepsPromise .epoch 1 "a" "c" .latest ∧
    ¬ sampleTokens.KeepsPromise .epoch 1 "a" "b" .latest := by
  have hcounted : sampleTokens.IsCounted := isCounted_afterAll _ _ _
  refine ⟨hcounted, ?_, fun hkeeps => ?_⟩
  · apply (keepsPromise_iff hcounted .epoch 1 "a" "c" .latest).2
    intro _
    decide
  · have hfree := (keepsPromise_iff hcounted .epoch 1 "a" "b" .latest).1 hkeeps
      sampleTokens_mayRotate
    revert hfree
    decide

/-- The revoked token of the other user becomes a usable one of the first; and a token that is
rotated to itself is as usable as before. -/
theorem sampleTokens_break_promise :
    let m := sampleTokens
    let rotated := m.rotateToken .epoch 1 "a" "b" .latest
    let again := m.rotateToken .epoch 1 "a" "a" .latest
    (¬ m.KeepsPromise .epoch 1 "a" "b" .latest ∧ rotated.1 = true ∧
      m.findToken "b" = some ⟨2, 2, .epoch, .latest, some .epoch⟩ ∧
      rotated.2.findToken "b" = some ⟨3, 1, .epoch, .latest, none⟩) ∧
    (¬ m.KeepsPromise .epoch 1 "a" "a" .latest ∧ again.1 = true ∧
      again.2.findToken "a" = some ⟨3, 1, .epoch, .latest, none⟩) := by
  intro m rotated again
  have hbroken : ∀ new, m.findToken new ≠ none →
      (m.rotateToken .epoch 1 "a" new .latest).2.lastTokenId ≠ m.lastTokenId →
      ¬ m.KeepsPromise .epoch 1 "a" new .latest := by
    rintro new hstored hlast (hsame | ⟨_, hrotates⟩)
    · exact hlast (congrArg lastTokenId hsame)
    · exact hstored hrotates.unstored
  exact ⟨⟨hbroken "b" (by decide) (by decide), by decide, by decide,
    findToken_rotateToken_new sampleTokens_mayRotate "b" .latest⟩,
    hbroken "a" (by decide) (by decide), by decide,
    findToken_rotateToken_new sampleTokens_mayRotate "a" .latest⟩

end SignIn.Store.Memory
