-- Histories of the service: acts that are carried out one after the other,
-- and time that passes. What each question of an act keeps, a history keeps.
import SignIn.Proofs.Session.Acts
import SignIn.Proofs.Session.Revocation
import SignIn.Proofs.Session.Runs

namespace SignIn

/-- Whose refresh token a question asks to store, and its text. -/
def Ask.stores : Ask → Option (Int × String)
  | .store q => q.stores
  | _ => none

namespace Session

open Store.Memory (HasUser Gone Apart IsKeyed)
open World (Turn)

/-- Something that happens to the service: an act, whose caller may have given up, or time that
passes. -/
inductive Happening
  | act (cancelled : Bool) (a : Act)
  | pass (wallNanos : Int) (tickNanos : Nat)
  deriving DecidableEq

/-- What it makes of the world. -/
def Happening.next (s : Settings) (w : World) : Happening → World
  | .act cancelled a => (w.run cancelled (a.program s)).2
  | .pass wallNanos tickNanos => w.advance wallNanos tickNanos

/-- The pair that it mints, if it mints one. -/
def Happening.minted (s : Settings) (w : World) : Happening → List TokenPair
  | .act cancelled a => (mintedBy (w.run cancelled (a.program s)).1).toList
  | .pass _ _ => []

/-- The refresh tokens that are to be stored meanwhile, and whose they are. -/
def Happening.stored (s : Settings) (w : World) : Happening → List (Int × String)
  | .act cancelled a => (w.asked cancelled (a.program s)).filterMap fun x => x.2.stores
  | .pass _ _ => []

/-- The world after a history. -/
def after (s : Settings) (w : World) (history : List Happening) : World :=
  history.foldl (Happening.next s) w

/-- What comes of the happenings of a history, each in the world that it meets. -/
def collect {α : Type} (f : World → Happening → List α) (s : Settings) (w : World) :
    List Happening → List α
  | [] => []
  | h :: later => f w h ++ collect f s (h.next s w) later

/-- The pairs that are minted in a history, oldest first. -/
def mintedIn (s : Settings) (w : World) (history : List Happening) : List TokenPair :=
  collect (Happening.minted s) s w history

/-- The refresh tokens that are to be stored in a history, oldest first. -/
def storedIn (s : Settings) (w : World) (history : List Happening) : List (Int × String) :=
  collect (Happening.stored s) s w history

variable {s : Settings} {w : World} {history : List Happening} {u : Int} {t : String}

/-! ## Histories in parts -/

theorem after_nil (w : World) : after s w [] = w := rfl

theorem after_cons (w : World) (h : Happening) (later : List Happening) :
    after s w (h :: later) = after s (h.next s w) later := rfl

theorem next_register (w : World) (r : Registration) :
    (Happening.act false (.call (.register r))).next s w = (w.run false (register s r).run).2 := by
  change (w.run false (Call.program s (.register r))).2 = _
  rw [run_call_register]

theorem after_append (w : World) (before later : List Happening) :
    after s w (before ++ later) = after s (after s w before) later :=
  List.foldl_append

variable {α : Type} {f : World → Happening → List α}

/-- What comes of a history comes of one of its happenings. -/
theorem exists_of_mem_collect {x : α} (hx : x ∈ collect f s w history) :
    ∃ before h later, history = before ++ h :: later ∧ x ∈ f (after s w before) h := by
  induction history generalizing w with
  | nil => cases hx
  | cons h later ih =>
    rcases List.mem_append.1 hx with hx | hx
    · exact ⟨[], h, later, rfl, hx⟩
    · obtain ⟨before, h', later', rfl, hx'⟩ := ih hx
      exact ⟨h :: before, h', later', rfl, hx'⟩

/-! ## Invariants -/

/-- What every happening keeps, a history keeps. -/
theorem after_keeps {I : World → Prop} (hI : ∀ w, ∀ h ∈ history, I w → I (h.next s w)) (hw : I w) :
    I (after s w history) := by
  induction history generalizing w with
  | nil => exact hw
  | cons h later ih =>
    exact ih (fun w h' hm => hI w h' (.tail _ hm)) (hI w h (.head _) hw)

theorem Happening.faults_next (hf : w.faults = []) (h : Happening) : (h.next s w).faults = [] := by
  cases h with
  | act cancelled a => exact a.faults_eq_nil hf
  | pass => exact hf

theorem faults_after (hf : w.faults = []) (history : List Happening) :
    (after s w history).faults = [] :=
  after_keeps (I := fun w => w.faults = []) (fun _ h _ hf => h.faults_next hf) hf

/-- What the questions of the acts keep, and time does not change, a history keeps. -/
theorem after_keeps_asked (hk : s.HasDefaultKeys) (hf : w.faults = []) {I : World → Prop}
    (hturn : ∀ cancelled a, .act cancelled a ∈ history → ∀ w q x w', I w → Act.MayAsk s a w q →
      Turn True w q x w' → I w')
    (hpass : ∀ w wallNanos tickNanos, I w → I (w.advance wallNanos tickNanos)) (hw : I w) :
    I (after s w history) := by
  refine (after_keeps (I := fun w => w.faults = [] ∧ I w) (fun w h hm hi => ?_) ⟨hf, hw⟩).2
  refine ⟨h.faults_next hi.1, ?_⟩
  cases h with
  | act cancelled a => exact a.keeps hk hi.1 (hturn cancelled a hm) hi.2
  | pass wallNanos tickNanos => exact hpass w wallNanos tickNanos hi.2

/-- What every question to the store keeps of it, a history keeps. -/
theorem store_after {P : Store.Memory → Prop}
    (hP : ∀ m now q, P m → P (Store.Memory.answer m now q).2) (hf : w.faults = [])
    (history : List Happening) (hw : P w.store) : P (after s w history).store := by
  refine (after_keeps (I := fun w => w.faults = [] ∧ P w.store) (fun w h _ hi => ?_) ⟨hf, hw⟩).2
  refine ⟨h.faults_next hi.1, ?_⟩
  cases h with
  | pass => exact hi.2
  | act cancelled a =>
    refine (World.leads_run_of_nil cancelled hi.1 (a.program s)).keeps (I := fun w => P w.store)
      (fun w q x w' hp ht => ?_) hi.2
    rcases ht.store_eq with hs | ⟨r, _, hs⟩
    · rw [hs]
      exact hp
    · rw [hs]
      exact hP _ _ r hp

theorem IsFresh.apart (h : IsFresh w) : w.store.Apart := by
  obtain ⟨⟨roles, defaultRole, hstore⟩, _⟩ := h
  rw [hstore]
  exact Store.Memory.apart_empty roles defaultRole

theorem IsFresh.isKeyed (h : IsFresh w) : w.store.IsKeyed := by
  obtain ⟨⟨roles, defaultRole, hstore⟩, _⟩ := h
  rw [hstore]
  exact Store.Memory.isKeyed_empty roles defaultRole

theorem IsFresh.tokens_eq_nil (h : IsFresh w) : w.store.tokens = [] := by
  obtain ⟨⟨roles, defaultRole, hstore⟩, _⟩ := h
  rw [hstore]
  rfl

theorem numbered_after (hf : w.faults = []) (history : List Happening) (h : w.store.Numbered) :
    (after s w history).store.Numbered :=
  store_after (P := Store.Memory.Numbered) (fun _ now q h => h.answer now q) hf history h

theorem apart_after (hf : w.faults = []) (history : List Happening) (h : w.store.Apart) :
    (after s w history).store.Apart :=
  store_after (P := Apart) (fun _ now q h => h.answer now q) hf history h

theorem isKeyed_after (hf : w.faults = []) (history : List Happening) (h : w.store.IsKeyed) :
    (after s w history).store.IsKeyed :=
  store_after (P := IsKeyed) (fun _ now q h => h.answer now q) hf history h

/-- Who is gone stays gone, whatever happens. -/
theorem gone_after (hf : w.faults = []) (history : List Happening) (h : w.store.Gone u) :
    (after s w history).store.Gone u :=
  store_after (P := (Gone · u)) (fun _ now q h => h.answer now q) hf history h

theorem lastUserId_le_after (hf : w.faults = []) (history : List Happening) :
    w.store.lastUserId ≤ (after s w history).store.lastUserId :=
  store_after (P := fun m => w.store.lastUserId ≤ m.lastUserId)
    (fun m now q h => Int.le_trans h (m.lastUserId_le_answer now q)) hf history (Int.le_refl _)

theorem Happening.ticks_le_next (hf : w.faults = []) (h : Happening) :
    w.ticks ≤ (h.next s w).ticks := by
  cases h with
  | act cancelled a =>
    refine Nat.le_of_eq ((World.leads_run_of_nil cancelled hf (a.program s)).keeps
      (I := fun w' => w'.ticks = w.ticks) (fun _ _ _ _ h ht => ht.clocks.2.trans h) rfl).symm
  | pass wallNanos tickNanos => exact Nat.le_add_right _ _

theorem ticks_le_after (hf : w.faults = []) (history : List Happening) :
    w.ticks ≤ (after s w history).ticks :=
  (after_keeps (I := fun w' => w'.faults = [] ∧ w.ticks ≤ w'.ticks) (fun _ h _ hi =>
    ⟨h.faults_next hi.1, Nat.le_trans hi.2 (h.ticks_le_next hi.1)⟩) ⟨hf, Nat.le_refl _⟩).2

/-! ## Where accounts come from -/

/-- The row is of an account that the registration has created after `w`. -/
structure IsNew (w : World) (r : Registration) (row : Store.Row) : Prop where
  email : row.user.email = Text.normalize r.email
  phone : row.user.phone = Text.trim r.phone
  id : w.store.lastUserId < row.user.id

/-- An account that is there after an act was there before, or the act is the registration that has
created it. -/
theorem Act.mem_liveRows (hk : s.HasDefaultKeys) (hf : w.faults = []) {cancelled : Bool} {a : Act}
    {row : Store.Row} (hrow : row ∈ (w.run cancelled (a.program s)).2.store.liveRows) :
    row ∈ w.store.liveRows ∨ ∃ r, a = .call (.register r) ∧ IsNew w r row := by
  refine (Act.keeps hk hf (I := fun w' => w.store.lastUserId ≤ w'.store.lastUserId ∧
    ∀ row ∈ w'.store.liveRows, row ∈ w.store.liveRows ∨ ∃ r, a = .call (.register r) ∧
      IsNew w r row) (fun w₁ q x w₂ hi hask ht => ?_)
    ⟨Int.le_refl _, fun row hrow => Or.inl hrow⟩).2 row hrow
  rcases ht.store_eq with hs | ⟨q, rfl, hs⟩
  · rw [hs]
    exact hi
  · rw [hs]
    refine ⟨Int.le_trans hi.1 (Store.Memory.lastUserId_le_answer _ _ _), fun row hrow => ?_⟩
    rcases Store.Memory.mem_liveRows_of_answer hrow with hrow | ⟨new, rfl, _, rfl⟩
    · exact hi.2 row hrow
    · obtain ⟨r, ha, hemail, hphone⟩ := hask
      exact Or.inr ⟨r, ha, hemail, hphone, Int.lt_add_one_of_le hi.1⟩

/-- An account that is there was there at the start, or one of the registrations has created it. -/
theorem mem_liveRows_after (hk : s.HasDefaultKeys) (hf : w.faults = []) {row : Store.Row}
    (hrow : row ∈ (after s w history).store.liveRows) :
    row ∈ w.store.liveRows ∨ ∃ before cancelled r later,
      history = before ++ .act cancelled (.call (.register r)) :: later ∧
      IsNew (after s w before) r row ∧
      row ∈ (after s w (before ++ [.act cancelled (.call (.register r))])).store.liveRows := by
  induction history generalizing w with
  | nil => exact Or.inl hrow
  | cons h later ih =>
    rcases ih (h.faults_next hf) hrow with hrow | ⟨before, cancelled, r, rest, rfl, hnew, hthere⟩
    · cases h with
      | pass => exact Or.inl hrow
      | act cancelled a =>
        rcases a.mem_liveRows hk hf hrow with hrow' | ⟨r, rfl, hnew⟩
        · exact Or.inl hrow'
        · refine Or.inr ⟨[], cancelled, r, later, rfl, hnew, ?_⟩
          rw [List.nil_append, after_cons, after_nil]
          exact hrow
    · exact Or.inr ⟨h :: before, cancelled, r, rest, rfl, hnew, hthere⟩

/-! ## Refresh tokens -/

/-- Whoever has a token stored, it was issued to that user. -/
theorem isRefreshOf_of_mem_storedIn (hk : s.HasDefaultKeys) (hf : w.faults = [])
    (h : (u, t) ∈ storedIn s w history) : IsRefreshOf s u t := by
  obtain ⟨before, h, later, _, hm⟩ := exists_of_mem_collect h
  cases h with
  | pass => cases hm
  | act cancelled a =>
    obtain ⟨⟨w', q⟩, hx, hq⟩ := List.mem_filterMap.1 hm
    obtain ⟨_, hask⟩ := a.mayAsk_of_mem_asked hk (faults_after hf before) _ hx
    cases q with
    | store q => exact (hask.stores hq).2
    | _ => cases hq

/-- The records are of tokens of the log, each with its owner. -/
def Logged (log : List (Int × String)) (m : Store.Memory) : Prop :=
  ∀ t r, (t, r) ∈ m.tokens → (r.userId, t) ∈ log

/-- What questions to the store keep, as long as what they ask to store is in the log, is kept while
something happens whose stored tokens are in the log. -/
theorem Happening.store_next {P : Store.Memory → Prop} {log : List (Int × String)}
    (hP : ∀ m now q, P m → (∀ x, Store.Request.stores q = some x → x ∈ log) →
      P (Store.Memory.answer m now q).2) (hf : w.faults = []) {h : Happening}
    (hlog : h.stored s w ⊆ log) (hw : P w.store) : P (h.next s w).store := by
  cases h with
  | pass => exact hw
  | act cancelled a =>
    refine (Dialog.run_keeps (I := fun w : World => w.faults = [] ∧ P w.store) (fun x hx hi => ?_)
      ⟨hf, hw⟩).2
    have ht := World.turn_answer cancelled hi.1 x.2
    refine ⟨ht.faults hi.1, ?_⟩
    rcases ht.store_eq with hs | ⟨q, hq, hs⟩
    · rw [hs]
      exact hi.2
    · rw [hs]
      refine hP _ _ q hi.2 fun y hy => hlog (List.mem_filterMap.2 ⟨x, hx, ?_⟩)
      rw [hq]
      exact hy

/-- The same over a history. -/
theorem store_after_of_stored {P : Store.Memory → Prop} {log : List (Int × String)}
    (hP : ∀ m now q, P m → (∀ x, Store.Request.stores q = some x → x ∈ log) →
      P (Store.Memory.answer m now q).2) (hf : w.faults = [])
    (hlog : storedIn s w history ⊆ log) (hw : P w.store) : P (after s w history).store := by
  induction history generalizing w with
  | nil => exact hw
  | cons h later ih =>
    exact ih (h.faults_next hf) (fun x hx => hlog (List.mem_append_right _ hx))
      (Happening.store_next hP hf (fun x hx => hlog (List.mem_append_left _ hx)) hw)

/-- From a store without records on, every record is of a token that was to be stored. -/
theorem logged_after (hf : w.faults = []) (hw : w.store.tokens = []) (history : List Happening) :
    Logged (storedIn s w history) (after s w history).store := by
  refine store_after_of_stored (P := Logged (storedIn s w history)) (fun m now q h hq t r hm => ?_)
    hf (fun x hx => hx) fun t r hm => ?_
  · rcases Store.Memory.stems_of_answer hm with ⟨old, hold, hu, _⟩ | hs
    · rw [← hu]
      exact h t old hold
    · exact hq _ hs
  · rw [hw] at hm
    cases hm

/-- What is stored is a token that was issued to its owner. -/
theorem isRefreshOf_of_mem_tokens (hk : s.HasDefaultKeys) (hf : w.faults = [])
    (hw : w.store.tokens = []) (history : List Happening) {r : RefreshRecord}
    (hm : (t, r) ∈ (after s w history).store.tokens) : IsRefreshOf s r.userId t :=
  isRefreshOf_of_mem_storedIn hk hf (logged_after hf hw history t r hm)

/-- A text stays without an unrevoked record until a token of that text is stored. -/
theorem unheld_after (hf : w.faults = []) (h : w.store.holdsUnrevoked t = false)
    (hnew : t ∉ (storedIn s w history).map Prod.snd) :
    (after s w history).store.holdsUnrevoked t = false := by
  refine store_after_of_stored (P := fun m => m.holdsUnrevoked t = false)
    (fun m now q h hq => ?_) hf (List.Subset.refl (storedIn s w history)) h
  exact Store.Memory.holdsUnrevoked_answer h now fun u hs =>
    hnew (List.mem_map.2 ⟨(u, t), hq _ hs, rfl⟩)

/-- While a user is gone, no token is stored for it. -/
theorem allRevoked_after (hk : s.HasDefaultKeys) (hf : w.faults = []) (hgone : w.store.Gone u)
    (h : AllRevoked u w.store) : AllRevoked u (after s w history).store := by
  refine (after_keeps_asked hk hf (I := fun w => w.store.Gone u ∧ AllRevoked u w.store)
    (fun _ a _ w q x w' hi hask ht => ?_) (fun _ _ _ h => h) ⟨hgone, h⟩).2
  rcases ht.store_eq with hs | ⟨q, rfl, hs⟩
  · rw [hs]
    exact hi
  · rw [hs]
    refine ⟨hi.1.answer w.now q, fun t r hm hu => ?_⟩
    rcases Store.Memory.stems_of_answer hm with ⟨old, hold, holdu, heq⟩ | hstored
    · cases hr : r.isRevoked with
      | true => rfl
      | false =>
        rw [← hr, ← heq hr]
        exact hi.2 t old hold (holdu.trans hu)
    · rw [hu] at hstored
      exact absurd (hask.stores hstored).1 hi.1.absent

/-! ## Markers -/

/-- A user's marker stays away until a pair is minted for the user. -/
theorem Happening.unmarked_next (hk : s.HasDefaultKeys) (hf : w.faults = []) {h : Happening}
    (hnone : w.cache.find? (s.accessKey u) = none)
    (hm : ∀ v, ∀ pair ∈ h.minted s w, Serves s v pair (h.next s w) → v ≠ u) :
    (h.next s w).cache.find? (s.accessKey u) = none := by
  cases h with
  | pass => exact hnone
  | act cancelled a =>
    have hl := a.leaves cancelled hk hf
    cases hf : (w.run cancelled (a.program s)).2.cache.find? (s.accessKey u) with
    | none => exact hf
    | some e =>
      unfold Leaves at hl
      split at hl
      · rw [hl u e nofun hf] at hnone
        cases hnone
      · rename_i pair hpair
        obtain ⟨v, hv, hold⟩ := hl
        have hne : v ≠ u := by
          refine hm v pair ?_ hv
          change pair ∈ (mintedBy (w.run cancelled (a.program s)).1).toList
          rw [hpair]
          exact .head _
        rw [hold u e (fun he => hne (Option.some.inj he)) hf] at hnone
        cases hnone

end Session

end SignIn
