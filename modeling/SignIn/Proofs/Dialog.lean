-- How dialogs end with a partner of whom it is only known how he may answer:
-- what an operation ensures is put together from what its parts ensure.
import SignIn.Program

namespace SignIn.Dialog

variable {Question : Type} {Answer : Question → Type} {α β σ ε : Type}

theorem bind_assoc {γ : Type} (d : Dialog Question Answer α) (f : α → Dialog Question Answer β)
    (g : β → Dialog Question Answer γ) : d >>= f >>= g = d >>= fun a => f a >>= g := by
  induction d with
  | done a => rfl
  | ask q next ih => exact congrArg (ask q) (funext ih)

theorem ok_of_mapError {ε' : Type} {f : ε → ε'} {x : Except ε α} {a : α}
    (h : x.mapError f = .ok a) : x = .ok a := by
  cases x with
  | ok b =>
    cases h
    rfl
  | error e => cases h

/-! ## Ends of dialogs -/

/-- A dialog leads from one state to another with a result, where `turn` says which answers a
question may have and what it does to the state. -/
inductive Leads (turn : σ → (q : Question) → Answer q → σ → Prop) :
    σ → Dialog Question Answer α → α → σ → Prop
  | done (s : σ) (a : α) : Leads turn s (.done a) a s
  | ask {s s' s'' : σ} {q : Question} {next : Answer q → Dialog Question Answer α} {a : Answer q}
      {b : α} (ht : turn s q a s') (h : Leads turn s' (next a) b s'') :
      Leads turn s (.ask q next) b s''

variable {turn : σ → (q : Question) → Answer q → σ → Prop} {s s' : σ}

/-- A run is one of the ends that a dialog may come to. -/
theorem leads_run (answer : σ → (q : Question) → Answer q × σ)
    (ht : ∀ s q, turn s q (answer s q).1 (answer s q).2) (s : σ) (d : Dialog Question Answer α) :
    Leads turn s d (run answer s d).1 (run answer s d).2 := by
  induction d generalizing s with
  | done a => exact .done s a
  | ask q next ih => exact .ask (ht s q) (ih _ _)

/-- Where every answer keeps an invariant, a dialog keeps it. -/
theorem Leads.keeps {I : σ → Prop} {d : Dialog Question Answer α} {a : α}
    (h : Leads turn s d a s') (hI : ∀ s q a s', I s → turn s q a s' → I s') (hs : I s) : I s' := by
  induction h with
  | done => exact hs
  | ask ht _ ih => exact ih (hI _ _ _ _ hs ht)

theorem run_bind_of_ok {answer : σ → (q : Question) → Answer q × σ}
    {op : ExceptT ε (Dialog Question Answer) α} {a : α} {r : σ}
    (f : α → ExceptT ε (Dialog Question Answer) β) (h : run answer s op.run = (.ok a, r)) :
    run answer s (op >>= f).run = run answer r (f a).run := by
  change run answer s (op.run >>= ExceptT.bindCont f) = _
  rw [run_bind, h]
  rfl

theorem run_bind_of_error {answer : σ → (q : Question) → Answer q × σ}
    {op : ExceptT ε (Dialog Question Answer) α} {e : ε} {r : σ}
    (f : α → ExceptT ε (Dialog Question Answer) β) (h : run answer s op.run = (.error e, r)) :
    run answer s (op >>= f).run = (.error e, r) := by
  change run answer s (op.run >>= ExceptT.bindCont f) = _
  rw [run_bind, h]
  rfl

/-- A guard that lets through leaves everything as it is. -/
theorem run_failIf {answer : σ → (q : Question) → Answer q × σ} {c : Bool} {e : ε}
    (h : c = false) :
    run answer s (failIf c e : ExceptT ε (Dialog Question Answer) Unit).run = (.ok (), s) := by
  rw [h]
  rfl

/-! ## Dialogs that stop on the way -/

variable {stop : Question → Bool} {answer : σ → (q : Question) → Answer q × σ}

/-- A dialog that stops nowhere comes to its end. -/
theorem runUntil_never (answer : σ → (q : Question) → Answer q × σ) (d : Dialog Question Answer α)
    (s : σ) : runUntil (fun _ => false) answer s d =
      (.done (run answer s d).1, (run answer s d).2) := by
  induction d generalizing s with
  | done a => rfl
  | ask q next ih => exact ih _ _

/-- A part that comes to its end is left behind. -/
theorem runUntil_bind_of_done {d : Dialog Question Answer α} {f : α → Dialog Question Answer β}
    {a : α} (h : runUntil stop answer s d = (.done a, s')) :
    runUntil stop answer s (d >>= f) = runUntil stop answer s' (f a) := by
  induction d generalizing s with
  | done b =>
    cases h
    rfl
  | ask q next ih =>
    unfold runUntil at h
    rw [ask_bind]
    conv => lhs; unfold runUntil
    split at h
    · cases h
    · rename_i hq
      rw [if_neg hq]
      exact ih _ h

/-- Where a part stops, the whole stops. -/
theorem runUntil_bind_of_ask {d : Dialog Question Answer α} {f : α → Dialog Question Answer β}
    {q : Question} {next : Answer q → Dialog Question Answer α}
    (h : runUntil stop answer s d = (.ask q next, s')) :
    runUntil stop answer s (d >>= f) = (.ask q fun a => next a >>= f, s') := by
  induction d generalizing s with
  | done b => cases h
  | ask q' next' ih =>
    unfold runUntil at h
    rw [ask_bind]
    conv => lhs; unfold runUntil
    split at h
    · rename_i hq
      rw [if_pos hq]
      cases h
      rfl
    · rename_i hq
      rw [if_neg hq]
      exact ih _ h

theorem runUntil_bind_of_ok {op : ExceptT ε (Dialog Question Answer) α} {a : α} {r : σ}
    (f : α → ExceptT ε (Dialog Question Answer) β)
    (h : runUntil stop answer s op.run = (.done (.ok a), r)) :
    runUntil stop answer s (op >>= f).run = runUntil stop answer r (f a).run :=
  runUntil_bind_of_done (d := op.run) h

theorem runUntil_failIf {c : Bool} {e : ε} (h : c = false) :
    runUntil stop answer s (failIf c e : ExceptT ε (Dialog Question Answer) Unit).run =
      (.done (.ok ()), s) := by
  rw [h]
  rfl

/-! ## Dialogs that are over -/

/-- Whether a dialog has come to its end. -/
def isDone : Dialog Question Answer α → Bool
  | .done _ => true
  | .ask _ _ => false

theorem eq_done_of_isDone {d : Dialog Question Answer α} (h : d.isDone = true) :
    ∃ a, d = .done a := by
  cases d with
  | done a => exact ⟨a, rfl⟩
  | ask q next => cases h

/-! ## What dialogs hold to -/

/-- However its questions are answered, a dialog asks only what `asks` allows where it stands, and
ends as `ends` says. -/
def Holds (turn : σ → (q : Question) → Answer q → σ → Prop) (asks : σ → Question → Prop)
    (ends : σ → α → Prop) : σ → Dialog Question Answer α → Prop
  | s, .done a => ends s a
  | s, .ask q next => asks s q ∧ ∀ a s', turn s q a s' → Holds turn asks ends s' (next a)

/-- Every question is allowed. -/
def Anything (_ : σ) (_ : Question) : Prop := True

/-- What has been said is noted, latest first, and nothing else counts. -/
def Noting (said : List ((q : Question) × Answer q)) (q : Question) (a : Answer q)
    (said' : List ((q : Question) × Answer q)) : Prop :=
  said' = ⟨q, a⟩ :: said

variable {asks : σ → Question → Prop}

theorem Holds.imp {ends ends' : σ → α → Prop} {d : Dialog Question Answer α}
    (h : Holds turn asks ends s d) (he : ∀ s a, ends s a → ends' s a) :
    Holds turn asks ends' s d := by
  induction d generalizing s with
  | done a => exact he s a h
  | ask q next ih => exact ⟨h.1, fun a s' ht => ih a (h.2 a s' ht)⟩

theorem Holds.asks_imp {asks' : σ → Question → Prop} {ends : σ → α → Prop}
    {d : Dialog Question Answer α} (h : Holds turn asks ends s d)
    (ha : ∀ s q, asks s q → asks' s q) : Holds turn asks' ends s d := by
  induction d generalizing s with
  | done a => exact h
  | ask q next ih => exact ⟨ha s q h.1, fun a s' ht => ih a (h.2 a s' ht)⟩

/-- An invariant that every answer keeps holds where a dialog ends. -/
theorem Holds.keeping {I : σ → Prop} {ends : σ → α → Prop} {d : Dialog Question Answer α}
    (h : Holds turn asks ends s d) (hI : ∀ s q a s', I s → turn s q a s' → I s') (hs : I s) :
    Holds turn asks (fun s a => ends s a ∧ I s) s d := by
  induction d generalizing s with
  | done a => exact ⟨h, hs⟩
  | ask q next ih => exact ⟨h.1, fun a s' ht => ih a (h.2 a s' ht) (hI _ _ _ _ hs ht)⟩

theorem Holds.of_leads {ends : σ → α → Prop} {d : Dialog Question Answer α} {a : α}
    (h : Holds turn asks ends s d) (hl : Leads turn s d a s') : ends s' a := by
  induction hl with
  | done => exact h
  | ask ht _ ih => exact ih (h.2 _ _ ht)

/-- Where every question that a dialog may ask keeps an invariant, the dialog keeps it. -/
theorem Leads.keeps_said {I : σ → List ((q : Question) × Answer q) → Prop}
    {said : List ((q : Question) × Answer q)}
    {asks : List ((q : Question) × Answer q) → Question → Prop}
    {ends : List ((q : Question) × Answer q) → α → Prop} {d : Dialog Question Answer α} {a : α}
    (h : Leads turn s d a s') (hd : Holds Noting asks ends said d)
    (hI : ∀ s said q a s', I s said → asks said q → turn s q a s' → I s' (⟨q, a⟩ :: said))
    (hs : I s said) : ∃ said', I s' said' ∧ ends said' a := by
  induction h generalizing said with
  | done => exact ⟨said, hs, hd⟩
  | ask ht _ ih => exact ih (hd.2 _ _ rfl) (hI _ _ _ _ _ hs hd.1 ht)

theorem holds_bind {ends : σ → β → Prop} {d : Dialog Question Answer α}
    {f : α → Dialog Question Answer β}
    (h : Holds turn asks (fun s a => Holds turn asks ends s (f a)) s d) :
    Holds turn asks ends s (d >>= f) := by
  induction d generalizing s with
  | done a => exact h
  | ask q next ih => exact ⟨h.1, fun a s' ht => ih a (h.2 a s' ht)⟩

/-! ## What operations ensure -/

/-- An operation ends as `post` says if it succeeds and as `fail` says if it fails. -/
def EndsAs (post : α → σ → Prop) (fail : ε → σ → Prop) (s : σ) : Except ε α → Prop
  | .ok a => post a s
  | .error e => fail e s

/-- However its questions are answered, an operation asks only what `asks` allows, and ends as
`post` says if it succeeds and as `fail` says if it fails. -/
structure Ensures (turn : σ → (q : Question) → Answer q → σ → Prop) (asks : σ → Question → Prop)
    (s : σ) (op : ExceptT ε (Dialog Question Answer) α) (post : α → σ → Prop)
    (fail : ε → σ → Prop) : Prop where
  holds : Holds turn asks (EndsAs post fail) s op.run

variable {post : α → σ → Prop} {fail : ε → σ → Prop} {op : ExceptT ε (Dialog Question Answer) α}

theorem Ensures.imp {post' : α → σ → Prop} {fail' : ε → σ → Prop}
    (h : Ensures turn asks s op post fail) (hp : ∀ a s', post a s' → post' a s')
    (hf : ∀ e s', fail e s' → fail' e s') : Ensures turn asks s op post' fail' := by
  refine ⟨h.holds.imp fun s' r hr => ?_⟩
  cases r with
  | ok a => exact hp a s' hr
  | error e => exact hf e s' hr

theorem Ensures.keeping {I : σ → Prop} (h : Ensures turn asks s op post fail)
    (hI : ∀ s q a s', I s → turn s q a s' → I s') (hs : I s) :
    Ensures turn asks s op (fun a s' => post a s' ∧ I s') fail := by
  refine ⟨(h.holds.keeping hI hs).imp fun s' r hr => ?_⟩
  cases r with
  | ok a => exact hr
  | error e => exact hr.1

/-- What an operation ensures of its result and of its failure, its dialog ends with. -/
theorem Ensures.holds_run {ends : σ → Except ε α → Prop}
    (h : Ensures turn asks s op (fun a s' => ends s' (.ok a)) fun e s' => ends s' (.error e)) :
    Holds turn asks ends s op.run := by
  refine h.holds.imp fun s' r hr => ?_
  cases r <;> exact hr

/-- However an operation comes to its end, it ends as it ensures. -/
theorem Ensures.of_leads {r : Except ε α} (h : Ensures turn asks s op post fail)
    (hl : Leads turn s op.run r s') : EndsAs post fail s' r :=
  h.holds.of_leads hl

theorem ensures_pure {a : α} (h : post a s) :
    Ensures turn asks s (pure a : ExceptT ε (Dialog Question Answer) α) post fail := ⟨h⟩

theorem ensures_throw {e : ε} (h : fail e s) :
    Ensures turn asks s (throw e : ExceptT ε (Dialog Question Answer) α) post fail := ⟨h⟩

theorem ensures_bind {f : α → ExceptT ε (Dialog Question Answer) β} {post' : β → σ → Prop}
    (h : Ensures turn asks s op (fun a s' => Ensures turn asks s' (f a) post' fail) fail) :
    Ensures turn asks s (op >>= f) post' fail := by
  refine ⟨holds_bind (d := op.run) (h.holds.imp fun s' r hr => ?_)⟩
  cases r with
  | ok a => exact hr.holds
  | error e => exact hr

theorem ensures_failIf {c : Bool} {e : ε} {post : Unit → σ → Prop} (ht : c = true → fail e s)
    (hf : c = false → post () s) :
    Ensures turn asks s (failIf c e : ExceptT ε (Dialog Question Answer) Unit) post fail := by
  cases c with
  | true => exact ensures_throw (ht rfl)
  | false => exact ensures_pure (hf rfl)

theorem ensures_orFail {o : Option α} {e : ε} (hs : ∀ a, o = some a → post a s)
    (hn : o = none → fail e s) :
    Ensures turn asks s (orFail e o : ExceptT ε (Dialog Question Answer) α) post fail := by
  cases o with
  | some a => exact ensures_pure (hs a rfl)
  | none => exact ensures_throw (hn rfl)

theorem ensures_ofExcept {x : Except ε α} (hs : ∀ a, x = .ok a → post a s)
    (hf : ∀ e, x = .error e → fail e s) :
    Ensures turn asks s (ofExcept x : ExceptT ε (Dialog Question Answer) α) post fail := by
  cases x with
  | ok a => exact ensures_pure (hs a rfl)
  | error e => exact ensures_throw (hf e rfl)

/-- Where all that is asked and every end is allowed by something that stays so whatever is said, an
operation asks and ends as it may. -/
theorem ensures_of_kept {P : List ((q : Question) × Answer q) → Prop}
    {asks : List ((q : Question) × Answer q) → Question → Prop}
    {post : α → List ((q : Question) × Answer q) → Prop}
    {fail : ε → List ((q : Question) × Answer q) → Prop}
    (hP : ∀ said q a, P said → P (⟨q, a⟩ :: said)) (ha : ∀ said q, P said → asks said q)
    (hp : ∀ a said, P said → post a said) (hf : ∀ e said, P said → fail e said)
    {said : List ((q : Question) × Answer q)} (h : P said)
    (op : ExceptT ε (Dialog Question Answer) α) : Ensures Noting asks said op post fail := by
  have hd : ∀ (d : Dialog Question Answer (Except ε α)) said, P said →
      Holds Noting asks (EndsAs post fail) said d := by
    intro d
    induction d with
    | done r =>
      intro said h
      cases r with
      | ok a => exact hp a said h
      | error e => exact hf e said h
    | ask q next ih =>
      intro said h
      refine ⟨ha said q h, fun a said' hs => ?_⟩
      rw [hs]
      exact ih a _ (hP said q a h)
  exact ⟨hd op.run said h⟩

/-! ## Being led along -/

/-- A question may be answered in any way. -/
def Freely (_ : Unit) (q : Question) (_ : Answer q) (_ : Unit) : Prop := True

/-- From a state on, questions of a kind may be asked, and whatever they are answered leads along
the relation. -/
structure Along (turn : σ → (q : Question) → Answer q → σ → Prop) (asks : σ → Question → Prop)
    (kind : Question → Prop) (R : σ → σ → Prop) (s : σ) : Prop where
  refl : ∀ t, R t t
  trans : ∀ {t u v}, R t u → R u v → R t v
  asks : ∀ {t q}, R s t → kind q → asks t q
  turns : ∀ {t q a u}, R s t → kind q → turn t q a u → R t u

/-- On the way from one state to another the question has been answered so. -/
def Told (turn : σ → (q : Question) → Answer q → σ → Prop) (R : σ → σ → Prop) (s : σ)
    (q : Question) (a : Answer q) (s' : σ) : Prop :=
  ∃ t u, R s t ∧ turn t q a u ∧ R u s'

variable {kind kind' : Question → Prop} {R : σ → σ → Prop} {t u : σ}

theorem Along.later (h : Along turn asks kind R s) (hs : R s t) : Along turn asks kind R t :=
  ⟨h.refl, h.trans, fun ht => h.asks (h.trans hs ht), fun ht => h.turns (h.trans hs ht)⟩

theorem Along.mono (h : Along turn asks kind R s) (hk : ∀ q, kind' q → kind q) :
    Along turn asks kind' R s :=
  ⟨h.refl, h.trans, fun ht hq => h.asks ht (hk _ hq), fun ht hq => h.turns ht (hk _ hq)⟩

/-- What every answer keeps is a relation to be led along. -/
theorem along_of_kept {I : σ → Prop} (hs : I s) (ha : ∀ t q, I t → kind q → asks t q)
    (hI : ∀ t q a u, I t → kind q → turn t q a u → I u) :
    Along turn asks kind (fun t u => I t → I u) s where
  refl _ := id
  trans h h' := h' ∘ h
  asks h hq := ha _ _ (h hs) hq
  turns h hq ht _ := hI _ _ _ _ (h hs) hq ht

/-- Where the questions may be asked anywhere, nothing need be known of the way. -/
theorem along_anyway (ha : ∀ t q, kind q → asks t q) :
    Along turn asks kind (fun _ _ => True) s :=
  ⟨fun _ => trivial, fun _ _ => trivial, fun _ hq => ha _ _ hq, fun _ _ _ => trivial⟩

theorem Along.told (h : Along turn asks kind R s) {q : Question} {a : Answer q}
    (ht : turn s q a t) : Told turn R s q a t :=
  ⟨s, t, h.refl s, ht, h.refl t⟩

/-- What has been told on a part of the way has been told on the way. -/
theorem Along.widen (h : Along turn asks kind R s) {q : Question} {a : Answer q}
    (hq : Told turn R t q a u) (hs : R s t) (hu : R u s') : Told turn R s q a s' := by
  obtain ⟨v, v', hv, ht, hv'⟩ := hq
  exact ⟨v, v', h.trans hs hv, ht, h.trans hv' hu⟩

/-- What an operation ensures of its result when it is answered freely, it ensures with anybody whom
its questions can be asked. -/
theorem Along.ensures {op : ExceptT ε (Dialog Question Answer) α} {post : α → Prop}
    {fail : ε → Prop} (h : Along turn asks kind R s)
    (hop : Ensures Freely (fun _ => kind) () op (fun a _ => post a) fun e _ => fail e) :
    Ensures turn asks s op (fun a t => post a ∧ R s t) fun e t => fail e ∧ R s t := by
  have hd : ∀ (d : Dialog Question Answer (Except ε α)) t, R s t →
      Holds Freely (fun _ => kind) (EndsAs (fun a _ => post a) fun e _ => fail e) () d →
      Holds turn asks (EndsAs (fun a t => post a ∧ R s t) fun e t => fail e ∧ R s t) t d := by
    intro d
    induction d with
    | done r =>
      intro t ht hr
      cases r with
      | ok a => exact ⟨hr, ht⟩
      | error e => exact ⟨hr, ht⟩
    | ask q next ih =>
      intro t ht hq
      exact ⟨h.asks ht hq.1, fun a u hu =>
        ih a u (h.trans ht (h.turns ht hq.1 hu)) (hq.2 a () trivial)⟩
  exact ⟨hd op.run s (h.refl s) hop.holds⟩

end SignIn.Dialog

namespace SignIn.Operation

open Dialog (Ensures)

variable {σ : Type} {turn : σ → (q : Ask) → q.Answer → σ → Prop} {asks : σ → Ask → Prop} {s : σ}
  {fail : AuthError → σ → Prop}

/-! ## Questions -/

/-- A question to the store is one question, and its answer the result. -/
theorem storeOr_run (onError : StoreError → AuthError) (q : Store.Request) :
    ∃ k, (storeOr onError q).run = .ask (.store q) k ∧ ∀ a, k (.ok a) = .done (.ok a) :=
  ⟨_, rfl, fun _ => rfl⟩

theorem cacheOr_run (onError : CacheError → AuthError) (q : Cache.Request) :
    ∃ k, (cacheOr onError q).run = .ask (.cache q) k ∧ ∀ a, k (.ok a) = .done (.ok a) :=
  ⟨_, rfl, fun _ => rfl⟩

theorem ensures_ask {q : Ask} {post : q.Answer → σ → Prop} (hq : asks s q)
    (h : ∀ a s', turn s q a s' → post a s') : Ensures turn asks s (ask q) post fail :=
  ⟨And.intro hq h⟩

theorem ensures_storeOr {onError : StoreError → AuthError} {q : Store.Request}
    {post : q.Answer → σ → Prop} (hq : asks s (.store q))
    (hs : ∀ a s', turn s (.store q) (.ok a) s' → post a s')
    (hf : ∀ e s', turn s (.store q) (.error e) s' → fail (onError e) s') :
    Ensures turn asks s (storeOr onError q) post fail := by
  refine ⟨And.intro hq fun a s' ht => ?_⟩
  cases a with
  | ok a => exact hs a s' ht
  | error e => exact hf e s' ht

theorem ensures_cacheOr {onError : CacheError → AuthError} {q : Cache.Request}
    {post : q.Answer → σ → Prop} (hq : asks s (.cache q))
    (hs : ∀ a s', turn s (.cache q) (.ok a) s' → post a s')
    (hf : ∀ e s', turn s (.cache q) (.error e) s' → fail (onError e) s') :
    Ensures turn asks s (cacheOr onError q) post fail := by
  refine ⟨And.intro hq fun a s' ht => ?_⟩
  cases a with
  | ok a => exact hs a s' ht
  | error e => exact hf e s' ht

end SignIn.Operation
