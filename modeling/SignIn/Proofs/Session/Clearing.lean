-- Clearing out refresh tokens by the wall clock. It fails only for a caller
-- who has given up, and breaks off only while the clock cannot be read; both
-- times nothing is touched.
import SignIn.Proofs.Asked
import SignIn.Proofs.Session.Markers
import SignIn.Proofs.Store.Coherence
import SignIn.Proofs.Store.Retention

namespace SignIn.Session

variable {w : World}

/-! ## One call -/

theorem run_purge (s : Settings) (hf : w.faults = []) : w.run false (purge s).run =
    (.ok (w.store.purge w.now s.retention).1,
      { w with store := (w.store.purge w.now s.retention).2 }) :=
  World.run_storeOr hf rfl

theorem run_purge_cancelled (s : Settings) (hf : w.faults = []) :
    w.run true (purge s).run = (.error (.repository .cancelled), w) := by
  change Dialog.run (World.answer true) w (.ask (.store (.purge s.retention)) _) = _
  unfold Dialog.run
  rw [World.answer_store_cancelled hf]
  rfl

/-- Clearing out looks at the wall clock once it gets as far as the store. -/
theorem breaksOff_purge (cancelled : Bool) (s : Settings) (hf : w.faults = []) :
    w.breaksOff cancelled (purge s).run = (!w.isClockReadable && !cancelled) := by
  have hlooks : w.needsClock cancelled (.store (.purge s.retention)) = !cancelled := by
    change (w.reachesStore cancelled (.purge s.retention) && true) = _
    unfold World.reachesStore
    rw [World.nextFailure_of_nil hf]
    exact Bool.and_true _
  unfold World.breaksOff
  refine congrArg (!w.isClockReadable && ·) ?_
  change (Dialog.run (World.answerNoting cancelled) (w, false)
    (.ask (.store (.purge s.retention)) _)).2.2 = _
  unfold Dialog.run World.answerNoting
  rw [hlooks]
  cases (w.answer cancelled (.store (.purge s.retention))).1 <;> rfl

theorem run?_purge (cancelled : Bool) (s : Settings) (hf : w.faults = []) :
    w.run? cancelled (purge s).run =
      if w.now < Time.Instant.epoch ∧ cancelled = false then none
      else some (w.run cancelled (purge s).run) := by
  have hclock : w.isClockReadable = !decide (w.now < Time.Instant.epoch) := by
    unfold World.isClockReadable
    rw [← decide_not, decide_eq_decide]
    exact Int.not_lt.symm
  unfold World.run?
  rw [breaksOff_purge cancelled s hf, hclock, Bool.not_not]
  cases cancelled <;> simp

/-! ## By the wall clock -/

/-- A world before 1970. -/
def sampleEarly : World := { sampleWorld with now := ⟨-1, by decide⟩ }

/-- Before 1970 the call breaks off, and for a caller who has given up it fails. -/
theorem sampleEarly_purge_breaks_off :
    sampleEarly.run? false (purge sampleSettings).run = none ∧
      sampleWorld.run? true (purge sampleSettings).run =
        some (.error (.repository .cancelled), sampleWorld) := by
  constructor
  · rw [run?_purge false sampleSettings rfl]
    rfl
  · rw [run?_purge true sampleSettings rfl, run_purge_cancelled sampleSettings rfl]
    rfl

/-- **Clearing out removes just the old records**: those whose token was over or revoked longer ago
than the window, however long that is. Nothing that can be used is among them, and a longer window
removes a part of what a shorter one does. -/
theorem purge_removes_ended (s : Settings) (hf : w.faults = []) :
    (w.run? false (purge s).run = none ↔ w.now < Time.Instant.epoch) ∧
    w.run? true (purge s).run = some (.error (.repository .cancelled), w) ∧
    (Time.Instant.epoch ≤ w.now → ∃ removed m,
      w.run? false (purge s).run = some (.ok removed, { w with store := m }) ∧
      w.store.Cleared w.now s.retention removed m ∧
      ∀ s' : Settings, s.retention.nanos ≤ s'.retention.nanos → ∃ removed' m',
        w.run? false (purge s').run = some (.ok removed', { w with store := m' }) ∧
        m.tokens.Sublist m'.tokens ∧ removed' ≤ removed) := by
  have hcleared := fun s : Settings => Store.Memory.cleared_purge w.store w.now s.retention
  refine ⟨?_, ?_, fun hnow => ?_⟩
  · rw [run?_purge false s hf]
    simp
  · rw [run?_purge true s hf, run_purge_cancelled s hf]
    simp
  · have hrun : ∀ s, w.run? false (purge s).run = some (.ok (w.store.purge w.now s.retention).1,
        { w with store := (w.store.purge w.now s.retention).2 }) := fun s => by
      rw [run?_purge false s hf, run_purge s hf, if_neg fun h => Int.not_lt.2 hnow h.1]
    refine ⟨_, _, hrun s, hcleared s, fun s' hlonger => ⟨_, _, hrun s', ?_⟩⟩
    have hsub := (hcleared s).sublist (hcleared s') hlonger
    refine ⟨hsub, ?_⟩
    have hlength := hsub.length_le
    have hremoved := (hcleared s).removed
    have hremoved' := (hcleared s').removed
    omega

/-- A minute and forty seconds after the beginning of 1970: one token is over since long, another is
revoked since long, and a third can be used. -/
def sampleAged : World :=
  { sampleWorld with
    now := ⟨100 * Time.second, by decide⟩
    store := (Store.Memory.empty [] none).afterAll
      [⟨.createToken 1 "over" ⟨10 * Time.second, by decide⟩, .epoch, false⟩,
        ⟨.createToken 1 "revoked" .latest, .epoch, false⟩,
        ⟨.createToken 2 "live" .latest, .epoch, false⟩, ⟨.revokeToken "revoked", .epoch, false⟩] }

/-- With a window of a minute two records are gone, and with one of two minutes none is. -/
theorem sampleAged_purge_removes_ended :
    ∃ m, sampleAged.run? false (purge { sampleSettings with retention := .ofSeconds 60 }).run =
        some (.ok 2, { sampleAged with store := m }) ∧ m.tokens.map Prod.fst = ["live"] ∧
      ∃ m', sampleAged.run? false (purge { sampleSettings with retention := .ofSeconds 120 }).run =
        some (.ok 0, { sampleAged with store := m' }) ∧ m.tokens.Sublist m'.tokens := by
  obtain ⟨removed, m, hrun, hcleared, hlonger⟩ := (purge_removes_ended (w := sampleAged)
    { sampleSettings with retention := .ofSeconds 60 } rfl).2.2 (by decide)
  obtain ⟨_, _, hrun₁, hsub, _⟩ := hlonger { sampleSettings with retention := .ofSeconds 120 }
    (by decide)
  obtain ⟨removed', m', hrun', hcleared', _⟩ := (purge_removes_ended (w := sampleAged)
    { sampleSettings with retention := .ofSeconds 120 } rfl).2.2 (by decide)
  have hlength : sampleAged.store.tokens.length = 3 := by decide
  have hremoved : removed = 2 := by
    have hleft : m.tokens.length = 1 := by
      rw [hcleared.tokens]
      decide
    have := hcleared.removed
    omega
  have hremoved' : removed' = 0 := by
    have hleft : m'.tokens.length = 3 := by
      rw [hcleared'.tokens]
      decide
    have := hcleared'.removed
    omega
  subst hremoved hremoved'
  obtain rfl : m' = _ := congrArg (fun r => r.2.store) (Option.some.inj (hrun'.symm.trans hrun₁))
  refine ⟨m, hrun, ?_, m', hrun', hsub⟩
  rw [hcleared.tokens]
  decide

end SignIn.Session
