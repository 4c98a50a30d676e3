-- Rejections are without effect: an act that is rejected has left the store as
-- it was, with the latest ids that it has given, and nothing of the cache is
-- gone whose time was not over, and no code has been handed over.
import SignIn.Proofs.Session.Conduct
import SignIn.Proofs.Session.Delivery

namespace SignIn.Session

open Dialog (Passes Ensures ensures_pure ensures_bind)
open Text (normalize)
open World (InCourse)

variable {s : Settings} {a : Act} {w w' : World} {asked : List Ask} {e : AuthError}

/-- A rejected act has left the world unharmed. -/
theorem unharmed_of_rejected (h : Passes InCourse w (a.program s) asked (.error e) w')
    (he : e.isRejection = true) : Unharmed w w' :=
  (a.conduct s w).of_failed h.leads he

/-- Codes are handed over only where a code is to be sent, to an identifier with text in it. -/
theorem sends_of_delivers (h : Passes InCourse w (a.program s) asked (.error e) w') {q : Ask}
    (hq : q ∈ asked) (hd : q.delivers.isSome = true) :
    ∃ identifier, a = .call (.sendCode identifier) ∧ normalize identifier ≠ "" := by
  refine (a.conduct s w).holds.of_passes (P := fun q => q.delivers.isSome = true →
    ∃ identifier, a = .call (.sendCode identifier) ∧ normalize identifier ≠ "")
    h (fun w₁ q hc hd => ?_) q hq hd
  cases q with
  | deliver => exact hc
  | clock | store | cache | freshId | freshCode | freshSalt => cases hd

/-- Sending a code is rejected only for an identifier without text in it. -/
theorem blank_of_rejected {identifier : String}
    (h : Passes InCourse w (Act.program s (.call (.sendCode identifier))) asked (.error e) w')
    (he : e.isRejection = true) : normalize identifier = "" := by
  have hconduct : Ensures InCourse (Act.Concerns s (.call (.sendCode identifier)) w) w
      (Act.operation s (.call (.sendCode identifier))) (fun _ _ => True)
      fun e w' => e.isRejection = true → normalize identifier = "" ∧ Unharmed w w' :=
    ensures_bind ((sendCode_conduct identifier).imp (fun _ _ _ => ensures_pure trivial)
      fun _ _ h => h)
  exact (hconduct.of_failed h.leads he).1

/-- **Rejections have no effect.** If an act ends with a failure that is a rejection, then, however
long it has taken, the store is as it was, the cache has lost nothing but entries whose time was
over, and nothing has been handed over. -/
theorem rejections_have_no_effect
    (h : Passes InCourse w (a.program s) asked (.error e) w') (he : e.isRejection = true) :
    w'.store = w.store ∧ w.cache.Sheds w'.ticks w'.cache ∧ ∀ q ∈ asked, q.delivers = none := by
  have hunharmed := unharmed_of_rejected h he
  refine ⟨hunharmed.store, hunharmed.cache, fun q hq => ?_⟩
  cases hd : q.delivers with
  | none => rfl
  | some delivered =>
    obtain ⟨identifier, rfl, hthere⟩ := sends_of_delivers h hq (by rw [hd]; rfl)
    exact absurd (blank_of_rejected h he) hthere

/-- A code is sent to a phone. -/
def sampleSending : List Happening := [.act false (.call (.sendCode "1"))]

/-- A wrong code is refused, and the challenge is still there. -/
theorem sampleMismatch_has_no_effect :
    let w := after sampleSettings sampleWorld sampleSending
    let p := Act.program sampleSettings (.call (.confirmCode "1" "1111"))
    (w.run false p).1 = .error .codeMismatch ∧ (w.run false p).2.store = w.store ∧
      w.cache.Sheds (w.run false p).2.ticks (w.run false p).2.cache ∧
      w.deliveries false p = [] := by
  intro w p
  have hf : w.faults = [] := faults_after rfl sampleSending
  have hend : (w.run false p).1 = .error .codeMismatch := by decide +kernel
  have hpasses := World.passes_run_of_nil false hf p
  rw [hend] at hpasses
  obtain ⟨hstore, hcache, hnone⟩ := rejections_have_no_effect hpasses rfl
  refine ⟨hend, hstore, hcache, List.filterMap_eq_nil_iff.2 fun x hx => ?_⟩
  exact hnone x.2 (List.mem_map_of_mem hx)

end SignIn.Session
