-- Whom a one-time code signs in. A phone is stored as it was registered, but
-- for white space around it, and looked for in lower case: its owner is signed
-- in exactly if the two are the same.
import SignIn.Proofs.Session.Deletion

namespace SignIn.Session

open Operation
open Text (normalize)

variable {s : Settings} {w w₀ : World} {u : Int} {phone code : String}

/-- In the history the user's account has been created by a registration of the phone. -/
def CreatedWith (s : Settings) (w₀ : World) (history : List Happening) (u : Int)
    (phone : String) : Prop :=
  ∃ (before later : List Happening) (cancelled : Bool) (r : Registration),
    history = before ++ .act cancelled (.call (.register r)) :: later ∧
    r.phone = phone ∧ ¬ (after s w₀ before).store.HasUser u ∧
    (after s w₀ (before ++ [.act cancelled (.call (.register r))])).store.HasUser u

/-- The account has the phone still, without the white space around it. -/
theorem CreatedWith.phone_eq (hk : s.HasDefaultKeys) (hf : w₀.faults = []) (hn : w₀.store.Numbered)
    {history : List Happening} (h : CreatedWith s w₀ history u phone) {row : Store.Row}
    (hrow : row ∈ (after s w₀ history).store.liveRows) (hid : row.user.id = u) :
    row.user.phone = Text.trim phone := by
  obtain ⟨before, later, cancelled, r, rfl, rfl, habsent, hthere⟩ := h
  have hf₁ := faults_after (s := s) hf before
  have hcreated : after s w₀ (before ++ [.act cancelled (.call (.register r))]) =
      ((after s w₀ before).run cancelled (Act.program s (.call (.register r)))).2 :=
    after_append ..
  -- Right after the registration the account has the phone.
  have hfirst : ∀ row ∈ (after s w₀ (before ++
      [.act cancelled (.call (.register r))])).store.liveRows, row.user.id = u →
      row.user.phone = Text.trim r.phone := by
    intro row hrow hid
    rw [hcreated] at hrow
    rcases Act.mem_liveRows hk hf₁ hrow with hold | ⟨r', he, hnew⟩
    · exact absurd ⟨row, hold, hid⟩ habsent
    · cases he
      exact hnew.phone
  have hsplit : before ++ .act cancelled (.call (.register r)) :: later =
      before ++ [.act cancelled (.call (.register r))] ++ later := by simp
  rw [hsplit, after_append] at hrow
  have hf₂ := faults_after (s := s) hf (before ++ [.act cancelled (.call (.register r))])
  rcases mem_liveRows_after hk hf₂ hrow with hold | ⟨mid, _, _, _, _, hnew, _⟩
  · exact hfirst row hold hid
  · -- No later registration gives the id once more.
    obtain ⟨first, hfirst, hfirstId⟩ := hthere
    have hle := (numbered_after hf _ hn).le_last first (Store.Memory.mem_liveRows.1 hfirst).1
    have hlast := lastUserId_le_after (s := s) hf₂ mid
    have hlt := hnew.id
    omega

/-- A confirmation signs in the user. -/
def SignsIn (s : Settings) (u : Int) (c : Confirmation) : Prop :=
  c.registered = true ∧ ∃ pair, c.tokens = some pair ∧ IsAccessOf s u pair.access ∧
    IsRefreshOf s u pair.refresh

/-- **Whom a code signs in.** A user who is there, and was created by a registration of a phone, is
signed in by a right code for the phone if trimming the phone is normalizing it, and otherwise
nobody is signed in, or somebody else. -/
theorem signs_in_owner_iff_normal (hk : s.HasDefaultKeys) (hw : IsFresh w₀) (hf : w₀.faults = [])
    (history : List Happening) (hthere : (after s w₀ history).store.HasUser u)
    (hcreated : CreatedWith s w₀ history u phone) {c : Confirmation}
    (hok : ((after s w₀ history).run false (confirmCode s phone code).run).1 = .ok c) :
    (Text.trim phone = normalize phone → SignsIn s u c) ∧
      (Text.trim phone ≠ normalize phone →
        (c.registered = false ∧ c.tokens = none) ∨ ∃ v, v ≠ u ∧ SignsIn s v c) := by
  have hphone : ∀ row ∈ (after s w₀ history).store.liveRows, row.user.id = u →
      row.user.phone = Text.trim phone :=
    fun row hrow hid => hcreated.phone_eq hk hf (hw.good (s := s)).numbered hrow hid
  have hapart := apart_after (s := s) hf history hw.apart
  have hsigned := World.ensured_of_ok (confirmCode_serves hk phone code)
    (faults_after (s := s) hf history) hok
  constructor
  · intro hnormal
    obtain ⟨row, hrow, hid⟩ := hthere
    have hfound := hapart.findByPhone_of_mem hrow
    rw [hphone row hrow hid, hnormal] at hfound
    rw [hfound] at hsigned
    obtain ⟨pair, rfl, hserves, _⟩ := hsigned
    rw [hid] at hserves
    exact ⟨rfl, pair, rfl, hserves.access, hserves.refresh⟩
  · intro hnormal
    cases hfound : (after s w₀ history).store.findByPhone (normalize phone) with
    | none =>
      rw [hfound] at hsigned
      obtain ⟨rfl, _⟩ := hsigned
      exact Or.inl ⟨rfl, rfl⟩
    | some user =>
      rw [hfound] at hsigned
      obtain ⟨pair, rfl, hserves, _⟩ := hsigned
      obtain ⟨row, hrow, rfl, hown⟩ := Store.Memory.owns_of_findByPhone hfound
      have hother : row.user.id ≠ u := by
        intro hid
        rw [hphone row hrow hid] at hown
        exact hnormal hown
      exact Or.inr ⟨row.user.id, hother, rfl, pair, rfl, hserves.access, hserves.refresh⟩

/-- A user registers with a phone and has a code sent to it. -/
def samplePhoneHistory (phone : String) : List Happening :=
  [.act false (.call (.register (sampleRegistration phone))),
    .act false (.call (.sendCode phone))]

/-- Whoever registers with digits is signed in. -/
theorem sampleDigits_sign_in :
    ∃ c, ((after sampleSettings sampleWorld (samplePhoneHistory "1")).run false
      (confirmCode sampleSettings "1" "0000").run).1 = .ok c ∧ SignsIn sampleSettings 1 c := by
  have hok : Except.isOk ((after sampleSettings sampleWorld (samplePhoneHistory "1")).run false
      (confirmCode sampleSettings "1" "0000").run).1 = true := by decide +kernel
  have hthere : (after sampleSettings sampleWorld (samplePhoneHistory "1")).store.HasUser 1 := by
    decide +kernel
  have hcreated : CreatedWith sampleSettings sampleWorld (samplePhoneHistory "1") 1 "1" :=
    ⟨[], _, false, sampleRegistration "1", rfl, rfl, by decide +kernel, by decide +kernel⟩
  cases hc : ((after sampleSettings sampleWorld (samplePhoneHistory "1")).run false
      (confirmCode sampleSettings "1" "0000").run).1 with
  | error e =>
    rw [hc] at hok
    cases hok
  | ok c =>
    exact ⟨c, rfl, (signs_in_owner_iff_normal sampleSettings_hasDefaultKeys sampleWorld_isFresh rfl
      _ hthere hcreated hc).1 (by decide +kernel)⟩

/-- Whoever registers with a letter in upper case is there, and is taken for nobody. -/
theorem sampleLetter_signs_in_nobody :
    (after sampleSettings sampleWorld (samplePhoneHistory "A1")).store.HasUser 1 ∧
      CreatedWith sampleSettings sampleWorld (samplePhoneHistory "A1") 1 "A1" ∧
      ((after sampleSettings sampleWorld (samplePhoneHistory "A1")).run false
        (confirmCode sampleSettings "A1" "0000").run).1 = .ok ⟨true, false, none⟩ := by
  have hcreated : CreatedWith sampleSettings sampleWorld (samplePhoneHistory "A1") 1 "A1" :=
    ⟨[], _, false, sampleRegistration "A1", rfl, rfl, by decide +kernel, by decide +kernel⟩
  exact ⟨by decide +kernel, hcreated, by decide +kernel⟩

end SignIn.Session
