-- Whose an entry of the cache is. A template tells the users apart, or the
-- identifiers, exactly if it has a placeholder, wherever it stands and however
-- often. So under settings that are accepted nobody's marker is in the way of
-- another user's, and no challenge in the way of another identifier's.
import SignIn.Proofs.Session.SharedKeys

namespace SignIn

namespace Settings

/-! ## Templates -/

/-- Markers tell users apart exactly where their template has a placeholder. -/
theorem injective_accessKey_iff (s : Settings) : Function.Injective s.accessKey ↔
    ∃ front back, s.accessKeyTemplate = front ++ "\x7b\x7d" ++ back := by
  rw [← Text.Template.hasPlaceholder_iff, ← Text.Template.injective_fill_iff]
  constructor
  · intro hinj
    rw [Text.Template.injective_fill_iff]
    by_contra hnone
    -- Without a placeholder there is one key for all.
    have hsame : s.accessKey 0 = s.accessKey 1 := by
      apply String.toList_injective
      unfold accessKey
      have hchars := Text.Template.fillChars_eq_self (eq_false_of_ne_true hnone)
      rw [Text.Template.toList_fill, Text.Template.toList_fill, hchars, hchars]
    exact absurd (hinj hsame) (by decide)
  · intro hinj u v he
    exact Text.Decimal.ofInt_injective (hinj he)

theorem injective_codeKey_iff (s : Settings) : Function.Injective s.codeKey ↔
    ∃ front back, s.codeKeyTemplate = front ++ "\x7b\x7d" ++ back := by
  rw [← Text.Template.hasPlaceholder_iff]
  exact Text.Template.injective_fill_iff s.codeKeyTemplate

variable {s : Settings}

/-- No two identifiers share a challenge, whatever the template is. -/
theorem HasPlaceholders.codeKey_injective (h : s.HasPlaceholders) {i j : String}
    (he : s.codeKey i = s.codeKey j) : i = j :=
  Text.Template.fill_injective h.code he

end Settings

namespace Session

open Dialog (Leads)
open World (InCourse)

variable {s : Settings} {a : Act} {w w' : World} {reply : Reply}

/-! ## Entries that are left alone -/

/-- What no question of an act is about, the act leaves as it is. -/
theorem Act.entry_eq {key : String} (hl : Leads InCourse w (a.program s) reply w')
    (hactor : ∀ u, a.actor s w = some u → s.accessKey u ≠ key)
    (hchallenge : ∀ i, a.challenge = some i → s.codeKey i ≠ key) :
    w'.cache.find? key = w.cache.find? key := by
  apply (a.conduct s w).holds.keeps hl (I := fun w' => w'.cache.find? key = w.cache.find? key)
  · intro w₁ q x w₂ hsame hconcerns hturn
    rw [← hsame]
    apply hturn.find?_eq
    rintro r rfl hkey
    rcases hconcerns.key with ⟨u, hu, he⟩ | ⟨i, hi, _, he⟩
    · exact hactor u hu (by rw [← he, hkey])
    · exact hchallenge i hi (by rw [← he, hkey])
  · rfl

/-- **Keys tell whose they are.** No two users have the same marker exactly if the template of the
markers has a placeholder, and no two identifiers the same challenge exactly if theirs has one. Both
have one under settings that are accepted. Then an act that keeps to its kind of entry leaves the
markers of all users alone but of the one that it acts for, and the challenges of all identifiers
but of the one that it is about. -/
theorem keys_tell_owners_iff (s : Settings) :
    (Function.Injective s.accessKey ↔
      ∃ front back, s.accessKeyTemplate = front ++ "\x7b\x7d" ++ back) ∧
    (Function.Injective s.codeKey ↔
      ∃ front back, s.codeKeyTemplate = front ++ "\x7b\x7d" ++ back) ∧
    ∀ freshAccess freshRefresh lookup server,
      ServerSettings.ofLookup freshAccess freshRefresh lookup = .ok server → server.session = s →
        Function.Injective s.accessKey ∧ Function.Injective s.codeKey ∧
        ∀ (a : Act) w reply w', Leads InCourse w (a.program s) reply w' →
          (∀ v, a.actor s w ≠ some v → (∀ i, a.challenge = some i → s.codeKey i ≠ s.accessKey v) →
            w'.cache.find? (s.accessKey v) = w.cache.find? (s.accessKey v)) ∧
          ∀ j, a.challenge ≠ some j → (∀ u, a.actor s w = some u → s.accessKey u ≠ s.codeKey j) →
            w'.cache.find? (s.codeKey j) = w.cache.find? (s.codeKey j) := by
  refine ⟨s.injective_accessKey_iff, s.injective_codeKey_iff, ?_⟩
  rintro freshAccess freshRefresh lookup server hok rfl
  have hp := ServerSettings.hasPlaceholders_of_ofLookup hok
  refine ⟨fun _ _ he => hp.accessKey_injective he, fun _ _ he => hp.codeKey_injective he, ?_⟩
  intro a w reply w' hl
  constructor
  · intro v hv hcodes
    apply a.entry_eq hl _ hcodes
    intro u hu he
    rw [hp.accessKey_injective he] at hu
    exact hv hu
  · intro j hj hmarkers
    apply a.entry_eq hl hmarkers
    intro i hi he
    rw [hp.codeKey_injective he] at hi
    exact hj hi

/-- Placeholders that are repeated, stand next to each other and are themselves in braces. -/
def bracesLookup (name : String) : Option String :=
  if name = "ACCESS_TOKEN_KEY_TEMPLATE" then some "\x7b\x7b\x7d\x7d:\x7b\x7d\x7b\x7d"
  else if name = "OTP_KEY_TEMPLATE" then some "\x7b\x7dcode\x7b\x7d"
  else none

/-- The settings of a session service with such templates. -/
def sampleBraces : Settings :=
  { sampleSettings with
    accessKeyTemplate := "\x7b\x7b\x7d\x7d:\x7b\x7d\x7b\x7d"
    codeKeyTemplate := "\x7b\x7dcode\x7b\x7d" }

/-- Two users are signed in. A code that is sent to an identifier with a placeholder in it leaves
the challenge of another one alone, and ending the sessions of one user leaves the other signed
in. -/
theorem sampleBraces_tell_owners :
    let w := after sampleBraces sampleWorld
      (sampleArrivals ++ [.act false (.call (.sendCode "1"))])
    let sent := (w.run false (Act.program sampleBraces (.call (.sendCode "\x7b\x7dcode1")))).2
    let ended := (w.run false (Act.program sampleBraces (.call (.revokeAll 2)))).2
    (ServerSettings.ofLookup "access secret" "refresh secret" bracesLookup).map
        ServerSettings.session = .ok sampleBraces ∧
      (w.cache.find? (sampleBraces.codeKey "1")).isSome = true ∧
      sent.cache.find? (sampleBraces.codeKey "1") = w.cache.find? (sampleBraces.codeKey "1") ∧
      (w.cache.find? (sampleBraces.accessKey 1)).isSome = true ∧
      ended.cache.find? (sampleBraces.accessKey 1) = w.cache.find? (sampleBraces.accessKey 1) := by
  intro w sent ended
  have hok : (ServerSettings.ofLookup "access secret" "refresh secret" bracesLookup).map
      ServerSettings.session = .ok sampleBraces := by decide +kernel
  obtain ⟨server, hserver, hsession⟩ : ∃ server,
      ServerSettings.ofLookup "access secret" "refresh secret" bracesLookup = .ok server ∧
        server.session = sampleBraces := by
    cases hs : ServerSettings.ofLookup "access secret" "refresh secret" bracesLookup with
    | error e =>
      rw [hs] at hok
      cases hok
    | ok server =>
      rw [hs] at hok
      exact ⟨server, rfl, Except.ok.inj hok⟩
  have hf : w.faults = [] := faults_after rfl _
  obtain ⟨_, _, hown⟩ := (keys_tell_owners_iff sampleBraces).2.2 _ _ _ server hserver hsession
  have hsent := (hown (.call (.sendCode "\x7b\x7dcode1")) w _ _
    (World.passes_run_of_nil false hf _).leads).2 "1"
  have hended := (hown (.call (.revokeAll 2)) w _ _ (World.passes_run_of_nil false hf _).leads).1 1
  refine ⟨hok, by decide +kernel, hsent (by decide +kernel) nofun, by decide +kernel, ?_⟩
  exact hended (by decide) nofun

end Session

end SignIn
