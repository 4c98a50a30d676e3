-- Markers and challenges in one cache. All that is asked of the templates of
-- their keys is a placeholder in each, so that a challenge may be kept where a
-- marker is. This is so exactly if the marker's key, read by the template of
-- the challenges, gives an identifier in normal form.
import SignIn.ServerSettings
import SignIn.Proofs.Text.Templates
import SignIn.Proofs.Token.Reading
import SignIn.Proofs.Session.Delivery
import SignIn.Proofs.Session.Isolation

namespace SignIn

open Text (normalize)
open Text.Template (hasPlaceholder)

/-! ## Templates that are accepted -/

/-- Both templates have a placeholder. -/
structure Settings.HasPlaceholders (s : Settings) : Prop where
  access : hasPlaceholder s.accessKeyTemplate = true
  code : hasPlaceholder s.codeKeyTemplate = true

namespace ServerSettings

variable {lookup : String → Option String}

theorem hasPlaceholder_of_template {name default t : String}
    (h : template lookup name default = .ok t) (hd : hasPlaceholder default = true) :
    hasPlaceholder t = true := by
  unfold template at h
  split at h
  · cases h
    exact hd
  · split at h
    · rename_i hthere
      cases h
      exact hthere
    · cases h

theorem hasPlaceholders_of_ofLookup {freshAccess freshRefresh : String} {server : ServerSettings}
    (h : ofLookup freshAccess freshRefresh lookup = .ok server) :
    server.session.HasPlaceholders := by
  unfold ofLookup at h
  have h := (Token.failIf_ok h).2
  obtain ⟨accessLifetime, _, h⟩ := Token.bind_eq_ok h
  obtain ⟨refreshLifetime, _, h⟩ := Token.bind_eq_ok h
  obtain ⟨retention, _, h⟩ := Token.bind_eq_ok h
  obtain ⟨accessKeyTemplate, haccess, h⟩ := Token.bind_eq_ok h
  obtain ⟨codeKeyTemplate, hcode, h⟩ := Token.bind_eq_ok h
  cases h
  have hmarkers : hasPlaceholder "access_token:\x7b\x7d" = true := by decide
  have hcodes : hasPlaceholder "otp:\x7b\x7d" = true := by decide
  exact ⟨hasPlaceholder_of_template haccess hmarkers, hasPlaceholder_of_template hcode hcodes⟩

end ServerSettings

/-! ## Keys that are shared -/

namespace Settings

/-- Whether a challenge can be kept under the key of the user's marker. -/
def sharesKey (s : Settings) (u : Int) : Bool :=
  match Text.Template.read s.codeKeyTemplate (s.accessKey u) with
  | some text => text != "" && normalize text == text
  | none => false

variable {s : Settings} {u : Int}

theorem sharesKey_iff (h : s.HasPlaceholders) (u : Int) : s.sharesKey u = true ↔
    ∃ identifier, normalize identifier ≠ "" ∧ s.codeKey (normalize identifier) = s.accessKey u := by
  unfold sharesKey
  constructor
  · intro hs
    split at hs
    · rename_i text hread
      obtain ⟨hthere, hnormal⟩ := Bool.and_eq_true_iff.1 hs
      have hnormal : normalize text = text := eq_of_beq hnormal
      refine ⟨text, by rw [hnormal]; simpa using hthere, ?_⟩
      rw [hnormal]
      exact (Text.Template.read_eq_some_iff h.code).1 hread
    · cases hs
  · rintro ⟨identifier, hthere, hkey⟩
    rw [(Text.Template.read_eq_some_iff h.code).2 hkey]
    simp [hthere, Text.normalize_normalize]

/-- No two users share a marker, whatever the template is. -/
theorem HasPlaceholders.accessKey_injective (h : s.HasPlaceholders) {v : Int}
    (he : s.accessKey u = s.accessKey v) : u = v :=
  Text.Decimal.ofInt_injective (Text.Template.fill_injective h.access he)

/-- A marker has a key of its own exactly if it does not share it with a challenge. -/
theorem HasPlaceholders.hasOwnKey_iff (h : s.HasPlaceholders) :
    s.HasOwnKey u ↔ s.sharesKey u = false := by
  rw [Bool.eq_false_iff, ne_eq, sharesKey_iff h]
  refine ⟨fun hown ⟨identifier, hthere, hkey⟩ => hown.codes identifier hthere hkey, fun hn => ?_⟩
  exact ⟨fun _ he => h.accessKey_injective he, fun identifier hthere hkey =>
    hn ⟨identifier, hthere, hkey⟩⟩

/-- Templates that go apart before their first placeholders share no key. -/
theorem HasPlaceholders.sharesKey_eq_false (h : s.HasPlaceholders)
    (ha : ¬ Text.Template.leadChars s.accessKeyTemplate.toList <+:
      Text.Template.leadChars s.codeKeyTemplate.toList)
    (hc : ¬ Text.Template.leadChars s.codeKeyTemplate.toList <+:
      Text.Template.leadChars s.accessKeyTemplate.toList) (u : Int) : s.sharesKey u = false := by
  refine Bool.eq_false_iff.2 fun hs => ?_
  obtain ⟨identifier, _, hkey⟩ := (sharesKey_iff h u).1 hs
  exact Text.Template.fill_ne_fill h.code h.access hc ha _ _ hkey

end Settings

namespace Session

open Dialog (Passes)
open World (InCourse)

variable {s : Settings} {a : Act} {w w' : World} {u : Int} {asked : List Ask} {r : Reply}

/-! ## What challenges do to markers -/

/-- An act that is about a challenge ends no sessions. -/
theorem endsSessions_of_challenge (hc : a.challenge.isSome = true) : a.endsSessions = false := by
  cases a with
  | mint => cases hc
  | call c =>
    cases c with
    | sendCode | confirmCode => rfl
    | _ => cases hc

/-- No act that is about a challenge removes a marker that has a key of its own. -/
theorem not_deletes_of_challenge (hk : s.HasOwnKey u) (hc : a.challenge.isSome = true)
    (h : Passes InCourse w (a.program s) asked r w') :
    .cache (.delete (s.accessKey u)) ∉ asked := by
  intro hm
  refine (a.conduct s w).holds.of_passes (P := (· ≠ .cache (.delete (s.accessKey u)))) h
    (fun w₁ q hasks hq => ?_) _ hm rfl
  subst hq
  rcases hasks with ⟨hends, _⟩ | ⟨identifier, habout, hthere, hkey⟩
  · exact Bool.false_ne_true ((endsSessions_of_challenge hc).symm.trans hends)
  · obtain ⟨written, rfl⟩ := exists_of_challenge habout
    exact hk.codes written hthere hkey.symm

/-- A challenge for the identifier takes the place of the user's marker: sending a code overwrites
the marker, and a code that is the text of the marker consumes it. -/
structure TakesPlace (s : Settings) (u : Int) (identifier : String) : Prop where
  sent : ∀ w : World, w.faults = [] →
    (w.run false (sendCode s identifier).run).2.cache.find? (s.accessKey u) =
      some ⟨nextCode s w, w.ticks + Settings.codeLifetime.nanos⟩
  confirmed : ∀ (w : World) (marker : Cache.Entry) (code : String), w.faults = [] →
    w.cache.find? (s.accessKey u) = some marker → w.ticks < marker.expiresAt →
      normalize code ≠ "" → marker.value = normalize code →
        w.run false (confirmCode s identifier code).run =
          World.run false { w with cache := w.cache.erase (s.accessKey u) }
            (signInByPhone s (normalize identifier)).run

theorem takesPlace_of_key {identifier : String} (hthere : normalize identifier ≠ "")
    (hkey : s.codeKey (normalize identifier) = s.accessKey u) : TakesPlace s u identifier := by
  have hblank : (normalize identifier).isEmpty = false := by simpa using hthere
  constructor
  · intro w hf
    rw [← hkey]
    exact (sendCode_delivers hf hblank).2.entry
  · intro w marker code hf hmarker hover hcode hvalue
    have hcode : (normalize code).isEmpty = false := by simpa using hcode
    rw [← hkey] at hmarker ⊢
    rw [run_confirmCode ⟨hf, hmarker⟩ hover hblank hcode, if_pos hvalue]
    rfl

/-- **When challenges spare a marker.** Under settings that are accepted, no identifier has its
challenge where a user's marker is kept exactly if the key is not shared. Then sending a code leaves
the marker alone, and confirming one does not remove it, and leaves it alone unless it is that of
the owner of the phone, who is signed in. If the key is shared, there is an identifier whose
challenges take the marker's place. -/
theorem challenges_spare_marker_iff {freshAccess freshRefresh : String}
    {lookup : String → Option String} {server : ServerSettings}
    (h : ServerSettings.ofLookup freshAccess freshRefresh lookup = .ok server) (u : Int) :
    let s := server.session
    ((∀ identifier, normalize identifier ≠ "" →
        s.accessKey u ≠ s.codeKey (normalize identifier)) ↔ s.sharesKey u = false) ∧
    (s.sharesKey u = false → ∀ (a : Act) w asked reply w', a.challenge.isSome = true →
      Passes InCourse w (a.program s) asked reply w' →
        .cache (.delete (s.accessKey u)) ∉ asked ∧ (a.actor s w ≠ some u →
          w'.cache.find? (s.accessKey u) = w.cache.find? (s.accessKey u))) ∧
    (s.sharesKey u = true → ∃ identifier, TakesPlace s u identifier) := by
  intro s
  have hp : s.HasPlaceholders := ServerSettings.hasPlaceholders_of_ofLookup h
  refine ⟨?_, fun hs a w asked reply w' hc hpasses => ?_, fun hs => ?_⟩
  · rw [← hp.hasOwnKey_iff]
    exact ⟨fun hn => ⟨fun _ he => hp.accessKey_injective he, fun i hthere hkey =>
      hn i hthere hkey.symm⟩, fun hown i hthere hkey => hown.codes i hthere hkey.symm⟩
  · have hown := hp.hasOwnKey_iff.2 hs
    exact ⟨not_deletes_of_challenge hown hc hpasses, fun hv => a.marker_eq hown hv hpasses.leads⟩
  · obtain ⟨identifier, hthere, hkey⟩ := (Settings.sharesKey_iff hp u).1 hs
    exact ⟨identifier, takesPlace_of_key hthere hkey⟩

/-- The settings of a server for which nothing is given. -/
def sampleServer : ServerSettings where
  bindAddress := "127.0.0.1:3100"
  databaseUrl := "postgres://localhost:5432/sporta"
  redisUrl := "redis://127.0.0.1:6379"
  session := sampleSettings

/-- The default templates keep them apart. -/
theorem sampleServer_keeps_apart :
    ServerSettings.ofLookup "access secret" "refresh secret" (fun _ => none) = .ok sampleServer ∧
      sampleSettings.sharesKey 1 = false ∧
      ∀ identifier, normalize identifier ≠ "" →
        sampleSettings.accessKey 1 ≠ sampleSettings.codeKey (normalize identifier) := by
  have hok : ServerSettings.ofLookup "access secret" "refresh secret" (fun _ => none) =
      .ok sampleServer := by
    decide +kernel
  have hp : sampleSettings.HasPlaceholders := ServerSettings.hasPlaceholders_of_ofLookup hok
  have happart : sampleSettings.sharesKey 1 = false :=
    hp.sharesKey_eq_false (by decide) (by decide) 1
  exact ⟨hok, happart, (challenges_spare_marker_iff hok 1).1.2 happart⟩

/-- One template for markers and for challenges. -/
def sampleLookup (name : String) : Option String :=
  if name = "ACCESS_TOKEN_KEY_TEMPLATE" ∨ name = "OTP_KEY_TEMPLATE" then some "k:\x7b\x7d" else none

/-- The settings of a session service that keeps markers where it keeps challenges. -/
def sampleShared : Settings :=
  { sampleSettings with accessKeyTemplate := "k:\x7b\x7d", codeKeyTemplate := "k:\x7b\x7d" }

/-- One template for both is accepted. A user has just registered and is signed in, until anybody
has a code sent to a phone with the digits of the user's id. -/
theorem sampleShared_overwrites :
    (ServerSettings.ofLookup "access secret" "refresh secret" sampleLookup).map
        ServerSettings.session = .ok sampleShared ∧
      normalize "1" ≠ "" ∧ sampleShared.accessKey 1 = sampleShared.codeKey (normalize "1") ∧
      (let w := after sampleShared sampleWorld
        [.act false (.call (.register (sampleRegistration "2")))]
      (w.run false (isAlive sampleShared 1 "0").run).1 = .ok true ∧
        ((w.run false (sendCode sampleShared "1").run).2.run false
          (isAlive sampleShared 1 "0").run).1 = .ok false) := by
  refine ⟨by decide +kernel, by decide +kernel, by decide +kernel, ?_, ?_⟩ <;> decide +kernel

end Session

end SignIn
