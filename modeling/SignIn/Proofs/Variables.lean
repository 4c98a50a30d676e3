-- The variables that give the settings. They are checked one after another, the
-- secrets first, and the first check that fails is reported. What passes has two
-- secrets, a placeholder in each template, and every duration as it is given or
-- as it is by default. A variable that is blank counts as none.
import Mathlib.Logic.Function.Basic
import SignIn.Proofs.Session.SharedKeys
import SignIn.Proofs.Text.Decimal

namespace SignIn.ServerSettings

open Text.Decimal (Spells nat64High parseNat? parseNat?_eq_some_iff)
open Text.Template (hasPlaceholder hasPlaceholder_iff)

variable {lookup : String → Option String} {name value default : String} {fault : SettingsFault}

/-! ## What a variable gives -/

/-- The variable is set, and to more than white space. -/
def Given (lookup : String → Option String) (name value : String) : Prop :=
  lookup name = some value ∧ Text.isBlankText value = false

/-- The text is a whole number of seconds below 2^64, with white space around it at will. -/
def NamesSeconds (value : String) (n : Nat) : Prop :=
  Spells (Text.trim value) n ∧ n < 2 ^ 64

/-- A pair of braces stands in the template. -/
def HasBraces (template : String) : Prop :=
  ∃ front back, template = front ++ "\x7b\x7d" ++ back

/-- The duration that a variable gives: the number of seconds that its text names, or the default
where it is not given. -/
def Lasts (lookup : String → Option String) (name : String) (default : Nat)
    (duration : Time.Duration) : Prop :=
  (duration = .ofSeconds default ∧ ∀ value, ¬ Given lookup name value) ∨
    ∃ value n, Given lookup name value ∧ NamesSeconds value n ∧ duration = .ofSeconds n

/-! ## What is checked -/

/-- A check of the variables. -/
inductive Check
  | secrets
  | seconds (name : String)
  | template (name : String)

/-- The checks in their order. -/
def checks : List Check :=
  [.secrets, .seconds "ACCESS_TOKEN_TTL_SECS", .seconds "REFRESH_TOKEN_TTL_SECS",
    .seconds "REFRESH_TOKEN_RETENTION_SECS", .template "ACCESS_TOKEN_KEY_TEMPLATE",
    .template "OTP_KEY_TEMPLATE"]

/-- The check fails: one secret is given for both kinds of token, the text of a duration names no
number, or a template has no placeholder. What is not given fails no check. -/
inductive Fails (lookup : String → Option String) : Check → SettingsFault → Prop
  | secrets {secret : String} : Given lookup "ACCESS_TOKEN_SECRET" secret →
      Given lookup "REFRESH_TOKEN_SECRET" secret → Fails lookup .secrets .sharedSecret
  | seconds {name value : String} : Given lookup name value → (∀ n, ¬ NamesSeconds value n) →
      Fails lookup (.seconds name) (.invalidSeconds name value)
  | template {name value : String} : Given lookup name value → ¬ HasBraces value →
      Fails lookup (.template name) (.missingPlaceholder name)

/-- The fault is that of the first check that fails. -/
inductive Refused (lookup : String → Option String) : List Check → SettingsFault → Prop
  | here {check : Check} {rest : List Check} {fault : SettingsFault} : Fails lookup check fault →
      Refused lookup (check :: rest) fault
  | later {check : Check} {rest : List Check} {fault : SettingsFault} :
      (∀ e, ¬ Fails lookup check e) → Refused lookup rest fault →
      Refused lookup (check :: rest) fault

theorem exists_refused_iff {cs : List Check} :
    (∃ fault, Refused lookup cs fault) ↔ ∃ check ∈ cs, ∃ fault, Fails lookup check fault := by
  induction cs with
  | nil =>
    constructor
    · rintro ⟨fault, h⟩
      cases h
    · rintro ⟨check, hmem, -⟩
      cases hmem
  | cons c cs ih =>
    constructor
    · rintro ⟨fault, h⟩
      cases h with
      | here hc => exact ⟨c, .head _, fault, hc⟩
      | later _ hrest =>
        obtain ⟨check, hmem, hfails⟩ := ih.1 ⟨fault, hrest⟩
        exact ⟨check, .tail _ hmem, hfails⟩
    · rintro ⟨check, hmem, hfails⟩
      by_cases hc : ∃ fault, Fails lookup c fault
      · obtain ⟨fault, hc⟩ := hc
        exact ⟨fault, .here hc⟩
      · have hnone : ∀ e, ¬ Fails lookup c e := fun e he => hc ⟨e, he⟩
        rcases List.mem_cons.1 hmem with rfl | hmem
        · exact absurd hfails hc
        · obtain ⟨fault, hrest⟩ := ih.2 ⟨check, hmem, hfails⟩
          exact ⟨fault, .later hnone hrest⟩

/-- Of checks that are made one after another, the first that fails is reported. -/
theorem bind_eq_error_iff {α β : Type} {check : Check} {rest : List Check}
    {x : Except SettingsFault α} {f : α → Except SettingsFault β}
    (hcheck : ∀ e, x = .error e ↔ Fails lookup check e)
    (hrest : ∀ a, x = .ok a → ∀ e, f a = .error e ↔ Refused lookup rest e) (e : SettingsFault) :
    (x >>= f) = .error e ↔ Refused lookup (check :: rest) e := by
  cases hx : x with
  | error e' =>
    have hfails := (hcheck e').1 hx
    constructor
    · intro h
      cases h
      exact .here hfails
    · intro h
      cases h with
      | here he => exact congrArg _ (Except.error.inj (hx.symm.trans ((hcheck e).2 he)))
      | later hnone _ => exact absurd hfails (hnone e')
  | ok a =>
    have hnone : ∀ e, ¬ Fails lookup check e := by
      intro e he
      have herror := (hcheck e).2 he
      rw [hx] at herror
      cases herror
    constructor
    · intro h
      exact .later hnone ((hrest a hx e).1 h)
    · intro h
      cases h with
      | here he => exact absurd he (hnone e)
      | later _ hr => exact (hrest a hx e).2 hr

/-! ## Each check -/

theorem given_eq_some_iff : given lookup name = some value ↔ Given lookup name value := by
  unfold given Given
  rw [Option.filter_eq_some_iff, Bool.not_eq_true']

theorem given_eq_none_iff : given lookup name = none ↔ ∀ value, ¬ Given lookup name value := by
  simp only [← given_eq_some_iff, Option.eq_none_iff_forall_ne_some, ne_eq]

theorem parseNat?_trim_iff {n : Nat} :
    parseNat? nat64High (Text.trim value) = some n ↔ NamesSeconds value n := by
  rw [parseNat?_eq_some_iff]
  unfold NamesSeconds nat64High
  exact and_congr_right fun _ => by omega

theorem hasBraces_iff : HasBraces value ↔ hasPlaceholder value = true := hasPlaceholder_iff.symm

theorem seconds_error_iff {default : Time.Duration} (fault : SettingsFault) :
    seconds lookup name default = .error fault ↔ Fails lookup (.seconds name) fault := by
  unfold seconds
  constructor
  · intro h
    split at h
    · cases h
    · rename_i value hgiven
      split at h
      · cases h
      · rename_i hparse
        cases h
        refine .seconds (given_eq_some_iff.1 hgiven) fun n hn => ?_
        rw [parseNat?_trim_iff.2 hn] at hparse
        cases hparse
  · intro h
    cases h with
    | seconds hgiven hnone =>
      have hparse : parseNat? nat64High (Text.trim _) = none :=
        Option.eq_none_iff_forall_ne_some.2 fun n hn => hnone n (parseNat?_trim_iff.1 hn)
      rw [given_eq_some_iff.2 hgiven]
      dsimp only
      rw [hparse]

theorem lasts_of_seconds {default : Nat} {duration : Time.Duration}
    (h : seconds lookup name (.ofSeconds default) = .ok duration) :
    Lasts lookup name default duration := by
  unfold seconds at h
  split at h
  · rename_i hnone
    cases h
    exact .inl ⟨rfl, given_eq_none_iff.1 hnone⟩
  · rename_i value hgiven
    split at h
    · rename_i n hparse
      cases h
      exact .inr ⟨value, n, given_eq_some_iff.1 hgiven, parseNat?_trim_iff.1 hparse, rfl⟩
    · cases h

theorem template_error_iff (fault : SettingsFault) :
    template lookup name default = .error fault ↔ Fails lookup (.template name) fault := by
  unfold template
  constructor
  · intro h
    split at h
    · cases h
    · rename_i value hgiven
      split at h
      · cases h
      · rename_i hplace
        cases h
        exact .template (given_eq_some_iff.1 hgiven) fun hb => hplace (hasBraces_iff.1 hb)
  · intro h
    cases h with
    | template hgiven hplace =>
      rw [given_eq_some_iff.2 hgiven]
      dsimp only
      rw [if_neg fun h => hplace (hasBraces_iff.2 h)]

/-- The secrets to use where none is given differ from one another and from the one that is. -/
structure Fresh (lookup : String → Option String) (freshAccess freshRefresh : String) : Prop where
  differ : freshAccess ≠ freshRefresh
  access : ¬ Given lookup "REFRESH_TOKEN_SECRET" freshAccess
  refresh : ¬ Given lookup "ACCESS_TOKEN_SECRET" freshRefresh

variable {freshAccess freshRefresh : String}

/-- The secrets in use are one only if one is given for both kinds of token. -/
theorem Fresh.secrets_eq_iff (hfresh : Fresh lookup freshAccess freshRefresh) :
    (given lookup "ACCESS_TOKEN_SECRET").getD freshAccess =
        (given lookup "REFRESH_TOKEN_SECRET").getD freshRefresh ↔
      ∃ secret, Given lookup "ACCESS_TOKEN_SECRET" secret ∧
        Given lookup "REFRESH_TOKEN_SECRET" secret := by
  obtain ⟨hdiffer, hrefresh, haccess⟩ := hfresh
  simp only [← given_eq_some_iff] at *
  generalize given lookup "ACCESS_TOKEN_SECRET" = access at *
  generalize given lookup "REFRESH_TOKEN_SECRET" = refresh at *
  cases access with
  | none =>
    cases refresh with
    | none => simpa using hdiffer
    | some secret => simpa [eq_comm] using hrefresh
  | some secret =>
    cases refresh with
    | none => simpa using haccess
    | some secret' => simp [eq_comm]

theorem Fresh.failIf_error_iff (hfresh : Fresh lookup freshAccess freshRefresh)
    (fault : SettingsFault) :
    (failIf (decide ((given lookup "ACCESS_TOKEN_SECRET").getD freshAccess =
      (given lookup "REFRESH_TOKEN_SECRET").getD freshRefresh)) .sharedSecret :
        Except SettingsFault Unit) = .error fault ↔ Fails lookup .secrets fault := by
  unfold failIf
  constructor
  · intro h
    split at h
    · rename_i heq
      obtain ⟨secret, haccess, hrefresh⟩ := hfresh.secrets_eq_iff.1 (of_decide_eq_true heq)
      cases h
      exact .secrets haccess hrefresh
    · cases h
  · intro h
    cases h with
    | secrets haccess hrefresh =>
      rw [if_pos (decide_eq_true (hfresh.secrets_eq_iff.2 ⟨_, haccess, hrefresh⟩))]
      rfl

/-! ## The settings -/

/-- The variables give no settings exactly if a check of them fails, and then the first fault. -/
theorem ofLookup_error_iff (hfresh : Fresh lookup freshAccess freshRefresh)
    (fault : SettingsFault) :
    ofLookup freshAccess freshRefresh lookup = .error fault ↔ Refused lookup checks fault := by
  unfold ofLookup checks
  -- Check by check, in the order of the list. Behind the last one nothing fails.
  refine bind_eq_error_iff hfresh.failIf_error_iff (fun _ _ => ?_) fault
  refine bind_eq_error_iff seconds_error_iff fun _ _ => ?_
  refine bind_eq_error_iff seconds_error_iff fun _ _ => ?_
  refine bind_eq_error_iff seconds_error_iff fun _ _ => ?_
  refine bind_eq_error_iff template_error_iff fun _ _ => ?_
  refine bind_eq_error_iff template_error_iff fun _ _ e => ?_
  constructor
  · intro h
    cases h
  · intro h
    cases h

/-- What the session service relies on: two secrets, templates with a placeholder, and durations as
they are given. -/
structure Sound (lookup : String → Option String) (s : Settings) : Prop where
  secrets_differ : s.accessSecret ≠ s.refreshSecret
  accessTemplate : HasBraces s.accessKeyTemplate
  codeTemplate : HasBraces s.codeKeyTemplate
  accessLifetime : Lasts lookup "ACCESS_TOKEN_TTL_SECS" 600 s.accessLifetime
  refreshLifetime : Lasts lookup "REFRESH_TOKEN_TTL_SECS" 2592000 s.refreshLifetime
  retention : Lasts lookup "REFRESH_TOKEN_RETENTION_SECS" 2592000 s.retention

theorem sound_of_ofLookup {server : ServerSettings}
    (h : ofLookup freshAccess freshRefresh lookup = .ok server) :
    Sound lookup server.session := by
  have hplaces := hasPlaceholders_of_ofLookup h
  unfold ofLookup at h
  obtain ⟨hdiffer, h⟩ := Token.failIf_ok h
  obtain ⟨accessLifetime, haccess, h⟩ := Token.bind_eq_ok h
  obtain ⟨refreshLifetime, hrefresh, h⟩ := Token.bind_eq_ok h
  obtain ⟨retention, hretention, h⟩ := Token.bind_eq_ok h
  obtain ⟨accessKeyTemplate, _, h⟩ := Token.bind_eq_ok h
  obtain ⟨codeKeyTemplate, _, h⟩ := Token.bind_eq_ok h
  cases h
  exact {
    secrets_differ := of_decide_eq_false hdiffer
    accessTemplate := hasBraces_iff.2 hplaces.access
    codeTemplate := hasBraces_iff.2 hplaces.code
    accessLifetime := lasts_of_seconds haccess
    refreshLifetime := lasts_of_seconds hrefresh
    retention := lasts_of_seconds hretention }

/-! ## Blank variables -/

/-- A lookup matters only by what it gives. -/
theorem ofLookup_congr {lookup' : String → Option String}
    (h : ∀ name, given lookup name = given lookup' name) :
    ofLookup freshAccess freshRefresh lookup = ofLookup freshAccess freshRefresh lookup' := by
  unfold ofLookup seconds template
  simp only [h]

theorem given_update_blank {blank : String} (hblank : Text.isBlankText blank = true)
    (name name' : String) :
    given (Function.update lookup name (some blank)) name' =
      given (Function.update lookup name none) name' := by
  unfold given
  by_cases hname : name' = name
  · rw [hname, Function.update_self, Function.update_self, Option.filter_some, hblank]
    rfl
  · rw [Function.update_of_ne hname, Function.update_of_ne hname]

/-- **The variables are checked in full, and blank ones count as unset.** Settings are given exactly
if no check fails: not the secrets, which may not be one, no duration, and no template. If one
fails, the fault of the first one is reported. The settings given have two secrets, a placeholder in
each template, and durations as their variables name them, or by default. To leave a variable blank
or to leave it out is the same. -/
theorem variables_decide_settings (hfresh : Fresh lookup freshAccess freshRefresh) :
    (∀ server, ofLookup freshAccess freshRefresh lookup = .ok server →
      Sound lookup server.session) ∧
    ((∃ fault, ofLookup freshAccess freshRefresh lookup = .error fault) ↔
      ∃ check ∈ checks, ∃ fault, Fails lookup check fault) ∧
    (∀ fault, ofLookup freshAccess freshRefresh lookup = .error fault ↔
      Refused lookup checks fault) ∧
    ∀ name blank, Text.isBlankText blank = true →
      ofLookup freshAccess freshRefresh (Function.update lookup name (some blank)) =
        ofLookup freshAccess freshRefresh (Function.update lookup name none) := by
  refine ⟨fun server h => sound_of_ofLookup h, ?_, ofLookup_error_iff hfresh, fun name blank h =>
    ofLookup_congr (given_update_blank h name)⟩
  rw [← exists_refused_iff]
  exact exists_congr (ofLookup_error_iff hfresh)

/-- A refresh lifetime that is blank, and a retention and a template to be chosen. -/
def sampleVariables (retention template : String) : String → Option String
  | "ACCESS_TOKEN_SECRET" => some "first"
  | "REFRESH_TOKEN_SECRET" => some "second"
  | "ACCESS_TOKEN_TTL_SECS" => some " +060\n"
  | "REFRESH_TOKEN_TTL_SECS" => some "\u2003"
  | "REFRESH_TOKEN_RETENTION_SECS" => some retention
  | "OTP_KEY_TEMPLATE" => some template
  | _ => none

theorem sampleVariables_fresh (retention template : String) :
    Fresh (sampleVariables retention template) "third" "fourth" where
  differ := by decide
  access h := absurd (Option.some.inj h.1) (by decide)
  refresh h := absurd (Option.some.inj h.1) (by decide)

/-- The greatest retention there is passes. With one second more it is what is reported, whether or
not the template has a placeholder. -/
theorem sampleVariables_decided :
    (∃ server, ofLookup "third" "fourth"
        (sampleVariables "18446744073709551615" "code/\x7b\x7d") = .ok server ∧
      Sound (sampleVariables "18446744073709551615" "code/\x7b\x7d") server.session) ∧
    Fresh (sampleVariables "18446744073709551616" "code") "third" "fourth" ∧
    Refused (sampleVariables "18446744073709551616" "code") checks
      (.invalidSeconds "REFRESH_TOKEN_RETENTION_SECS" "18446744073709551616") := by
  refine ⟨?_, sampleVariables_fresh _ _, ?_⟩
  · have hok : (ofLookup "third" "fourth"
        (sampleVariables "18446744073709551615" "code/\x7b\x7d")).isOk = true := by
      decide +kernel
    cases hgiven : ofLookup "third" "fourth"
        (sampleVariables "18446744073709551615" "code/\x7b\x7d") with
    | error e =>
      rw [hgiven] at hok
      cases hok
    | ok server =>
      exact ⟨server, rfl,
        (variables_decide_settings (sampleVariables_fresh _ _)).1 server hgiven⟩
  · refine ((variables_decide_settings (sampleVariables_fresh _ _)).2.2.1 _).1 ?_
    decide +kernel

end SignIn.ServerSettings
