-- What a route requires. The gate lets a request through exactly if every name
-- that is required is held: names are required trimmed, blank ones not at all,
-- while a held name counts as it is. Who is refused is told what is lacking.
import Mathlib.Data.List.TakeWhile
import SignIn.Http.Service
import SignIn.Proofs.Text.Normalizing

namespace SignIn

/-- Nothing is left of a text when it is trimmed exactly if it is blank. -/
theorem Text.trim_eq_empty_iff (s : String) : trim s = "" ↔ isBlankText s = true := by
  rw [isBlankText_iff]
  constructor
  · intro h
    have hnil : trimEnd (trimStart s.toList) = [] := by
      rw [← toList_trim, h]
      rfl
    unfold trimEnd at hnil
    have hstart : ∀ c ∈ trimStart s.toList, isBlank c = true := by
      intro c hc
      exact List.dropWhile_eq_nil_iff.1 (List.reverse_eq_nil_iff.1 hnil) c (List.mem_reverse.2 hc)
    -- A trimmed start that is blank throughout is empty.
    rcases trimStart_eq_nil_or s.toList with hempty | ⟨c, r, hcons, hc⟩
    · exact List.dropWhile_eq_nil_iff.1 hempty
    · rw [hcons] at hstart
      exact absurd (hstart c (.head _)) (by rw [hc]; exact Bool.false_ne_true)
  · intro h
    apply String.toList_injective
    have hstart : trimStart s.toList = [] := List.dropWhile_eq_nil_iff.2 h
    rw [toList_trim, hstart]
    rfl

namespace Http

variable {names names' : List String} {principal principal' : Option Principal}
  {next : Program Response}

/-! ## Names that are lacking -/

/-- Every required name that is not blank is held, trimmed, by the principal. -/
def HoldsAll (principal : Option Principal) (names : List String) : Prop :=
  ∀ name ∈ names, Text.isBlankText name = false →
    ∃ p, principal = some p ∧ Text.trim name ∈ p.permissions

/-- The required names that are neither blank nor held, trimmed, in their order and as often as they
are required. -/
def lacking (names held : List String) : List String :=
  ((names.filter fun name => !Text.isBlankText name).map Text.trim).filter fun name => name ∉ held

theorem requiredNames_eq (names : List String) :
    requiredNames names = (names.filter fun name => !Text.isBlankText name).map Text.trim := by
  unfold requiredNames
  rw [List.filter_map]
  congr 2
  funext name
  rw [Function.comp_apply, Bool.eq_iff_iff, Bool.not_eq_true', Bool.not_eq_true',
    ← Bool.not_eq_true, ← Bool.not_eq_true, String.isEmpty_iff, Text.trim_eq_empty_iff]

theorem missingNames_requiredNames (names held : List String) :
    missingNames (requiredNames names) held = lacking names held := by
  unfold missingNames lacking
  rw [requiredNames_eq]
  congr 1
  funext name
  simp

theorem lacking_eq_nil_iff {p : Principal} :
    lacking names p.permissions = [] ↔ HoldsAll (some p) names := by
  unfold lacking HoldsAll
  rw [List.filter_eq_nil_iff, List.forall_mem_map]
  simp

theorem requiredNames_eq_nil_iff : requiredNames names = [] ↔ HoldsAll none names := by
  rw [requiredNames_eq]
  unfold HoldsAll
  simp

/-- To hold more, or to be required less, is to hold all that is required still. -/
theorem HoldsAll.mono (h : HoldsAll principal names) (hnames : names' ⊆ names)
    (hheld : ∀ p, principal = some p → ∃ p', principal' = some p' ∧
      p.permissions ⊆ p'.permissions) : HoldsAll principal' names' := by
  intro name hname hblank
  obtain ⟨p, hp, hheldname⟩ := h name (hnames hname) hblank
  obtain ⟨p', hp', hsub⟩ := hheld p hp
  exact ⟨p', hp', hsub hheldname⟩

/-- Only which names are held counts for what is lacking. -/
theorem lacking_congr {held held' : List String} (h : ∀ name, name ∈ held ↔ name ∈ held')
    (names : List String) : lacking names held = lacking names held' := by
  unfold lacking
  simp only [h]

/-! ## The gate -/

/-- Hands a request on if its principal holds the required names, and refuses it if not. -/
def gated (names : List String) (principal : Option Principal) (next : Program Response) :
    Program Response :=
  match enforce (requiredNames names) principal with
  | .ok _ => next
  | .error e => return e.response

/-- A protected endpoint requires one name. -/
theorem guarded_eq_gated (permission : String) (p : Principal) (next : Program Response) :
    guarded permission p next = gated [permission] (some p) next := rfl

/-- What is answered to a request that is refused. -/
def refusalOf (names : List String) : Option Principal → Response
  | none => .json 403 (.object [("error", .string "forbidden"),
      ("message", .string "Permissions are missing in context")])
  | some p => .json 403 (.object [("error", .string "insufficient_permissions"),
      ("message", .string "Insufficient permissions"),
      ("missing", .array ((lacking names p.permissions).map .string))])

theorem status_refusalOf (names : List String) (principal : Option Principal) :
    (refusalOf names principal).status = 403 := by
  cases principal <;> rfl

theorem gated_of_holdsAll (h : HoldsAll principal names) (next : Program Response) :
    gated names principal next = next := by
  unfold gated enforce
  cases principal with
  | none =>
    rw [requiredNames_eq_nil_iff.2 h]
    rfl
  | some p =>
    dsimp only
    rw [missingNames_requiredNames, lacking_eq_nil_iff.2 h]
    cases (requiredNames names).isEmpty <;> rfl

theorem gated_of_not_holdsAll (h : ¬ HoldsAll principal names) (next : Program Response) :
    gated names principal next = pure (refusalOf names principal) := by
  have hrequired : (requiredNames names).isEmpty = false := by
    refine Bool.eq_false_iff.2 fun hempty => h ?_
    have hnone := requiredNames_eq_nil_iff.1 (List.isEmpty_iff.1 hempty)
    exact hnone.mono (List.Subset.refl names) nofun
  unfold gated enforce
  rw [hrequired]
  cases principal with
  | none => rfl
  | some p =>
    have hlacking : (lacking names p.permissions).isEmpty = false := by
      refine Bool.eq_false_iff.2 fun hempty => h ?_
      exact lacking_eq_nil_iff.1 (List.isEmpty_iff.1 hempty)
    dsimp only
    rw [missingNames_requiredNames, hlacking]
    rfl

/-- The request is handed on, whatever would answer it. -/
def Passes (names : List String) (principal : Option Principal) : Prop :=
  ∀ next, gated names principal next = next

theorem passes_iff : Passes names principal ↔ HoldsAll principal names := by
  refine ⟨fun h => Classical.byContradiction fun hnot => ?_, gated_of_holdsAll⟩
  have hsame := (gated_of_not_holdsAll hnot _).symm.trans (h (pure (.bare 200)))
  injection hsame with hsame
  have hstatus := status_refusalOf names principal
  rw [hsame] at hstatus
  exact absurd hstatus (by decide)

/-- **The gate decides by inclusion.** A request passes exactly if every required name that is not
blank is held, trimmed; so without such a name it passes even without a principal. Else it is
answered 403, and a principal is told exactly the names that are lacking, in order and with
repetitions. Whoever holds more or is required less passes still, and of what is held neither order
nor repetition counts. -/
theorem gate_decides_by_inclusion (names : List String) (principal : Option Principal) :
    (Passes names principal ↔ HoldsAll principal names) ∧
    (¬ HoldsAll principal names → (refusalOf names principal).status = 403 ∧
      ∀ next, gated names principal next = pure (refusalOf names principal)) ∧
    (Passes names principal → ∀ names' principal', names' ⊆ names →
      (∀ p, principal = some p → ∃ p', principal' = some p' ∧ p.permissions ⊆ p'.permissions) →
        Passes names' principal') ∧
    (∀ p p', (∀ name, name ∈ p.permissions ↔ name ∈ p'.permissions) →
      ∀ next, gated names (some p) next = gated names (some p') next) ∧
    ∀ permission p next, guarded permission p next = gated [permission] (some p) next := by
  refine ⟨passes_iff, fun h => ⟨status_refusalOf names principal, gated_of_not_holdsAll h⟩,
    fun h names' principal' hnames hheld => ?_, fun p p' hsame next => ?_, guarded_eq_gated⟩
  · exact passes_iff.2 ((passes_iff.1 h).mono hnames hheld)
  · by_cases hall : HoldsAll (some p) names
    · have hall' : HoldsAll (some p') names := hall.mono (List.Subset.refl names) fun q hq =>
        ⟨p', rfl, fun name hname => (hsame name).1 (by cases hq; exact hname)⟩
      rw [gated_of_holdsAll hall, gated_of_holdsAll hall']
    · have hall' : ¬ HoldsAll (some p') names := fun h => hall <| h.mono (List.Subset.refl names)
        fun q hq => ⟨p, rfl, fun name hname => (hsame name).2 (by cases hq; exact hname)⟩
      have hlisted : refusalOf names (some p) = refusalOf names (some p') := by
        simp only [refusalOf, lacking_congr hsame]
      rw [gated_of_not_holdsAll hall, gated_of_not_holdsAll hall', hlisted]

/-- Two names that are required, one of them twice, and one that is blank. -/
def sampleNames : List String :=
  [" profile.view.own", "\u2003", "sessions.revoke.any", "profile.view.own "]

/-- Who holds one of them and the other with a blank before it is told twice what is lacking. Who
holds both passes, with the names in any order. -/
theorem sampleNames_decide :
    let holder : List String → Principal := fun held => ⟨1, "user@example.com", held⟩
    ¬ Passes sampleNames (some (holder ["sessions.revoke.any", " profile.view.own"])) ∧
      lacking sampleNames ["sessions.revoke.any", " profile.view.own"] =
        ["profile.view.own", "profile.view.own"] ∧
      Passes sampleNames (some (holder ["sessions.revoke.any", "profile.view.own"])) := by
  intro holder
  have hlacking : lacking sampleNames ["sessions.revoke.any", " profile.view.own"] =
      ["profile.view.own", "profile.view.own"] := by decide +kernel
  have hnone : lacking sampleNames ["sessions.revoke.any", "profile.view.own"] = [] := by
    decide +kernel
  refine ⟨fun h => ?_, hlacking, (gate_decides_by_inclusion _ _).1.2 ?_⟩
  · have hall := (gate_decides_by_inclusion _ _).1.1 h
    exact absurd (hlacking.symm.trans (lacking_eq_nil_iff.2 hall)) (List.cons_ne_nil _ _)
  · exact lacking_eq_nil_iff.1 hnone

end Http

end SignIn
