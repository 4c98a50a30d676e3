-- Clearing out the records of refresh tokens. Gone are exactly those whose
-- token was over or revoked longer ago than the window, however long that is,
-- and nothing that can still be used is among them.
import Mathlib.Data.List.Basic
import SignIn.Store.Memory

namespace SignIn.Store

variable {now : Time.Instant} {window longer : Time.Duration} {r : RefreshRecord}

/-! ## Old records -/

/-- The token was over, or it was revoked, longer ago than the window. -/
def EndedBefore (now : Time.Instant) (window : Time.Duration) (r : RefreshRecord) : Prop :=
  r.expiresAt.nanos < now.nanos - window.nanos ∨
    ∃ t ∈ r.revokedAt, t.nanos < now.nanos - window.nanos

instance (now : Time.Instant) (window : Time.Duration) (r : RefreshRecord) :
    Decidable (EndedBefore now window r) := inferInstanceAs (Decidable (_ ∨ _))

/-- What ended longer ago than one window ended longer ago than a shorter one. -/
theorem EndedBefore.shorter (h : EndedBefore now longer r) (hw : window.nanos ≤ longer.nanos) :
    EndedBefore now window r := by
  rcases h with hover | ⟨t, ht, hrevoked⟩
  · exact Or.inl (by omega)
  · exact Or.inr ⟨t, ht, by omega⟩

/-- Nothing ended before the earliest instant. -/
theorem not_endedBefore (h : now.nanos - window.nanos < Time.firstNano) :
    ¬ EndedBefore now window r := by
  rintro (hover | ⟨t, _, hrevoked⟩)
  · have hmem := r.expiresAt.mem
    omega
  · have hmem := t.mem
    omega

namespace Memory

theorem isActive_iff : r.isActive now = true ↔ r.isRevoked = false ∧ now < r.expiresAt := by
  unfold RefreshRecord.isActive RefreshRecord.isExpired
  rw [Bool.and_eq_true_iff, Bool.not_eq_true', Bool.not_eq_true', decide_eq_false_iff_not]
  exact and_congr_right fun _ => Int.not_le

/-- What can be used has not ended. -/
theorem not_endedBefore_of_isActive (h : r.isActive now = true) : ¬ EndedBefore now window r := by
  obtain ⟨hunrevoked, hover⟩ := isActive_iff.1 h
  have hlater : now.nanos < r.expiresAt.nanos := hover
  have hrevokedAt : r.revokedAt = none :=
    Option.isNone_iff_eq_none.1 (Option.isSome_eq_false_iff.1 hunrevoked)
  rintro (hended | ⟨t, ht, _⟩)
  · omega
  · rw [hrevokedAt] at ht
    cases ht

theorem isOlder_iff : isOlder (now.subOrEarliest window) r = true ↔ EndedBefore now window r := by
  unfold isOlder EndedBefore
  rw [Bool.or_eq_true_iff, decide_eq_true_iff, Time.Instant.lt_subOrEarliest]
  refine or_congr_right ?_
  cases r.revokedAt with
  | none => simp
  | some t => simp [Time.Instant.lt_subOrEarliest]

/-! ## Clearing out -/

/-- What is left of a store that is cleared out at `now`, and how many records are gone. -/
structure Cleared (now : Time.Instant) (window : Time.Duration) (m : Memory) (removed : Nat)
    (m' : Memory) : Prop where
  /-- Gone are the records that ended before the window; the others stay as they are. -/
  tokens : m'.tokens = m.tokens.filter fun e => ¬ EndedBefore now window e.2
  removed : removed + m'.tokens.length = m.tokens.length
  /-- All else stays as it is. -/
  others : m' = { m with tokens := m'.tokens }
  active : ∀ e ∈ m.tokens, e.2.isActive now = true → e ∈ m'.tokens
  /-- With a window that reaches back beyond all time, nothing is gone. -/
  early : now.nanos - window.nanos < Time.firstNano → m' = m

theorem tokens_purge (m : Memory) (now : Time.Instant) (window : Time.Duration) :
    (m.purge now window).2.tokens = m.tokens.filter fun e => ¬ EndedBefore now window e.2 := by
  refine List.filter_congr fun e _ => ?_
  rw [Bool.eq_iff_iff, Bool.not_eq_true', ← Bool.not_eq_true, isOlder_iff, decide_eq_true_iff]

theorem cleared_purge (m : Memory) (now : Time.Instant) (window : Time.Duration) :
    m.Cleared now window (m.purge now window).1 (m.purge now window).2 where
  tokens := tokens_purge m now window
  removed := Nat.sub_add_cancel List.filter_sublist.length_le
  others := rfl
  active e he hactive := by
    rw [tokens_purge, List.mem_filter, decide_eq_true_iff]
    exact ⟨he, not_endedBefore_of_isActive hactive⟩
  early h := by
    have hall : (m.purge now window).2.tokens = m.tokens := by
      rw [tokens_purge, List.filter_eq_self]
      intro e _
      exact decide_eq_true (not_endedBefore h)
    change { m with tokens := (m.purge now window).2.tokens } = m
    rw [hall]

/-- What is gone with a longer window is gone with a shorter one. -/
theorem Cleared.sublist {m m' m'' : Memory} {removed removed' : Nat}
    (h : m.Cleared now window removed m') (h' : m.Cleared now longer removed' m'')
    (hw : window.nanos ≤ longer.nanos) : m'.tokens.Sublist m''.tokens := by
  rw [h.tokens, h'.tokens]
  refine List.monotone_filter_right _ fun e hkept => ?_
  rw [decide_eq_true_iff] at hkept ⊢
  exact fun hended => hkept (hended.shorter hw)

end Memory

end SignIn.Store
