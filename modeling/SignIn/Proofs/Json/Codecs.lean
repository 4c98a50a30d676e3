-- Single values read back, each codec by itself: truth values, numbers within
-- bounds, dates and clock readings, and values that may be null, which are told
-- apart from null by their first byte.
import SignIn.Proofs.Json.Records
import SignIn.Proofs.Time.Notation

namespace SignIn.Json

open Text (utf8)
open Text.Decimal (int32Low int32High int64Low int64High nat64High)

namespace Codec

variable {α : Type} {c : Codec α} {a : α} {ok : Prop}

theorem bool_readsBack (b : Bool) : bool.ReadsBack b True := by
  intro rest _
  apply Yields.of_eq trivial
  cases b <;> rfl

theorem int32_readsBack (n : Int) : int32.ReadsBack n (int32Low ≤ n ∧ n ≤ int32High) :=
  fun _ hr => readInt_yields (by decide) (by decide) n hr

theorem nat64_readsBack (n : Nat) : nat64.ReadsBack n (n ≤ nat64High) := by
  intro rest hr
  have hread : Yields (((0 : Int) ≤ n ∧ (n : Int) ≤ nat64High) ∧ True)
      (nat64.read (utf8 (nat64.write n).text ++ rest)) n rest := by
    apply (readInt_yields (by decide) (by decide) (n : Int) hr).bind
    exact .of_eq trivial rfl
  apply hread.congr
  simp only [and_true]
  omega

theorem ofText_readsBack {write : α → String} {parse : String → Option α}
    (h : parse (write a) = some a) : (ofText write parse).ReadsBack a True := by
  intro rest _
  apply Yields.of_eq trivial
  change (readText >>= _) (utf8 (quote (write a)) ++ rest) = _
  rw [Reader.bind_of_value _ (readText_quote _ rest), h]
  rfl

theorem date_readsBack (d : Time.Date) : date.ReadsBack d True :=
  ofText_readsBack d.ofText?_text

theorem timestamp_readsBack (t : Time.Timestamp) : timestamp.ReadsBack t True :=
  ofText_readsBack t.ofText?_text

/-! ## Values that may be null -/

/-- What is written begins with a byte that is no blank and with which null does not begin. -/
def Begins (c : Codec α) (a : α) : Prop :=
  ∃ b bytes, utf8 (c.write a).text = b :: bytes ∧ isSpace b = false ∧ b ≠ 0x6E

theorem text_begins (s : String) : text.Begins s :=
  ⟨_, _, utf8_quote s, by decide, by decide⟩

theorem texts_begins (xs : List String) : text.list.Begins xs :=
  ⟨_, _, utf8_array _, by decide, by decide⟩

theorem int_begins (low high n : Int) : (int low high).Begins n := by
  unfold Begins
  cases n with
  | ofNat n =>
    obtain ⟨b, ds, he, hb⟩ := digitBytes_eq_cons_digit n
    refine ⟨b, ds, (utf8_ofNat n).trans he, isSpace_of_isDigit hb, ?_⟩
    rintro rfl
    exact absurd hb (by decide)
  | negSucc n => exact ⟨_, _, utf8_negSucc n, by decide, by decide⟩

/-- A value that may be null is read back as the value is. -/
theorem ReadsBack.nullable (h : c.ReadsBack a ok) (hb : c.Begins a) :
    c.nullable.ReadsBack (some a) ok := by
  intro rest hr
  obtain ⟨b, bytes, he, hspace, hnull⟩ := hb
  have hpeek : peek (utf8 (c.write a).text ++ rest) =
      .value (some b) (utf8 (c.write a).text ++ rest) := by
    rw [he, List.cons_append]
    simp [peek, skipSpace, hspace]
  have hread : readNullable c.read (utf8 (c.write a).text ++ rest) =
      (do pure (some (← c.read)) : Reader (Option α)) (utf8 (c.write a).text ++ rest) := by
    unfold readNullable
    rw [Reader.bind_of_value _ hpeek]
    apply congrFun
    split
    · rename_i heq
      exact absurd (Option.some.inj heq) hnull
    · rfl
  have hy : Yields (ok ∧ True) (readNullable c.read (utf8 (c.write a).text ++ rest)) (some a)
      rest := by
    rw [hread]
    exact (h rest hr).bind (.of_eq trivial rfl)
  exact hy.congr (iff_of_eq (and_true ok))

theorem nullable_none_readsBack (c : Codec α) : c.nullable.ReadsBack none True :=
  fun _ _ => .of_eq trivial rfl

/-- A value that may be null is read back where the value is, if there is one. -/
theorem nullable_readsBack {ok : α → Prop} (h : ∀ a, c.ReadsBack a (ok a)) (hb : ∀ a, c.Begins a)
    (o : Option α) : c.nullable.ReadsBack o (∀ a ∈ o, ok a) := by
  cases o with
  | none =>
    intro rest hr
    exact ((nullable_none_readsBack c) rest hr).congr (iff_of_true trivial nofun)
  | some a =>
    intro rest hr
    exact ((h a).nullable (hb a) rest hr).congr (by simp)

end Codec

/-- A field that is left out without a value is read back with it and without it. -/
theorem ReadBack.sparse {α : Type} {c : Codec α} {fs : Record} {vs : Values fs} {q : Prop}
    (name : String) (hn : name ∉ fs.map Field.name) (hc : ∀ a, c.ReadsBack a True)
    (hb : ∀ a, c.Begins a) (o : Option α) (h : ReadBack fs vs q) :
    ∃ ok, (ok ↔ q) ∧ ReadBack (Field.sparse name c :: fs) (o, vs) ok := by
  cases o with
  | none => exact ⟨q, Iff.rfl, .skip hn rfl rfl h⟩
  | some a => exact ⟨True ∧ q, by simp, .cons hn rfl ((hc a).nullable (hb a)) h⟩

end SignIn.Json
