-- Whole numbers read back: the digits that are written for a number are read
-- as that number, as long as it has 64 bits, and as no whole number beyond.
import SignIn.Json.Read
import SignIn.Proofs.Text.Bytes

namespace SignIn.Json

open Text (utf8)
open Text.Decimal (digits)

/-! ## What follows a value, and how reading it turns out -/

/-- The text goes on as behind an item or a member's value: with a comma or a closing bracket. -/
def Ends (rest : Bytes) : Prop := ∃ b r, rest = b :: r ∧ (b = 0x2C ∨ b = 0x5D ∨ b = 0x7D)

/-- Reading yields the value and leaves the rest where `ok` holds, and faults elsewhere. -/
def Yields {α : Type} (ok : Prop) (o : Outcome α) (a : α) (rest : Bytes) : Prop :=
  (ok → o = .value a rest) ∧ (¬ ok → ∃ f r, o = .fault f r)

theorem Yields.of_eq {α : Type} {ok : Prop} {o : Outcome α} {a : α} {rest : Bytes} (h : ok)
    (he : o = .value a rest) : Yields ok o a rest :=
  ⟨fun _ => he, fun hn => absurd h hn⟩

theorem Reader.bind_of_value {α β : Type} {m : Reader α} {bytes rest : Bytes} {a : α}
    (f : α → Reader β) (h : m bytes = .value a rest) : (m >>= f) bytes = f a rest := by
  simp only [bind, h]

theorem Reader.bind_of_fault {α β : Type} {m : Reader α} {bytes rest : Bytes} {e : Fault}
    (f : α → Reader β) (h : m bytes = .fault e rest) : (m >>= f) bytes = .fault e rest := by
  simp only [bind, h]

/-- Reading on behind a value that is read. -/
theorem Yields.bind {α β : Type} {p q : Prop} {m : Reader α} {bytes rest rest' : Bytes} {a : α}
    {f : α → Reader β} {b : β} (hm : Yields p (m bytes) a rest) (hf : Yields q (f a rest) b rest') :
    Yields (p ∧ q) ((m >>= f) bytes) b rest' := by
  refine ⟨fun ⟨hp, hq⟩ => ?_, fun h => ?_⟩
  · rw [Reader.bind_of_value f (hm.1 hp)]
    exact hf.1 hq
  · by_cases hp : p
    · rw [Reader.bind_of_value f (hm.1 hp)]
      exact hf.2 fun hq => h ⟨hp, hq⟩
    · obtain ⟨e, r, he⟩ := hm.2 hp
      exact ⟨e, r, Reader.bind_of_fault f he⟩

theorem Yields.congr {α : Type} {p q : Prop} {o : Outcome α} {a : α} {rest : Bytes}
    (h : Yields p o a rest) (hpq : p ↔ q) : Yields q o a rest :=
  ⟨fun hq => h.1 (hpq.2 hq), fun hq => h.2 fun hp => hq (hpq.1 hp)⟩

/-! ## Digits -/

/-- The digits of a number as bytes. -/
def digitBytes (n : Nat) : Bytes := (digits n).map fun c => UInt8.ofNat c.toNat

/-- The number that digits name behind a number already read. -/
def numberOf (start : Nat) (ds : Bytes) : Nat := ds.foldl (fun v b => v * 10 + digitValue b) start

theorem digitBytes_of_lt {n : Nat} (h : n < 10) : digitBytes n = [UInt8.ofNat (48 + n)] := by
  unfold digitBytes Text.Decimal.digits
  rw [Nat.toDigits_of_lt_base h]
  simp only [List.map_cons, List.map_nil, Nat.toNat_digitChar_of_lt_ten h]

theorem digitBytes_of_le {n : Nat} (h : 10 ≤ n) :
    digitBytes n = digitBytes (n / 10) ++ [UInt8.ofNat (48 + n % 10)] := by
  have hm : n % 10 < 10 := Nat.mod_lt _ (by decide)
  unfold digitBytes Text.Decimal.digits
  rw [Nat.toDigits_of_base_le (by decide) h]
  simp only [List.map_append, List.map_cons, List.map_nil, Nat.toNat_digitChar_of_lt_ten hm]

theorem isDigit_ofNat {d : Nat} (h : d < 10) : isDigit (UInt8.ofNat (48 + d)) = true := by
  have : ∀ d < 10, isDigit (UInt8.ofNat (48 + d)) = true := by decide
  exact this d h

theorem digitValue_ofNat {d : Nat} (h : d < 10) : digitValue (UInt8.ofNat (48 + d)) = d := by
  have : ∀ d < 10, digitValue (UInt8.ofNat (48 + d)) = d := by decide
  exact this d h

theorem isDigit_of_mem_digitBytes (n : Nat) : ∀ b ∈ digitBytes n, isDigit b = true := by
  induction n using Nat.strongRecOn with
  | _ n ih =>
    by_cases h : n < 10
    · rw [digitBytes_of_lt h]
      intro b hb
      rw [List.mem_singleton] at hb
      exact hb ▸ isDigit_ofNat h
    · rw [digitBytes_of_le (by omega)]
      intro b hb
      rcases List.mem_append.1 hb with hb | hb
      · exact ih (n / 10) (by omega) b hb
      · rw [List.mem_singleton] at hb
        exact hb ▸ isDigit_ofNat (Nat.mod_lt _ (by decide))

/-- The digits of a number name it. -/
theorem numberOf_digitBytes (n : Nat) : numberOf 0 (digitBytes n) = n := by
  induction n using Nat.strongRecOn with
  | _ n ih =>
    by_cases h : n < 10
    · rw [digitBytes_of_lt h, numberOf, List.foldl_cons, List.foldl_nil, digitValue_ofNat h]
      omega
    · have hm : n % 10 < 10 := Nat.mod_lt _ (by decide)
      have hd := ih (n / 10) (by omega)
      rw [digitBytes_of_le (by omega)]
      unfold numberOf at hd ⊢
      rw [List.foldl_append, hd]
      simp only [List.foldl_cons, List.foldl_nil, digitValue_ofNat hm]
      omega

/-- Only zero is written with a zero in front. -/
theorem digitBytes_eq_cons {n : Nat} (h : n ≠ 0) :
    ∃ b ds, digitBytes n = b :: ds ∧ isDigit b = true ∧ b ≠ 0x30 := by
  induction n using Nat.strongRecOn with
  | _ n ih =>
    by_cases hn : n < 10
    · refine ⟨_, [], digitBytes_of_lt hn, isDigit_ofNat hn, ?_⟩
      have : ∀ d < 10, d ≠ 0 → UInt8.ofNat (48 + d) ≠ 0x30 := by decide
      exact this n hn h
    · obtain ⟨b, ds, hb, hd, hz⟩ := ih (n / 10) (by omega) (by omega)
      exact ⟨b, ds ++ [UInt8.ofNat (48 + n % 10)], by rw [digitBytes_of_le (by omega), hb]; rfl,
        hd, hz⟩

theorem numberOf_cons (n : Nat) (b : UInt8) (ds : Bytes) :
    numberOf n (b :: ds) = numberOf (n * 10 + digitValue b) ds := by
  simp only [numberOf, List.foldl_cons]

theorem le_numberOf (n : Nat) (ds : Bytes) : n ≤ numberOf n ds := by
  induction ds generalizing n with
  | nil => exact Nat.le_refl n
  | cons b ds ih =>
    have := ih (n * 10 + digitValue b)
    rw [numberOf_cons]
    omega

/-- No digit ends a value. -/
theorem Ends.eq_cons {rest : Bytes} (h : Ends rest) : ∃ b r, rest = b :: r ∧ isDigit b = false := by
  obtain ⟨b, r, rfl, hb⟩ := h
  refine ⟨b, r, rfl, ?_⟩
  rcases hb with rfl | rfl | rfl <;> rfl

theorem dropWhile_isDigit {rest : Bytes} (h : Ends rest) : rest.dropWhile isDigit = rest := by
  obtain ⟨b, r, rfl, hb⟩ := h.eq_cons
  simp [hb]

/-- Digits that name a number of 64 bits are read to their end. -/
theorem digitsOnto_of_le {ds rest : Bytes} (hd : ∀ b ∈ ds, isDigit b = true) (hr : Ends rest)
    (n k : Nat) (h : numberOf n ds ≤ maxWhole) :
    ∃ k', digitsOnto n k (ds ++ rest) = ((numberOf n ds, k'), rest) := by
  induction ds generalizing n k with
  | nil =>
    obtain ⟨b, r, rfl, hb⟩ := hr.eq_cons
    refine ⟨k, ?_⟩
    rw [List.nil_append, digitsOnto]
    simp only [hb, Bool.false_and, Bool.false_eq_true, if_false, numberOf, List.foldl_nil]
  | cons b ds ih =>
    rw [numberOf_cons] at h ⊢
    have hb : isDigit b = true := hd b List.mem_cons_self
    have hle := Nat.le_trans (le_numberOf _ ds) h
    obtain ⟨k', hk⟩ := ih (fun c hc => hd c (List.mem_cons_of_mem b hc)) _ (k + 1) h
    refine ⟨k', ?_⟩
    rw [List.cons_append, digitsOnto]
    simp only [hb, hle, decide_true, Bool.and_self, if_true]
    exact hk

/-- Digits that name a greater number are read up to one that does not fit any more. -/
theorem digitsOnto_of_lt {ds rest : Bytes} (hd : ∀ b ∈ ds, isDigit b = true) (hr : Ends rest)
    (n k : Nat) (hn : n ≤ maxWhole) (h : maxWhole < numberOf n ds) :
    ∃ n' k' b r, digitsOnto n k (ds ++ rest) = ((n', k'), b :: r) ∧ isDigit b = true ∧
      (b :: r).dropWhile isDigit = rest := by
  induction ds generalizing n k with
  | nil => exact absurd h (by unfold numberOf; simp only [List.foldl_nil]; omega)
  | cons b ds ih =>
    have hb : isDigit b = true := hd b List.mem_cons_self
    have hds : ∀ c ∈ ds, isDigit c = true := fun c hc => hd c (List.mem_cons_of_mem b hc)
    by_cases hle : n * 10 + digitValue b ≤ maxWhole
    · rw [numberOf_cons] at h
      obtain ⟨n', k', c, r, he, hc, hdrop⟩ := ih hds _ (k + 1) hle h
      refine ⟨n', k', c, r, ?_, hc, hdrop⟩
      rw [List.cons_append, digitsOnto]
      simp only [hb, hle, decide_true, Bool.and_self, if_true]
      exact he
    · refine ⟨n, k, b, ds ++ rest, ?_, hb, ?_⟩
      · rw [List.cons_append, digitsOnto]
        simp only [hb, hle, decide_false, Bool.and_false, Bool.false_eq_true, if_false]
      · rw [← List.cons_append, List.dropWhile_append_of_pos, dropWhile_isDigit hr]
        intro c hc
        rcases List.mem_cons.1 hc with rfl | hc
        · exact hb
        · exact hds c hc

/-! ## Numbers -/

theorem readAfterWhole_of_ends (positive : Bool) (n : Nat) {rest : Bytes} (h : Ends rest) :
    readAfterWhole positive n rest =
      if positive then .value (.whole n) rest
      else if n = 0 ∨ 0x8000000000000000 < n then .value .decimal rest
      else .value (.whole (-(n : Int))) rest := by
  obtain ⟨b, r, rfl, rfl | rfl | rfl⟩ := h <;> rfl

theorem readNumber_digitBytes (positive : Bool) {n : Nat} {rest : Bytes} (hn : n ≤ maxWhole)
    (hr : Ends rest) :
    readNumber positive (digitBytes n ++ rest) = readAfterWhole positive n rest := by
  obtain ⟨c, r, rfl, hc⟩ := hr.eq_cons
  by_cases hz : n = 0
  · subst hz
    rw [digitBytes_of_lt (by decide), List.cons_append, List.nil_append]
    unfold readNumber
    simp [hc]
  · obtain ⟨b, ds, he, hb, hb0⟩ := digitBytes_eq_cons hz
    have hd : ∀ x ∈ ds, isDigit x = true := fun x hx =>
      isDigit_of_mem_digitBytes n x (by rw [he]; exact List.mem_cons_of_mem b hx)
    have hv : numberOf (digitValue b) ds = n := by
      rw [← numberOf_digitBytes n, he, numberOf_cons, Nat.zero_mul, Nat.zero_add]
    obtain ⟨k, hk⟩ := digitsOnto_of_le hd hr (digitValue b) 0 (by rw [hv]; exact hn)
    rw [he, List.cons_append]
    unfold readNumber
    simp only [hb0, hb, if_false, if_true, hk, hv, hc, Bool.false_eq_true]

/-- Digits of a number beyond 64 bits are read as no whole number. -/
theorem readNumber_digitBytes_of_lt (positive : Bool) {n : Nat} {rest : Bytes} (hn : maxWhole < n)
    (hr : Ends rest) :
    (∃ r, readNumber positive (digitBytes n ++ rest) = .value .decimal r) ∨
      ∃ f r, readNumber positive (digitBytes n ++ rest) = .fault f r := by
  obtain ⟨b, ds, he, hb, hb0⟩ := digitBytes_eq_cons (n := n) (by omega)
  have hd : ∀ x ∈ ds, isDigit x = true := fun x hx =>
    isDigit_of_mem_digitBytes n x (by rw [he]; exact List.mem_cons_of_mem b hx)
  have hv : numberOf (digitValue b) ds = n := by
    rw [← numberOf_digitBytes n, he, numberOf_cons, Nat.zero_mul, Nat.zero_add]
  have hbv : digitValue b ≤ maxWhole := by
    have : b.toNat < 256 := b.toNat_lt
    unfold digitValue maxWhole
    omega
  obtain ⟨n', k', c, r, hk, hc, hdrop⟩ :=
    digitsOnto_of_lt hd hr (digitValue b) 0 hbv (by rw [hv]; exact hn)
  rw [he, List.cons_append]
  unfold readNumber
  simp only [hb0, hb, if_false, if_true, hk, hc]
  obtain ⟨x, y, rfl, hx⟩ := hr
  have hlong : readLong n' (c :: r) =
      decimalOf n' (((c :: r).takeWhile isDigit).length : Int) (x :: y) := by
    unfold readLong
    simp only [hdrop]
    rcases hx with rfl | rfl | rfl <;> rfl
  rw [hlong]
  unfold decimalOf
  split
  · exact Or.inr ⟨_, _, rfl⟩
  · exact Or.inl ⟨_, rfl⟩

/-! ## Numbers with a sign -/

theorem flatMap_digits (n : Nat) : (digits n).flatMap String.utf8EncodeChar = digitBytes n := by
  apply Text.flatMap_utf8EncodeChar_of_ascii
  intro c hc
  have hd : c.isDigit = true := Nat.isDigit_of_mem_toDigits (by decide) (by decide) hc
  simp only [Char.isDigit, Bool.and_eq_true, decide_eq_true_eq] at hd
  have : c.toNat ≤ 57 := hd.2
  omega

theorem utf8_ofNat (n : Nat) : utf8 (Text.Decimal.ofInt (.ofNat n)) = digitBytes n := by
  unfold Text.Decimal.ofInt
  rw [Text.utf8_ofList, flatMap_digits]

theorem utf8_negSucc (n : Nat) :
    utf8 (Text.Decimal.ofInt (.negSucc n)) = 0x2D :: digitBytes (n + 1) := by
  unfold Text.Decimal.ofInt
  rw [Text.utf8_ofList, List.flatMap_cons, flatMap_digits]
  rfl

/-- A value whose first byte stands for a reader is read by it. -/
theorem readBy_cons {α : Type} {reader : UInt8 → Option (Reader α)} {b : UInt8} {r : Reader α}
    (bytes : Bytes) (hs : isSpace b = false) (hr : reader b = some r) :
    readBy reader (b :: bytes) = r (b :: bytes) := by
  have hp : peek (b :: bytes) = .value (some b) (b :: bytes) := by
    simp [peek, skipSpace, hs]
  unfold readBy
  simp only [bind, hp, hr]

theorem isSpace_of_isDigit {b : UInt8} (h : isDigit b = true) : isSpace b = false := by
  simp only [isDigit, Bool.and_eq_true, decide_eq_true_eq, UInt8.le_iff_toNat_le] at h
  have h1 : 48 ≤ b.toNat := h.1
  simp only [isSpace, Bool.or_eq_false_iff, beq_eq_false_iff_ne, ne_eq]
  refine ⟨⟨⟨?_, ?_⟩, ?_⟩, ?_⟩ <;> (rintro rfl; exact absurd h1 (by decide))

theorem ne_minus_of_isDigit {b : UInt8} (h : isDigit b = true) : b ≠ 0x2D := by
  rintro rfl
  exact absurd h (by decide)

theorem digitBytes_eq_cons_digit (n : Nat) :
    ∃ b ds, digitBytes n = b :: ds ∧ isDigit b = true := by
  by_cases hz : n = 0
  · exact ⟨_, [], by rw [digitBytes_of_lt (by omega)], isDigit_ofNat (by omega)⟩
  · obtain ⟨b, ds, he, hb, _⟩ := digitBytes_eq_cons hz
    exact ⟨b, ds, he, hb⟩

theorem wholeWithin_yields (low high n : Int) (rest : Bytes) :
    Yields (low ≤ n ∧ n ≤ high) (wholeWithin low high (.whole n) rest) n rest := by
  have he : wholeWithin low high (.whole n) =
      if low ≤ n ∧ n ≤ high then pure n else Reader.fail .mismatch := rfl
  by_cases h : low ≤ n ∧ n ≤ high
  · exact .of_eq h (by rw [he, if_pos h]; rfl)
  · exact ⟨fun hn => absurd hn h, fun _ => ⟨.mismatch, rest, by rw [he, if_neg h]; rfl⟩⟩

/-- A written number is read back where it lies within the bounds, and refused elsewhere. -/
theorem readInt_yields {low high : Int} (hl : -0x8000000000000000 ≤ low) (hh : high ≤ maxWhole)
    (n : Int) {rest : Bytes} (hr : Ends rest) :
    Yields (low ≤ n ∧ n ≤ high) (readInt low high (utf8 (Text.Decimal.ofInt n) ++ rest)) n
      rest := by
  cases n with
  | ofNat n =>
    obtain ⟨b, ds, he, hb⟩ := digitBytes_eq_cons_digit n
    have hread : readInt low high (digitBytes n ++ rest) =
        (readNumber true >>= wholeWithin low high) (digitBytes n ++ rest) := by
      rw [he, List.cons_append]
      exact readBy_cons _ (isSpace_of_isDigit hb) (by simp only [ne_minus_of_isDigit hb, hb,
        if_false, if_true])
    rw [utf8_ofNat, hread]
    by_cases hn : n ≤ maxWhole
    · rw [Reader.bind_of_value _ (by rw [readNumber_digitBytes true hn hr,
        readAfterWhole_of_ends true n hr, if_pos rfl])]
      exact wholeWithin_yields low high n rest
    · have hout : ¬ (low ≤ Int.ofNat n ∧ Int.ofNat n ≤ high) := by
        simp only [Int.ofNat_eq_natCast]
        omega
      refine ⟨fun h => absurd h hout, fun _ => ?_⟩
      rcases readNumber_digitBytes_of_lt true (by omega : maxWhole < n) hr with ⟨r, h⟩ | ⟨f, r, h⟩
      · exact ⟨.mismatch, r, by rw [Reader.bind_of_value _ h]; rfl⟩
      · exact ⟨f, r, Reader.bind_of_fault _ h⟩
  | negSucc n =>
    have hread : readInt low high (0x2D :: digitBytes (n + 1) ++ rest) =
        (readNumber false >>= wholeWithin low high) (digitBytes (n + 1) ++ rest) := by
      unfold readInt
      rw [List.cons_append, readBy_cons _ (by decide) (by rfl)]
      rfl
    rw [utf8_negSucc, hread]
    by_cases hn : n + 1 ≤ maxWhole
    · have hnum := readNumber_digitBytes false hn hr
      rw [readAfterWhole_of_ends false (n + 1) hr, if_neg (by decide)] at hnum
      by_cases hbig : n + 1 = 0 ∨ 0x8000000000000000 < n + 1
      · rw [if_pos hbig] at hnum
        refine ⟨fun h => ?_, fun _ => ⟨.mismatch, rest, by rw [Reader.bind_of_value _ hnum]; rfl⟩⟩
        omega
      · rw [if_neg hbig] at hnum
        rw [Reader.bind_of_value _ hnum]
        exact wholeWithin_yields low high _ rest
    · refine ⟨fun h => by unfold maxWhole at hn; omega, fun _ => ?_⟩
      rcases readNumber_digitBytes_of_lt false (by omega : maxWhole < n + 1) hr with
        ⟨r, h⟩ | ⟨f, r, h⟩
      · exact ⟨.mismatch, r, by rw [Reader.bind_of_value _ h]; rfl⟩
      · exact ⟨f, r, Reader.bind_of_fault _ h⟩

end SignIn.Json
