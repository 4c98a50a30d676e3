-- Which passwords cannot be told apart. The cipher takes in 72 bytes: those of
-- the password and a zero byte, cut off there or repeated as often as needed.
-- So a long password counts up to its 72nd byte only, and a zero byte within a
-- password can pass for its end.
import Mathlib.Data.List.TakeWhile
import SignIn.Proofs.Password.Hashing

namespace SignIn.Password

open Text (utf8 utf8Size)

/-! ## What the cipher takes in -/

/-- The `i`-th byte of a key that is repeated without end. -/
def keyByte (key : List UInt8) (i : Nat) : UInt8 := key.getD (i % key.length) 0

/-- The 72 bytes of a key that the cipher takes in. -/
def takenIn (key : List UInt8) : List UInt8 := (List.range 72).map (keyByte key)

theorem takenIn_eq_iff {a b : List UInt8} :
    takenIn a = takenIn b ↔ ∀ i < 72, keyByte a i = keyByte b i := by
  simp [takenIn, List.map_inj_left]

/-- The bytes of a word are the ones that it is put together from. -/
theorem wordBytes_join (a b c d : UInt8) :
    wordBytes (a.toUInt32 <<< 24 ||| b.toUInt32 <<< 16 ||| c.toUInt32 <<< 8 ||| d.toUInt32) =
      [a, b, c, d] := by
  unfold wordBytes
  simp only [List.cons.injEq, and_true]
  refine ⟨?_, ?_, ?_, ?_⟩
  all_goals
    apply UInt8.toBitVec_inj.1
    ext i hi
    simp
  · grind
  · grind
  · grind

theorem cyclicWord_eq (key : List UInt8) (i : Nat) :
    Cipher.cyclicWord key.toArray i =
      (keyByte key (4 * i)).toUInt32 <<< 24 ||| (keyByte key (4 * i + 1)).toUInt32 <<< 16 |||
        (keyByte key (4 * i + 2)).toUInt32 <<< 8 ||| (keyByte key (4 * i + 3)).toUInt32 := by
  simp [Cipher.cyclicWord, keyByte]

theorem cyclicWord_eq_iff {a b : List UInt8} {i : Nat} :
    Cipher.cyclicWord a.toArray i = Cipher.cyclicWord b.toArray i ↔
      ∀ j < 4, keyByte a (4 * i + j) = keyByte b (4 * i + j) := by
  rw [cyclicWord_eq, cyclicWord_eq]
  constructor
  · intro h j hj
    have hbytes := congrArg wordBytes h
    rw [wordBytes_join, wordBytes_join] at hbytes
    simp only [List.cons.injEq, and_true] at hbytes
    obtain ⟨h0, h1, h2, h3⟩ := hbytes
    match j, hj with
    | 0, _ => exact h0
    | 1, _ => exact h1
    | 2, _ => exact h2
    | 3, _ => exact h3
  · intro h
    have h0 : keyByte a (4 * i) = keyByte b (4 * i) := h 0 (by omega)
    rw [h0, h 1 (by omega), h 2 (by omega), h 3 (by omega)]

/-- Two keys give the same words exactly if the same bytes of them are taken in. -/
theorem keyWords_eq_iff {a b : List UInt8} :
    Cipher.keyWords a = Cipher.keyWords b ↔ takenIn a = takenIn b := by
  have hwords : Cipher.keyWords a = Cipher.keyWords b ↔
      ∀ i < 18, Cipher.cyclicWord a.toArray i = Cipher.cyclicWord b.toArray i := by
    simp [Cipher.keyWords, Vector.ext_iff]
  rw [hwords, takenIn_eq_iff]
  constructor
  · intro h i hi
    have hbyte := cyclicWord_eq_iff.1 (h (i / 4) (by omega)) (i % 4) (by omega)
    rwa [show 4 * (i / 4) + i % 4 = i by omega] at hbyte
  · intro h i hi
    rw [cyclicWord_eq_iff]
    intro j hj
    exact h _ (by omega)

/-- The digest depends on the bytes that are taken in only. -/
theorem digest_congr {a b : List UInt8} (h : takenIn a = takenIn b) (cost : Nat)
    (salt : List UInt8) : digest cost salt a = digest cost salt b := by
  unfold digest
  rw [keyWords_eq_iff.2 h]

/-! ## Passwords with the same key -/

/-- The same bytes of two passwords are taken in. -/
def SameKey (p q : String) : Prop := takenIn (keyBytes p) = takenIn (keyBytes q)

instance (p q : String) : Decidable (SameKey p q) :=
  inferInstanceAs (Decidable (takenIn (keyBytes p) = takenIn (keyBytes q)))

/-- Two passwords of which other bytes are taken in have the same digest under a salt. -/
def Collide (salt : List UInt8) (p q : String) : Prop :=
  ¬ SameKey p q ∧ digest newCost salt (keyBytes p) = digest newCost salt (keyBytes q)

variable {p q : String}

theorem digest_eq_iff {salt : List UInt8} :
    digest newCost salt (keyBytes p) = digest newCost salt (keyBytes q) ↔
      SameKey p q ∨ Collide salt p q := by
  constructor
  · intro h
    by_cases hk : SameKey p q
    · exact Or.inl hk
    · exact Or.inr ⟨hk, h⟩
  · rintro (hk | hc)
    · exact digest_congr hk _ _
    · exact hc.2

/-- Passwords with the same key are accepted for the same hashes. -/
theorem SameKey.verify_eq (h : SameKey p q) (stored : String) :
    verify p stored = verify q stored := by
  unfold verify
  simp only [fun cost salt => digest_congr h cost salt]

/-! ## What of a password counts -/

theorem utf8_injective : Function.Injective utf8 := by
  intro s t h
  have hs := Text.ofUtf8?_utf8 s
  rw [h, Text.ofUtf8?_utf8 t] at hs
  exact (Option.some.inj hs).symm

/-- A password counts with its first 72 bytes only. -/
theorem keyBytes_eq (p : String) : keyBytes p = ((utf8 p).take 72 ++ [0]).take 72 := by
  have hrest : 72 - min 72 (utf8 p).length = 72 - (utf8 p).length := by omega
  simp [keyBytes, List.take_append, List.take_take, hrest]

theorem sameKey_of_take (h : (utf8 p).take 72 = (utf8 q).take 72) : SameKey p q := by
  unfold SameKey
  rw [keyBytes_eq p, keyBytes_eq q, h]

theorem length_takenIn (key : List UInt8) : (takenIn key).length = 72 := by
  rw [takenIn, List.length_map, List.length_range]

/-- A key that is not too long is taken in as a whole before it is repeated. -/
theorem takenIn_of_le {key : List UInt8} (h : key.length ≤ 72) :
    takenIn key = key ++ (takenIn key).drop key.length := by
  have hfront : (takenIn key).take key.length = key := by
    apply List.ext_getElem
    · rw [List.length_take, length_takenIn, Nat.min_eq_left h]
    · intro i hi hkey
      simp [takenIn, keyByte, Nat.mod_eq_of_lt hkey, hkey]
  calc
    takenIn key = (takenIn key).take key.length ++ (takenIn key).drop key.length :=
      (List.take_append_drop _ _).symm
    _ = key ++ (takenIn key).drop key.length := by rw [hfront]

/-- Without a zero byte, what of a password counts can be read off what is taken in: it ends where
the first zero byte is. -/
theorem takeWhile_takenIn (h : 0 ∉ utf8 p) :
    (takenIn (keyBytes p)).takeWhile (· != 0) = (utf8 p).take 72 := by
  have hnonzero : ∀ b ∈ (utf8 p).take 72, (b != 0) = true := by
    intro b hb
    simp only [bne_iff_ne]
    rintro rfl
    exact h (List.mem_of_mem_take hb)
  have hle : (keyBytes p).length ≤ 72 := List.length_take_le _ _
  have hkey := takenIn_of_le hle
  by_cases hlong : 72 ≤ (utf8 p).length
  · have hfront : keyBytes p = (utf8 p).take 72 := List.take_append_of_le_length hlong
    have hnil : (takenIn (keyBytes p)).drop (keyBytes p).length = [] := by
      rw [List.drop_eq_nil_iff, length_takenIn, hfront, List.length_take, Nat.min_eq_left hlong]
    rw [hkey, hnil, List.append_nil, hfront]
    exact List.takeWhile_eq_self_iff.2 hnonzero
  · have hwhole : (utf8 p).take 72 = utf8 p := List.take_of_length_le (by omega)
    have hends : keyBytes p = utf8 p ++ [0] := by
      apply List.take_of_length_le
      simp only [List.length_append, List.length_singleton]
      omega
    rw [hkey, hwhole]
    rw [hwhole] at hnonzero
    generalize (takenIn (keyBytes p)).drop (keyBytes p).length = rest
    rw [hends, List.append_assoc, List.takeWhile_append_of_pos hnonzero]
    simp

/-- Passwords without a zero byte have the same key exactly if their first 72 bytes are the same. -/
theorem sameKey_iff_take (hp : 0 ∉ utf8 p) (hq : 0 ∉ utf8 q) :
    SameKey p q ↔ (utf8 p).take 72 = (utf8 q).take 72 := by
  constructor
  · intro h
    rw [← takeWhile_takenIn hp, ← takeWhile_takenIn hq, h]
  · exact sameKey_of_take

/-- A password of at most 72 bytes, none of which is zero. -/
structure IsPlain (p : String) : Prop where
  size : utf8Size p ≤ 72
  nonzero : 0 ∉ utf8 p

/-- Among plain passwords no two have the same key. -/
theorem IsPlain.sameKey_iff (hp : IsPlain p) (hq : IsPlain q) : SameKey p q ↔ p = q := by
  have hp' : (utf8 p).take 72 = utf8 p := List.take_of_length_le hp.size
  have hq' : (utf8 q).take 72 = utf8 q := List.take_of_length_le hq.size
  rw [sameKey_iff_take hp.nonzero hq.nonzero, hp', hq']
  exact utf8_injective.eq_iff

end SignIn.Password
