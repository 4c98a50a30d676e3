-- What is read is what the lexer sees: a reader that yields a value passes over
-- one whole token or bracket, and one that faults stops no further out.
import SignIn.Proofs.Json.Lexing

namespace SignIn.Json

open Lexer (Passes Falls scan isLetter passes_one passes_backslash passes_escape falls_one)

variable {α β : Type} {d : Nat} {x y z : Lexer} {v w r : Bytes}

/-- A reader that yields a value brings the lexer from one state to the other; one that faults falls
no further out than to the depth. -/
def Tracks (d : Nat) (x : Lexer) (v : Bytes) (y : Lexer) : Outcome α → Prop
  | .value _ r => Passes x v y r
  | .fault _ r => Falls d x v r

theorem Tracks.of_passes {o : Outcome α} (h : Passes x v y w) (ho : Tracks d y w z o) :
    Tracks d x v z o := by
  cases o with
  | value a r => exact h.trans ho
  | fault f r => exact h.falls ho

/-- Where a reader ends counts, not what it yields. -/
theorem Tracks.of_same_rest {o : Outcome α} {o' : Outcome β} (h : Tracks d x v y o)
    (hv : ∀ a w, o = .value a w → ∃ b, o' = .value b w)
    (hf : ∀ f w, o = .fault f w → o' = .fault f w) : Tracks d x v y o' := by
  cases o with
  | value a w =>
    obtain ⟨b, rfl⟩ := hv a w rfl
    exact h
  | fault f w =>
    rw [hf f w rfl]
    exact h

theorem Tracks.bind {m : Reader α} {f : α → Reader β} (hm : Tracks d x v y (m v))
    (hf : ∀ a r, m v = .value a r → Tracks d y r z (f a r)) : Tracks d x v z ((m >>= f) v) := by
  change Tracks d x v z (match m v with
    | .value a rest => f a rest
    | .fault e rest => .fault e rest)
  cases h : m v with
  | value a r =>
    rw [h] at hm
    exact .of_passes hm (hf a r h)
  | fault e r =>
    rw [h] at hm
    exact hm

theorem tracks_pure (a : α) (v : Bytes) : Tracks d x v x ((pure a : Reader α) v) := .refl x v

theorem tracks_fail (h : d ≤ x.depth) (f : Fault) (v : Bytes) :
    Tracks d x v y ((Reader.fail f : Reader α) v) := Falls.refl h v

theorem tracks_fault (h : d ≤ x.depth) (f : Fault) (v : Bytes) :
    Tracks d x v y (.fault f v : Outcome α) := Falls.refl h v

/-- A reader that faults inside a token has left one byte behind. -/
theorem tracks_fall {m : Mode} (hm : m ≠ .plain) (f : Fault) (b : UInt8) (v : Bytes) :
    Tracks d ⟨m, d⟩ (b :: v) y (.fault f v : Outcome α) := falls_one hm b v

/-! ## Words -/

theorem tracks_expect {n : Nat} {word : List UInt8} (hn : word.length = n + 1)
    (hl : word.all isLetter = true) (v : Bytes) :
    Tracks d ⟨.letters n, d⟩ v ⟨.plain, d⟩ (expect word v) := by
  induction word generalizing n v with
  | nil => cases hn
  | cons b word ih =>
    cases v with
    | nil => exact Falls.refl (Nat.le_refl d) []
    | cons c v =>
      simp only [expect]
      split
      · rename_i hc
        subst hc
        rw [List.all_cons, Bool.and_eq_true] at hl
        cases n with
        | zero =>
          obtain rfl : word = [] := List.eq_nil_of_length_eq_zero (by simpa using hn)
          exact passes_one (if_pos hl.1) nofun
        | succ n =>
          exact .of_passes (passes_one (if_pos hl.1) nofun) (ih (by simpa using hn) hl.2 v)
      · exact tracks_fall (by nofun) _ c v

/-! ## Strings -/

theorem scan_hex_of_length_le {n : Nat} (h : v.length ≤ n) : scan ⟨.hex n, d⟩ v = none := by
  induction v generalizing n with
  | nil => rfl
  | cons b v ih =>
    cases n with
    | zero => cases h
    | succ n =>
      rw [Lexer.scan]
      unfold Lexer.next
      dsimp only
      split
      · rw [Option.bind_eq_bind, Option.bind_some, ih (Nat.le_of_succ_le_succ h)]
        rfl
      · rfl

theorem next_hex {b : UInt8} (h : (Codec.Hex.byteValue? b).isSome = true) (n : Nat) :
    Lexer.next ⟨.hex (n + 1), d⟩ b = some ⟨.hex n, d⟩ := if_pos h

theorem falls_hex {n : Nat} (b : UInt8) (h : Falls d ⟨.hex n, d⟩ v r) :
    Falls d ⟨.hex (n + 1), d⟩ (b :: v) r := by
  refine .step fun x' hn => ?_
  simp only [Lexer.next] at hn
  split at hn
  · cases hn
    exact h
  · cases hn

theorem tracks_readHex (v : Bytes) : Tracks d ⟨.hex 3, d⟩ v ⟨.quoted, d⟩ (readHex v) := by
  unfold readHex
  split
  · rename_i a b c e v
    split
    · rename_i ha hb hc he
      exact .step (next_hex (by rw [ha]; rfl) 2) nofun <|
        .step (next_hex (by rw [hb]; rfl) 1) nofun <| .step (next_hex (by rw [hc]; rfl) 0) nofun <|
        passes_one (if_pos (by rw [he]; rfl)) nofun
    · exact falls_hex a <| falls_hex b <| falls_hex c <| falls_one (x := ⟨.hex 0, d⟩) nofun e v
  · rename_i hshort
    refine Falls.of_scan_eq_none (scan_hex_of_length_le ?_)
    match v, hshort with
    | [], _ | [_], _ | [_, _], _ | [_, _, _], _ => simp
    | a :: b :: c :: e :: v, h => exact absurd rfl (h a b c e v)

theorem tracks_readLowHalf (high : Nat) (v : Bytes) :
    Tracks d ⟨.quoted, d⟩ v ⟨.quoted, d⟩ (readLowHalf high v) := by
  unfold readLowHalf
  split
  · exact Falls.refl (Nat.le_refl d) []
  · exact tracks_fall (by nofun) _ _ _
  · rename_i v
    refine .of_passes ((passes_backslash _).trans (passes_escape v)) ?_
    have hr := tracks_readHex (d := d) v
    split
    · rename_i f w he
      rw [he] at hr
      exact hr
    · rename_i low w he
      rw [he] at hr
      refine .of_passes hr ?_
      split
      · exact tracks_fault (Nat.le_refl d) _ w
      · exact .refl _ _
  · rename_i b v _
    exact Falls.step fun x' hn => by cases hn; exact falls_one (x := ⟨.escaped, d⟩) nofun b v
  · rename_i b v _ _ _
    exact tracks_fall (by nofun) _ b v

theorem tracks_readCodePoint (v : Bytes) :
    Tracks d ⟨.hex 3, d⟩ v ⟨.quoted, d⟩ (readCodePoint v) := by
  have hr := tracks_readHex (d := d) v
  unfold readCodePoint
  split
  · rename_i f w he
    rw [he] at hr
    exact hr
  · rename_i n w he
    rw [he] at hr
    refine .of_passes hr ?_
    split
    · exact tracks_fault (Nat.le_refl d) _ w
    · split
      · exact .refl _ _
      · exact tracks_readLowHalf n w

theorem tracks_readEscape (v : Bytes) :
    Tracks d ⟨.escaped, d⟩ v ⟨.quoted, d⟩ (readEscape v) := by
  unfold readEscape
  split
  · exact Falls.refl (Nat.le_refl d) []
  · rename_i b v
    split
    · rename_i c hc
      exact passes_one (if_pos (by rw [hc]; rfl)) nofun
    · rename_i hc
      split
      · rename_i hb
        subst hb
        exact .of_passes (passes_escape v) (tracks_readCodePoint v)
      · exact tracks_fall (by nofun) _ b v

theorem tracks_readBytesFrom (done : List UInt8) (budget v : Bytes) :
    Tracks d ⟨.quoted, d⟩ v ⟨.plain, d⟩ (readBytesFrom done budget v) := by
  induction budget generalizing done v with
  | nil => exact Falls.refl (Nat.le_refl d) v
  | cons _ budget ih =>
    cases v with
    | nil => exact Falls.refl (Nat.le_refl d) []
    | cons b v =>
      simp only [readBytesFrom]
      by_cases hquote : b = 0x22
      · rw [if_pos hquote]
        exact passes_one (if_pos hquote) nofun
      rw [if_neg hquote]
      by_cases hslash : b = 0x5C
      · rw [if_pos hslash]
        subst hslash
        refine .of_passes (passes_backslash v) ?_
        have he := tracks_readEscape (d := d) v
        split
        · rename_i bs w hr
          rw [hr] at he
          exact .of_passes he (ih _ w)
        · rename_i f w hr
          rw [hr] at he
          exact he
      · rw [if_neg hslash]
        split
        · exact tracks_fall (by nofun) _ b v
        · exact .of_passes (passes_one (Lexer.next_quoted hquote hslash) nofun) (ih _ v)

theorem tracks_readStringBody (v : Bytes) :
    Tracks d ⟨.quoted, d⟩ v ⟨.plain, d⟩ (readStringBody v) := by
  have hr := tracks_readBytesFrom (d := d) [] (0 :: v) v
  unfold readStringBody
  split
  · rename_i f w he
    rw [he] at hr
    exact hr
  · rename_i bs w he
    rw [he] at hr
    refine .of_passes hr ?_
    split
    · exact .refl _ _
    · exact tracks_fault (Nat.le_refl d) _ w

end SignIn.Json
