-- A lexer for JSON: one pass over the bytes that knows strings and words from
-- the rest and counts the open brackets. It says where the members of an object
-- begin, and what can still become of a reader that has lost its place.
import SignIn.Json.Scan

namespace SignIn.Json

/-! ## The lexer -/

/-- What the lexer is in the middle of. -/
inductive Mode
  /-- Nothing, or a number. -/
  | plain
  /-- A word, of which one letter and so many more are missing. -/
  | letters (n : Nat)
  /-- A number, behind a sign or the letter of the exponent. -/
  | sign
  /-- A string. -/
  | quoted
  /-- A string, behind a backslash. -/
  | escaped
  /-- A string, in an escape of which one hexadecimal digit and so many more are missing. -/
  | hex (n : Nat)
  deriving DecidableEq

/-- Where the lexer stands: what it is in the middle of, and how many brackets are open. -/
structure Lexer where
  mode : Mode
  depth : Nat
  deriving DecidableEq

namespace Lexer

/-- A letter of a word, but for the first one. -/
def isLetter (b : UInt8) : Bool :=
  b == 0x75 || b == 0x6C || b == 0x72 || b == 0x65 || b == 0x61 || b == 0x73

/-- A byte that leaves the lexer between tokens. -/
def isInert (b : UInt8) : Bool := isSpace b || isDigit b || b == 0x3A || b == 0x2E

/-- A byte outside of strings. -/
def nextPlain (d : Nat) (b : UInt8) : Option Lexer :=
  if isInert b then some ⟨.plain, d⟩
  else if b = 0x22 then some ⟨.quoted, d⟩
  else if b = 0x5B ∨ b = 0x7B then some ⟨.plain, d + 1⟩
  else if b = 0x5D ∨ b = 0x7D then
    match d with
    | 0 => none
    | d + 1 => some ⟨.plain, d⟩
  else if b = 0x2C then
    match d with
    | 0 => none
    | d + 1 => some ⟨.plain, d + 1⟩
  else if b = 0x2D ∨ b = 0x2B ∨ b = 0x65 ∨ b = 0x45 then some ⟨.sign, d⟩
  else if b = 0x6E ∨ b = 0x74 then some ⟨.letters 2, d⟩
  else if b = 0x66 then some ⟨.letters 3, d⟩
  else none

/-- Takes one byte, if it can stand there. -/
def next : Lexer → UInt8 → Option Lexer
  | ⟨.plain, d⟩, b => nextPlain d b
  | ⟨.letters 0, d⟩, b => if isLetter b then some ⟨.plain, d⟩ else none
  | ⟨.letters (n + 1), d⟩, b => if isLetter b then some ⟨.letters n, d⟩ else none
  | ⟨.sign, d⟩, b =>
    if isDigit b then some ⟨.plain, d⟩
    else if b = 0x2D ∨ b = 0x2B then some ⟨.sign, d⟩
    else none
  | ⟨.quoted, d⟩, b =>
    if b = 0x22 then some ⟨.plain, d⟩
    else if b = 0x5C then some ⟨.escaped, d⟩
    else some ⟨.quoted, d⟩
  | ⟨.escaped, d⟩, b =>
    if (escapedByte? b).isSome then some ⟨.quoted, d⟩
    else if b = 0x75 then some ⟨.hex 3, d⟩
    else none
  | ⟨.hex 0, d⟩, b => if (Codec.Hex.byteValue? b).isSome then some ⟨.quoted, d⟩ else none
  | ⟨.hex (n + 1), d⟩, b => if (Codec.Hex.byteValue? b).isSome then some ⟨.hex n, d⟩ else none

/-- Goes through a text to its end, where no bracket may be open any more. Answers what stands
behind each of the commas inside the outermost bracket. -/
def scan : Lexer → Bytes → Option (List Bytes)
  | x, [] => if x = ⟨.plain, 0⟩ then some [] else none
  | x, b :: v => do
    let heads ← scan (← x.next b) v
    some (if b = 0x2C ∧ x = ⟨.plain, 1⟩ then v :: heads else heads)

variable {x x' y y' : Lexer} {b : UInt8} {v w r : Bytes} {heads : List Bytes} {d : Nat}

/-! ## Single bytes -/

theorem next_inert (h : isInert b = true) : next ⟨.plain, d⟩ b = some ⟨.plain, d⟩ := by
  simp [next, nextPlain, h]

theorem isInert_of_isSpace (h : isSpace b = true) : isInert b = true := by simp [isInert, h]

theorem isInert_of_isDigit (h : isDigit b = true) : isInert b = true := by simp [isInert, h]

/-- Most bytes of a string stand for themselves. -/
theorem next_quoted (hq : b ≠ 0x22) (hs : b ≠ 0x5C) :
    next ⟨.quoted, d⟩ b = some ⟨.quoted, d⟩ := by
  simp [next, hq, hs]

/-- Inside a token the depth stays as it is. -/
theorem depth_next_of_ne (hm : x.mode ≠ .plain) (h : x.next b = some x') : x'.depth = x.depth := by
  obtain ⟨m, d⟩ := x
  cases m with
  | plain => exact absurd rfl hm
  | letters n =>
    cases n <;> simp only [next] at h <;> split at h <;> cases h <;> rfl
  | hex n =>
    cases n <;> simp only [next] at h <;> split at h <;> cases h <;> rfl
  | sign | quoted | escaped =>
    simp only [next] at h
    split at h
    · cases h
      rfl
    · split at h <;> cases h <;> rfl

/-- Only a closing bracket lowers the depth, and by no more than one. -/
theorem depth_next (h : x.next b = some x') :
    x.depth ≤ x'.depth + 1 ∧ (b ≠ 0x5D → b ≠ 0x7D → x.depth ≤ x'.depth) := by
  obtain ⟨m, d⟩ := x
  by_cases hm : m = .plain
  · subst hm
    simp only [next, nextPlain] at h
    repeat' split at h
    all_goals cases h <;> grind
  · have hd := depth_next_of_ne hm h
    omega

/-! ## Steps of a scan -/

theorem scan_cons (h : x.next b = some x') (hb : b = 0x2C → x ≠ ⟨.plain, 1⟩) :
    scan x (b :: v) = scan x' v := by
  have hn : ¬ (b = 0x2C ∧ x = ⟨.plain, 1⟩) := fun ⟨hc, hx⟩ => hb hc hx
  simp [scan, h, hn]

/-- Behind a comma inside the outermost bracket another head stands. -/
theorem scan_comma (v : Bytes) :
    scan ⟨.plain, 1⟩ (0x2C :: v) = (scan ⟨.plain, 1⟩ v).map (v :: ·) := by
  have h : next ⟨.plain, 1⟩ 0x2C = some ⟨.plain, 1⟩ := rfl
  rw [scan, h, Option.bind_eq_bind, Option.bind_some]
  cases scan ⟨.plain, 1⟩ v <;> simp

theorem scan_cons_eq_some (h : scan x (b :: v) = some heads) :
    ∃ x' heads', x.next b = some x' ∧ scan x' v = some heads' ∧ heads' ⊆ heads := by
  rw [scan] at h
  obtain ⟨x', hn, h⟩ := Option.bind_eq_some_iff.1 h
  obtain ⟨heads', hs, h⟩ := Option.bind_eq_some_iff.1 h
  refine ⟨x', heads', hn, hs, ?_⟩
  cases h
  split
  · exact List.subset_cons_self _ _
  · exact List.Subset.refl _

theorem eq_of_scan_nil (h : scan x [] = some heads) : x = ⟨.plain, 0⟩ := by
  rw [scan] at h
  split at h
  · rename_i hx
    exact hx
  · cases h

theorem scan_of_next_eq_none (h : x.next b = none) : scan x (b :: v) = none := by
  rw [scan, h]
  rfl

/-! ## Passing -/

/-- The lexer comes from one place to another without meeting a head. -/
inductive Passes : Lexer → Bytes → Lexer → Bytes → Prop
  | refl (x : Lexer) (v : Bytes) : Passes x v x v
  | step {x y z : Lexer} {b : UInt8} {v r : Bytes} (hn : x.next b = some y)
    (hb : b = 0x2C → x ≠ ⟨.plain, 1⟩) (h : Passes y v z r) : Passes x (b :: v) z r

theorem Passes.trans (h : Passes x v x' r) (h' : Passes x' r y v') : Passes x v y v' := by
  induction h with
  | refl => exact h'
  | step hn hb _ ih => exact .step hn hb (ih h')

theorem Passes.scan_eq (h : Passes x v x' r) : scan x v = scan x' r := by
  induction h with
  | refl => rfl
  | step hn hb _ ih => rw [scan_cons hn hb, ih]

theorem passes_one (hn : x.next b = some y) (hb : b = 0x2C → x ≠ ⟨.plain, 1⟩) :
    Passes x (b :: v) y v := .step hn hb (.refl y v)

theorem passes_inert (h : isInert b = true) : Passes ⟨.plain, d⟩ (b :: v) ⟨.plain, d⟩ v := by
  refine passes_one (next_inert h) fun hb => ?_
  subst hb
  cases h

theorem passes_quote (v : Bytes) : Passes ⟨.plain, d⟩ (0x22 :: v) ⟨.quoted, d⟩ v :=
  passes_one rfl nofun

theorem passes_backslash (v : Bytes) : Passes ⟨.quoted, d⟩ (0x5C :: v) ⟨.escaped, d⟩ v :=
  passes_one rfl nofun

theorem passes_escape (v : Bytes) : Passes ⟨.escaped, d⟩ (0x75 :: v) ⟨.hex 3, d⟩ v :=
  passes_one rfl nofun

theorem passes_minus (v : Bytes) : Passes ⟨.plain, d⟩ (0x2D :: v) ⟨.sign, d⟩ v :=
  passes_one rfl nofun

theorem passes_first_letter {n : Nat} (hn : next ⟨.plain, d⟩ b = some ⟨.letters n, d⟩)
    (v : Bytes) : Passes ⟨.plain, d⟩ (b :: v) ⟨.letters n, d⟩ v := by
  refine passes_one hn fun hb => ?_
  subst hb
  cases d <;> cases hn

/-- The letter of an exponent is as good as a sign. -/
theorem passes_exponent_letter (hb : b = 0x65 ∨ b = 0x45) (v : Bytes) :
    Passes ⟨.plain, d⟩ (b :: v) ⟨.sign, d⟩ v := by
  rcases hb with rfl | rfl <;> exact passes_one rfl nofun

theorem passes_exponent_sign (hb : b = 0x2D ∨ b = 0x2B) (v : Bytes) :
    Passes ⟨.sign, d⟩ (b :: v) ⟨.sign, d⟩ v := by
  rcases hb with rfl | rfl <;> exact passes_one rfl nofun

theorem passes_digit (h : isDigit b = true) (v : Bytes) :
    Passes ⟨.plain, d⟩ (b :: v) ⟨.plain, d⟩ v := passes_inert (isInert_of_isDigit h)

theorem passes_sign_digit (h : isDigit b = true) (v : Bytes) :
    Passes ⟨.sign, d⟩ (b :: v) ⟨.plain, d⟩ v := passes_one (if_pos h) nofun

/-- An opening bracket is left for what it holds. -/
theorem passes_open (hb : b = 0x5B ∨ b = 0x7B) (v : Bytes) :
    Passes ⟨.plain, d⟩ (b :: v) ⟨.plain, d + 1⟩ v := by
  rcases hb with rfl | rfl <;> exact passes_one rfl nofun

theorem passes_close (hb : b = 0x5D ∨ b = 0x7D) (v : Bytes) :
    Passes ⟨.plain, d + 1⟩ (b :: v) ⟨.plain, d⟩ v := by
  rcases hb with rfl | rfl <;> exact passes_one rfl nofun

/-- A comma further in stands before no head. -/
theorem passes_comma (hd : 1 < d) (v : Bytes) : Passes ⟨.plain, d⟩ (0x2C :: v) ⟨.plain, d⟩ v := by
  obtain ⟨e, rfl⟩ := Nat.exists_eq_add_of_le' hd
  exact passes_one rfl (by simp)

theorem passes_dropWhile {p : UInt8 → Bool} (hp : ∀ b, p b = true → isInert b = true) (v : Bytes) :
    Passes ⟨.plain, d⟩ v ⟨.plain, d⟩ (v.dropWhile p) := by
  induction v with
  | nil => exact .refl _ _
  | cons b v ih =>
    rw [List.dropWhile_cons]
    split
    · rename_i hb
      exact (passes_inert (hp b hb)).trans ih
    · exact .refl _ _

theorem passes_space (v : Bytes) : Passes ⟨.plain, d⟩ v ⟨.plain, d⟩ (skipSpace v) :=
  passes_dropWhile (fun _ => isInert_of_isSpace) v

/-- What stands behind blanks is reached. -/
theorem passes_to (h : skipSpace v = r) : Passes ⟨.plain, d⟩ v ⟨.plain, d⟩ r :=
  h ▸ passes_space v

/-- Behind its last brace nothing is left of an object but blanks. -/
theorem passes_end (hv : skipSpace v = 0x7D :: w) (hw : skipSpace w = []) :
    Passes ⟨.plain, d + 1⟩ v ⟨.plain, d⟩ [] :=
  (passes_to hv).trans ((passes_close (Or.inr rfl) w).trans (passes_to hw))

theorem passes_digits (v : Bytes) : Passes ⟨.plain, d⟩ v ⟨.plain, d⟩ (v.dropWhile isDigit) :=
  passes_dropWhile (fun _ => isInert_of_isDigit) v

/-! ## Falling -/

/-- A reader that falls from one place to the other leaves a text that the lexer can still read to
its end: from somewhere no less deep than `d`, and without new heads. -/
def Falls (d : Nat) (x : Lexer) (v r : Bytes) : Prop :=
  ∀ heads, scan x v = some heads →
    ∃ x' heads', d ≤ x'.depth ∧ scan x' r = some heads' ∧ heads' ⊆ heads

theorem Falls.refl (h : d ≤ x.depth) (v : Bytes) : Falls d x v v :=
  fun heads hs => ⟨x, heads, h, hs, List.Subset.refl _⟩

theorem Falls.of_scan_eq_none (h : scan x v = none) : Falls d x v r := by
  intro heads hs
  rw [h] at hs
  cases hs

theorem Falls.step (h : ∀ x', x.next b = some x' → Falls d x' v r) : Falls d x (b :: v) r := by
  intro heads hs
  obtain ⟨x₁, heads₁, hn, hs₁, hsub⟩ := scan_cons_eq_some hs
  obtain ⟨x', heads', hd, hs', hsub'⟩ := h x₁ hn heads₁ hs₁
  exact ⟨x', heads', hd, hs', List.Subset.trans hsub' hsub⟩

theorem Falls.trans {e : Nat} {v' : Bytes} (h : Falls e x v v')
    (h' : ∀ x', e ≤ x'.depth → Falls d x' v' r) : Falls d x v r := by
  intro heads hs
  obtain ⟨x₁, heads₁, he, hs₁, hsub⟩ := h heads hs
  obtain ⟨x', heads', hd, hs', hsub'⟩ := h' x₁ he heads₁ hs₁
  exact ⟨x', heads', hd, hs', List.Subset.trans hsub' hsub⟩

theorem Passes.falls {v' : Bytes} (h : Passes x v x' v') (h' : Falls d x' v' r) :
    Falls d x v r := by
  intro heads hs
  rw [h.scan_eq] at hs
  exact h' heads hs

/-- A byte inside a token is left behind at the same depth. -/
theorem falls_one (hm : x.mode ≠ .plain) (b : UInt8) (v : Bytes) : Falls x.depth x (b :: v) v :=
  .step fun _ hn => .refl (Nat.le_of_eq (depth_next_of_ne hm hn).symm) v

/-- Whatever byte is left behind, no more than one bracket is closed. -/
theorem falls_closing (h : d + 1 ≤ x.depth) (b : UInt8) (v : Bytes) : Falls d x (b :: v) v :=
  .step fun _ hn => .refl (by have := (depth_next hn).1; omega) v

theorem falls_space (h : d ≤ x.depth) (v : Bytes) : Falls d x v (skipSpace v) := by
  induction v generalizing x with
  | nil => exact .refl h _
  | cons b v ih =>
    unfold skipSpace
    rw [List.dropWhile_cons]
    split
    · rename_i hb
      refine .step fun x' hn => ih (Nat.le_trans h ((depth_next hn).2 ?_ ?_))
      · rintro rfl
        cases hb
      · rintro rfl
        cases hb
    · exact .refl h _

/-! ## Between tokens -/

/-- In the middle of a token there is no blank, no comma and no closing brace. -/
theorem next_between (hb : isSpace b = true ∨ b = 0x2C ∨ b = 0x7D)
    (hp : x.mode ≠ .plain) (hq : x.mode ≠ .quoted) : x.next b = none := by
  simp only [isSpace, Bool.or_eq_true, beq_iff_eq] at hb
  obtain ⟨m, d⟩ := x
  cases m with
  | plain => exact absurd rfl hp
  | quoted => exact absurd rfl hq
  | sign | escaped => rcases hb with (((rfl | rfl) | rfl) | rfl) | rfl | rfl <;> rfl
  | letters n | hex n =>
    cases n <;> (rcases hb with (((rfl | rfl) | rfl) | rfl) | rfl | rfl <;> rfl)

/-- Before a comma or a closing brace the lexer is between tokens, or inside a string. -/
theorem plain_or_quoted (hv : skipSpace v = b :: w) (hb : b = 0x2C ∨ b = 0x7D)
    (hs : scan x v = some heads) : x.mode = .plain ∨ x.mode = .quoted := by
  by_cases hp : x.mode = .plain
  · exact Or.inl hp
  by_cases hq : x.mode = .quoted
  · exact Or.inr hq
  cases v with
  | nil => cases hv
  | cons c v =>
    have hc : isSpace c = true ∨ c = 0x2C ∨ c = 0x7D := by
      unfold skipSpace at hv
      rw [List.dropWhile_cons] at hv
      split at hv
      · rename_i hc
        exact Or.inl hc
      · cases hv
        exact Or.inr hb
    rw [scan_of_next_eq_none (next_between hc hp hq)] at hs
    cases hs

/-! ## Two lexers out of phase -/

/-- The lexer is not inside a string. -/
def IsBare : Lexer → Prop
  | ⟨.plain, _⟩ | ⟨.letters _, _⟩ | ⟨.sign, _⟩ => True
  | ⟨.quoted, _⟩ | ⟨.escaped, _⟩ | ⟨.hex _, _⟩ => False

/-- One lexer is inside a string and the other is not. -/
def Opposite (x y : Lexer) : Prop := x.IsBare ∧ y.mode = .quoted ∨ x.mode = .quoted ∧ y.IsBare

/-- Outside of strings there is no backslash. -/
theorem IsBare.next_backslash (hx : x.IsBare) : x.next 0x5C = none := by
  obtain ⟨m, d⟩ := x
  cases m with
  | plain | sign => rfl
  | letters n => cases n <;> rfl
  | quoted | escaped | hex => exact hx.elim

/-- Outside of strings a quote leads into one, or cannot stand there. -/
theorem IsBare.next_quote (hx : x.IsBare) (h : x.next 0x22 = some x') : x'.mode = .quoted := by
  obtain ⟨m, d⟩ := x
  cases m with
  | plain =>
    cases h
    rfl
  | letters n => cases n <;> cases h
  | sign => cases h
  | quoted | escaped | hex => exact hx.elim

/-- Outside of strings nothing but a quote leads into one. -/
theorem IsBare.next (hx : x.IsBare) (hb : b ≠ 0x22) (h : x.next b = some x') : x'.IsBare := by
  obtain ⟨m, d⟩ := x
  cases m with
  | plain =>
    simp only [Lexer.next, nextPlain, if_neg hb] at h
    repeat' split at h
    all_goals cases h <;> exact trivial
  | letters n =>
    cases n <;> simp only [Lexer.next] at h <;> split at h <;> cases h <;> exact trivial
  | sign =>
    simp only [Lexer.next] at h
    repeat' split at h
    all_goals cases h <;> exact trivial
  | quoted | escaped | hex => exact hx.elim

theorem quoted_next (hx : x.mode = .quoted) (h : x.next b = some x') :
    (b = 0x22 → x'.IsBare) ∧ (b ≠ 0x22 → b ≠ 0x5C → x'.mode = .quoted) := by
  obtain ⟨m, d⟩ := x
  obtain rfl : m = .quoted := hx
  by_cases hb : b = 0x22
  · subst hb
    cases h
    exact ⟨fun _ => trivial, fun hne => absurd rfl hne⟩
  · refine ⟨fun he => absurd he hb, fun _ hs => ?_⟩
    rw [next_quoted hb hs] at h
    cases h
    rfl

/-- Two lexers that are out of phase stay so. -/
theorem Opposite.next (hxy : Opposite x y) (hx : x.next b = some x') (hy : y.next b = some y') :
    Opposite x' y' := by
  have hstep : ∀ {x x' y y' : Lexer}, x.IsBare → y.mode = .quoted → x.next b = some x' →
      y.next b = some y' → x'.IsBare ∧ y'.mode = .quoted ∨ x'.mode = .quoted ∧ y'.IsBare := by
    intro x x' y y' hbare hquoted hx hy
    have hslash : b ≠ 0x5C := by
      intro hb
      rw [hb, hbare.next_backslash] at hx
      cases hx
    by_cases hb : b = 0x22
    · subst hb
      exact Or.inr ⟨hbare.next_quote hx, (quoted_next hquoted hy).1 rfl⟩
    · exact Or.inl ⟨hbare.next hb hx, (quoted_next hquoted hy).2 hb hslash⟩
  rcases hxy with ⟨hbare, hquoted⟩ | ⟨hquoted, hbare⟩
  · exact hstep hbare hquoted hx hy
  · exact (hstep hbare hquoted hy hx).symm.imp And.symm And.symm

theorem Opposite.passes (hxy : Opposite x y) (h : Passes x v x' r) (hs : scan y v = some heads) :
    ∃ y' heads', Opposite x' y' ∧ scan y' r = some heads' := by
  induction h generalizing y heads with
  | refl => exact ⟨y, heads, hxy, hs⟩
  | step hn _ _ ih =>
    obtain ⟨y₁, heads₁, hy, hs₁, _⟩ := scan_cons_eq_some hs
    exact ih (hxy.next hn hy) hs₁

end Lexer

end SignIn.Json
