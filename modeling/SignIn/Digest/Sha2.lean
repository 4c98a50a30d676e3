-- The SHA-2 digests: one algorithm over words of 32 or 64 bits. Its
-- constants are the first fraction bits of square and cube roots of primes.
import SignIn.Codec.Hex

namespace SignIn.Digest

/-! ## Roots of primes -/

/-- Whether `n` has no divisor from 2 up to itself. -/
def isPrime (n : Nat) : Bool :=
  2 ≤ n && (List.range n).all fun d => d < 2 || n % d != 0

/-- The primes below 410, which are eighty. -/
def primes : List Nat := (List.range 410).filter isPrime

/-- The greatest number whose `k`-th power is at most `n`, found bit by bit from `2 ^ bits` down;
`root` holds the bits already found. -/
def rootFrom (k n root : Nat) : Nat → Nat
  | 0 => root
  | bits + 1 =>
    let next := root + Nat.pow 2 bits
    rootFrom k n (if Nat.pow next k ≤ n then next else root) bits

/-- The first 64 bits after the binary point of the `k`-th root of a small number. -/
def rootFraction (k p : Nat) : Nat :=
  rootFrom k (p * Nat.pow 2 (64 * k)) 0 70 % 0x10000000000000000

/-- The cube roots' fractions: one constant a round. -/
def roundFractions : List Nat := primes.map (rootFraction 3)

/-- The square roots' fractions of sixteen primes: the starting states. -/
def startFractions : List Nat := (primes.take 16).map (rootFraction 2)

/-! ## Words -/

/-- A word size of the digest: its operations and its mixing amounts. -/
structure Variant (W : Type) where
  /-- Bytes of a word. A block has sixteen words. -/
  width : Nat
  ofNat : Nat → W
  toNat : W → Nat
  add : W → W → W
  xor : W → W → W
  and : W → W → W
  not : W → W
  rotateRight : W → Nat → W
  shiftRight : W → Nat → W
  /-- Two rotations and a shift each, for the schedule. -/
  small0 : Nat × Nat × Nat
  small1 : Nat × Nat × Nat
  /-- Three rotations each, for the rounds. -/
  big0 : Nat × Nat × Nat
  big1 : Nat × Nat × Nat
  rounds : List W

/-- The state between two rounds. -/
structure State (W : Type) where
  a : W
  b : W
  c : W
  d : W
  e : W
  f : W
  g : W
  h : W

namespace Variant

variable {W : Type} (v : Variant W)

/-- A word rotated by three amounts, mixed. -/
def rotations (r : Nat × Nat × Nat) (x : W) : W :=
  v.xor (v.xor (v.rotateRight x r.1) (v.rotateRight x r.2.1)) (v.rotateRight x r.2.2)

/-- A word rotated by two amounts and shifted by a third, mixed. -/
def rotationsShift (r : Nat × Nat × Nat) (x : W) : W :=
  v.xor (v.xor (v.rotateRight x r.1) (v.rotateRight x r.2.1)) (v.shiftRight x r.2.2)

/-- One round with its message word and its constant. -/
def round (s : State W) (w k : W) : State W :=
  let choice := v.xor (v.and s.e s.f) (v.and (v.not s.e) s.g)
  let majority := v.xor (v.xor (v.and s.a s.b) (v.and s.a s.c)) (v.and s.b s.c)
  let t1 := v.add (v.add (v.add (v.add s.h (v.rotations v.big1 s.e)) choice) k) w
  let t2 := v.add (v.rotations v.big0 s.a) majority
  ⟨v.add t1 t2, s.a, s.b, s.c, v.add s.d t1, s.e, s.f, s.g⟩

/-- The rounds of a block. `window` holds the next sixteen message words; each round takes the first
and appends the word that follows from it. -/
def runRounds (s : State W) (window : List W) : List W → State W
  | [] => s
  | k :: ks =>
    match window with
    | [w0, w1, w2, w3, w4, w5, w6, w7, w8, w9, w10, w11, w12, w13, w14, w15] =>
      let next := v.add (v.add (v.rotationsShift v.small1 w14) w9)
        (v.add (v.rotationsShift v.small0 w1) w0)
      runRounds (v.round s w0 k)
        [w1, w2, w3, w4, w5, w6, w7, w8, w9, w10, w11, w12, w13, w14, w15, next] ks
    | _ => s

/-- The number that the bytes spell, the most significant first. -/
def bigEndian (bytes : List UInt8) : Nat := bytes.foldl (fun n b => n * 256 + b.toNat) 0

/-- The words that the bytes spell, `count` of them. -/
def words (bytes : List UInt8) : Nat → List W
  | 0 => []
  | count + 1 => v.ofNat (bigEndian (bytes.take v.width)) :: words (bytes.drop v.width) count

/-- The sum of two states, word by word. -/
def addStates (s t : State W) : State W :=
  ⟨v.add s.a t.a, v.add s.b t.b, v.add s.c t.c, v.add s.d t.d, v.add s.e t.e, v.add s.f t.f,
    v.add s.g t.g, v.add s.h t.h⟩

/-- The state after one more block. -/
def absorb (s : State W) (block : List UInt8) : State W :=
  v.addStates s (v.runRounds s (v.words block 16) v.rounds)

/-- The state after `count` blocks. -/
def absorbAll (s : State W) (bytes : List UInt8) : Nat → State W
  | 0 => s
  | count + 1 =>
    absorbAll (v.absorb s (bytes.take (16 * v.width))) (bytes.drop (16 * v.width)) count

/-- The last `width` bytes of a number, the most significant first. -/
def toBytes (width n : Nat) : List UInt8 :=
  ((List.range width).map fun i => UInt8.ofNat (n / Nat.pow 256 i % 256)).reverse

/-- The message with a one bit, zeros and its length in bits, so that it fills whole blocks. -/
def pad (message : List UInt8) : List UInt8 :=
  let block := 16 * v.width
  let used := (message.length + 1 + 2 * v.width) % block
  let zeros := (block - used) % block
  message ++ 0x80 :: List.replicate zeros 0 ++ toBytes (2 * v.width) (8 * message.length)

/-- The bytes of the state. -/
def stateBytes (s : State W) : List UInt8 :=
  [s.a, s.b, s.c, s.d, s.e, s.f, s.g, s.h].flatMap fun w => toBytes v.width (v.toNat w)

/-- The state after the padded message. -/
def digest (start : State W) (message : List UInt8) : List UInt8 :=
  let padded := v.pad message
  v.stateBytes (v.absorbAll start padded (padded.length / (16 * v.width)))

/-- The state of eight numbers. -/
def stateOf : List Nat → State W
  | [a, b, c, d, e, f, g, h] =>
    ⟨v.ofNat a, v.ofNat b, v.ofNat c, v.ofNat d, v.ofNat e, v.ofNat f, v.ofNat g, v.ofNat h⟩
  | _ =>
    let z := v.ofNat 0
    ⟨z, z, z, z, z, z, z, z⟩

end Variant

/-! ## The two word sizes -/

/-- Words of 32 bits and 64 rounds. -/
def variant32 : Variant UInt32 where
  width := 4
  ofNat := UInt32.ofNat
  toNat := UInt32.toNat
  add := (· + ·)
  xor := (· ^^^ ·)
  and := (· &&& ·)
  not := (~~~ ·)
  rotateRight x n := (x >>> UInt32.ofNat n) ||| (x <<< UInt32.ofNat (32 - n))
  shiftRight x n := x >>> UInt32.ofNat n
  small0 := (7, 18, 3)
  small1 := (17, 19, 10)
  big0 := (2, 13, 22)
  big1 := (6, 11, 25)
  rounds := (roundFractions.take 64).map fun n => UInt32.ofNat (n / 0x100000000)

/-- Words of 64 bits and 80 rounds. -/
def variant64 : Variant UInt64 where
  width := 8
  ofNat := UInt64.ofNat
  toNat := UInt64.toNat
  add := (· + ·)
  xor := (· ^^^ ·)
  and := (· &&& ·)
  not := (~~~ ·)
  rotateRight x n := (x >>> UInt64.ofNat n) ||| (x <<< UInt64.ofNat (64 - n))
  shiftRight x n := x >>> UInt64.ofNat n
  small0 := (1, 8, 7)
  small1 := (19, 61, 6)
  big0 := (28, 34, 39)
  big1 := (14, 18, 41)
  rounds := roundFractions.map UInt64.ofNat

/-- The digest of 32 bytes, which starts from the square roots of the first eight primes. -/
def sha256 (message : List UInt8) : List UInt8 :=
  variant32.digest (variant32.stateOf ((startFractions.take 8).map (· / 0x100000000))) message

/-- The digest of 48 bytes, which starts from the square roots of the next eight primes. -/
def sha384 (message : List UInt8) : List UInt8 :=
  (variant64.digest (variant64.stateOf (startFractions.drop 8)) message).take 48

end SignIn.Digest
