-- The Blowfish cipher with the key schedule that password hashing uses: the
-- subkeys and boxes start as digits of the circle number and are replaced
-- under a salt and a key as often as wanted.
import SignIn.Password.PiBits

namespace SignIn.Password

/-- The tables of a keyed cipher: eighteen subkeys, and four boxes of 256 words one after the
other. -/
structure Cipher where
  subkeys : Vector UInt32 18
  boxes : Vector UInt32 1024

namespace Cipher

/-- Words as a vector; the missing ones are zero. -/
def vectorOf (n : Nat) (ws : Array UInt32) : Vector UInt32 n :=
  Vector.ofFn fun i => ws.getD i 0

/-- The tables before any key. -/
def initial : Cipher :=
  let ws := (piWords 1042).toArray
  ⟨vectorOf 18 (ws.take 18), vectorOf 1024 (ws.drop 18)⟩

/-- The word of one of the four boxes that a byte selects. -/
@[inline] def pick (boxes : Vector UInt32 1024) (box : Fin 4) (b : UInt8) : UInt32 :=
  boxes.get ⟨box.val * 256 + b.toNat, by have := b.toNat_lt; have := box.isLt; omega⟩

/-- The four words that the bytes of `x` select, combined. -/
@[inline] def scramble (boxes : Vector UInt32 1024) (x : UInt32) : UInt32 :=
  ((pick boxes 0 (x >>> 24).toUInt8 + pick boxes 1 (x >>> 16).toUInt8) ^^^
    pick boxes 2 (x >>> 8).toUInt8) + pick boxes 3 x.toUInt8

/-- Two rounds at a time: `i` counts the pairs already done, of eight. -/
def rounds (subkeys : Vector UInt32 18) (boxes : Vector UInt32 1024) (l r : UInt32) (i : Nat) :
    UInt32 × UInt32 :=
  if h : i < 8 then
    let l := l ^^^ subkeys[2 * i]
    let r := r ^^^ scramble boxes l ^^^ subkeys[2 * i + 1]
    let l := l ^^^ scramble boxes r
    rounds subkeys boxes l r (i + 1)
  else (r ^^^ subkeys[17], l ^^^ subkeys[16])
termination_by 8 - i

/-- A block of two words, enciphered. -/
def encrypt (c : Cipher) (l r : UInt32) : UInt32 × UInt32 := rounds c.subkeys c.boxes l r 0

/-- The `i`-th word of the bytes repeated without end. -/
def cyclicWord (bytes : Array UInt8) (i : Nat) : UInt32 :=
  let byte (j : Nat) : UInt32 := (bytes.getD ((4 * i + j) % bytes.size) 0).toUInt32
  byte 0 <<< 24 ||| byte 1 <<< 16 ||| byte 2 <<< 8 ||| byte 3

/-- Replaces the subkeys from pair `i` on: each pair is the last block, mixed with two words of the
salt, enciphered under the tables so far. Answers the last block with the subkeys. -/
def replaceSubkeys (salt : Vector UInt32 4) (boxes : Vector UInt32 1024)
    (subkeys : Vector UInt32 18) (l r : UInt32) (i : Nat) : Vector UInt32 18 × UInt32 × UInt32 :=
  if h : i < 9 then
    let (l, r) := rounds subkeys boxes (l ^^^ salt.get ⟨2 * i % 4, by omega⟩)
      (r ^^^ salt.get ⟨(2 * i + 1) % 4, by omega⟩) 0
    replaceSubkeys salt boxes ((subkeys.set (2 * i) l).set (2 * i + 1) r) l r (i + 1)
  else (subkeys, l, r)
termination_by 9 - i

/-- Replaces the boxes in the same way from pair `i` on; the salt goes on where the subkeys left
it. -/
def replaceBoxes (salt : Vector UInt32 4) (subkeys : Vector UInt32 18) (boxes : Vector UInt32 1024)
    (l r : UInt32) (i : Nat) : Vector UInt32 1024 :=
  if h : i < 512 then
    let (l, r) := rounds subkeys boxes (l ^^^ salt.get ⟨(2 * i + 2) % 4, by omega⟩)
      (r ^^^ salt.get ⟨(2 * i + 3) % 4, by omega⟩) 0
    replaceBoxes salt subkeys ((boxes.set (2 * i) l).set (2 * i + 1) r) l r (i + 1)
  else boxes
termination_by 512 - i

/-- The key words of a schedule: one for each subkey. -/
def keyWords (bytes : List UInt8) : Vector UInt32 18 :=
  let bytes := bytes.toArray
  Vector.ofFn fun i => cyclicWord bytes i

/-- The salt of sixteen bytes as four words. -/
def saltWords (bytes : List UInt8) : Vector UInt32 4 :=
  let bytes := bytes.toArray
  Vector.ofFn fun i => cyclicWord bytes i

/-- Mixes a key into the subkeys and replaces all tables under the salt. -/
def expand (salt : Vector UInt32 4) (key : Vector UInt32 18) : Cipher → Cipher
  | ⟨subkeys, boxes⟩ =>
    let (subkeys, l, r) :=
      replaceSubkeys salt boxes (Vector.ofFn fun i => subkeys[i] ^^^ key[i]) 0 0 0
    let boxes := replaceBoxes salt subkeys boxes l r 0
    ⟨subkeys, boxes⟩

/-- Expands under the key and under the salt by turns, `times` times each. -/
def alternate (key salt : Vector UInt32 18) (c : Cipher) : Nat → Cipher
  | 0 => c
  | times + 1 =>
    let unsalted := Vector.replicate 4 0
    alternate key salt ((c.expand unsalted key).expand unsalted salt) times

/-- Enciphers a block `times` times. -/
def encryptTimes (c : Cipher) (l r : UInt32) : Nat → UInt32 × UInt32
  | 0 => (l, r)
  | times + 1 =>
    let (l, r) := c.encrypt l r
    encryptTimes c l r times

end Cipher

end SignIn.Password
