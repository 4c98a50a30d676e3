-- A new hash is read back as the cost, the salt and the digest that it was
-- written from, so a password is accepted for it exactly if it has the same
-- digest, and the password that it was made from always is.
import SignIn.Password.Bcrypt
import SignIn.Proofs.Codec.Base64
import SignIn.Proofs.Text.Bytes

namespace SignIn.Password

open Codec.Base64 (crypt encode decode?)

/-! ## Parts between dollar signs -/

theorem dollarParts_of_notMem {cs : List Char} (h : '$' ∉ cs) (done : List (List Char))
    (part : List Char) :
    dollarParts done part cs = dollarParts done (cs.reverse ++ part) [] := by
  induction cs generalizing part with
  | nil => rfl
  | cons c cs ih =>
    have hc : c ≠ '$' := fun he => h (he ▸ List.mem_cons_self)
    have hstep : dollarParts done part (c :: cs) = dollarParts done (c :: part) cs := by
      rw [dollarParts, if_neg hc]
    rw [hstep, ih (fun hm => h (List.mem_cons_of_mem c hm)), List.reverse_cons,
      List.append_assoc, List.singleton_append]

/-- What stands behind the version and the cost of new hashes is one part. -/
theorem dollarParts_new {cs : List Char} (h : '$' ∉ cs) (hne : cs ≠ []) :
    dollarParts [] [] ('$' :: '2' :: 'b' :: '$' :: '1' :: '0' :: '$' :: cs) =
      [['2', 'b'], ['1', '0'], cs] := by
  simp only [dollarParts, List.isEmpty_nil, List.isEmpty_cons, if_true, Bool.false_eq_true,
    if_false, Char.reduceEq]
  rw [dollarParts_of_notMem h]
  simp [dollarParts, hne]

/-! ## Characters of one byte -/

theorem utf8Size_eq_one {c : Char} (h : c.toNat < 0x80) : c.utf8Size = 1 :=
  Char.utf8Size_eq_one_iff.2 (UInt32.le_iff_toNat_le.2 (Nat.le_of_lt_succ h))

theorem splitAtByte?_of_ascii {front : List Char} (h : ∀ c ∈ front, c.toNat < 0x80)
    (back : List Char) : splitAtByte? front.length (front ++ back) = some (front, back) := by
  induction front with
  | nil => rw [List.length_nil, List.nil_append, splitAtByte?]
  | cons c front ih =>
    have hc := utf8Size_eq_one (h c List.mem_cons_self)
    rw [List.length_cons, List.cons_append, splitAtByte?, if_pos (by omega), hc,
      Nat.add_sub_cancel, ih fun d hd => h d (List.mem_cons_of_mem c hd), Option.map_some]

theorem ascii_of_mem_encode {bytes : List UInt8} {c : Char}
    (h : c ∈ (encode crypt bytes).toList) : c.toNat < 0x80 := by
  have hall : crypt.symbols.all (fun c => decide (c.toNat < 0x80)) = true := by decide
  exact of_decide_eq_true (List.all_eq_true.1 hall c (Codec.Base64.mem_symbols_of_mem_encode h))

theorem dollar_notMem_encode (bytes : List UInt8) : '$' ∉ (encode crypt bytes).toList :=
  fun h => absurd (Codec.Base64.mem_symbols_of_mem_encode h) (by decide)

/-! ## New hashes -/

variable {salt : List UInt8}

theorem length_digest (cost : Nat) (salt key : List UInt8) :
    (digest cost salt key).length = 23 := by
  have hblocks : ∀ f : UInt32 × UInt32 → UInt32 × UInt32,
      (magic.flatMap fun x => wordBytes (f x).1 ++ wordBytes (f x).2).length = 24 := fun _ => rfl
  unfold digest
  rw [List.length_take]
  dsimp only
  rw [hblocks]
  rfl

/-- The symbols of the salt and of the digest, which a new hash ends with. -/
def hashTail (salt : List UInt8) (password : String) : List Char :=
  (encode crypt salt).toList ++ (encode crypt (digest newCost salt (keyBytes password))).toList

theorem toList_hash (salt : List UInt8) (password : String) :
    (hash salt password).toList =
      '$' :: '2' :: 'b' :: '$' :: '1' :: '0' :: '$' :: hashTail salt password := by
  have hcost : Text.Decimal.padded 2 newCost = "10" := by decide
  unfold hash hashTail
  rw [hcost]
  simp

theorem ascii_of_mem_hashTail {password : String} {c : Char} (h : c ∈ hashTail salt password) :
    c.toNat < 0x80 := by
  rcases List.mem_append.1 h with h | h
  · exact ascii_of_mem_encode h
  · exact ascii_of_mem_encode h

theorem dollar_notMem_hashTail (salt : List UInt8) (password : String) :
    '$' ∉ hashTail salt password := by
  intro h
  rcases List.mem_append.1 h with h | h
  · exact dollar_notMem_encode _ h
  · exact dollar_notMem_encode _ h

/-- A new hash is taken apart into what it was written from. -/
theorem parse_hash (hsalt : salt.length = 16) (password : String) :
    StoredHash.parse (hash salt password) = .ok ⟨newCost, encode crypt salt,
      encode crypt (digest newCost salt (keyBytes password))⟩ := by
  have hfront : (encode crypt salt).toList.length = 22 := by
    rw [Codec.Base64.length_encode, hsalt]
  have hlength : (hashTail salt password).length = 53 := by
    unfold hashTail
    rw [List.length_append, hfront, Codec.Base64.length_encode, length_digest]
  have hne : hashTail salt password ≠ [] := by
    intro he
    rw [he] at hlength
    cases hlength
  have hsize : Text.utf8Size (String.ofList (hashTail salt password)) = 53 := by
    rw [Text.utf8Size_of_ascii, String.toList_ofList, hlength]
    intro c hc
    rw [String.toList_ofList] at hc
    exact ascii_of_mem_hashTail hc
  have hsplit : splitAtByte? 22 (hashTail salt password) = some ((encode crypt salt).toList,
      (encode crypt (digest newCost salt (keyBytes password))).toList) := by
    rw [← hfront]
    exact splitAtByte?_of_ascii (fun c hc => ascii_of_mem_encode hc) _
  have hversion : String.ofList ['2', 'b'] ∈ versions := by decide
  have hcost : Text.Decimal.parseNat? Text.Decimal.nat32High (String.ofList ['1', '0']) =
      some newCost := by decide
  unfold StoredHash.parse
  rw [toList_hash, dollarParts_new (dollar_notMem_hashTail salt password) hne]
  simp only [hversion, hcost, hsize, hsplit, not_true_eq_false, ne_eq, if_false,
    String.ofList_toList]

/-- What comparing amounts to once the stored parts have been read. -/
theorem verify_of_parse {stored : String} {parts : StoredHash} {expected : List UInt8}
    (hparts : StoredHash.parse stored = .ok parts) (hsalt : decode? crypt parts.salt = some salt)
    (hcost : ¬ (parts.cost < 4 ∨ 31 < parts.cost))
    (hexpected : decode? crypt parts.digest = some expected) (password : String) :
    verify password stored = .ok (digest parts.cost salt (keyBytes password) == expected) := by
  unfold verify
  rw [hparts]
  simp only [bind, Except.bind, hsalt, hcost, if_false, hexpected]

/-- A password is accepted for a new hash if it has the same digest under the salt; either way the
hash can be compared with. -/
theorem verify_hash (hsalt : salt.length = 16) (password original : String) :
    verify password (hash salt original) = .ok (digest newCost salt (keyBytes password) ==
      digest newCost salt (keyBytes original)) := by
  have hcost : ¬ (newCost < 4 ∨ 31 < newCost) := by decide
  exact verify_of_parse (parse_hash hsalt original) (Codec.Base64.decode?_encode crypt salt) hcost
    (Codec.Base64.decode?_encode crypt _) password

/-- The password that a hash was made from is accepted for it. -/
theorem verify_hash_self (hsalt : salt.length = 16) (password : String) :
    verify password (hash salt password) = .ok true := by
  rw [verify_hash hsalt, beq_self_eq_true]

end SignIn.Password
