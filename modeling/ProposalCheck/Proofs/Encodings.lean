import Mathlib.Data.List.Basic
import ProposalCheck.Text.Decoding

/-!
# Reading back the encoding of a text

`Text.decode_toUTF8`: the bytes that encode a text are read as this text. One lemma for each length
of an encoding says how a character is read off its bytes, told by the numbers of the bytes
(`readChar_one` to `readChar_four`); a text is read character by character.

`Text.eq_of_mem_encodeChar` says that a byte below 128, such as that of a line break, occurs in the
encoding of no other character.
-/

namespace ProposalCheck.Text

namespace Decoding

/-! ### Bytes by their numbers -/

theorem isInner_iff {b : UInt8} : isInner b = true ↔ 0x80 ≤ b.toNat ∧ b.toNat < 0xC0 := by
  simp [isInner, UInt8.lt_iff_toNat_lt, UInt8.le_iff_toNat_le]

theorem canFollow_iff {first b : UInt8} :
    canFollow first b = true ↔ (0x80 ≤ b.toNat ∧ b.toNat < 0xC0) ∧
      (first.toNat = 0xE0 → 0xA0 ≤ b.toNat) ∧ (first.toNat = 0xED → b.toNat < 0xA0) ∧
      (first.toNat = 0xF0 → 0x90 ≤ b.toNat) ∧ (first.toNat = 0xF4 → b.toNat < 0x90) := by
  simp only [canFollow, Bool.and_eq_true, Bool.or_eq_true, bne_iff_ne, ne_eq, isInner_iff,
    decide_eq_true_eq, UInt8.lt_iff_toNat_lt, UInt8.le_iff_toNat_le, ← UInt8.toNat_inj,
    UInt8.reduceToNat, ← imp_iff_not_or, and_assoc]

theorem innerCount?_eq (first : UInt8) :
    innerCount? first = if first.toNat < 0x80 then some 0
      else if 0xC2 ≤ first.toNat ∧ first.toNat < 0xE0 then some 1
      else if 0xE0 ≤ first.toNat ∧ first.toNat < 0xF0 then some 2
      else if 0xF0 ≤ first.toNat ∧ first.toNat < 0xF5 then some 3
      else none := by
  simp [innerCount?, UInt8.lt_iff_toNat_lt, UInt8.le_iff_toNat_le]

/-! ### Single characters -/

theorem readChar_append {first : UInt8} {inner : List UInt8}
    (hcount : innerCount? first = some inner.length) (hinner : takeInner first inner = inner)
    (rest : List UInt8) :
    readChar first (inner ++ rest) = .ok (Char.ofNat (codePoint first inner), inner.length) := by
  simp [readChar, hcount, hinner]

theorem readChar_one {n : Nat} {a : UInt8} (hn : n < 0x80) (ha : a.toNat = n)
    (rest : List UInt8) : readChar a rest = .ok (Char.ofNat n, 0) := by
  have hcount : innerCount? a = some ([] : List UInt8).length := by
    rw [innerCount?_eq, if_pos (by omega)]
    rfl
  have hpoint : codePoint a [] = n := ha
  rw [← hpoint]
  exact readChar_append hcount rfl rest

theorem readChar_two {n : Nat} {a b : UInt8} (hlow : 0x80 ≤ n) (hhigh : n < 0x800)
    (ha : a.toNat = n / 64 + 192) (hb : b.toNat = n % 64 + 128) (rest : List UInt8) :
    readChar a (b :: rest) = .ok (Char.ofNat n, 1) := by
  have hcount : innerCount? a = some 1 := by
    rw [innerCount?_eq, if_neg (by omega), if_pos (by omega)]
  have hinner : takeInner a [b] = [b] := by
    have hfollow : canFollow a b = true := canFollow_iff.2 (by omega)
    simp [takeInner, hfollow]
  have hpoint : codePoint a [b] = n := by
    simp only [codePoint, List.length_cons, List.length_nil, List.foldl_cons, List.foldl_nil]
    omega
  rw [← hpoint]
  exact readChar_append hcount hinner rest

theorem readChar_three {n : Nat} {a b c : UInt8} (hlow : 0x800 ≤ n) (hhigh : n < 0x10000)
    (hgap : n < 0xD800 ∨ 0xE000 ≤ n) (ha : a.toNat = n / 4096 + 224)
    (hb : b.toNat = n / 64 % 64 + 128) (hc : c.toNat = n % 64 + 128) (rest : List UInt8) :
    readChar a (b :: c :: rest) = .ok (Char.ofNat n, 2) := by
  have hcount : innerCount? a = some 2 := by
    rw [innerCount?_eq, if_neg (by omega), if_neg (by omega), if_pos (by omega)]
  -- the bounds on the second byte after 0xE0 and 0xED are those on `n` and the gap in it
  have hinner : takeInner a [b, c] = [b, c] := by
    have hfollow : canFollow a b = true := canFollow_iff.2 (by omega)
    have hlast : isInner c = true := isInner_iff.2 (by omega)
    simp [takeInner, hfollow, hlast]
  have hpoint : codePoint a [b, c] = n := by
    simp only [codePoint, List.length_cons, List.length_nil, List.foldl_cons, List.foldl_nil]
    omega
  rw [← hpoint]
  exact readChar_append hcount hinner rest

theorem readChar_four {n : Nat} {a b c d : UInt8} (hlow : 0x10000 ≤ n) (hhigh : n < 0x110000)
    (ha : a.toNat = n / 262144 + 240) (hb : b.toNat = n / 4096 % 64 + 128)
    (hc : c.toNat = n / 64 % 64 + 128) (hd : d.toNat = n % 64 + 128) (rest : List UInt8) :
    readChar a (b :: c :: d :: rest) = .ok (Char.ofNat n, 3) := by
  have hcount : innerCount? a = some 3 := by
    rw [innerCount?_eq, if_neg (by omega), if_neg (by omega), if_neg (by omega), if_pos (by omega)]
  have hinner : takeInner a [b, c, d] = [b, c, d] := by
    have hfollow : canFollow a b = true := canFollow_iff.2 (by omega)
    have hthird : isInner c = true := isInner_iff.2 (by omega)
    have hlast : isInner d = true := isInner_iff.2 (by omega)
    simp [takeInner, hfollow, hthird, hlast]
  have hpoint : codePoint a [b, c, d] = n := by
    simp only [codePoint, List.length_cons, List.length_nil, List.foldl_cons, List.foldl_nil]
    omega
  rw [← hpoint]
  exact readChar_append hcount hinner rest

/-- A character is read off the front of its encoding, whatever follows. -/
theorem exists_readChar_encoded (c : Char) :
    ∃ first inner, String.utf8EncodeChar c = first :: inner ∧
      ∀ rest, readChar first (inner ++ rest) = .ok (c, inner.length) := by
  obtain ⟨n, hn⟩ : ∃ n, c.val.toNat = n := ⟨_, rfl⟩
  have hvalid : n < 0xD800 ∨ 0xDFFF < n ∧ n < 0x110000 := hn ▸ c.valid
  have hc : Char.ofNat n = c := by
    rw [← hn]
    exact Char.ofNat_toNat c
  have hbyte : ∀ {k : Nat}, k < 256 → (UInt8.ofNat k).toNat = k := fun h => by simpa using h
  rcases Nat.lt_or_ge n 0x80 with hone | hone
  · refine ⟨UInt8.ofNat n, [], ?_, fun rest => ?_⟩
    · simp only [String.utf8EncodeChar, hn, if_pos (show n ≤ 127 by omega)]
    · rw [← hc]
      exact readChar_one hone (hbyte (by omega)) rest
  rcases Nat.lt_or_ge n 0x800 with htwo | htwo
  · refine ⟨UInt8.ofNat (n / 64 % 32 + 192), [UInt8.ofNat (n % 64 + 128)], ?_, fun rest => ?_⟩
    · simp only [String.utf8EncodeChar, hn, if_neg (show ¬ n ≤ 127 by omega),
        if_pos (show n ≤ 2047 by omega)]
    · have ha : (UInt8.ofNat (n / 64 % 32 + 192)).toNat = n / 64 + 192 := by
        rw [hbyte (by omega)]
        omega
      rw [← hc]
      exact readChar_two hone htwo ha (hbyte (by omega)) rest
  rcases Nat.lt_or_ge n 0x10000 with hthree | hthree
  · refine ⟨UInt8.ofNat (n / 4096 % 16 + 224),
      [UInt8.ofNat (n / 64 % 64 + 128), UInt8.ofNat (n % 64 + 128)], ?_, fun rest => ?_⟩
    · simp only [String.utf8EncodeChar, hn, if_neg (show ¬ n ≤ 127 by omega),
        if_neg (show ¬ n ≤ 2047 by omega), if_pos (show n ≤ 65535 by omega)]
    · have ha : (UInt8.ofNat (n / 4096 % 16 + 224)).toNat = n / 4096 + 224 := by
        rw [hbyte (by omega)]
        omega
      rw [← hc]
      exact readChar_three htwo hthree (by omega) ha (hbyte (by omega)) (hbyte (by omega)) rest
  · refine ⟨UInt8.ofNat (n / 262144 % 8 + 240), [UInt8.ofNat (n / 4096 % 64 + 128),
      UInt8.ofNat (n / 64 % 64 + 128), UInt8.ofNat (n % 64 + 128)], ?_, fun rest => ?_⟩
    · simp only [String.utf8EncodeChar, hn, if_neg (show ¬ n ≤ 127 by omega),
        if_neg (show ¬ n ≤ 2047 by omega), if_neg (show ¬ n ≤ 65535 by omega)]
    · have ha : (UInt8.ofNat (n / 262144 % 8 + 240)).toNat = n / 262144 + 240 := by
        rw [hbyte (by omega)]
        omega
      rw [← hc]
      exact readChar_four hthree (by omega) ha (hbyte (by omega)) (hbyte (by omega))
        (hbyte (by omega)) rest

/-! ### Texts -/

theorem decodeFrom_encoded (cs : List Char) (position : Nat) :
    decodeFrom position (cs.flatMap String.utf8EncodeChar) = .ok cs := by
  induction cs generalizing position with
  | nil => rw [List.flatMap_nil, decodeFrom]
  | cons c rest ih =>
    obtain ⟨first, inner, hencoded, hread⟩ := exists_readChar_encoded c
    rw [List.flatMap_cons, hencoded, List.cons_append, decodeFrom, hread]
    simp only [List.drop_left, ih]
    rfl

end Decoding

theorem toList_loop (bytes : ByteArray) (i : Nat) (done : List UInt8) :
    ByteArray.toList.loop bytes i done = done.reverse ++ bytes.data.toList.drop i := by
  fun_induction ByteArray.toList.loop bytes i done with
  | case1 i done h ih =>
    have hi : i < bytes.data.toList.length := by simpa using h
    rw [ih, List.drop_eq_getElem_cons hi]
    simp [ByteArray.get!, h]
  | case2 i done h =>
    rw [List.drop_eq_nil_of_le (by simpa using Nat.le_of_not_lt h), List.append_nil]

theorem toList_toUTF8 (text : String) :
    text.toUTF8.toList = text.toList.flatMap String.utf8EncodeChar := by
  have h : text.toUTF8 = (text.toList.flatMap String.utf8EncodeChar).toByteArray := by
    rw [← String.ofList_toList (s := text)]
    simp only [String.toUTF8_eq_toByteArray, String.toByteArray_ofList, String.toList_ofList]
    rfl
  rw [h, ByteArray.toList, toList_loop, List.toList_data_toByteArray]
  rfl

/-- The bytes that encode a text are read as this text. -/
theorem decode_toUTF8 (text : String) : Decoding.decode text.toUTF8.toList = .ok text := by
  rw [Decoding.decode, toList_toUTF8, Decoding.decodeFrom_encoded]
  exact congrArg Except.ok (String.ofList_toList (s := text))

/-- A byte below 128 stands for nothing but the character of its number. -/
theorem eq_of_mem_encodeChar {b : UInt8} {c : Char} (hb : b.toNat < 0x80)
    (h : b ∈ String.utf8EncodeChar c) : c = Char.ofNat b.toNat := by
  have hbyte : ∀ {k : Nat}, b = UInt8.ofNat k → b.toNat = k % 256 := fun h => by
    simpa using congrArg UInt8.toNat h
  have hvalid : c.toNat < 0xD800 ∨ 0xDFFF < c.toNat ∧ c.toNat < 0x110000 := c.valid
  have hvalue : c.val.toNat = c.toNat := rfl
  -- all bytes of a character that has more than one are at least 128
  have hnumber : c.toNat = b.toNat := by
    simp only [String.utf8EncodeChar, hvalue] at h
    split at h
    · have := hbyte (List.mem_singleton.1 h)
      omega
    · exfalso
      split at h
      · simp only [List.mem_cons, List.not_mem_nil, or_false] at h
        rcases h with h | h <;> have := hbyte h <;> omega
      · split at h
        · simp only [List.mem_cons, List.not_mem_nil, or_false] at h
          rcases h with h | h | h <;> have := hbyte h <;> omega
        · simp only [List.mem_cons, List.not_mem_nil, or_false] at h
          rcases h with h | h | h | h <;> have := hbyte h <;> omega
  rw [← Char.ofNat_toNat c, hnumber]

end ProposalCheck.Text
