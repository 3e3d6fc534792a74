import ProposalCheck.Diagnostic.Rendering
import ProposalCheck.Proofs.Encodings
import ProposalCheck.Proofs.Excerpts
import ProposalCheck.Text.Slice

/-!
# Rendering splits no character

`Message.render_slices`: when the characters in front of an offset are read by decoding a slice of
bytes, every slice ends between two characters, whatever the offset, and so every message is
rendered, with the text that `Message.render` gives.

The bytes alone tell where a character ends: the first byte of a character cannot stand inside one,
all others do (`Text.exists_encodeChar`). So an offset that is moved behind the bytes inside a
character is rounded up to a boundary (`Text.ceilByte_encode`), and a slice up to a boundary is the
encoding of the characters before it (`Text.decodeSlice?_eq`).
-/

namespace ProposalCheck

namespace Text

open Decoding

/-! ### The bytes of a character -/

theorem isInner_low (k : Nat) : isInner (UInt8.ofNat (k % 64 + 128)) = true := by
  rw [isInner_iff, UInt8.toNat_ofNat']
  omega

theorem isInner_lead {k : Nat} (h : k < 0x80 ∨ 0xC0 ≤ k ∧ k < 0x100) :
    isInner (UInt8.ofNat k) = false := by
  rw [Bool.eq_false_iff, ne_eq, isInner_iff, UInt8.toNat_ofNat']
  omega

/-- The first byte of a character does not stand inside one; all its others do. -/
theorem exists_encodeChar (c : Char) :
    ∃ first inner, String.utf8EncodeChar c = first :: inner ∧ isInner first = false ∧
      ∀ b ∈ inner, isInner b = true := by
  have hvalid : c.val.toNat < 0xD800 ∨ 0xDFFF < c.val.toNat ∧ c.val.toNat < 0x110000 := c.valid
  unfold String.utf8EncodeChar
  dsimp only
  split
  · exact ⟨_, _, rfl, isInner_lead (by omega), List.forall_mem_nil _⟩
  split
  · refine ⟨_, _, rfl, isInner_lead (by omega), ?_⟩
    simp only [List.forall_mem_cons, isInner_low, List.not_mem_nil, false_imp_iff, implies_true,
      and_self]
  split
  · refine ⟨_, _, rfl, isInner_lead (by omega), ?_⟩
    simp only [List.forall_mem_cons, isInner_low, List.not_mem_nil, false_imp_iff, implies_true,
      and_self]
  · refine ⟨_, _, rfl, isInner_lead (by omega), ?_⟩
    simp only [List.forall_mem_cons, isInner_low, List.not_mem_nil, false_imp_iff, implies_true,
      and_self]

/-! ### The bytes of a text -/

@[simp] theorem encode_cons (c : Char) (r : List Char) :
    encode (c :: r) = String.utf8EncodeChar c ++ encode r := rfl

@[simp] theorem encode_append (a b : List Char) : encode (a ++ b) = encode a ++ encode b :=
  List.flatMap_append

@[simp] theorem length_encode (cs : List Char) : (encode cs).length = byteLength cs := by
  induction cs with
  | nil => rfl
  | cons c r ih => simp [ih]

/-- No text starts inside a character. -/
theorem takeWhile_encode (cs : List Char) : (encode cs).takeWhile isInner = [] := by
  cases cs with
  | nil => rfl
  | cons c r =>
    obtain ⟨first, inner, hencoded, hfirst, -⟩ := exists_encodeChar c
    simp [hencoded, hfirst]

/-! ### Boundaries by bytes -/

theorem ceilByte_of_nonpos {bytes : List UInt8} {offset : Int} (h : offset ≤ 0) :
    ceilByte bytes offset = 0 := by
  unfold ceilByte
  split
  · omega
  · rfl

/-- An offset inside a character is moved to its end. -/
theorem ceilByte_of_lt {first : UInt8} {inner rest : List UInt8} {offset : Int}
    (hinner : ∀ b ∈ inner, isInner b = true) (hrest : rest.takeWhile isInner = [])
    (hpos : 0 < offset) (hlt : offset < inner.length + 1) :
    ceilByte (first :: inner ++ rest) offset = inner.length + 1 := by
  obtain ⟨n, rfl⟩ : ∃ n : Nat, offset = n + 1 := ⟨(offset - 1).toNat, by omega⟩
  have hn : n < inner.length := by omega
  have hdrop : (first :: inner ++ rest).drop (n + 1) = inner.drop n ++ rest := by
    rw [List.cons_append, List.drop_succ_cons, List.drop_append_of_le_length hn.le]
  have hskipped : ((inner.drop n ++ rest).takeWhile isInner) = inner.drop n := by
    rw [List.takeWhile_append_of_pos fun b hb => hinner b (List.mem_of_mem_drop hb), hrest,
      List.append_nil]
  have hnat : (n + 1 : Int).toNat = n + 1 := rfl
  unfold ceilByte
  rw [if_neg (by simp; omega), if_neg (by omega), hnat, hdrop, hskipped, List.length_drop]
  omega

/-- An offset behind a character is moved in the rest of the bytes. -/
theorem ceilByte_of_le {lead rest : List UInt8} {offset : Int} (hrest : rest.takeWhile isInner = [])
    (hlead : 0 < lead.length) (hle : lead.length ≤ offset) :
    ceilByte (lead ++ rest) offset = lead.length + ceilByte rest (offset - lead.length) := by
  obtain ⟨n, rfl⟩ : ∃ n : Nat, offset = lead.length + n :=
    ⟨(offset - lead.length).toNat, by omega⟩
  have hnat : (lead.length + n : Int).toNat = lead.length + n := rfl
  have hdrop : (lead ++ rest).drop (lead.length + n) = rest.drop n := by
    rw [List.drop_append, List.drop_eq_nil_of_le (Nat.le_add_right _ _), List.nil_append,
      Nat.add_sub_cancel_left]
  have hback : (lead.length + n - lead.length : Int) = n := by omega
  unfold ceilByte
  rw [hback, hnat, hdrop, List.length_append]
  by_cases hend : rest.length ≤ n
  · rw [if_pos (by omega), if_pos (by omega)]
  · rw [if_neg (by omega), if_neg (by omega), if_neg (by omega)]
    by_cases hn : n = 0
    · simp [hn, hrest]
    · rw [if_neg (by omega), Int.toNat_natCast, Nat.add_assoc]

/-- Moving an offset behind the bytes inside a character rounds it up to a boundary. -/
theorem ceilByte_encode (cs : List Char) (offset : Int) :
    ceilByte (encode cs) offset = ceilBoundary cs offset := by
  induction cs generalizing offset with
  | nil =>
    unfold ceilByte
    split
    · rfl
    · exact if_pos (by simp at *; omega)
  | cons c r ih =>
    obtain ⟨first, inner, hencoded, -, hinner⟩ := exists_encodeChar c
    have hsize : c.utf8Size = inner.length + 1 := by
      rw [← String.length_utf8EncodeChar, hencoded, List.length_cons]
    have hrest := takeWhile_encode r
    rw [encode_cons, hencoded, ceilBoundary]
    split
    · exact ceilByte_of_nonpos ‹_›
    by_cases hlt : offset < inner.length + 1
    · rw [ceilByte_of_lt hinner hrest (by omega) hlt, ← ih, ceilByte_of_nonpos (by omega), hsize]
    · rw [ceilByte_of_le hrest (by simp) (by simp; omega), ih]
      simp [hsize]

theorem isBoundary_ceilByte (cs : List Char) (offset : Int) :
    IsBoundary cs (ceilByte (encode cs) offset) := by
  obtain ⟨before, after, hcs, hboundary⟩ := exists_ceilBoundary cs offset
  exact ⟨before, after, hcs, by rw [ceilByte_encode, hboundary]⟩

theorem decode_encode (cs : List Char) : Decoding.decode (encode cs) = .ok (String.ofList cs) := by
  rw [Decoding.decode, encode, Decoding.decodeFrom_encoded]
  rfl

/-- A slice that ends at a boundary is read as the characters before it. -/
theorem decodeSlice?_eq (cs : List Char) (offset : Int) :
    decodeSlice? cs offset = charsBefore? cs offset := by
  obtain ⟨before, after, hcs, hboundary⟩ := exists_ceilBoundary cs offset
  have hslice : (encode cs).take (ceilByte (encode cs) offset) = encode before := by
    rw [ceilByte_encode, hboundary, hcs, encode_append, List.take_left' (length_encode before)]
  have hchars : charsBefore? cs offset = some before := by
    rw [charsBefore?, hboundary, hcs, decodePrefix?_byteLength_append]
  rw [hchars, decodeSlice?, hslice, encode, decodeFrom_encoded]
  rfl

end Text

/-- Every slice that is decoded to render a message ends between two characters, and every message is
rendered. -/
theorem Message.render_slices (m : Message) :
    (∀ (cs : List Char) (offset : Int),
      Text.IsBoundary cs (Text.ceilByte (Text.encode cs) offset)) ∧
      m.renderChecked? Text.decodeSlice? = some m.render := by
  have hreaders : Text.decodeSlice? = Text.charsBefore? := by
    funext cs offset
    exact Text.decodeSlice?_eq cs offset
  refine ⟨Text.isBoundary_ceilByte, ?_⟩
  rw [hreaders, render, Option.some_get]

/-- A slice that is not moved to a boundary can split a character, and then there is no text. -/
example :
    ({ level := .error, title := "accents"
       snippets := [{ source := "é", annotations := [Level.error.span 1 2] }] } : Message).renderChecked?
      (fun cs offset => Text.decodePrefix? cs offset.toNat) = none := by
  decide +kernel

end ProposalCheck
