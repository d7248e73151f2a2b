import ReviewContext.Proofs.Text.RowBeginning
import ReviewContext.Text.Utf8

/-!
# Plain stretches of encoded texts

A plain character is encoded by one byte with its own number, and all bytes of other characters have
greater numbers. Lenient reading gives a plain character for such a byte alone. Wherever bytes of a
text are cut out and read, a stretch of plain characters is therefore one of the text itself.
-/

namespace ReviewContext.Text.Utf8

/-- Characters of a single byte, without the null character, which stands for numbers that belong to
no character. -/
def IsPlain (c : Char) : Prop :=
  0 < c.toNat ∧ c.toNat < 0x80

instance : DecidablePred IsPlain :=
  fun c => inferInstanceAs (Decidable (0 < c.toNat ∧ c.toNat < 0x80))

def plainByte (c : Char) : UInt8 :=
  UInt8.ofNat c.toNat

theorem toNat_plainByte {c : Char} (hplain : IsPlain c) : (plainByte c).toNat = c.toNat := by
  obtain ⟨-, hlow⟩ := hplain
  rw [plainByte, UInt8.toNat_ofNat']
  omega

theorem toNat_ofNat_of_isValidChar {n : Nat} (hvalid : n.isValidChar) :
    (Char.ofNat n).toNat = n := by
  rw [Char.ofNat, dif_pos hvalid]
  rfl

theorem not_isPlain_ofNat {n : Nat} (hhigh : 0x80 ≤ n) : ¬ IsPlain (Char.ofNat n) := by
  rintro ⟨hpos, hlow⟩
  by_cases hvalid : n.isValidChar
  · rw [toNat_ofNat_of_isValidChar hvalid] at hlow
    omega
  · rw [Char.ofNat, dif_neg hvalid] at hpos
    exact absurd hpos (by decide)

/-! ## Lenient reading -/

/-- The number that a character gets grows with each byte behind its first one. -/
theorem exists_number_of_readTail {range : Nat × Nat} {value more read owed : Nat}
    {bytes : List UInt8} {c : Char}
    (htail : readTail range value more owed bytes = .character c read) :
    ∃ n, c = Char.ofNat n ∧ value ≤ n ∧ (0 < owed → value * 64 ≤ n) := by
  induction owed generalizing range value more bytes with
  | zero =>
    rw [readTail, Head.character.injEq] at htail
    exact ⟨value, htail.1.symm, Nat.le_refl value, by simp⟩
  | succ owed ih =>
    cases bytes with
    | nil => cases htail
    | cons byte rest =>
      rw [readTail] at htail
      split at htail
      · obtain ⟨n, hc, hn, -⟩ := ih htail
        exact ⟨n, hc, by omega, fun _ => by omega⟩
      · cases htail

/-- A character of several bytes is not plain: where its first byte says too little, the second one
lies in a higher range. -/
theorem not_isPlain_of_readTail {range : Nat × Nat} {value more read owed : Nat}
    {bytes : List UInt8} {c : Char}
    (htail : readTail range value more (owed + 1) bytes = .character c read)
    (hhigh : 2 ≤ value ∨ 0 < owed ∧ 2 ≤ value * 64 + (range.1 - 0x80)) :
    ¬ IsPlain c := by
  cases bytes with
  | nil => cases htail
  | cons byte rest =>
    rw [readTail] at htail
    split at htail
    · rename_i hrange
      obtain ⟨n, rfl, hn, hgrows⟩ := exists_number_of_readTail htail
      apply not_isPlain_ofNat
      rcases hhigh with hvalue | ⟨howed, hfirst⟩
      · omega
      · have hgrown := hgrows howed
        omega
    · cases htail

theorem byte_eq_of_readHead {byte : UInt8} {rest : List UInt8} {c : Char} {more : Nat}
    (hhead : readHead byte rest = .character c more)
    (hplain : IsPlain c) :
    byte = plainByte c ∧ more = 0 := by
  unfold readHead at hhead
  dsimp only at hhead
  split at hhead
  · rename_i hlow
    rw [Head.character.injEq] at hhead
    obtain ⟨rfl, rfl⟩ := hhead
    have hvalid : byte.toNat.isValidChar := .inl (by omega)
    rw [plainByte, toNat_ofNat_of_isValidChar hvalid, UInt8.ofNat_toNat]
    exact ⟨rfl, rfl⟩
  split at hhead
  · cases hhead
  split at hhead
  · refine absurd hplain (not_isPlain_of_readTail hhead (.inl ?_))
    omega
  split at hhead
  · refine absurd hplain (not_isPlain_of_readTail hhead (.inr ⟨by decide, ?_⟩))
    unfold secondRange
    split <;> omega
  split at hhead
  · refine absurd hplain (not_isPlain_of_readTail hhead (.inr ⟨by decide, ?_⟩))
    unfold secondRange
    rw [if_neg (by omega), if_neg (by omega)]
    split <;> omega
  · cases hhead

theorem prefix_of_prefix_decodeLeniently {mark : List Char} {bytes : List UInt8}
    (hplain : ∀ c ∈ mark, IsPlain c)
    (hmark : mark <+: decodeLeniently bytes) :
    mark.map plainByte <+: bytes := by
  induction mark generalizing bytes with
  | nil => exact List.nil_prefix
  | cons c mark ih =>
    obtain ⟨hc, hrest⟩ := List.forall_mem_cons.mp hplain
    cases bytes with
    | nil =>
      rw [decodeLeniently, List.prefix_nil] at hmark
      cases hmark
    | cons byte rest =>
      rw [decodeLeniently] at hmark
      split at hmark
      · rename_i head more hhead
        obtain ⟨rfl, hbehind⟩ := List.cons_prefix_cons.mp hmark
        obtain ⟨rfl, rfl⟩ := byte_eq_of_readHead hhead hc
        rw [List.map_cons, List.cons_prefix_cons]
        exact ⟨rfl, ih hrest hbehind⟩
      · obtain ⟨rfl, -⟩ := List.cons_prefix_cons.mp hmark
        exact absurd hc (not_isPlain_ofNat (by decide))

theorem infix_of_infix_decodeLeniently {mark : List Char} {bytes : List UInt8}
    (hplain : ∀ c ∈ mark, IsPlain c)
    (hmark : mark <:+: decodeLeniently bytes) :
    mark.map plainByte <:+: bytes := by
  have hstep {byte : UInt8} {rest : List UInt8} {c : Char} {more : Nat}
      (hread : decodeLeniently (byte :: rest) = c :: decodeLeniently (rest.drop more))
      (hmark : mark <:+: decodeLeniently (byte :: rest))
      (ih : mark <:+: decodeLeniently (rest.drop more) →
        mark.map plainByte <:+: rest.drop more) :
      mark.map plainByte <:+: byte :: rest := by
    rw [hread, List.infix_cons_iff, ← hread] at hmark
    rcases hmark with hfront | hlater
    · exact (prefix_of_prefix_decodeLeniently hplain hfront).isInfix
    · exact ((ih hlater).trans (List.drop_suffix more rest).isInfix).trans
        (List.suffix_cons byte rest).isInfix
  induction bytes using decodeLeniently.induct with
  | case1 =>
    rw [decodeLeniently, List.infix_nil] at hmark
    simp [hmark]
  | case2 byte rest c more hhead ih =>
    exact hstep (by rw [decodeLeniently, hhead]) hmark ih
  | case3 byte rest flaw more hhead ih =>
    exact hstep (by rw [decodeLeniently, hhead]) hmark ih

/-! ## Encoded texts -/

theorem toList_loop_eq (bytes : ByteArray) (index : Nat) (front : List UInt8) :
    ByteArray.toList.loop bytes index front =
      front.reverse ++ bytes.data.toList.drop index := by
  fun_induction ByteArray.toList.loop bytes index front with
  | case1 index front hindex ih =>
    have hlength : index < bytes.data.toList.length := by simpa using hindex
    rw [ih, List.drop_eq_getElem_cons hlength]
    simp [ByteArray.get!, hindex]
  | case2 index front hindex =>
    rw [List.drop_eq_nil_of_le (by simpa using Nat.le_of_not_lt hindex)]
    simp

theorem encode_eq (text : String) : encode text = text.toList.flatMap String.utf8EncodeChar := by
  rw [encode, String.toUTF8, ← String.utf8Encode_toList, ByteArray.toList, toList_loop_eq,
    List.utf8Encode, List.toList_data_toByteArray]
  simp

theorem utf8EncodeChar_of_lt {c : Char} (hlow : c.toNat < 0x80) :
    String.utf8EncodeChar c = [plainByte c] := by
  unfold String.utf8EncodeChar
  exact if_pos (Nat.le_of_lt_succ hlow)

theorem le_of_mem_utf8EncodeChar {c : Char} {byte : UInt8}
    (hhigh : 0x80 ≤ c.toNat)
    (hbyte : byte ∈ String.utf8EncodeChar c) :
    0x80 ≤ byte.toNat := by
  have hc : c.toNat = c.val.toNat := rfl
  unfold String.utf8EncodeChar at hbyte
  dsimp only at hbyte
  split at hbyte
  · omega
  split at hbyte
  · simp only [List.mem_cons, List.not_mem_nil, or_false] at hbyte
    rcases hbyte with rfl | rfl <;> rw [UInt8.toNat_ofNat'] <;> omega
  split at hbyte
  · simp only [List.mem_cons, List.not_mem_nil, or_false] at hbyte
    rcases hbyte with rfl | rfl | rfl <;> rw [UInt8.toNat_ofNat'] <;> omega
  · simp only [List.mem_cons, List.not_mem_nil, or_false] at hbyte
    rcases hbyte with rfl | rfl | rfl | rfl <;> rw [UInt8.toNat_ofNat'] <;> omega

theorem plainByte_notMem_utf8EncodeChar {c other : Char}
    (hplain : IsPlain c)
    (hhigh : 0x80 ≤ other.toNat) :
    plainByte c ∉ String.utf8EncodeChar other := by
  intro hbyte
  have hle := le_of_mem_utf8EncodeChar hhigh hbyte
  rw [toNat_plainByte hplain] at hle
  have hlow := hplain.2
  omega

theorem plainByte_inj {c other : Char}
    (hplain : IsPlain c)
    (hlow : other.toNat < 0x80)
    (hbytes : plainByte c = plainByte other) :
    c = other := by
  have hnumbers := congrArg UInt8.toNat hbytes
  rw [toNat_plainByte hplain, plainByte, UInt8.toNat_ofNat'] at hnumbers
  apply Char.toNat_inj.mp
  omega

theorem prefix_of_prefix_flatMap {mark chars : List Char}
    (hplain : ∀ c ∈ mark, IsPlain c)
    (hmark : mark.map plainByte <+: chars.flatMap String.utf8EncodeChar) :
    mark <+: chars := by
  induction mark generalizing chars with
  | nil => exact List.nil_prefix
  | cons c mark ih =>
    obtain ⟨hc, hrest⟩ := List.forall_mem_cons.mp hplain
    cases chars with
    | nil => simp at hmark
    | cons other chars =>
      rw [List.map_cons, List.flatMap_cons] at hmark
      by_cases hlow : other.toNat < 0x80
      · rw [utf8EncodeChar_of_lt hlow, List.singleton_append, List.cons_prefix_cons] at hmark
        obtain rfl := plainByte_inj hc hlow hmark.1
        exact List.cons_prefix_cons.mpr ⟨rfl, ih hrest hmark.2⟩
      · have hne : String.utf8EncodeChar other ≠ [] := by
          simp [String.utf8EncodeChar_ne_nil]
        obtain ⟨byte, more, hbytes⟩ := List.exists_cons_of_ne_nil hne
        rw [hbytes, List.cons_append, List.cons_prefix_cons] at hmark
        refine absurd ?_ (plainByte_notMem_utf8EncodeChar hc (Nat.le_of_not_lt hlow))
        simp [hbytes, hmark.1]

theorem infix_of_infix_flatMap {mark chars : List Char}
    (hplain : ∀ c ∈ mark, IsPlain c)
    (hmark : mark.map plainByte <:+: chars.flatMap String.utf8EncodeChar) :
    mark <:+: chars := by
  induction chars with
  | nil => simpa using hmark
  | cons other chars ih =>
    cases mark with
    | nil => exact List.nil_infix
    | cons c mark =>
      by_cases hlow : other.toNat < 0x80
      · have hbytes :
            (other :: chars).flatMap String.utf8EncodeChar =
              plainByte other :: chars.flatMap String.utf8EncodeChar := by
          rw [List.flatMap_cons, utf8EncodeChar_of_lt hlow, List.singleton_append]
        rw [hbytes, List.infix_cons_iff, ← hbytes] at hmark
        rcases hmark with hfront | hlater
        · exact (prefix_of_prefix_flatMap hplain hfront).isInfix
        · exact (ih hlater).trans (List.suffix_cons other chars).isInfix
      · obtain ⟨hc, -⟩ := List.forall_mem_cons.mp hplain
        rw [List.map_cons, List.flatMap_cons] at hmark
        have hlater := infix_of_infix_append
          (plainByte_notMem_utf8EncodeChar hc (Nat.le_of_not_lt hlow)) hmark
        exact (ih hlater).trans (List.suffix_cons other chars).isInfix

/-- A plain stretch of what is read from some bytes of a text is a stretch of the text. -/
theorem infix_of_infix_read {mark : List Char} {text : String} {bytes : List UInt8}
    (hplain : ∀ c ∈ mark, IsPlain c)
    (hbytes : bytes <:+: encode text)
    (hmark : mark <:+: decodeLeniently bytes) :
    mark <:+: text.toList := by
  rw [encode_eq] at hbytes
  exact infix_of_infix_flatMap hplain ((infix_of_infix_decodeLeniently hplain hmark).trans hbytes)

end ReviewContext.Text.Utf8
