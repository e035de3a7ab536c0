import MutsukiServiceHost.ServiceDecodeProofs

/-! # Valid UTF-8

    `String::from_utf8` is modelled byte by byte, with the errors it reports
    (`trailingBytes`, `utf8Error`).  Here that check is held against what a
    text is: the encodings of a sequence of characters, one after the other.

    * `trailingBytes_ok` — bytes that pass for a character are the encoding of
      one.
    * `utf8Error_eq_none_iff` — the check finds no error exactly in the
      encodings of character sequences. -/

namespace ServiceFrame

/-- The encoding of a sequence of characters. -/
def IsUtf8 (bytes : List UInt8) : Prop :=
  ∃ text : List Char, bytes = text.flatMap String.utf8EncodeChar

/-! ## Bytes of a character -/

theorem exists_char {v : Nat} (h : v.isValidChar) : ∃ c : Char, c.val.toNat = v :=
  ⟨Char.ofNatAux v h, rfl⟩

theorem ofNat_eq {n : Nat} {b : UInt8} (h : n = b.toNat) : UInt8.ofNat n = b := by
  rw [h]
  exact UInt8.ofNat_toNat

theorem isContinuation_iff {b : UInt8} :
    isContinuation b = true ↔ 0x80 ≤ b.toNat ∧ b.toNat ≤ 0xBF := by
  simp [isContinuation, UInt8.le_iff_toNat_le]

/-- The second bytes after `0xE0` and `0xF0` exclude encodings that are too
    long, those after `0xED` the surrogates, those after `0xF4` what lies beyond
    the last character. -/
theorem secondByteOk_iff {first second : UInt8} :
    secondByteOk first second = true ↔
      0x80 ≤ second.toNat ∧ second.toNat ≤ 0xBF ∧ (first.toNat = 0xE0 → 0xA0 ≤ second.toNat) ∧
        (first.toNat = 0xED → second.toNat ≤ 0x9F) ∧ (first.toNat = 0xF0 → 0x90 ≤ second.toNat) ∧
        (first.toNat = 0xF4 → second.toNat ≤ 0x8F) := by
  have hnat : ∀ b : UInt8, first = b ↔ first.toNat = b.toNat := fun b => UInt8.toNat_inj.symm
  simp only [secondByteOk, isContinuation, hnat, UInt8.le_iff_toNat_le, UInt8.reduceToNat]
  split
  · simp
    omega
  · split
    · simp
      omega
    · split
      · simp
        omega
      · split
        · simp
          omega
        · simp
          omega

section Encode

variable {a b c d : UInt8}

theorem exists_encode_one (ha : a.toNat < 0x80) : ∃ ch : Char, [a] = String.utf8EncodeChar ch := by
  obtain ⟨ch, hch⟩ := exists_char (v := a.toNat) (by unfold Nat.isValidChar; omega)
  refine ⟨ch, ?_⟩
  simp only [String.utf8EncodeChar, hch]
  rw [if_pos (by omega), ofNat_eq rfl]

theorem exists_encode_two (ha : 0xC2 ≤ a.toNat ∧ a.toNat ≤ 0xDF) (hb : isContinuation b = true) :
    ∃ ch : Char, [a, b] = String.utf8EncodeChar ch := by
  rw [isContinuation_iff] at hb
  obtain ⟨ch, hch⟩ := exists_char (v := (a.toNat - 0xC0) * 64 + (b.toNat - 0x80))
    (by unfold Nat.isValidChar; omega)
  refine ⟨ch, ?_⟩
  simp only [String.utf8EncodeChar, hch]
  rw [if_neg (by omega), if_pos (by omega), ofNat_eq (b := a) (by omega),
    ofNat_eq (b := b) (by omega)]

theorem exists_encode_three (ha : 0xE0 ≤ a.toNat ∧ a.toNat ≤ 0xEF) (hb : secondByteOk a b = true)
    (hc : isContinuation c = true) : ∃ ch : Char, [a, b, c] = String.utf8EncodeChar ch := by
  rw [secondByteOk_iff] at hb
  rw [isContinuation_iff] at hc
  obtain ⟨ch, hch⟩ := exists_char
    (v := (a.toNat - 0xE0) * 4096 + (b.toNat - 0x80) * 64 + (c.toNat - 0x80))
    (by unfold Nat.isValidChar; omega)
  refine ⟨ch, ?_⟩
  simp only [String.utf8EncodeChar, hch]
  rw [if_neg (by omega), if_neg (by omega), if_pos (by omega), ofNat_eq (b := a) (by omega),
    ofNat_eq (b := b) (by omega), ofNat_eq (b := c) (by omega)]

theorem exists_encode_four (ha : 0xF0 ≤ a.toNat ∧ a.toNat ≤ 0xF4) (hb : secondByteOk a b = true)
    (hc : isContinuation c = true) (hd : isContinuation d = true) :
    ∃ ch : Char, [a, b, c, d] = String.utf8EncodeChar ch := by
  rw [secondByteOk_iff] at hb
  rw [isContinuation_iff] at hc hd
  obtain ⟨ch, hch⟩ := exists_char
    (v := (a.toNat - 0xF0) * 262144 + (b.toNat - 0x80) * 4096 + (c.toNat - 0x80) * 64
      + (d.toNat - 0x80))
    (by unfold Nat.isValidChar; omega)
  refine ⟨ch, ?_⟩
  simp only [String.utf8EncodeChar, hch]
  rw [if_neg (by omega), if_neg (by omega), if_neg (by omega), ofNat_eq (b := a) (by omega),
    ofNat_eq (b := b) (by omega), ofNat_eq (b := c) (by omega), ofNat_eq (b := d) (by omega)]

end Encode

/-- Bytes that pass for a character are the encoding of one. -/
theorem trailingBytes_ok {b : UInt8} {l : List UInt8} {n : Nat} (h : trailingBytes b l = .ok n) :
    n ≤ l.length ∧ ∃ c : Char, b :: l.take n = String.utf8EncodeChar c := by
  simp only [trailingBytes, UInt8.lt_iff_toNat_lt, UInt8.le_iff_toNat_le, UInt8.reduceToNat] at h
  split at h
  · rename_i hone
    cases h
    exact ⟨Nat.zero_le _, exists_encode_one hone⟩
  · split at h
    · rename_i htwo
      split at h
      · exact nomatch h
      · split at h
        · rename_i hx
          cases h
          exact ⟨by simp, exists_encode_two htwo hx⟩
        · exact nomatch h
    · split at h
      · rename_i hthree
        split at h
        · exact nomatch h
        · split at h <;> exact nomatch h
        · split at h
          · exact nomatch h
          · rename_i hx
            split at h
            · rename_i hy
              cases h
              exact ⟨by simp, exists_encode_three hthree (by simpa using hx) hy⟩
            · exact nomatch h
      · split at h
        · rename_i hfour
          split at h
          · exact nomatch h
          · split at h <;> exact nomatch h
          · split at h
            · exact nomatch h
            · split at h <;> exact nomatch h
          · split at h
            · exact nomatch h
            · rename_i hx
              split at h
              · exact nomatch h
              · rename_i hy
                split at h
                · rename_i hz
                  cases h
                  exact ⟨by simp,
                    exists_encode_four hfour (by simpa using hx) (by simpa using hy) hz⟩
                · exact nomatch h
        · exact nomatch h

section Accept

variable {a b c d : UInt8}

theorem trailingBytes_one (ha : a.toNat < 0x80) (l : List UInt8) : trailingBytes a l = .ok 0 := by
  simp only [trailingBytes.eq_def, UInt8.lt_iff_toNat_lt, UInt8.reduceToNat]
  rw [if_pos ha]

theorem trailingBytes_two (ha : 0xC2 ≤ a.toNat ∧ a.toNat ≤ 0xDF) (hb : isContinuation b = true)
    (l : List UInt8) : trailingBytes a (b :: l) = .ok 1 := by
  simp only [trailingBytes, UInt8.lt_iff_toNat_lt, UInt8.le_iff_toNat_le, UInt8.reduceToNat]
  rw [if_neg (by omega), if_pos ha, if_pos hb]

theorem trailingBytes_three (ha : 0xE0 ≤ a.toNat ∧ a.toNat ≤ 0xEF) (hb : secondByteOk a b = true)
    (hc : isContinuation c = true) (l : List UInt8) : trailingBytes a (b :: c :: l) = .ok 2 := by
  simp only [trailingBytes, UInt8.lt_iff_toNat_lt, UInt8.le_iff_toNat_le, UInt8.reduceToNat]
  rw [if_neg (by omega), if_neg (by omega), if_pos ha, hb, if_neg nofun, if_pos hc]

theorem trailingBytes_four (ha : 0xF0 ≤ a.toNat ∧ a.toNat ≤ 0xF4) (hb : secondByteOk a b = true)
    (hc : isContinuation c = true) (hd : isContinuation d = true) (l : List UInt8) :
    trailingBytes a (b :: c :: d :: l) = .ok 3 := by
  simp only [trailingBytes, UInt8.lt_iff_toNat_lt, UInt8.le_iff_toNat_le, UInt8.reduceToNat]
  rw [if_neg (by omega), if_neg (by omega), if_neg (by omega), if_pos ha, hb, if_neg nofun, hc,
    if_neg nofun, if_pos hd]

end Accept

/-- The encoding of a character passes for one, whatever follows it. -/
theorem trailingBytes_encoded (ch : Char) (l : List UInt8) :
    ∃ b t, String.utf8EncodeChar ch = b :: t ∧ trailingBytes b (t ++ l) = .ok t.length := by
  obtain ⟨v, hv⟩ : ∃ v, ch.val.toNat = v := ⟨_, rfl⟩
  have hvalid : v.isValidChar := hv ▸ ch.valid
  unfold Nat.isValidChar at hvalid
  have hbyte : ∀ n < 256, (UInt8.ofNat n).toNat = n := fun n hn => by
    rw [UInt8.toNat_ofNat', Nat.mod_eq_of_lt hn]
  simp only [String.utf8EncodeChar, hv]
  split
  · exact ⟨_, _, rfl, trailingBytes_one (by rw [hbyte _ (by omega)]; omega) _⟩
  · split
    · refine ⟨_, _, rfl, trailingBytes_two ?_ ?_ _⟩
      · rw [hbyte _ (by omega)]
        omega
      · rw [isContinuation_iff, hbyte _ (by omega)]
        omega
    · split
      · refine ⟨_, _, rfl, trailingBytes_three ?_ ?_ ?_ _⟩
        · rw [hbyte _ (by omega)]
          omega
        · rw [secondByteOk_iff, hbyte _ (by omega), hbyte _ (by omega)]
          omega
        · rw [isContinuation_iff, hbyte _ (by omega)]
          omega
      · refine ⟨_, _, rfl, trailingBytes_four ?_ ?_ ?_ ?_ _⟩
        · rw [hbyte _ (by omega)]
          omega
        · rw [secondByteOk_iff, hbyte _ (by omega), hbyte _ (by omega)]
          omega
        · rw [isContinuation_iff, hbyte _ (by omega)]
          omega
        · rw [isContinuation_iff, hbyte _ (by omega)]
          omega

/-! ## The check as a whole -/

/-- The bytes of an accepted character are passed over. -/
theorem utf8Error_skip (i : Nat) (t l : List UInt8) :
    utf8Error i t.length (t ++ l) = utf8Error (i + t.length) 0 l := by
  induction t generalizing i with
  | nil => rfl
  | cons b t ih =>
      rw [List.length_cons, List.cons_append, utf8Error, ih]
      congr 1
      omega

/-- A character at the front. -/
theorem utf8Error_char (i : Nat) (ch : Char) (l : List UInt8) :
    utf8Error i 0 (String.utf8EncodeChar ch ++ l)
      = utf8Error (i + (String.utf8EncodeChar ch).length) 0 l := by
  obtain ⟨b, t, henc, htrail⟩ := trailingBytes_encoded ch l
  rw [henc, List.cons_append, utf8Error, htrail]
  dsimp only
  rw [utf8Error_skip, List.length_cons]
  congr 1
  omega

theorem utf8Error_encoded (i : Nat) (text : List Char) :
    utf8Error i 0 (text.flatMap String.utf8EncodeChar) = none := by
  induction text generalizing i with
  | nil => rfl
  | cons ch text ih => rw [List.flatMap_cons, utf8Error_char, ih]

/-- Without an error the bytes come apart into characters; by induction on how
    many there are. -/
theorem isUtf8_of_no_error {bytes : List UInt8} {i : Nat} (h : utf8Error i 0 bytes = none) :
    IsUtf8 bytes := by
  obtain ⟨n, hn⟩ : ∃ n, bytes.length ≤ n := ⟨_, Nat.le_refl _⟩
  induction n generalizing bytes i with
  | zero => exact ⟨[], List.length_eq_zero_iff.mp (Nat.le_zero.mp hn)⟩
  | succ n ih =>
      cases bytes with
      | nil => exact ⟨[], rfl⟩
      | cons b l =>
          rw [utf8Error] at h
          cases htrail : trailingBytes b l with
          | error errorLen =>
              rw [htrail] at h
              exact nomatch h
          | ok k =>
              rw [htrail] at h
              obtain ⟨hk, ch, hch⟩ := trailingBytes_ok htrail
              have hsplit : l = l.take k ++ l.drop k := (List.take_append_drop k l).symm
              have hlen : (l.take k).length = k := List.length_take_of_le hk
              have hrest : utf8Error (i + 1 + k) 0 (l.drop k) = none := by
                have hskip := utf8Error_skip (i + 1) (l.take k) (l.drop k)
                rw [← hsplit, hlen] at hskip
                exact hskip ▸ h
              obtain ⟨text, htext⟩ := ih hrest (by
                rw [List.length_cons] at hn
                rw [List.length_drop]
                omega)
              refine ⟨ch :: text, ?_⟩
              rw [List.flatMap_cons, ← hch, ← htext, List.cons_append, ← hsplit]

/-- **WHAT PASSES AS UTF-8** are the encodings of character sequences. -/
theorem utf8Error_eq_none_iff {bytes : List UInt8} : utf8Error 0 0 bytes = none ↔ IsUtf8 bytes := by
  constructor
  · exact isUtf8_of_no_error
  · rintro ⟨text, rfl⟩
    exact utf8Error_encoded 0 text

end ServiceFrame
