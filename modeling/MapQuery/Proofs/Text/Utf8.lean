import MapQuery.Proofs.Fallible
import MapQuery.Text.Utf8

/-!
# Which bytes are text

Reading takes a character where its encoding stands, and nothing else: each form of a first byte
admits just the bytes of the characters it begins. Bytes are therefore read just if they are the
encoding of a text, and as that text.

* `continued_succ_eq_ok_iff` -- one continuation byte;
* `first_eq_ok_iff` -- one character;
* `decode_eq_ok_iff`, `decode_eq_error_iff` -- all of them;
* `decode_toUTF8` -- the bytes of a text.
-/

namespace MapQuery.Text.Utf8

open String (utf8EncodeChar)

/-! ## 1. One character -/

theorem continued_zero_eq_ok_iff {lo hi code code' : Nat} {rest left : List UInt8} :
    continued 0 lo hi code rest = .ok (code', left) ↔ code = code' ∧ rest = left := by
  rw [continued, Except.ok.injEq, Prod.mk.injEq]

theorem continued_succ_eq_ok_iff {n lo hi code : Nat} {rest : List UInt8}
    {r : Nat × List UInt8} : continued (n + 1) lo hi code rest = .ok r ↔
      ∃ b tail, rest = b :: tail ∧ (lo ≤ b.toNat ∧ b.toNat ≤ hi) ∧
        continued n 0x80 0xBF (code * 64 + (b.toNat - 0x80)) tail = .ok r := by
  cases rest with
  | nil => exact ⟨nofun, fun ⟨_, _, h, _⟩ => nomatch h⟩
  | cons b tail =>
    rw [continued]
    constructor
    · intro h
      split at h
      · next hb =>
        refine ⟨b, tail, rfl, hb, ?_⟩
        split at h
        · next heq => exact heq.trans h
        · cases h
      · cases h
    · rintro ⟨b', tail', h, hb, hrest⟩
      cases h
      rw [if_pos hb, hrest]

/-- A code that a character has is the code of the character made from it. -/
theorem toNat_ofNat {n : Nat} (h : n.isValidChar) : (Char.ofNat n).val.toNat = n := by
  unfold Char.ofNat
  rw [dif_pos h]
  rfl

theorem encode_one {n : Nat} (hn : n < 0x80) :
    utf8EncodeChar (Char.ofNat n) = [UInt8.ofNat n] := by
  have hval := toNat_ofNat (n := n) (.inl (by omega))
  unfold utf8EncodeChar
  simp only [hval]
  rw [if_pos (by omega)]

theorem encode_two {n : Nat} (hlo : 0x80 ≤ n) (hhi : n < 0x800) :
    utf8EncodeChar (Char.ofNat n) = [UInt8.ofNat (n / 64 + 0xC0), UInt8.ofNat (n % 64 + 0x80)] := by
  have hval := toNat_ofNat (n := n) (.inl (by omega))
  have hmod : n / 64 % 32 = n / 64 := Nat.mod_eq_of_lt (by omega)
  unfold utf8EncodeChar
  simp only [hval]
  rw [if_neg (by omega), if_pos (by omega), hmod]

theorem encode_three {n : Nat} (hlo : 0x800 ≤ n) (hhi : n < 0x10000) (hn : n.isValidChar) :
    utf8EncodeChar (Char.ofNat n) = [UInt8.ofNat (n / 4096 + 0xE0),
      UInt8.ofNat (n / 64 % 64 + 0x80), UInt8.ofNat (n % 64 + 0x80)] := by
  have hval := toNat_ofNat hn
  have hmod : n / 4096 % 16 = n / 4096 := Nat.mod_eq_of_lt (by omega)
  unfold utf8EncodeChar
  simp only [hval]
  rw [if_neg (by omega), if_neg (by omega), if_pos (by omega), hmod]

theorem encode_four {n : Nat} (hlo : 0x10000 ≤ n) (hhi : n < 0x110000) :
    utf8EncodeChar (Char.ofNat n) = [UInt8.ofNat (n / 262144 + 0xF0),
      UInt8.ofNat (n / 4096 % 64 + 0x80), UInt8.ofNat (n / 64 % 64 + 0x80),
      UInt8.ofNat (n % 64 + 0x80)] := by
  have hval := toNat_ofNat (n := n) (.inr ⟨by omega, hhi⟩)
  have hmod : n / 262144 % 8 = n / 262144 := Nat.mod_eq_of_lt (by omega)
  unfold utf8EncodeChar
  simp only [hval]
  rw [if_neg (by omega), if_neg (by omega), if_neg (by omega), hmod]

theorem ofNat_eq {b : UInt8} {n : Nat} (h : n = b.toNat) : UInt8.ofNat n = b := by
  rw [h, UInt8.ofNat_toNat]

/-- **What a first byte admits is the encoding of a character.** -/
theorem encoded_of_lead {b : UInt8} {lead : Lead} (hlead : leadOf b.toNat = some lead)
    {rest left : List UInt8} {code : Nat}
    (hcode : continued lead.more lead.lo lead.hi lead.bits rest = .ok (code, left)) :
    b :: rest = utf8EncodeChar (Char.ofNat code) ++ left := by
  have hb := b.toNat_lt
  unfold leadOf at hlead
  split at hlead
  · cases hlead
    obtain ⟨rfl, rfl⟩ := continued_zero_eq_ok_iff.mp hcode
    rw [encode_one (by omega), ofNat_eq rfl]
    rfl
  · split at hlead
    · cases hlead
    split at hlead
    · cases hlead
      obtain ⟨b₂, tail, rfl, hb₂, hcode⟩ := continued_succ_eq_ok_iff.mp hcode
      obtain ⟨rfl, rfl⟩ := continued_zero_eq_ok_iff.mp hcode
      dsimp only at hb₂ ⊢
      rw [encode_two (by omega) (by omega), ofNat_eq (b := b) (by omega),
        ofNat_eq (b := b₂) (by omega)]
      rfl
    split at hlead
    · cases hlead
      obtain ⟨b₂, tail, rfl, hb₂, hcode⟩ := continued_succ_eq_ok_iff.mp hcode
      obtain ⟨b₃, tail, rfl, hb₃, hcode⟩ := continued_succ_eq_ok_iff.mp hcode
      obtain ⟨rfl, rfl⟩ := continued_zero_eq_ok_iff.mp hcode
      dsimp only at hb₂ hb₃ ⊢
      -- the bounds of the second byte keep out what fewer bytes encode, and the surrogates
      have hlo : 0x80 ≤ b₂.toNat ∧ b₂.toNat ≤ 0xBF := by split at hb₂ <;> split at hb₂ <;> omega
      have hvalid : ((b.toNat - 0xE0) * 64 + (b₂.toNat - 0x80)) * 64 + (b₃.toNat - 0x80) < 0xD800 ∨
          0xDFFF < ((b.toNat - 0xE0) * 64 + (b₂.toNat - 0x80)) * 64 + (b₃.toNat - 0x80) := by
        split at hb₂ <;> split at hb₂ <;> omega
      rw [encode_three (by split at hb₂ <;> omega) (by omega)
          (hvalid.imp id fun h => ⟨h, by omega⟩),
        ofNat_eq (b := b) (by omega), ofNat_eq (b := b₂) (by omega), ofNat_eq (b := b₃) (by omega)]
      rfl
    split at hlead
    · cases hlead
      obtain ⟨b₂, tail, rfl, hb₂, hcode⟩ := continued_succ_eq_ok_iff.mp hcode
      obtain ⟨b₃, tail, rfl, hb₃, hcode⟩ := continued_succ_eq_ok_iff.mp hcode
      obtain ⟨b₄, tail, rfl, hb₄, hcode⟩ := continued_succ_eq_ok_iff.mp hcode
      obtain ⟨rfl, rfl⟩ := continued_zero_eq_ok_iff.mp hcode
      dsimp only at hb₂ hb₃ hb₄ ⊢
      -- here they keep out what fewer bytes encode, and what lies behind the last character
      have hlo : 0x80 ≤ b₂.toNat ∧ b₂.toNat ≤ 0xBF := by split at hb₂ <;> split at hb₂ <;> omega
      rw [encode_four (by split at hb₂ <;> omega) (by split at hb₂ <;> split at hb₂ <;> omega),
        ofNat_eq (b := b) (by omega), ofNat_eq (b := b₂) (by omega), ofNat_eq (b := b₃) (by omega),
        ofNat_eq (b := b₄) (by omega)]
      rfl
    · cases hlead

theorem toNat_byte {n : Nat} (h : n < 256) : (UInt8.ofNat n).toNat = n := by
  rw [UInt8.toNat_ofNat']
  exact Nat.mod_eq_of_lt h

/-- **The encoding of a character is admitted by its first byte**, as that character. -/
theorem lead_of_encoded (c : Char) (left : List UInt8) :
    ∃ b rest lead, utf8EncodeChar c ++ left = b :: rest ∧ leadOf b.toNat = some lead ∧
      continued lead.more lead.lo lead.hi lead.bits rest = .ok (c.toNat, left) := by
  have hvalid : c.toNat < 0xD800 ∨ 0xDFFF < c.toNat ∧ c.toNat < 0x110000 := c.valid
  have hc : Char.ofNat c.toNat = c := Char.ofNat_toNat c
  generalize c.toNat = n at hvalid hc
  subst hc
  rcases Nat.lt_or_ge n 0x80 with h₁ | h₁
  · refine ⟨_, _, ⟨0, n, 0, 0⟩, by rw [encode_one h₁]; rfl, ?_,
      continued_zero_eq_ok_iff.mpr ⟨rfl, rfl⟩⟩
    rw [toNat_byte (by omega), leadOf, if_pos h₁]
  rcases Nat.lt_or_ge n 0x800 with h₂ | h₂
  · refine ⟨_, _, ⟨1, n / 64, 0x80, 0xBF⟩, by rw [encode_two h₁ h₂]; rfl, ?_, ?_⟩
    · rw [toNat_byte (by omega), leadOf, if_neg (by omega), if_neg (by omega), if_pos (by omega),
        Nat.add_sub_cancel]
    · refine continued_succ_eq_ok_iff.mpr ⟨_, _, rfl, ?_, continued_zero_eq_ok_iff.mpr ⟨?_, rfl⟩⟩
      · rw [toNat_byte (by omega)]
        dsimp only
        omega
      · rw [toNat_byte (by omega)]
        dsimp only
        omega
  rcases Nat.lt_or_ge n 0x10000 with h₃ | h₃
  · refine ⟨_, _, ⟨2, n / 4096, if n / 4096 = 0 then 0xA0 else 0x80,
      if n / 4096 = 13 then 0x9F else 0xBF⟩,
      by rw [encode_three h₂ h₃ hvalid]; rfl, ?_, ?_⟩
    · rw [toNat_byte (by omega), leadOf, if_neg (by omega), if_neg (by omega), if_neg (by omega),
        if_pos (by omega), Nat.add_sub_cancel]
      simp only [Nat.add_eq_right, Nat.reduceEqDiff]
    · refine continued_succ_eq_ok_iff.mpr ⟨_, _, rfl, ?_, continued_succ_eq_ok_iff.mpr
        ⟨_, _, rfl, ?_, continued_zero_eq_ok_iff.mpr ⟨?_, rfl⟩⟩⟩
      · rw [toNat_byte (by omega)]
        dsimp only
        split <;> split <;> omega
      · rw [toNat_byte (by omega)]
        omega
      · rw [toNat_byte (by omega), toNat_byte (by omega)]
        dsimp only
        omega
  · refine ⟨_, _, ⟨3, n / 262144, if n / 262144 = 0 then 0x90 else 0x80,
      if n / 262144 = 4 then 0x8F else 0xBF⟩,
      by rw [encode_four h₃ (by omega)]; rfl, ?_, ?_⟩
    · rw [toNat_byte (by omega), leadOf, if_neg (by omega), if_neg (by omega), if_neg (by omega),
        if_neg (by omega), if_pos (by omega), Nat.add_sub_cancel]
      simp only [Nat.add_eq_right, Nat.reduceEqDiff]
    · refine continued_succ_eq_ok_iff.mpr ⟨_, _, rfl, ?_, continued_succ_eq_ok_iff.mpr
        ⟨_, _, rfl, ?_, continued_succ_eq_ok_iff.mpr
          ⟨_, _, rfl, ?_, continued_zero_eq_ok_iff.mpr ⟨?_, rfl⟩⟩⟩⟩
      · rw [toNat_byte (by omega)]
        dsimp only
        split <;> split <;> omega
      · rw [toNat_byte (by omega)]
        omega
      · rw [toNat_byte (by omega)]
        omega
      · rw [toNat_byte (by omega), toNat_byte (by omega), toNat_byte (by omega)]
        dsimp only
        omega

/-- **One character is read where its encoding stands**, and no other. -/
theorem first_eq_ok_iff {position : Nat} {b : UInt8} {rest left : List UInt8} {c : Char} :
    (∃ size, first position b rest = .ok (c, size, left)) ↔
      b :: rest = utf8EncodeChar c ++ left := by
  unfold first
  constructor
  · rintro ⟨size, h⟩
    split at h
    · cases h
    · next lead hlead =>
      split at h
      · next code rest' hcode =>
        cases h
        exact encoded_of_lead hlead hcode
      · cases h
  · intro h
    obtain ⟨b', rest', lead, hsplit, hlead, hcode⟩ := lead_of_encoded c left
    obtain ⟨rfl, rfl⟩ := List.cons_eq_cons.mp (h.trans hsplit)
    refine ⟨lead.more + 1, ?_⟩
    simp only [hlead, hcode, Char.ofNat_toNat]

/-! ## 2. All characters -/

theorem length_encode_pos (c : Char) : 0 < (utf8EncodeChar c).length := by
  rw [String.length_utf8EncodeChar]
  exact c.utf8Size_pos

/-- Characters are read one after the other, by induction on the fuel. -/
theorem decodeFrom_eq_ok_iff {n position : Nat} {bytes : List UInt8} {done cs : List Char}
    (hn : bytes.length ≤ n) : decodeFrom n position bytes done = .ok cs ↔
      ∃ more, bytes = more.flatMap utf8EncodeChar ∧ cs = done.reverse ++ more := by
  have hnil : ∀ done : List Char, (Except.ok done.reverse : Except Fault _) = .ok cs ↔
      ∃ more, [] = more.flatMap utf8EncodeChar ∧ cs = done.reverse ++ more := by
    intro done
    constructor
    · intro h
      cases h
      exact ⟨[], rfl, (List.append_nil _).symm⟩
    · rintro ⟨more, hmore, rfl⟩
      cases more with
      | nil => rw [List.append_nil]
      | cons c more =>
        have hlength := congrArg List.length hmore
        have hpos := length_encode_pos c
        rw [List.flatMap_cons, List.length_append, List.length_nil] at hlength
        omega
  induction n generalizing position bytes done with
  | zero =>
    obtain rfl := List.length_eq_zero_iff.mp (Nat.le_zero.mp hn)
    exact hnil done
  | succ n ih =>
    cases bytes with
    | nil => exact hnil done
    | cons b rest =>
      unfold decodeFrom
      constructor
      · intro h
        split at h
        · cases h
        · next c size left hfirst =>
          have hbytes := first_eq_ok_iff.mp ⟨size, hfirst⟩
          have hlength := congrArg List.length hbytes
          have hpos := length_encode_pos c
          rw [List.length_append] at hlength
          obtain ⟨more, rfl, rfl⟩ := (ih (by omega)).mp h
          exact ⟨c :: more, hbytes, by simp⟩
      · rintro ⟨more, hmore, rfl⟩
        cases more with
        | nil => cases hmore
        | cons c more =>
          obtain ⟨size, hfirst⟩ : ∃ size, first position b rest = _ := first_eq_ok_iff.mpr hmore
          have hlength := congrArg List.length hmore
          have hpos := length_encode_pos c
          rw [List.flatMap_cons, List.length_append] at hlength
          have hleft : (more.flatMap utf8EncodeChar).length ≤ n := by omega
          rw [hfirst]
          exact (ih hleft).mpr ⟨more, rfl, by simp⟩

/-- **Bytes are read as the text that they encode.** -/
theorem decode_eq_ok_iff {bytes : List UInt8} {text : String} :
    decode bytes = .ok text ↔ bytes.toByteArray = text.toUTF8 := by
  unfold decode
  rw [map_eq_ok]
  have htext : text.toUTF8 = (text.toList.flatMap utf8EncodeChar).toByteArray :=
    String.utf8Encode_toList.symm
  rw [htext, List.toByteArray_inj]
  constructor
  · rintro ⟨cs, hcs, rfl⟩
    obtain ⟨more, rfl, rfl⟩ := (decodeFrom_eq_ok_iff (Nat.le_refl _)).mp hcs
    simp
  · rintro rfl
    exact ⟨text.toList, (decodeFrom_eq_ok_iff (Nat.le_refl _)).mpr ⟨_, rfl, rfl⟩,
      String.ofList_toList⟩

/-- **Bytes that encode no text are refused**, and no others. -/
theorem decode_eq_error_iff {bytes : List UInt8} :
    (∃ e, decode bytes = .error e) ↔ ¬ bytes.toByteArray.IsValidUTF8 := by
  constructor
  · rintro ⟨e, he⟩ hvalid
    have hok : decode bytes = .ok (.ofByteArray _ hvalid) := decode_eq_ok_iff.mpr rfl
    rw [he] at hok
    cases hok
  · intro hvalid
    cases h : decode bytes with
    | error e => exact ⟨e, rfl⟩
    | ok text => exact absurd (decode_eq_ok_iff.mp h ▸ text.isValidUTF8) hvalid

/-! ## 3. Bytes of a text -/

/-- The bytes of an array are listed one after the other from an index on. -/
theorem toList_loop_eq (bytes : ByteArray) (i : Nat) (done : List UInt8) :
    ByteArray.toList.loop bytes i done = done.reverse ++ bytes.data.toList.drop i := by
  fun_induction ByteArray.toList.loop bytes i done with
  | case1 i done hlt ih =>
    have hi : i < bytes.data.toList.length := hlt
    have hget : bytes.get! i = bytes.data.toList[i] := getElem!_pos bytes.data i hlt
    rw [ih, List.drop_eq_getElem_cons hi, hget, List.reverse_cons, List.append_assoc]
    rfl
  | case2 i done hge =>
    have hend : bytes.data.toList.length ≤ i := Nat.not_lt.mp hge
    rw [List.drop_eq_nil_of_le hend, List.append_nil]

/-- **The bytes of a text are read as the text.** -/
theorem decode_toUTF8 (text : String) : decode text.toUTF8.toList = .ok text := by
  have hlist : text.toUTF8.toList = text.toUTF8.data.toList := toList_loop_eq _ 0 []
  rw [decode_eq_ok_iff, hlist]
  refine ByteArray.ext ?_
  rw [List.data_toByteArray, Array.toArray_toList]

end MapQuery.Text.Utf8
