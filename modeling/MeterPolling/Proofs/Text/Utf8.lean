import MeterPolling.Text.Utf8

namespace MeterPolling.Text

theorem toNat_charOfNat {n : Nat} (h : n.isValidChar) : (Char.ofNat n).toNat = n := by
  have he : Char.ofNat n = Char.ofNatAux n h := dif_pos h
  rw [he]
  rfl

theorem byteIn_iff {low high b : UInt8} : byteIn low high b ↔ low.toNat ≤ b.toNat ∧ b.toNat ≤ high.toNat := by
  simp only [byteIn, Bool.and_eq_true, decide_eq_true_eq, UInt8.le_iff_toNat_le]

theorem byteIn_ite_iff {p q : Prop} [Decidable p] [Decidable q] {l₁ l₂ h₁ h₂ b : UInt8} :
    byteIn (if p then l₁ else l₂) (if q then h₁ else h₂) b ↔
      (if p then l₁.toNat else l₂.toNat) ≤ b.toNat ∧ b.toNat ≤ if q then h₁.toNat else h₂.toNat := by
  rw [byteIn_iff, apply_ite UInt8.toNat, apply_ite UInt8.toNat]

namespace Utf8Lead

variable {a low high : UInt8}

theorem of_eq (a : UInt8) : of a =
    if a.toNat < 0x80 then .single
    else if a.toNat < 0xC2 then .illFormed
    else if a.toNat < 0xE0 then .double
    else if a.toNat < 0xF0 then
      .triple (if a.toNat = 0xE0 then 0xA0 else 0x80) (if a.toNat = 0xED then 0x9F else 0xBF)
    else if a.toNat < 0xF5 then
      .quadruple (if a.toNat = 0xF0 then 0x90 else 0x80) (if a.toNat = 0xF4 then 0x8F else 0xBF)
    else .illFormed := by
  have hsame : ∀ b : UInt8, a = b ↔ a.toNat = b.toNat := fun b => UInt8.toNat_inj.symm
  simp only [of, UInt8.lt_iff_toNat_lt, hsame 0xE0, hsame 0xED, hsame 0xF0, hsame 0xF4]
  grind

theorem of_single_iff : of a = .single ↔ a.toNat < 0x80 := by
  rw [of_eq]
  grind

theorem of_double_iff : of a = .double ↔ 0xC2 ≤ a.toNat ∧ a.toNat < 0xE0 := by
  rw [of_eq]
  grind

/-- The range of the second byte keeps out what fits two bytes, and surrogates. -/
theorem of_triple_iff : of a = .triple low high ↔
    (0xE0 ≤ a.toNat ∧ a.toNat < 0xF0) ∧ low = (if a.toNat = 0xE0 then 0xA0 else 0x80) ∧
      high = (if a.toNat = 0xED then 0x9F else 0xBF) := by
  rw [of_eq]
  grind

/-- The range of the second byte keeps out what fits three bytes, and numbers above U+10FFFF. -/
theorem of_quadruple_iff : of a = .quadruple low high ↔
    (0xF0 ≤ a.toNat ∧ a.toNat < 0xF5) ∧ low = (if a.toNat = 0xF0 then 0x90 else 0x80) ∧
      high = (if a.toNat = 0xF4 then 0x8F else 0xBF) := by
  rw [of_eq]
  grind

end Utf8Lead

inductive CharBytes (n : Nat) : List UInt8 → Prop
  | one {a : UInt8} (first : a.toNat < 0x80) (number : n = a.toNat) : CharBytes n [a]
  | two {a b : UInt8} (first : 0xC2 ≤ a.toNat ∧ a.toNat < 0xE0) (second : 0x80 ≤ b.toNat ∧ b.toNat ≤ 0xBF)
      (number : n = a.toNat % 32 * 64 + sixBits b) : CharBytes n [a, b]
  | three {a b c : UInt8} (first : 0xE0 ≤ a.toNat ∧ a.toNat < 0xF0)
      (second : (if a.toNat = 0xE0 then 0xA0 else 0x80) ≤ b.toNat ∧ b.toNat ≤ if a.toNat = 0xED then 0x9F else 0xBF)
      (third : 0x80 ≤ c.toNat ∧ c.toNat ≤ 0xBF)
      (number : n = a.toNat % 16 * 4096 + sixBits b * 64 + sixBits c) : CharBytes n [a, b, c]
  | four {a b c d : UInt8} (first : 0xF0 ≤ a.toNat ∧ a.toNat < 0xF5)
      (second : (if a.toNat = 0xF0 then 0x90 else 0x80) ≤ b.toNat ∧ b.toNat ≤ if a.toNat = 0xF4 then 0x8F else 0xBF)
      (third : 0x80 ≤ c.toNat ∧ c.toNat ≤ 0xBF) (fourth : 0x80 ≤ d.toNat ∧ d.toNat ≤ 0xBF)
      (number : n = a.toNat % 8 * 262144 + sixBits b * 4096 + sixBits c * 64 + sixBits d) :
      CharBytes n [a, b, c, d]

namespace CharBytes

variable {n : Nat} {bs : List UInt8}

theorem valid (h : CharBytes n bs) : n.isValidChar := by
  unfold Nat.isValidChar
  cases h with
  | one first number => omega
  | two first second number =>
    unfold sixBits at number
    omega
  | three first second third number =>
    unfold sixBits at number
    split at second <;> split at second <;> omega
  | four first second third fourth number =>
    unfold sixBits at number
    split at second <;> split at second <;> omega

theorem eq_encode (h : CharBytes n bs) : bs = String.utf8EncodeChar (Char.ofNat n) := by
  have hn : (Char.ofNat n).val.toNat = n := toNat_charOfNat h.valid
  have hbyte : ∀ (a : UInt8) (m : Nat), m = a.toNat → a = UInt8.ofNat m := by
    intro a m hm
    rw [hm, UInt8.ofNat_toNat]
  unfold String.utf8EncodeChar
  simp only [hn]
  cases h with
  | one first number => rw [if_pos (by omega), ← hbyte _ n number]
  | @two a b first second number =>
    unfold sixBits at number
    rw [if_neg (by omega), if_pos (by omega), ← hbyte a _ (by omega), ← hbyte b _ (by omega)]
  | @three a b c first second third number =>
    unfold sixBits at number
    have hsecond : 0x80 ≤ b.toNat ∧ b.toNat ≤ 0xBF ∧ 2047 < n := by
      split at second <;> split at second <;> omega
    rw [if_neg (by omega), if_neg (by omega), if_pos (by omega), ← hbyte a _ (by omega), ← hbyte b _ (by omega),
      ← hbyte c _ (by omega)]
  | @four a b c d first second third fourth number =>
    unfold sixBits at number
    have hsecond : 0x80 ≤ b.toNat ∧ b.toNat ≤ 0xBF ∧ 65535 < n := by
      split at second <;> split at second <;> omega
    rw [if_neg (by omega), if_neg (by omega), if_neg (by omega), ← hbyte a _ (by omega), ← hbyte b _ (by omega),
      ← hbyte c _ (by omega), ← hbyte d _ (by omega)]

theorem encode (c : Char) : CharBytes c.toNat (String.utf8EncodeChar c) := by
  have hvalid : c.toNat.isValidChar := c.valid
  have hn : c.val.toNat = c.toNat := rfl
  have hbyte : ∀ m, m < 256 → (UInt8.ofNat m).toNat = m := by
    intro m hm
    rw [UInt8.toNat_ofNat']
    omega
  unfold Nat.isValidChar at hvalid
  unfold String.utf8EncodeChar
  simp only [hn]
  split
  next =>
    refine .one ?_ ?_
    · rw [hbyte _ (by omega)]
      omega
    · rw [hbyte _ (by omega)]
  next =>
    split
    next =>
      refine .two ?_ ?_ ?_
      · rw [hbyte _ (by omega)]
        omega
      · rw [hbyte _ (by omega)]
        omega
      · rw [sixBits, hbyte _ (by omega), hbyte _ (by omega)]
        omega
    next =>
      split
      next =>
        refine .three ?_ ?_ ?_ ?_
        · rw [hbyte _ (by omega)]
          omega
        · rw [hbyte _ (by omega), hbyte _ (by omega)]
          split <;> split <;> omega
        · rw [hbyte _ (by omega)]
          omega
        · rw [sixBits, sixBits, hbyte _ (by omega), hbyte _ (by omega), hbyte _ (by omega)]
          omega
      next =>
        refine .four ?_ ?_ ?_ ?_ ?_
        · rw [hbyte _ (by omega)]
          omega
        · rw [hbyte _ (by omega), hbyte _ (by omega)]
          split <;> split <;> omega
        · rw [hbyte _ (by omega)]
          omega
        · rw [hbyte _ (by omega)]
          omega
        · rw [sixBits, sixBits, sixBits, hbyte _ (by omega), hbyte _ (by omega), hbyte _ (by omega), hbyte _ (by omega)]
          omega

theorem decode (h : CharBytes n bs) (i : Nat) (rest : List UInt8) :
    decodeUtf8From i (bs ++ rest) = (decodeUtf8From (i + bs.length) rest).map (Char.ofNat n :: ·) := by
  have htail : ∀ b : UInt8, 0x80 ≤ b.toNat ∧ b.toNat ≤ 0xBF → byteIn 0x80 0xBF b := fun b hb => byteIn_iff.mpr hb
  cases h with
  | @one a first number =>
    have hlead := Utf8Lead.of_single_iff.mpr first
    show decodeUtf8From i (a :: rest) = _
    conv => lhs; unfold decodeUtf8From
    simp only [hlead, number, List.length_singleton]
  | @two a b first second number =>
    have hlead := Utf8Lead.of_double_iff.mpr first
    show decodeUtf8From i (a :: b :: rest) = _
    conv => lhs; unfold decodeUtf8From
    simp only [hlead, htail b second, number, ↓reduceIte]
    rfl
  | @three a b c first second third number =>
    have hlead := Utf8Lead.of_triple_iff.mpr ⟨first, rfl, rfl⟩
    have hrange : byteIn (if a.toNat = 0xE0 then 0xA0 else 0x80) (if a.toNat = 0xED then 0x9F else 0xBF) b :=
      byteIn_ite_iff.mpr second
    show decodeUtf8From i (a :: b :: c :: rest) = _
    conv => lhs; unfold decodeUtf8From
    simp only [hlead, hrange, htail c third, number, ↓reduceIte]
    rfl
  | @four a b c d first second third fourth number =>
    have hlead := Utf8Lead.of_quadruple_iff.mpr ⟨first, rfl, rfl⟩
    have hrange : byteIn (if a.toNat = 0xF0 then 0x90 else 0x80) (if a.toNat = 0xF4 then 0x8F else 0xBF) b :=
      byteIn_ite_iff.mpr second
    show decodeUtf8From i (a :: b :: c :: d :: rest) = _
    conv => lhs; unfold decodeUtf8From
    simp only [hlead, hrange, htail c third, htail d fourth, number, ↓reduceIte]
    rfl

end CharBytes

theorem decodeUtf8From_encode (i : Nat) (cs : List Char) :
    decodeUtf8From i (cs.flatMap String.utf8EncodeChar) = .ok cs := by
  induction cs generalizing i with
  | nil => rfl
  | cons c cs ih =>
    rw [List.flatMap_cons, (CharBytes.encode c).decode, ih, Char.ofNat_toNat]
    rfl

theorem cons_encode_of_map {n : Nat} {front rest : List UInt8} {cs : List Char}
    {others : Except Utf8Defect (List Char)} (h : others.map (Char.ofNat n :: ·) = .ok cs)
    (hfront : CharBytes n front) (hrest : ∀ {cs}, others = .ok cs → rest = cs.flatMap String.utf8EncodeChar) :
    front ++ rest = cs.flatMap String.utf8EncodeChar := by
  cases others with
  | error defect => cases h
  | ok more =>
    cases h
    rw [List.flatMap_cons, ← hfront.eq_encode, ← hrest rfl]

theorem eq_encode_of_decode {i : Nat} {bs : List UInt8} {cs : List Char} (h : decodeUtf8From i bs = .ok cs) :
    bs = cs.flatMap String.utf8EncodeChar := by
  fun_induction decodeUtf8From i bs generalizing cs with
  | case1 i =>
    cases h
    rfl
  | case3 i a rest lead ih => exact cons_encode_of_map h (.one (Utf8Lead.of_single_iff.mp lead) rfl) ih
  | case5 i a lead b rest tail ih =>
    exact cons_encode_of_map h (.two (Utf8Lead.of_double_iff.mp lead) (byteIn_iff.mp tail) rfl) ih
  | case9 i a low high lead b range c rest tail ih =>
    obtain ⟨first, hlow, hhigh⟩ := Utf8Lead.of_triple_iff.mp lead
    subst hlow hhigh
    exact cons_encode_of_map h (.three first (byteIn_ite_iff.mp range) (byteIn_iff.mp tail) rfl) ih
  | case15 i a low high lead b range c tail d rest tail' ih =>
    obtain ⟨first, hlow, hhigh⟩ := Utf8Lead.of_quadruple_iff.mp lead
    subst hlow hhigh
    exact cons_encode_of_map h
      (.four first (byteIn_ite_iff.mp range) (byteIn_iff.mp tail) (byteIn_iff.mp tail') rfl) ih
  | _ => cases h

theorem decodeUtf8_eq_ok_iff {bs : List UInt8} {cs : List Char} :
    decodeUtf8 bs = .ok cs ↔ bs = cs.flatMap String.utf8EncodeChar := by
  constructor
  · exact eq_encode_of_decode
  · intro h
    rw [h]
    exact decodeUtf8From_encode 0 cs

theorem decodeUtf8_error_iff {bs : List UInt8} :
    (∃ defect, decodeUtf8 bs = .error defect) ↔ ¬ ∃ cs : List Char, bs = cs.flatMap String.utf8EncodeChar := by
  simp only [← decodeUtf8_eq_ok_iff]
  cases decodeUtf8 bs with
  | error defect => simp
  | ok cs => simp

end MeterPolling.Text
