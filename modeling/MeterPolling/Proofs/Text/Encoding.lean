import Mathlib.Data.List.Basic
import Mathlib.Data.List.Induction
import MeterPolling.Proofs.Text.Utf8

namespace MeterPolling.Text

def encodeUtf8 (cs : List Char) : List UInt8 := cs.flatMap String.utf8EncodeChar

/-- The character that a byte below 0x80 stands for. -/
def charOfByte (b : UInt8) : Char := Char.ofNat b.toNat

theorem encodeUtf8_append (cs ds : List Char) : encodeUtf8 (cs ++ ds) = encodeUtf8 cs ++ encodeUtf8 ds :=
  List.flatMap_append

theorem encodeUtf8_inj {cs ds : List Char} (h : encodeUtf8 cs = encodeUtf8 ds) : cs = ds := by
  have hcs : decodeUtf8 (encodeUtf8 cs) = .ok cs := decodeUtf8_eq_ok_iff.mpr rfl
  have hds : decodeUtf8 (encodeUtf8 ds) = .ok ds := decodeUtf8_eq_ok_iff.mpr rfl
  rw [h] at hcs
  exact Except.ok.inj (hcs.symm.trans hds)

theorem encode_charOfByte {b : UInt8} (h : b < 0x80) : String.utf8EncodeChar (charOfByte b) = [b] := by
  have hb : b.toNat < 0x80 := UInt8.lt_iff_toNat_lt.mp h
  exact (CharBytes.one hb rfl).eq_encode.symm

theorem encodeUtf8_bytes {bs : List UInt8} (h : ∀ b ∈ bs, b < 0x80) : encodeUtf8 (bs.map charOfByte) = bs := by
  induction bs with
  | nil => rfl
  | cons b bs ih =>
    obtain ⟨hb, hbs⟩ := List.forall_mem_cons.mp h
    rw [List.map_cons, encodeUtf8, List.flatMap_cons, encode_charOfByte hb]
    exact congrArg (b :: ·) (ih hbs)

theorem CharBytes.eq_single {n : Nat} {bs : List UInt8} {b : UInt8} (h : CharBytes n bs) (hmem : b ∈ bs)
    (hb : b < 0x80) : bs = [b] ∧ n = b.toNat := by
  have hlt : b.toNat < 0x80 := UInt8.lt_iff_toNat_lt.mp hb
  cases h with
  | one first number =>
    have he := List.mem_singleton.mp hmem
    subst he
    exact ⟨rfl, number⟩
  | two first second number =>
    simp only [List.mem_cons, List.not_mem_nil, or_false] at hmem
    rcases hmem with rfl | rfl <;> omega
  | three first second third number =>
    simp only [List.mem_cons, List.not_mem_nil, or_false] at hmem
    split at second <;> rcases hmem with rfl | rfl | rfl <;> omega
  | four first second third fourth number =>
    simp only [List.mem_cons, List.not_mem_nil, or_false] at hmem
    split at second <;> rcases hmem with rfl | rfl | rfl | rfl <;> omega

theorem mem_encode_iff {c : Char} {b : UInt8} (hb : b < 0x80) : b ∈ String.utf8EncodeChar c ↔ c = charOfByte b := by
  constructor
  · intro hmem
    have hnumber := ((CharBytes.encode c).eq_single hmem hb).2
    rw [charOfByte, ← hnumber, Char.ofNat_toNat]
  · rintro rfl
    rw [encode_charOfByte hb]
    exact List.mem_singleton_self b

theorem mem_encodeUtf8_iff {cs : List Char} {b : UInt8} (hb : b < 0x80) : b ∈ encodeUtf8 cs ↔ charOfByte b ∈ cs := by
  unfold encodeUtf8
  simp [List.mem_flatMap, mem_encode_iff hb]

theorem encode_ne_nil (c : Char) : String.utf8EncodeChar c ≠ [] := by
  intro hnil
  have hbytes := CharBytes.encode c
  rw [hnil] at hbytes
  cases hbytes

theorem encode_single_iff {c : Char} : (∀ b ∈ String.utf8EncodeChar c, b < 0x80) ↔ c.toNat < 0x80 := by
  constructor
  · intro h
    obtain ⟨b, hmem⟩ := List.exists_mem_of_ne_nil _ (encode_ne_nil c)
    have hb := h b hmem
    rw [((CharBytes.encode c).eq_single hmem hb).2]
    exact UInt8.lt_iff_toNat_lt.mp hb
  · intro h
    have hcode : (UInt8.ofNat c.toNat).toNat = c.toNat := by
      rw [UInt8.toNat_ofNat']
      omega
    have hlt : UInt8.ofNat c.toNat < 0x80 := UInt8.lt_iff_toNat_lt.mpr (by rwa [hcode])
    have hbytes := encode_charOfByte hlt
    rw [charOfByte, hcode, Char.ofNat_toNat] at hbytes
    rw [hbytes]
    simpa using hlt

theorem encodeUtf8_eq_concat {cs : List Char} {bs : List UInt8} {b : UInt8} (hb : b < 0x80)
    (h : encodeUtf8 cs = bs ++ [b]) : ∃ front, cs = front ++ [charOfByte b] ∧ bs = encodeUtf8 front := by
  rcases List.eq_nil_or_concat cs with rfl | ⟨front, c, rfl⟩
  · cases bs <;> cases h
  · have hchars : encodeUtf8 (front ++ [c]) = encodeUtf8 front ++ String.utf8EncodeChar c := by
      rw [encodeUtf8_append, encodeUtf8, encodeUtf8, List.flatMap_singleton]
    rw [List.concat_eq_append, hchars] at h
    have hlast := congrArg List.getLast? h
    rw [List.getLast?_append_of_ne_nil _ (encode_ne_nil c), List.getLast?_concat] at hlast
    have hc := (mem_encode_iff hb).mp (List.mem_of_getLast? hlast)
    subst hc
    rw [encode_charOfByte hb] at h
    exact ⟨front, List.concat_eq_append, (List.append_cancel_right h).symm⟩

theorem encodeUtf8_eq_append {cs : List Char} {bs run : List UInt8} (hrun : ∀ b ∈ run, b < 0x80)
    (h : encodeUtf8 cs = bs ++ run) : ∃ front, cs = front ++ run.map charOfByte ∧ bs = encodeUtf8 front := by
  induction run using List.reverseRecOn generalizing cs with
  | nil => exact ⟨cs, by simp, by simpa using h.symm⟩
  | append_singleton run b ih =>
    obtain ⟨hothers, hb⟩ := List.forall_mem_append.mp hrun
    rw [← List.append_assoc] at h
    obtain ⟨front, hcs, hfront⟩ := encodeUtf8_eq_concat (hb b (List.mem_singleton_self b)) h
    obtain ⟨start, hstart, hbs⟩ := ih hothers hfront.symm
    refine ⟨start, ?_, hbs⟩
    rw [hcs, hstart, List.map_append, List.append_assoc]
    rfl

end MeterPolling.Text
