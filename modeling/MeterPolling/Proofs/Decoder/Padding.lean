import Mathlib.Data.List.DropRight
import MeterPolling.Proofs.Decoder.Outcome
import MeterPolling.Proofs.Text.Encoding

namespace MeterPolling

namespace Text

def paddingChars : List Char := ['\x00', ' ', '\t', '\n', '\x0C', '\r']

def paddingBytes : List UInt8 := [0x00, 0x20, 0x09, 0x0A, 0x0C, 0x0D]

/-- The bytes are those of the text with padding behind it, in which the text itself does not end. -/
structure Padded (t : String) (bs : List UInt8) : Prop where
  bytes : ∃ run, bs = encodeUtf8 t.toList ++ run ∧ ∀ b ∈ run, b ∈ paddingBytes
  trimmed : ∀ c, t.toList.getLast? = some c → c ∉ paddingChars

theorem isPadding_iff {c : Char} : isPadding c ↔ c ∈ paddingChars := by
  simp [isPadding, paddingChars, or_assoc]

theorem paddingByte_single {b : UInt8} (h : b ∈ paddingBytes) : b < 0x80 := by
  have hall : paddingBytes.all (· < 0x80) := by decide
  simpa using List.all_eq_true.mp hall b h

theorem isPadding_charOfByte {run : List UInt8} (h : ∀ b ∈ run, b ∈ paddingBytes) :
    ∀ c ∈ run.map charOfByte, isPadding c := by
  have hall : paddingBytes.all fun b => isPadding (charOfByte b) := by decide
  intro c hc
  obtain ⟨b, hb, rfl⟩ := List.mem_map.mp hc
  exact List.all_eq_true.mp hall b (h b hb)

theorem encodeUtf8_padding {run : List Char} (h : ∀ c ∈ run, isPadding c) : ∀ b ∈ encodeUtf8 run, b ∈ paddingBytes := by
  have hall : paddingChars.all fun c => (String.utf8EncodeChar c).all paddingBytes.contains := by decide
  intro b hb
  obtain ⟨c, hc, hmem⟩ := List.mem_flatMap.mp hb
  have hbytes := List.all_eq_true.mp hall c (isPadding_iff.mp (h c hc))
  exact List.contains_iff_mem.mp (List.all_eq_true.mp hbytes b hmem)

theorem trimPadding_append {cs run : List Char} (h : ∀ c ∈ run, isPadding c) :
    trimPadding (cs ++ run) = trimPadding cs := by
  unfold trimPadding
  rw [List.reverse_append, List.dropWhile_append_of_pos]
  simpa using h

theorem trimPadding_run (cs : List Char) : ∃ run, cs = trimPadding cs ++ run ∧ ∀ c ∈ run, isPadding c := by
  refine ⟨(cs.reverse.takeWhile isPadding).reverse, ?_, ?_⟩
  · rw [trimPadding, ← List.reverse_append, List.takeWhile_append_dropWhile, List.reverse_reverse]
  · intro c hc
    exact List.all_eq_true.mp List.all_takeWhile c (List.mem_reverse.mp hc)

theorem trimPadding_eq_self_iff {cs : List Char} :
    trimPadding cs = cs ↔ ∀ c, cs.getLast? = some c → c ∉ paddingChars := by
  rw [show trimPadding cs = cs.rdropWhile isPadding from rfl, List.rdropWhile_eq_self_iff]
  simp only [← isPadding_iff]
  constructor
  · intro h c hc
    obtain ⟨front, rfl⟩ := List.getLast?_eq_some_iff.mp hc
    simpa using h (by simp)
  · intro h hne
    exact h _ (List.getLast?_eq_some_getLast hne)

theorem padded_iff {t : String} {bs : List UInt8} :
    Padded t bs ↔ ∃ cs, bs = encodeUtf8 cs ∧ t = String.ofList (trimPadding cs) := by
  constructor
  · rintro ⟨⟨run, hbs, hrun⟩, htrimmed⟩
    refine ⟨t.toList ++ run.map charOfByte, ?_, ?_⟩
    · rw [hbs, encodeUtf8_append, encodeUtf8_bytes fun b hb => paddingByte_single (hrun b hb)]
    · rw [trimPadding_append (isPadding_charOfByte hrun), trimPadding_eq_self_iff.mpr htrimmed,
        String.ofList_toList]
  · rintro ⟨cs, hbs, ht⟩
    obtain ⟨run, hcs, hrun⟩ := trimPadding_run cs
    have hself : trimPadding (trimPadding cs) = trimPadding cs := by
      conv => rhs; rw [hcs, trimPadding_append hrun]
    subst ht
    refine ⟨⟨encodeUtf8 run, ?_, encodeUtf8_padding hrun⟩, ?_⟩
    · rw [hbs, String.toList_ofList, ← encodeUtf8_append, ← hcs]
    · rw [String.toList_ofList]
      exact trimPadding_eq_self_iff.mp hself

theorem padded_append_iff {t : String} {bs more : List UInt8} (h : ∀ b ∈ more, b ∈ paddingBytes) :
    Padded t (bs ++ more) ↔ Padded t bs := by
  constructor
  · intro hpadded
    obtain ⟨cs, hbs, ht⟩ := padded_iff.mp hpadded
    obtain ⟨front, hcs, hfront⟩ := encodeUtf8_eq_append (fun b hb => paddingByte_single (h b hb)) hbs.symm
    rw [hcs, trimPadding_append (isPadding_charOfByte h)] at ht
    exact padded_iff.mpr ⟨front, hfront, ht⟩
  · rintro ⟨⟨run, hbs, hrun⟩, htrimmed⟩
    refine ⟨⟨run ++ more, ?_, ?_⟩, htrimmed⟩
    · rw [hbs, List.append_assoc]
    · exact List.forall_mem_append.mpr ⟨hrun, h⟩

end Text

open Text

theorem bytesOfWords_append (ws more : List UInt16) :
    bytesOfWords (ws ++ more) = bytesOfWords ws ++ bytesOfWords more := List.flatMap_append

theorem bytesOfWords_ne_nil {ws : List UInt16} : bytesOfWords ws ≠ [] ↔ ws ≠ [] := by
  rw [ne_eq, ← List.length_eq_zero_iff, length_bytesOfWords, ← List.length_pos_iff]
  omega

namespace Decoder

variable {ws : List UInt16} {value : Value}

theorem fits_unfixed_iff {e : Encoding} {count : Nat} (unfixed : e.words = none) :
    (⟨e, []⟩ : Decoder).Fits count ↔ 0 < count := by
  refine and_iff_left ?_
  intro n hn
  cases unfixed.symm.trans hn

theorem decode_utf8_iff : (⟨.utf8, []⟩ : Decoder).decode ws = .ok value ↔
    ws ≠ [] ∧ ∃ t, value = .text t ∧ Padded t (bytesOfWords ws) := by
  rw [decode_base_iff, fits_unfixed_iff rfl, List.length_pos_iff]
  refine and_congr_right fun _ => ?_
  simp only [padded_iff]
  constructor
  · rintro ⟨⟩
    next cs hbytes => exact ⟨_, rfl, cs, hbytes, rfl⟩
  · rintro ⟨t, rfl, cs, hbytes, rfl⟩
    exact .utf8 hbytes

theorem decode_ascii_iff : (⟨.ascii, []⟩ : Decoder).decode ws = .ok value ↔
    (∀ b ∈ bytesOfWords ws, b < 0x80) ∧ (⟨.utf8, []⟩ : Decoder).decode ws = .ok value := by
  rw [decode_utf8_iff, decode_base_iff, fits_unfixed_iff rfl, List.length_pos_iff, and_left_comm]
  refine and_congr_right fun _ => ?_
  simp only [padded_iff]
  constructor
  · rintro ⟨valid⟩
    exact ⟨valid, _, rfl, _, (encodeUtf8_bytes valid).symm, rfl⟩
  · rintro ⟨valid, t, rfl, cs, hbytes, rfl⟩
    have hcs : cs = (bytesOfWords ws).map charOfByte := encodeUtf8_inj (by rw [← hbytes, encodeUtf8_bytes valid])
    subst hcs
    exact .ascii valid

theorem decode_ascii_exists (hne : ws ≠ []) (valid : ∀ b ∈ bytesOfWords ws, b < 0x80) :
    ∃ value, (⟨.ascii, []⟩ : Decoder).decode ws = .ok value := by
  refine ⟨_, decode_base_iff.mpr ⟨?_, .ascii valid⟩⟩
  rwa [fits_unfixed_iff rfl, List.length_pos_iff]

theorem decode_ascii_error_iff (h : (⟨.utf8, []⟩ : Decoder).decode ws = .ok value) :
    (∃ cause, (⟨.ascii, []⟩ : Decoder).decode ws = .error cause) ↔ ¬ ∀ b ∈ bytesOfWords ws, b < 0x80 := by
  cases hascii : (⟨.ascii, []⟩ : Decoder).decode ws with
  | error cause =>
    refine iff_of_true ⟨cause, rfl⟩ fun valid => ?_
    cases hascii.symm.trans (decode_ascii_iff.mpr ⟨valid, h⟩)
  | ok other =>
    refine iff_of_false ?_ (not_not.mpr (decode_ascii_iff.mp hascii).1)
    rintro ⟨cause, ⟨⟩⟩

theorem decode_utf8_append {more : List UInt16} (hne : ws ≠ []) (h : ∀ b ∈ bytesOfWords more, b ∈ paddingBytes) :
    (⟨.utf8, []⟩ : Decoder).decode (ws ++ more) = .ok value ↔ (⟨.utf8, []⟩ : Decoder).decode ws = .ok value := by
  simp only [decode_utf8_iff, bytesOfWords_append, padded_append_iff h]
  simp [hne]

theorem decode_ascii_append {more : List UInt16} (hne : ws ≠ []) (h : ∀ b ∈ bytesOfWords more, b ∈ paddingBytes) :
    (⟨.ascii, []⟩ : Decoder).decode (ws ++ more) = .ok value ↔ (⟨.ascii, []⟩ : Decoder).decode ws = .ok value := by
  rw [decode_ascii_iff, decode_ascii_iff, decode_utf8_append hne h, bytesOfWords_append, List.forall_mem_append]
  refine and_congr_left fun _ => and_iff_left ?_
  exact fun b hb => paddingByte_single (h b hb)

theorem decode_padding {more : List UInt16} (hne : more ≠ []) (h : ∀ b ∈ bytesOfWords more, b ∈ paddingBytes) :
    (⟨.utf8, []⟩ : Decoder).decode more = .ok (.text "") ∧ (⟨.ascii, []⟩ : Decoder).decode more = .ok (.text "") := by
  have hutf8 : (⟨.utf8, []⟩ : Decoder).decode more = .ok (.text "") :=
    decode_utf8_iff.mpr ⟨hne, "", rfl, ⟨bytesOfWords more, rfl, h⟩, by simp⟩
  exact ⟨hutf8, decode_ascii_iff.mpr ⟨fun b hb => paddingByte_single (h b hb), hutf8⟩⟩

end Decoder

/-- The text has a character that is none of ASCII just if its bytes and padding are not all below 0x80. -/
theorem Text.Padded.ascii_iff {t : String} {bs : List UInt8} (h : Padded t bs) :
    (∀ b ∈ bs, b < 0x80) ↔ ∀ c ∈ t.toList, c.toNat < 0x80 := by
  obtain ⟨run, hbs, hrun⟩ := h.bytes
  have hsingle : ∀ b ∈ run, b < 0x80 := fun b hb => paddingByte_single (hrun b hb)
  rw [hbs, List.forall_mem_append, and_iff_left hsingle]
  simp only [encodeUtf8, List.mem_flatMap, forall_exists_index, and_imp, ← encode_single_iff]
  exact ⟨fun h c hc b hb => h b c hc hb, fun h b c hc hb => h c hc b hb⟩

/--
Words are read as a text in UTF-8 just if there are any and their bytes are those of the text with padding behind it, in
which the text itself does not end. So a text that is packed into words, with padding or without, is read as itself less
the padding in which it ends. ASCII reads the same, and it reads just the words whose bytes are all below 0x80; where
only it fails, the text has another character than those of ASCII. Words of padding behind other words change nothing.
-/
theorem text_padded :
    (∀ ws value, (⟨.utf8, []⟩ : Decoder).decode ws = .ok value ↔
      ws ≠ [] ∧ ∃ t, value = .text t ∧ Padded t (bytesOfWords ws)) ∧
    (∀ (s : String) (fill bs : List UInt8), (∀ b ∈ fill, b ∈ paddingBytes) → bs = encodeUtf8 s.toList ++ fill →
      bs ≠ [] → bs.length % 2 = 0 →
      ∃ t run, s.toList = t.toList ++ run ∧ (∀ c ∈ run, c ∈ paddingChars) ∧
        (∀ c, t.toList.getLast? = some c → c ∉ paddingChars) ∧
        (⟨.utf8, []⟩ : Decoder).decode (wordsOfBytes bs) = .ok (.text t)) ∧
    (∀ ws, (∃ value, (⟨.ascii, []⟩ : Decoder).decode ws = .ok value) ↔
      ws ≠ [] ∧ (∀ b ∈ bytesOfWords ws, b < 0x80)) ∧
    (∀ ws value, (⟨.ascii, []⟩ : Decoder).decode ws = .ok value → (⟨.utf8, []⟩ : Decoder).decode ws = .ok value) ∧
    (∀ ws t, (⟨.utf8, []⟩ : Decoder).decode ws = .ok (.text t) →
      ((∃ cause, (⟨.ascii, []⟩ : Decoder).decode ws = .error cause) ↔ ∃ c ∈ t.toList, 0x80 ≤ c.toNat)) ∧
    ∀ e, e = Encoding.ascii ∨ e = Encoding.utf8 → ∀ ws more : List UInt16,
      (∀ b ∈ bytesOfWords more, b ∈ paddingBytes) →
      (ws ≠ [] → ∀ value,
        ((⟨e, []⟩ : Decoder).decode (ws ++ more) = .ok value ↔ (⟨e, []⟩ : Decoder).decode ws = .ok value)) ∧
      (more ≠ [] → (⟨e, []⟩ : Decoder).decode more = .ok (.text "")) := by
  refine ⟨fun ws value => Decoder.decode_utf8_iff, ?_, ?_, ?_, ?_, ?_⟩
  · rintro s fill bs hfill rfl hne heven
    have hwords : bytesOfWords (wordsOfBytes (encodeUtf8 s.toList ++ fill)) = encodeUtf8 s.toList ++ fill :=
      bytesOfWords_wordsOfBytes heven
    obtain ⟨run, hrun, hpadding⟩ := trimPadding_run s.toList
    have hpadded : Padded (String.ofList (trimPadding s.toList)) (encodeUtf8 s.toList ++ fill) :=
      (padded_append_iff hfill).mpr (padded_iff.mpr ⟨s.toList, rfl, rfl⟩)
    refine ⟨String.ofList (trimPadding s.toList), run, ?_, ?_, hpadded.trimmed, ?_⟩
    · rwa [String.toList_ofList]
    · exact fun c hc => isPadding_iff.mp (hpadding c hc)
    · rw [Decoder.decode_utf8_iff, ← bytesOfWords_ne_nil, hwords]
      exact ⟨hne, _, rfl, hpadded⟩
  · intro ws
    constructor
    · rintro ⟨value, h⟩
      obtain ⟨hvalid, hutf8⟩ := Decoder.decode_ascii_iff.mp h
      exact ⟨(Decoder.decode_utf8_iff.mp hutf8).1, hvalid⟩
    · rintro ⟨hne, hvalid⟩
      exact Decoder.decode_ascii_exists hne hvalid
  · intro ws value h
    exact (Decoder.decode_ascii_iff.mp h).2
  · intro ws t h
    obtain ⟨_, _, ⟨⟩, hpadded⟩ := Decoder.decode_utf8_iff.mp h
    rw [Decoder.decode_ascii_error_iff h, hpadded.ascii_iff]
    simp only [not_forall, Nat.not_lt, exists_prop]
  · rintro e (rfl | rfl) ws more h
    · exact ⟨fun hne value => Decoder.decode_ascii_append hne h, fun hne => (Decoder.decode_padding hne h).2⟩
    · exact ⟨fun hne value => Decoder.decode_utf8_append hne h, fun hne => (Decoder.decode_padding hne h).1⟩

-- A blank inside a text stays, and so does a vertical tab at its end.
example : (⟨.utf8, []⟩ : Decoder).decode [0x6120, 0xC3A9, 0x0B00, 0x200D] = .ok (.text "a é\x0B") := by rfl

end MeterPolling
