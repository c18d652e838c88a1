import MeterPolling.Plan

namespace MeterPolling

namespace Decoder

/-- The decoder with only the first factors, which stands inside the one with another factor. -/
def level (d : Decoder) (depth : Nat) : Decoder := ⟨d.encoding, d.factors.take depth⟩

def Fits (d : Decoder) (count : Nat) : Prop := 0 < count ∧ ∀ n, d.words = some n → n = count

/-- What may be wrong with words of the right number. -/
def Rejects (d : Decoder) : DecodeError → Prop
  | .sizeMismatch _ _ => False
  | .notAscii => d.encoding = .ascii
  | .utf8 _ => d.encoding = .utf8
  | .notNumeric => d.factors ≠ [] ∧ (d.encoding = .ascii ∨ d.encoding = .utf8 ∨ d.encoding = .raw)

variable {d : Decoder} {words : List UInt16} {cause : DecodeError}

theorem Fits.level {count : Nat} (h : d.Fits count) (depth : Nat) : (d.level depth).Fits count := h

end Decoder

theorem Encoding.checkSize_ok {d : Decoder} {count : Nat} (h : d.Fits count) :
    d.encoding.checkSize count = .ok () := by
  obtain ⟨hpos, hwords⟩ := h
  unfold checkSize
  split
  next n hn => rw [if_pos (hwords n hn).symm]
  next => rw [if_neg (by omega)]

theorem Encoding.words_pos {e : Encoding} {n : Nat} (h : e.words = some n) : 0 < n := by
  cases e with
  | ascii | utf8 | raw => cases h
  | u16 | i16 | u32 | i32 | u64 | i64 | f32 =>
    cases h
    decide

theorem Encoding.checkSize_error {d : Decoder} {count : Nat} (h : ¬ d.Fits count) :
    d.encoding.checkSize count = .error (.sizeMismatch (d.words.getD 1) count) := by
  unfold checkSize Decoder.words
  cases hw : d.encoding.words with
  | none =>
    have hzero : count = 0 := by
      by_cases hpos : 0 < count
      · refine absurd ⟨hpos, ?_⟩ h
        intro n hn
        cases hw.symm.trans hn
      · omega
    simp [hzero]
  | some n =>
    have hne : ¬ count = n := by
      intro hn
      have hpos := words_pos hw
      refine h ⟨by omega, ?_⟩
      intro k hk
      have hkn : k = n := Option.some.inj (hk.symm.trans hw)
      omega
    simp [hne]

namespace Encoding

variable {words : List UInt16}

def Valid (words : List UInt16) : Encoding → Prop
  | .ascii => ∀ b ∈ bytesOfWords words, b < 0x80
  | .utf8 => ∃ cs : List Char, bytesOfWords words = cs.flatMap String.utf8EncodeChar
  | _ => True

inductive Spoils (words : List UInt16) : Encoding → DecodeError → Prop
  | ascii (invalid : ¬ Encoding.ascii.Valid words) : Spoils words .ascii .notAscii
  | utf8 {defect : Text.Utf8Defect} (invalid : Text.decodeUtf8 (bytesOfWords words) = .error defect) :
      Spoils words .utf8 (.utf8 defect)

theorem read_eq_error_iff {e : Encoding} {cause : DecodeError} :
    e.read words = .error cause ↔ e.Spoils words cause := by
  constructor
  · intro h
    cases e with
    | ascii =>
      simp only [read] at h
      split at h
      next => cases h
      next hall =>
        cases h
        exact .ascii (by simpa [Valid] using hall)
    | utf8 =>
      simp only [read] at h
      split at h
      next => cases h
      next defect hdefect =>
        cases h
        exact .utf8 hdefect
    | u16 | i16 | u32 | i32 | u64 | i64 | f32 | raw => cases h
  · intro h
    cases h with
    | ascii invalid =>
      have hall : ¬ (bytesOfWords words).all (· < 0x80) := by simpa [Valid] using invalid
      simp only [read, hall]
      rfl
    | utf8 invalid => simp only [read, invalid]

theorem read_number_iff {e : Encoding} {value : Value} (h : e.read words = .ok value) :
    value.toBinary64? = none ↔ e.words = none := by
  cases e with
  | ascii =>
    simp only [read] at h
    split at h
    next =>
      cases h
      exact iff_of_true rfl rfl
    next => cases h
  | utf8 =>
    simp only [read] at h
    split at h
    next =>
      cases h
      exact iff_of_true rfl rfl
    next => cases h
  | raw =>
    cases h
    exact iff_of_true rfl rfl
  | u16 | i16 | u32 | i32 | u64 | i64 | f32 =>
    cases h
    exact iff_of_false (Option.some_ne_none _) (Option.some_ne_none _)

end Encoding

theorem Encoding.words_eq_none_iff {e : Encoding} :
    e.words = none ↔ e = .ascii ∨ e = .utf8 ∨ e = .raw := by
  cases e <;> decide

theorem Value.scale_all {value : Value} {x : Binary64} (h : value.toBinary64? = some x) (factor : Binary64)
    (rest : List Binary64) :
    (factor :: rest).foldlM Value.scale value = .ok (.f64 ((factor :: rest).foldl (· * ·) x)) := by
  induction rest generalizing value x factor with
  | nil => simp [Value.scale, h]
  | cons next rest ih =>
    have hfirst : value.scale factor = .ok (.f64 (x * factor)) := by
      simp only [Value.scale, h]
    have hnumber : (Value.f64 (x * factor)).toBinary64? = some (x * factor) := rfl
    rw [List.foldlM_cons, hfirst]
    exact ih hnumber next

theorem Value.scale_none {value : Value} (h : value.toBinary64? = none) (factor : Binary64)
    (rest : List Binary64) : (factor :: rest).foldlM Value.scale value = .error .notNumeric := by
  have hfirst : value.scale factor = .error .notNumeric := by
    simp only [Value.scale, h]
  rw [List.foldlM_cons, hfirst]
  rfl

theorem Value.scale_error_iff {value : Value} {factors : List Binary64} {cause : DecodeError} :
    factors.foldlM Value.scale value = .error cause ↔
      factors ≠ [] ∧ value.toBinary64? = none ∧ cause = .notNumeric := by
  cases factors with
  | nil =>
    constructor
    · intro h
      cases h
    · intro h
      exact absurd rfl h.1
  | cons factor rest =>
    cases hx : value.toBinary64? with
    | none =>
      rw [scale_none hx]
      simp [eq_comm]
    | some x =>
      rw [scale_all hx]
      simp

namespace Decoder

variable {d : Decoder} {words : List UInt16} {cause : DecodeError}

theorem decode_eq (h : d.Fits words.length) :
    d.decode words = d.encoding.read words >>= d.factors.foldlM Value.scale := by
  unfold decode
  rw [Encoding.checkSize_ok h]
  rfl

theorem decode_error_of_fits (h : d.Fits words.length) :
    d.decode words = .error cause ↔ d.encoding.Spoils words cause ∨
      ∃ base, d.encoding.read words = .ok base ∧ d.factors ≠ [] ∧ base.toBinary64? = none ∧
        cause = .notNumeric := by
  rw [decode_eq h, ← Encoding.read_eq_error_iff]
  simp only [← Value.scale_error_iff]
  cases d.encoding.read words with
  | error first => simp [bind, Except.bind]
  | ok base => simp [bind, Except.bind]

theorem decode_error (h : d.Fits words.length) (he : d.decode words = .error cause) :
    d.Rejects cause := by
  rcases (decode_error_of_fits h).mp he with hspoils | ⟨base, hread, hfactors, hnumber, hcause⟩
  · generalize hencoding : d.encoding = e at hspoils
    cases hspoils with
    | ascii invalid => exact hencoding
    | utf8 invalid => exact hencoding
  · subst hcause
    exact ⟨hfactors, Encoding.words_eq_none_iff.mp ((Encoding.read_number_iff hread).mp hnumber)⟩

theorem Rejects.unfixed (h : d.Rejects cause) : d.words = none ∧ d ≠ ⟨.raw, []⟩ := by
  obtain ⟨encoding, factors⟩ := d
  cases cause with
  | sizeMismatch => exact h.elim
  | notAscii =>
    cases h
    exact ⟨rfl, by simp⟩
  | utf8 defect =>
    cases h
    exact ⟨rfl, by simp⟩
  | notNumeric =>
    obtain ⟨hfactors, hencoding⟩ := h
    refine ⟨Encoding.words_eq_none_iff.mpr hencoding, ?_⟩
    intro he
    cases he
    exact hfactors rfl

end Decoder

namespace ReadCommand

variable {c : ReadCommand} {words : List UInt16}

theorem fits (sound : (Command.read c).defect? = none) : c.decoder.Fits c.count.toNat := by
  simp only [Command.defect?] at sound
  split at sound
  next => cases sound
  next hpos =>
    split at sound
    next => cases sound
    next =>
      refine ⟨by omega, ?_⟩
      intro n hn
      simp only [hn] at sound
      split at sound
      next he => exact he
      next => cases sound

theorem decode_eq (h : words.length = c.count.toNat) : c.decode words = c.decoder.decode words := by
  unfold decode
  rw [if_pos h]

end ReadCommand

end MeterPolling
