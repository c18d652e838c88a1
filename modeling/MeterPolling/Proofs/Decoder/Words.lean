import Mathlib.Algebra.Group.Int.Defs
import Mathlib.Algebra.Group.Nat.Defs
import MeterPolling.Proofs.Decoder
import MeterPolling.Proofs.Text.Utf8

namespace MeterPolling

theorem natOfWords_lt (ws : List UInt16) : natOfWords ws < 65536 ^ ws.length := by
  have hfrom : ∀ n k, n < k →
      ws.foldl (fun n (w : UInt16) => n * 65536 + w.toNat) n < k * 65536 ^ ws.length := by
    induction ws with
    | nil =>
      intro n k hn
      simpa using hn
    | cons w ws ih =>
      intro n k hn
      have hw := w.toNat_lt
      have hfirst := ih (n * 65536 + w.toNat) (k * 65536) (by omega)
      rw [List.foldl_cons, List.length_cons, Nat.pow_succ', ← Nat.mul_assoc]
      exact hfirst
  have hzero := hfrom 0 1 (by omega)
  rwa [Nat.one_mul] at hzero

/-- The whole number that a pattern of this many bits stands for if its first bit is the sign. -/
def signed (bits pattern : Nat) : Int := if 2 * pattern < 2 ^ bits then pattern else pattern - 2 ^ bits

theorem signed_eq {bits pattern : Nat} (x : BitVec bits) (h : x.toNat = pattern) :
    x.toInt = signed bits pattern := by
  rw [BitVec.toInt_eq_toNat_cond, h, signed]
  simp

theorem toInt16_ofNat {pattern : Nat} (h : pattern < 2 ^ 16) {n : Int16} :
    (UInt16.ofNat pattern).toInt16 = n ↔ n.toInt = signed 16 pattern := by
  have hpattern : (UInt16.ofNat pattern).toNat = pattern := UInt16.toNat_ofNat_of_lt' h
  rw [← Int16.toInt_inj, ← signed_eq (UInt16.ofNat pattern).toBitVec hpattern]
  exact eq_comm

theorem toInt32_ofNat {pattern : Nat} (h : pattern < 2 ^ 32) {n : Int32} :
    (UInt32.ofNat pattern).toInt32 = n ↔ n.toInt = signed 32 pattern := by
  have hpattern : (UInt32.ofNat pattern).toNat = pattern := UInt32.toNat_ofNat_of_lt' h
  rw [← Int32.toInt_inj, ← signed_eq (UInt32.ofNat pattern).toBitVec hpattern]
  exact eq_comm

theorem toInt64_ofNat {pattern : Nat} (h : pattern < 2 ^ 64) {n : Int64} :
    (UInt64.ofNat pattern).toInt64 = n ↔ n.toInt = signed 64 pattern := by
  have hpattern : (UInt64.ofNat pattern).toNat = pattern := UInt64.toNat_ofNat_of_lt' h
  rw [← Int64.toInt_inj, ← signed_eq (UInt64.ofNat pattern).toBitVec hpattern]
  exact eq_comm

namespace Encoding

variable {words : List UInt16}

/-- What words hold in an encoding, apart from how they are read. -/
inductive Holds (words : List UInt16) : Encoding → Value → Prop
  | ascii (valid : ∀ b ∈ bytesOfWords words, b < 0x80) :
      Holds words .ascii (.text (String.ofList (Text.trimPadding
        ((bytesOfWords words).map fun b => Char.ofNat b.toNat))))
  | utf8 {cs : List Char} (text : bytesOfWords words = cs.flatMap String.utf8EncodeChar) :
      Holds words .utf8 (.text (String.ofList (Text.trimPadding cs)))
  | u16 {n : UInt16} (number : n.toNat = natOfWords words) : Holds words .u16 (.u16 n)
  | i16 {n : Int16} (number : n.toInt = signed 16 (natOfWords words)) : Holds words .i16 (.i16 n)
  | u32 {n : UInt32} (number : n.toNat = natOfWords words) : Holds words .u32 (.u32 n)
  | i32 {n : Int32} (number : n.toInt = signed 32 (natOfWords words)) : Holds words .i32 (.i32 n)
  | u64 {n : UInt64} (number : n.toNat = natOfWords words) : Holds words .u64 (.u64 n)
  | i64 {n : Int64} (number : n.toInt = signed 64 (natOfWords words)) : Holds words .i64 (.i64 n)
  | f32 {x : Binary32} (pattern : x.bits.toNat = natOfWords words) : Holds words .f32 (.f32 x)
  | raw : Holds words .raw (.bytes (bytesOfWords words))

theorem Holds.valid {e : Encoding} {value : Value} (h : e.Holds words value) : e.Valid words := by
  cases h with
  | ascii valid => exact valid
  | utf8 text => exact ⟨_, text⟩
  | _ => trivial

theorem spoils_iff {e : Encoding} : (∃ cause, e.Spoils words cause) ↔ ¬ e.Valid words := by
  constructor
  · rintro ⟨cause, h⟩
    cases h with
    | ascii invalid => exact invalid
    | utf8 invalid => exact Text.decodeUtf8_error_iff.mp ⟨_, invalid⟩
  · intro h
    cases e with
    | ascii => exact ⟨_, .ascii h⟩
    | utf8 =>
      obtain ⟨defect, hdefect⟩ := Text.decodeUtf8_error_iff.mpr h
      exact ⟨_, .utf8 hdefect⟩
    | u16 | i16 | u32 | i32 | u64 | i64 | f32 | raw => exact absurd trivial h

theorem natOfWords_lt_of_words {e : Encoding} {n : Nat} (h : ∀ n, e.words = some n → n = words.length)
    (hn : e.words = some n) : natOfWords words < 65536 ^ n := by
  have hlt := natOfWords_lt words
  rwa [← h n hn] at hlt

theorem Holds.read {e : Encoding} {value : Value} (holds : e.Holds words value)
    (h : ∀ n, e.words = some n → n = words.length) : e.read words = .ok value := by
  cases holds with
  | ascii valid =>
    have hall : (bytesOfWords words).all (· < 0x80) := by simpa using valid
    simp only [Encoding.read, hall, ↓reduceIte]
  | utf8 text => simp only [Encoding.read, Text.decodeUtf8_eq_ok_iff.mpr text]
  | u16 number => rw [Encoding.read, ← number, UInt16.ofNat_toNat]
  | i16 number => rw [Encoding.read, (toInt16_ofNat (natOfWords_lt_of_words h rfl)).mpr number]
  | u32 number => rw [Encoding.read, ← number, UInt32.ofNat_toNat]
  | i32 number => rw [Encoding.read, (toInt32_ofNat (natOfWords_lt_of_words h rfl)).mpr number]
  | u64 number => rw [Encoding.read, ← number, UInt64.ofNat_toNat]
  | i64 number => rw [Encoding.read, (toInt64_ofNat (natOfWords_lt_of_words h rfl)).mpr number]
  | f32 pattern => rw [Encoding.read, ← pattern, UInt32.ofNat_toNat]
  | raw => rfl

theorem holds_of_read {e : Encoding} {value : Value} (hread : e.read words = .ok value)
    (h : ∀ n, e.words = some n → n = words.length) : e.Holds words value := by
  have hlt := fun n => natOfWords_lt_of_words (n := n) h
  cases e with
  | ascii =>
    simp only [read] at hread
    split at hread
    next hall =>
      cases hread
      exact .ascii (by simpa using hall)
    next => cases hread
  | utf8 =>
    simp only [read] at hread
    split at hread
    next cs hcs =>
      cases hread
      exact .utf8 (Text.decodeUtf8_eq_ok_iff.mp hcs)
    next => cases hread
  | u16 =>
    cases hread
    exact .u16 (UInt16.toNat_ofNat_of_lt' (hlt 1 rfl))
  | i16 =>
    cases hread
    exact .i16 ((toInt16_ofNat (hlt 1 rfl)).mp rfl)
  | u32 =>
    cases hread
    exact .u32 (UInt32.toNat_ofNat_of_lt' (hlt 2 rfl))
  | i32 =>
    cases hread
    exact .i32 ((toInt32_ofNat (hlt 2 rfl)).mp rfl)
  | u64 =>
    cases hread
    exact .u64 (UInt64.toNat_ofNat_of_lt' (hlt 4 rfl))
  | i64 =>
    cases hread
    exact .i64 ((toInt64_ofNat (hlt 4 rfl)).mp rfl)
  | f32 =>
    cases hread
    exact .f32 (UInt32.toNat_ofNat_of_lt' (hlt 2 rfl))
  | raw =>
    cases hread
    exact .raw

/-- On as many words as the encoding wants, reading finds what they hold and nothing else. -/
theorem read_eq_ok_iff {e : Encoding} {value : Value} (h : ∀ n, e.words = some n → n = words.length) :
    e.read words = .ok value ↔ e.Holds words value :=
  ⟨fun hread => holds_of_read hread h, fun holds => holds.read h⟩

theorem holds_exists {e : Encoding} (valid : e.Valid words) (h : ∀ n, e.words = some n → n = words.length) :
    ∃ value, e.Holds words value := by
  cases hr : e.read words with
  | error cause => exact absurd valid (spoils_iff.mp ⟨cause, read_eq_error_iff.mp hr⟩)
  | ok value => exact ⟨value, (read_eq_ok_iff h).mp hr⟩

end Encoding

end MeterPolling
