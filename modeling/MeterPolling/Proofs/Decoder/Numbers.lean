import Mathlib.Algebra.BigOperators.Fin
import Mathlib.Data.Int.ModEq
import Mathlib.Tactic.Ring
import MeterPolling.Proofs.Decoder.Outcome

namespace MeterPolling

def bigEndian : Nat → Nat → List UInt8
  | 0, _ => []
  | count + 1, n => UInt8.ofNat (n / 256 ^ count % 256) :: bigEndian count n

def twosComplement (count : Nat) (n : Int) : List UInt8 := bigEndian count (n % 256 ^ count).toNat

theorem length_bigEndian (count n : Nat) : (bigEndian count n).length = count := by
  induction count with
  | zero => rfl
  | succ count ih => rw [bigEndian, List.length_cons, ih]

theorem foldl_digits {α : Type} (base : Nat) (digit : α → Nat) (start : Nat) (ds : List α) :
    ds.foldl (fun n d => n * base + digit d) start =
      start * base ^ ds.length + ds.foldl (fun n d => n * base + digit d) 0 := by
  induction ds generalizing start with
  | nil => simp
  | cons d ds ih =>
    rw [List.foldl_cons, List.foldl_cons, ih, ih (0 * base + digit d), List.length_cons]
    ring

theorem natOfWords_cons (w : UInt16) (ws : List UInt16) :
    natOfWords (w :: ws) = w.toNat * 65536 ^ ws.length + natOfWords ws := by
  rw [natOfWords, List.foldl_cons, foldl_digits, Nat.zero_mul, Nat.zero_add]
  rfl

theorem natOfBytes_cons (b : UInt8) (bs : List UInt8) :
    natOfBytes (b :: bs) = b.toNat * 256 ^ bs.length + natOfBytes bs := by
  rw [natOfBytes, List.foldl_cons, foldl_digits, Nat.zero_mul, Nat.zero_add]
  rfl

theorem natOfWords_lt_two_pow (ws : List UInt16) : natOfWords ws < 2 ^ (16 * ws.length) := by
  rw [Nat.pow_mul]
  exact natOfWords_lt ws

theorem natOfWords_eq_sum (ws : List UInt16) :
    natOfWords ws = ∑ i : Fin ws.length, ws[i].toNat * 65536 ^ (ws.length - 1 - i) := by
  induction ws with
  | nil => rfl
  | cons w ws ih =>
    rw [natOfWords_cons, ih]
    refine Eq.trans ?_ (Fin.sum_univ_succ (n := ws.length) _).symm
    simp [Nat.add_comm, Nat.sub_sub]

theorem natOfBytes_lt (bs : List UInt8) : natOfBytes bs < 256 ^ bs.length := by
  induction bs with
  | nil => decide
  | cons b bs ih =>
    have hb : b.toNat ≤ 255 := by
      have hlt := b.toNat_lt
      omega
    rw [natOfBytes_cons, List.length_cons, Nat.pow_succ']
    calc b.toNat * 256 ^ bs.length + natOfBytes bs < b.toNat * 256 ^ bs.length + 256 ^ bs.length := by omega
      _ ≤ 255 * 256 ^ bs.length + 256 ^ bs.length := Nat.add_le_add_right (Nat.mul_le_mul_right _ hb) _
      _ = 256 * 256 ^ bs.length := by ring

theorem natOfBytes_inj {as bs : List UInt8} (hlength : as.length = bs.length) (h : natOfBytes as = natOfBytes bs) :
    as = bs := by
  induction as generalizing bs with
  | nil => exact (List.length_eq_zero_iff.mp hlength.symm).symm
  | cons a as ih =>
    cases bs with
    | nil => cases hlength
    | cons b bs =>
      have hrest : as.length = bs.length := Nat.succ.inj hlength
      have hpos : 0 < 256 ^ bs.length := Nat.pow_pos (by decide)
      have ha := natOfBytes_lt as
      have hb := natOfBytes_lt bs
      rw [natOfBytes_cons, natOfBytes_cons, hrest] at h
      rw [hrest] at ha
      have hfirst : a.toNat = b.toNat := by
        have hdiv := congrArg (· / 256 ^ bs.length) h
        simpa [Nat.mul_add_div hpos, Nat.mul_comm _ (256 ^ bs.length), Nat.div_eq_of_lt, ha, hb] using hdiv
      rw [hfirst] at h
      rw [UInt8.toNat_inj.mp hfirst, ih hrest (Nat.add_left_cancel h)]

theorem natOfBytes_bigEndian (count n : Nat) : natOfBytes (bigEndian count n) = n % 256 ^ count := by
  induction count with
  | zero => simp [bigEndian, natOfBytes, Nat.mod_one]
  | succ count ih =>
    have hbyte : (UInt8.ofNat (n / 256 ^ count % 256)).toNat = n / 256 ^ count % 256 := by
      rw [UInt8.toNat_ofNat']
      omega
    rw [bigEndian, natOfBytes_cons, ih, hbyte, length_bigEndian, Nat.pow_succ, Nat.mod_mul]
    ring

theorem eq_wordsOfBytes_iff {k n : Nat} (ws : List UInt16) :
    ws = wordsOfBytes (bigEndian (2 * k) n) ↔ ws.length = k ∧ natOfWords ws = n % 65536 ^ k := by
  have hpower : 256 ^ (2 * k) = 65536 ^ k := by rw [Nat.pow_mul]
  have hbytes : bytesOfWords (wordsOfBytes (bigEndian (2 * k) n)) = bigEndian (2 * k) n := by
    refine bytesOfWords_wordsOfBytes ?_
    rw [length_bigEndian]
    omega
  constructor
  · rintro rfl
    have hlength := congrArg List.length hbytes
    rw [length_bytesOfWords, length_bigEndian] at hlength
    refine ⟨by omega, ?_⟩
    rw [← natOfBytes_bytesOfWords, hbytes, natOfBytes_bigEndian, hpower]
  · rintro ⟨hlength, hnumber⟩
    have hsame : bytesOfWords ws = bigEndian (2 * k) n := by
      refine natOfBytes_inj ?_ ?_
      · rw [length_bytesOfWords, length_bigEndian, hlength]
      · rw [natOfBytes_bytesOfWords, natOfBytes_bigEndian, hpower, hnumber]
    rw [← hsame, wordsOfBytes_bytesOfWords]

theorem eq_toNat_emod_iff {n : Int} {pattern size : Nat} (h : pattern < size) :
    pattern = (n % size).toNat % size ↔ n ≡ pattern [ZMOD size] := by
  have hlow := Int.emod_nonneg n (by omega : (size : Int) ≠ 0)
  have hhigh := Int.emod_lt_of_pos n (by omega : 0 < (size : Int))
  rw [Nat.mod_eq_of_lt (by omega), Int.ModEq, Int.emod_eq_of_lt (by omega) (by omega : (pattern : Int) < size)]
  omega

namespace Encoding

def isSigned : Encoding → Bool
  | .i16 | .i32 | .i64 => true
  | _ => false

def range (e : Encoding) (count : Nat) : Set Int :=
  if e.isSigned then { n | -2 ^ (16 * count - 1) ≤ n ∧ n < 2 ^ (16 * count - 1) }
  else { n | 0 ≤ n ∧ n < 2 ^ (16 * count) }

/-- The value is of the encoding's own kind and carries this number, which is the bit pattern if it is a float. -/
inductive Carries : Encoding → Value → Int → Prop
  | u16 (n : UInt16) : Carries .u16 (.u16 n) n.toNat
  | i16 (n : Int16) : Carries .i16 (.i16 n) n.toInt
  | u32 (n : UInt32) : Carries .u32 (.u32 n) n.toNat
  | i32 (n : Int32) : Carries .i32 (.i32 n) n.toInt
  | u64 (n : UInt64) : Carries .u64 (.u64 n) n.toNat
  | i64 (n : Int64) : Carries .i64 (.i64 n) n.toInt
  | f32 (x : Binary32) : Carries .f32 (.f32 x) x.bits.toNat

/-- The number that a pattern of so many bits stands for. -/
def ofPattern (e : Encoding) (bits pattern : Nat) : Int := if e.isSigned then signed bits pattern else pattern

variable {e : Encoding} {k : Nat}

/-- No two numbers of the range differ by a multiple of its size. -/
theorem eq_of_modEq {m n : Int} (hk : 0 < k) (hm : m ∈ e.range k) (hn : n ∈ e.range k)
    (h : m ≡ n [ZMOD 2 ^ (16 * k)]) : m = n := by
  have hhalf : (2 : Int) ^ (16 * k) = 2 ^ (16 * k - 1) + 2 ^ (16 * k - 1) := by
    rw [← Int.two_mul, ← Int.pow_succ']
    congr 1
    omega
  have hbound : |n - m| < 2 ^ (16 * k) := by
    unfold range at hm hn
    rw [abs_lt]
    split at hm
    next hsigned =>
      rw [if_pos hsigned] at hn
      obtain ⟨hlow, hhigh⟩ := hm
      obtain ⟨hlow', hhigh'⟩ := hn
      omega
    next hsigned =>
      rw [if_neg hsigned] at hn
      obtain ⟨hlow, hhigh⟩ := hm
      obtain ⟨hlow', hhigh'⟩ := hn
      omega
  have hzero := Int.eq_zero_of_abs_lt_dvd h.dvd hbound
  omega

theorem ofPattern_modEq (bits pattern : Nat) : e.ofPattern bits pattern ≡ pattern [ZMOD 2 ^ bits] := by
  unfold ofPattern signed
  split
  next =>
    split
    next => rfl
    next => exact (Int.modEq_sub_modulus_iff.mpr rfl).symm
  next => rfl

theorem ofPattern_mem_range {pattern : Nat} (hk : 0 < k) (h : pattern < 2 ^ (16 * k)) :
    e.ofPattern (16 * k) pattern ∈ e.range k := by
  have hhalf : 2 ^ (16 * k) = 2 * 2 ^ (16 * k - 1) := by
    rw [← Nat.pow_succ']
    congr 1
    omega
  have hcast : ((2 ^ (16 * k - 1) : Nat) : Int) = 2 ^ (16 * k - 1) := by push_cast; rfl
  have hcast' : ((2 ^ (16 * k) : Nat) : Int) = 2 ^ (16 * k) := by push_cast; rfl
  unfold ofPattern range signed
  split
  next =>
    split
    next => exact ⟨by omega, by omega⟩
    next => exact ⟨by omega, by omega⟩
  next => exact ⟨by omega, by omega⟩

theorem Carries.of_eq {value : Value} {m n : Int} (h : e.Carries value m) (he : m = n) : e.Carries value n :=
  he ▸ h

theorem holds_iff_carries {ws : List UInt16} {value : Value} (fixed : e.words = some k) :
    e.Holds ws value ↔ e.Carries value (e.ofPattern (16 * k) (natOfWords ws)) := by
  constructor
  · intro h
    cases h with
    | ascii | utf8 | raw => cases fixed
    | u16 number | u32 number | u64 number | f32 number =>
      cases fixed
      exact .of_eq (by constructor) (congrArg Int.ofNat number)
    | i16 number | i32 number | i64 number =>
      cases fixed
      exact .of_eq (by constructor) number
  · intro h
    generalize hn : e.ofPattern (16 * k) (natOfWords ws) = n at h
    cases h with
    | u16 n | u32 n | u64 n | f32 x =>
      cases fixed
      constructor
      exact Int.ofNat_inj.mp hn.symm
    | i16 n | i32 n | i64 n =>
      cases fixed
      constructor
      exact hn.symm

theorem Carries.mem_range {value : Value} {n : Int} (h : e.Carries value n) (fixed : e.words = some k) :
    n ∈ e.range k := by
  cases h with
  | u16 n | u32 n | u64 n =>
    cases fixed
    exact ⟨Int.natCast_nonneg _, by exact_mod_cast n.toNat_lt⟩
  | f32 x =>
    cases fixed
    exact ⟨Int.natCast_nonneg _, by exact_mod_cast x.bits.toNat_lt⟩
  | i16 n | i32 n | i64 n =>
    cases fixed
    exact ⟨n.le_toInt, n.toInt_lt⟩

theorem Carries.unique {value : Value} {m n : Int} (hm : e.Carries value m) (hn : e.Carries value n) : m = n := by
  cases hm <;> cases hn <;> rfl

end Encoding

namespace Decoder

variable {e : Encoding} {k : Nat}

theorem fits_iff {count : Nat} (fixed : e.words = some k) : (⟨e, []⟩ : Decoder).Fits count ↔ count = k := by
  constructor
  · intro hfits
    exact (hfits.2 k fixed).symm
  · rintro rfl
    refine ⟨Encoding.words_pos fixed, ?_⟩
    intro n hn
    exact Option.some.inj (hn.symm.trans fixed)

theorem decode_number_iff {ws : List UInt16} {value : Value} (fixed : e.words = some k) :
    (⟨e, []⟩ : Decoder).decode ws = .ok value ↔
      ws.length = k ∧ e.Carries value (e.ofPattern (16 * k) (natOfWords ws)) := by
  rw [decode_base_iff, fits_iff fixed, Encoding.holds_iff_carries fixed]

theorem decode_carried_iff {ws : List UInt16} {value : Value} {n : Int} (fixed : e.words = some k)
    (h : e.Carries value n) :
    (⟨e, []⟩ : Decoder).decode ws = .ok value ↔ ws = wordsOfBytes (twosComplement (2 * k) n) := by
  have hk := Encoding.words_pos fixed
  have hbytes : (256 : Int) ^ (2 * k) = (2 ^ (16 * k) : Nat) := by
    push_cast
    rw [Int.pow_mul, Int.pow_mul]
    rfl
  have hwords : 65536 ^ k = 2 ^ (16 * k) := by rw [Nat.pow_mul]
  have hpattern := Encoding.ofPattern_modEq (e := e) (16 * k) (natOfWords ws)
  rw [decode_number_iff fixed, twosComplement, hbytes, eq_wordsOfBytes_iff, hwords]
  refine and_congr_right fun hlength => ?_
  have hlt := natOfWords_lt_two_pow ws
  rw [hlength] at hlt
  rw [eq_toNat_emod_iff hlt]
  push_cast
  constructor
  · intro hcarries
    rwa [hcarries.unique h] at hpattern
  · intro hmod
    have hrange := Encoding.ofPattern_mem_range (e := e) hk hlt
    exact h.of_eq (Encoding.eq_of_modEq hk (h.mem_range fixed) hrange (hmod.trans hpattern.symm))

theorem decode_raw_bytes {count : Nat} {bs : List UInt8} (hlength : bs.length = 2 * count) (hpos : 0 < count) :
    (⟨.raw, []⟩ : Decoder).decode (wordsOfBytes bs) = .ok (.bytes bs) := by
  have hbytes : bytesOfWords (wordsOfBytes bs) = bs := bytesOfWords_wordsOfBytes (by omega)
  have hwords := congrArg List.length hbytes
  rw [length_bytesOfWords] at hwords
  rw [decode_base_iff]
  refine ⟨⟨by omega, by rintro n ⟨⟩⟩, ?_⟩
  have hholds : Encoding.raw.Holds (wordsOfBytes bs) (.bytes (bytesOfWords (wordsOfBytes bs))) := .raw
  rwa [hbytes] at hholds

theorem decode_number_exists {ws : List UInt16} (fixed : e.words = some k) (hlength : ws.length = k) :
    ∃ value, (⟨e, []⟩ : Decoder).decode ws = .ok value := by
  have hfits : (⟨e, []⟩ : Decoder).Fits ws.length := (fits_iff fixed).mpr hlength
  have hvalid : e.Valid ws := by
    cases e with
    | ascii | utf8 | raw => cases fixed
    | _ => trivial
  obtain ⟨value, hholds⟩ := Encoding.holds_exists hvalid hfits.2
  exact ⟨value, decode_base_iff.mpr ⟨hfits, hholds⟩⟩

end Decoder

/--
Words as many as a kind of number takes are read as the only number of its range that is their sum in base 65536, but
for a multiple of the size of the range; without a sign, and as the bit pattern of a float, it is that sum. A block of
zeros that is filled with their bytes spells the same number. Each number is read from one list of words only, which are
its bytes in two's complement, the most significant one first, and which show these bytes when they are read as they are.
-/
theorem numbers_big_endian {e : Encoding} {k : Nat} (fixed : e.words = some k) :
    (∀ ws : List UInt16, ws.length = k →
      ∃ value n, (⟨e, []⟩ : Decoder).decode ws = .ok value ∧
        (NestedDecoder.base e).decode? ws = some (.ok value) ∧ e.Carries value n ∧ n ∈ e.range k ∧
        let sum := ∑ i : Fin ws.length, ws[i].toNat * 65536 ^ (k - 1 - i)
        n ≡ sum [ZMOD 2 ^ (16 * k)] ∧ (∀ m ∈ e.range k, m ≡ sum [ZMOD 2 ^ (16 * k)] → m = n) ∧
        (e.isSigned = false → n = sum)) ∧
    ∀ value n, e.Carries value n →
      (∀ ws, (⟨e, []⟩ : Decoder).decode ws = .ok value ↔ ws = wordsOfBytes (twosComplement (2 * k) n)) ∧
      (⟨.raw, []⟩ : Decoder).decode (wordsOfBytes (twosComplement (2 * k) n)) =
        .ok (.bytes (twosComplement (2 * k) n)) := by
  have hk := Encoding.words_pos fixed
  refine ⟨?_, ?_⟩
  · intro ws hlength
    obtain ⟨value, hdecode⟩ := Decoder.decode_number_exists fixed hlength
    have hcarries := ((Decoder.decode_number_iff fixed).mp hdecode).2
    have hlt := natOfWords_lt_two_pow ws
    rw [hlength] at hlt
    have hrange := Encoding.ofPattern_mem_range (e := e) hk hlt
    have hmod := Encoding.ofPattern_modEq (e := e) (16 * k) (natOfWords ws)
    have hfilled : (NestedDecoder.base e).decode? ws = some (.ok value) := by
      rw [NestedDecoder.decode?_eq, ← hdecode]
      rfl
    refine ⟨value, _, hdecode, hfilled, hcarries, hrange, ?_⟩
    rw [← hlength, ← natOfWords_eq_sum, hlength]
    refine ⟨hmod, ?_, ?_⟩
    · intro m hm hsum
      exact Encoding.eq_of_modEq hk hm hrange (hsum.trans hmod.symm)
    · intro hunsigned
      rw [Encoding.ofPattern, if_neg (by rw [hunsigned]; decide)]
  · intro value n hcarries
    refine ⟨fun ws => Decoder.decode_carried_iff fixed hcarries, ?_⟩
    exact Decoder.decode_raw_bytes (length_bigEndian _ _) hk

theorem numbers_big_endian_minus_two :
    Encoding.i32.words = some 2 ∧ Encoding.i32.Carries (.i32 (-2)) (-2) ∧
      ∀ ws, (⟨.i32, []⟩ : Decoder).decode ws = .ok (.i32 (-2)) ↔ ws = [0xFFFF, 0xFFFE] :=
  ⟨rfl, .i32 (-2), ((numbers_big_endian (e := .i32) rfl).2 _ _ (.i32 (-2))).1⟩

end MeterPolling
