import MeterPolling.Proofs.Output.JsonText
import MeterPolling.Value

namespace MeterPolling

namespace Decimal

theorem digitCount_le_iff {n k : Nat} (hk : 0 < k) : digitCount n ≤ k ↔ n < Nat.pow 10 k :=
  Nat.length_toDigits_le_iff (by omega) hk

theorem digitCount_pos (n : Nat) : 0 < digitCount n := Nat.length_toDigits_pos

def Reaches (n d : Nat) (k : Int) : Prop := Nat.pow 10 k.toNat * d ≤ n * Nat.pow 10 (-k).toNat

theorem Reaches.lower {n d : Nat} {k : Int} (h : Reaches n d k) : Reaches n d (k - 1) := by
  have hup : Nat.pow 10 (k - 1).toNat ≤ Nat.pow 10 k.toNat := Nat.pow_le_pow_right (by omega) (by omega)
  have hdown : Nat.pow 10 (-k).toNat ≤ Nat.pow 10 (-(k - 1)).toNat := Nat.pow_le_pow_right (by omega) (by omega)
  calc Nat.pow 10 (k - 1).toNat * d ≤ Nat.pow 10 k.toNat * d := Nat.mul_le_mul_right d hup
    _ ≤ n * Nat.pow 10 (-k).toNat := h
    _ ≤ n * Nat.pow 10 (-(k - 1)).toNat := Nat.mul_le_mul_left n hdown

theorem reaches_leadingExponent {n d : Nat} (hn : 0 < n) (hd : 0 < d) :
    Reaches n d (leadingExponent n d) := by
  have hone : Nat.pow 10 0 = 1 := rfl
  unfold leadingExponent Reaches
  split
  next hle =>
    have hpos := digitCount_pos (n / d)
    have hquotient : Nat.pow 10 (digitCount (n / d) - 1) ≤ n / d := by
      by_cases hsingle : digitCount (n / d) = 1
      · rw [hsingle]
        exact Nat.div_pos hle hd
      · have hnot : ¬ digitCount (n / d) ≤ digitCount (n / d) - 1 := by omega
        rw [digitCount_le_iff (by omega)] at hnot
        exact Nat.le_of_not_lt hnot
    have hup : ((digitCount (n / d) : Int) - 1).toNat = digitCount (n / d) - 1 := by omega
    have hdown : (-((digitCount (n / d) : Int) - 1)).toNat = 0 := by omega
    rw [hup, hdown, hone, Nat.mul_one]
    exact (Nat.le_div_iff_mul_le hd).mp hquotient
  next hlt =>
    let above := (d + n - 1) / n
    have hpos := digitCount_pos (above - 1)
    have hbelow : above - 1 < Nat.pow 10 (digitCount (above - 1)) := (digitCount_le_iff hpos).mp (Nat.le_refl _)
    have hceil : d ≤ n * above := by
      have hdiv : n * above + (d + n - 1) % n = d + n - 1 := Nat.div_add_mod (d + n - 1) n
      have hmod := Nat.mod_lt (d + n - 1) hn
      omega
    have hup : (-(digitCount (above - 1) : Int)).toNat = 0 := by omega
    have hdown : (-(-(digitCount (above - 1) : Int))).toNat = digitCount (above - 1) := by omega
    rw [hup, hdown, hone, Nat.one_mul]
    exact Nat.le_trans hceil (Nat.mul_le_mul_left n (by omega))

theorem onGrid?_pos {i : RoundingInterval} {tie : TieBreak} {k : Int} {d : Nat} (h : onGrid? i tie k = some d)
    (hlow : 0 < i.low) : 0 < d := by
  have hdown : 0 < i.low * Nat.pow 10 (-k).toNat := Nat.mul_pos hlow (Nat.pow_pos (by omega))
  -- What lies inside is not below the interval's lower end, so that it is not zero.
  have hinside : ∀ {e up high : Nat},
      (if i.closed then decide (i.low * Nat.pow 10 (-k).toNat ≤ e * up ∧ e * up ≤ high)
        else decide (i.low * Nat.pow 10 (-k).toNat < e * up ∧ e * up < high)) = true → 0 < e := by
    intro e up high hin
    have hprod : 0 < e * up := by
      split at hin
      next =>
        have hle := (of_decide_eq_true hin).1
        omega
      next =>
        have hlt := (of_decide_eq_true hin).1
        omega
    exact Nat.pos_of_mul_pos_right hprod
  unfold onGrid? at h
  simp only at h
  split at h
  next => cases h
  next hin _ =>
    cases h
    exact hinside hin
  next =>
    cases h
    exact Nat.succ_pos _
  next hin _ =>
    split at h
    next =>
      cases h
      exact hinside hin
    next =>
      split at h
      next =>
        cases h
        exact Nat.succ_pos _
      next =>
        split at h
        next =>
          cases h
          exact Nat.succ_pos _
        next =>
          split at h
          next =>
            cases h
            exact hinside hin
          next =>
            cases h
            exact Nat.succ_pos _

theorem firstGrid_pos {i : RoundingInterval} {tie : TieBreak} (hlow : 0 < i.low) (hd : 0 < i.denominator)
    (fuel : Nat) {k : Int} (h : Reaches i.value i.denominator k) :
    0 < (firstGrid i tie fuel k).coefficient := by
  induction fuel generalizing k with
  | zero =>
    have hup : 0 < Nat.pow 10 k.toNat * i.denominator := Nat.mul_pos (Nat.pow_pos (by omega)) hd
    exact Nat.div_pos h hup
  | succ fuel ih =>
    unfold firstGrid
    split
    next d hgrid => exact onGrid?_pos hgrid hlow
    next => exact ih h.lower

theorem dropZeros_pos (fuel : Nat) {x : Decimal} (h : 0 < x.coefficient) : 0 < (dropZeros fuel x).coefficient := by
  induction fuel generalizing x with
  | zero => exact h
  | succ fuel ih =>
    unfold dropZeros
    split
    next hzero => exact ih (x := ⟨x.coefficient / 10, x.exponent + 1⟩) (by simp only; omega)
    next => exact h

theorem shortest_pos (f : BinaryFormat) (tie : TieBreak) {m : Nat} (hm : 0 < m) (q : Int) :
    0 < (shortest f tie m q).coefficient := by
  have hscale : ∀ n, 0 < Nat.pow 2 n := fun n => Nat.pow_pos (by omega)
  have hlow : 0 < (f.interval m q).low := by
    refine Nat.mul_pos ?_ (hscale _)
    split <;> omega
  have hvalue : 0 < (f.interval m q).value := Nat.mul_pos (by omega) (hscale _)
  have hd : 0 < (f.interval m q).denominator := hscale _
  exact dropZeros_pos 17 (firstGrid_pos hlow hd 17 (reaches_leadingExponent hvalue hd))

end Decimal

namespace Json

theorem isTail_head {tail : List Char} (h : isTail tail) :
    tail ≠ [] ∧ ∀ c, tail.head? = some c → c.isDigit = false := by
  cases tail with
  | nil => cases h
  | cons c tail =>
    refine ⟨List.cons_ne_nil _ _, ?_⟩
    intro d hd
    cases hd
    unfold isTail at h
    split at h
    next he =>
      cases he
      rfl
    next hne =>
      have hmark := ((Bool.and_eq_true _ _).mp h).1
      simp only [Bool.or_eq_true, decide_eq_true_eq] at hmark
      rcases hmark with rfl | rfl
      · rfl
      · rfl

theorem isExponent_toDigits (negative : Bool) (n : Nat) :
    isExponent ('e' :: (if negative then '-' else '+') :: Nat.toDigits 10 n) := by
  have hdigits : isDigits (Nat.toDigits 10 n) := isDigits_iff.mpr ⟨Nat.toDigits_ne_nil, toDigits_isDigit n⟩
  cases negative with
  | true => simpa [isExponent] using hdigits
  | false => simpa [isExponent] using hdigits

theorem isTail_exponent {exponent : List Char} (h : isExponent exponent) : isTail exponent := by
  cases exponent with
  | nil => cases h
  | cons mark rest =>
    have hmark := ((Bool.and_eq_true _ _).mp h).1
    simp only [Bool.or_eq_true, decide_eq_true_eq] at hmark
    rcases hmark with rfl | rfl
    · exact h
    · exact h

theorem isTail_fraction {digits exponent : List Char} (hd : isDigits digits)
    (he : exponent = [] ∨ isExponent exponent) : isTail ('.' :: (digits ++ exponent)) := by
  obtain ⟨_, hall⟩ := isDigits_iff.mp hd
  have hstop : exponent.takeWhile Char.isDigit = [] ∧ exponent.dropWhile Char.isDigit = exponent := by
    cases exponent with
    | nil => exact ⟨rfl, rfl⟩
    | cons c exponent =>
      have hsome := he.resolve_left (List.cons_ne_nil _ _)
      have hc := (isTail_head (isTail_exponent hsome)).2 c rfl
      simp [hc]
  have htake : (digits ++ exponent).takeWhile Char.isDigit = digits := by
    rw [List.takeWhile_append_of_pos hall, hstop.1, List.append_nil]
  have hdrop : (digits ++ exponent).dropWhile Char.isDigit = exponent := by
    rw [List.dropWhile_append_of_pos hall, hstop.2]
  unfold isTail
  simp only [htake, hdrop, hd, Bool.true_and, Bool.or_eq_true, List.isEmpty_iff]
  exact he

theorem WholeDigits.zero_alone : WholeDigits ['0'] := ⟨by simp, by simp, by simp⟩

theorem WholeDigits.of_first {cs : List Char} (digits : ∀ c ∈ cs, c.isDigit) (nonempty : cs ≠ [])
    (first : cs.head? ≠ some '0') : WholeDigits cs :=
  ⟨digits, nonempty, fun hzero => absurd hzero first⟩

theorem isDigit_of_mem_zeros {n : Nat} {c : Char} (h : c ∈ List.replicate n '0') : c.isDigit := by
  rw [List.eq_of_mem_replicate h]
  rfl

inductive Fractional : List Char → Prop
  | parts {whole tail : List Char} (digits : WholeDigits whole) (rest : isTail tail) : Fractional (whole ++ tail)

theorem Fractional.number? {cs : List Char} (h : Fractional cs) (negative : Bool) :
    number? (signChars negative ++ cs) = some (.decimal (String.ofList (signChars negative ++ cs))) := by
  obtain ⟨digits, rest⟩ := h
  obtain ⟨hsome, hstop⟩ := isTail_head rest
  have hparts := number?_parts negative _ digits hstop
  rw [List.append_assoc] at hparts
  simpa [hsome, rest] using hparts

end Json

open Json

theorem Decimal.positional_fractional {x : Decimal} (h : 0 < x.coefficient) :
    Fractional (x.positional true).toList := by
  have hdigits := toDigits_isDigit x.coefficient
  have hfirst := toDigits_head h
  have hsome : Nat.toDigits 10 x.coefficient ≠ [] := Nat.toDigits_ne_nil
  unfold Decimal.positional
  simp only
  split
  next =>
    have hwhole : WholeDigits (Nat.toDigits 10 x.coefficient ++ List.replicate x.exponent.toNat '0') := by
      refine .of_first ?_ (by simp [hsome]) ?_
      · intro c hc
        rcases List.mem_append.mp hc with hc | hc
        · exact hdigits c hc
        · exact isDigit_of_mem_zeros hc
      · rwa [List.head?_append, Option.or_of_isSome (List.isSome_head?.mpr hsome)]
    have htail : isTail ['.', '0'] := rfl
    simpa using Fractional.parts hwhole htail
  next hnegative =>
    split
    next hplaces =>
      let whole := (Nat.toDigits 10 x.coefficient).length - x.exponent.natAbs
      have hpos : whole ≠ 0 := by omega
      have hwhole : WholeDigits ((Nat.toDigits 10 x.coefficient).take whole) := by
        refine .of_first ?_ (by simp [hsome, hpos]) ?_
        · intro c hc
          exact hdigits c (List.mem_of_mem_take hc)
        · rwa [List.head?_take, if_neg hpos]
      have hfraction : isDigits ((Nat.toDigits 10 x.coefficient).drop whole) := by
        refine isDigits_iff.mpr ⟨?_, ?_⟩
        · rw [ne_eq, List.drop_eq_nil_iff]
          omega
        · intro c hc
          exact hdigits c (List.mem_of_mem_drop hc)
      simpa using Fractional.parts hwhole (isTail_fraction hfraction (.inl rfl))
    next =>
      have hfraction : isDigits (List.replicate (x.exponent.natAbs - (Nat.toDigits 10 x.coefficient).length) '0' ++
          Nat.toDigits 10 x.coefficient) := by
        refine isDigits_iff.mpr ⟨by simp [hsome], ?_⟩
        intro c hc
        rcases List.mem_append.mp hc with hc | hc
        · exact isDigit_of_mem_zeros hc
        · exact hdigits c hc
      simpa using Fractional.parts .zero_alone (isTail_fraction hfraction (.inl rfl))

theorem Decimal.scientific_fractional (x : Decimal) : Fractional x.scientific.toList := by
  have hexponent := isExponent_toDigits (x.leading < 0) x.leading.natAbs
  have hmark : (if x.leading < 0 then "e-" else "e+").toList ++ (toString x.leading.natAbs).toList =
      'e' :: (if decide (x.leading < 0) then '-' else '+') :: Nat.toDigits 10 x.leading.natAbs := by
    rw [Nat.toString_eq_repr, Nat.repr_eq_ofList_toDigits, String.toList_ofList]
    split
    next h => simp [h]
    next h => simp [h]
  have hdigits := toDigits_isDigit x.coefficient
  unfold Decimal.scientific
  simp only [String.toList_append, List.append_assoc, hmark]
  split
  next d c more he =>
    rw [he] at hdigits
    obtain ⟨hd, hmore⟩ := List.forall_mem_cons.mp hdigits
    have hwhole : WholeDigits [d] := ⟨by simpa using hd, by simp, by simp⟩
    have hfraction : isDigits (c :: more) := isDigits_iff.mpr ⟨List.cons_ne_nil _ _, hmore⟩
    simpa using Fractional.parts hwhole (isTail_fraction hfraction (.inr hexponent))
  next =>
    rw [String.toList_ofList]
    exact Fractional.parts (WholeDigits.ofNat x.coefficient) (isTail_exponent hexponent)

/-- A style whose numbers are those of JSON, and which has no other word for what is none. -/
structure NumberStyle.ForJson (s : NumberStyle) : Prop where
  keepsDecimal : s.keepsDecimal = true
  nan : s.nan = "null"
  infinity : s.infinity = "null"
  negativeInfinity : s.negativeInfinity = "null"

theorem NumberStyle.ForJson.magnitude {s : NumberStyle} (hs : s.ForJson) (f : BinaryFormat) (m : Nat) (q : Int) :
    Fractional (s.magnitude f m q).toList := by
  unfold NumberStyle.magnitude
  rw [hs.keepsDecimal]
  split
  next =>
    have htail : isTail ['.', '0'] := rfl
    exact .parts .zero_alone htail
  next hm =>
    have hpos := Decimal.shortest_pos f s.tie (Nat.pos_of_ne_zero hm) q
    simp only
    split
    next => exact Decimal.positional_fractional hpos
    next =>
      split
      next => exact Decimal.positional_fractional hpos
      next => exact Decimal.scientific_fractional _

theorem NumberStyle.ForJson.write {s : NumberStyle} (hs : s.ForJson) (f : BinaryFormat) (x : BinaryDatum) :
    s.write f x = "null" ∨ number? (s.write f x).toList = some (.decimal (s.write f x)) := by
  cases x with
  | nan => exact .inl hs.nan
  | infinite negative =>
    cases negative with
    | true => exact .inl hs.negativeInfinity
    | false => exact .inl hs.infinity
  | finite negative m q =>
    have hsign : (if negative then "-" else "" : String).toList = signChars negative := by
      cases negative with
      | true => rfl
      | false => rfl
    have hnumber := (hs.magnitude f m q).number? negative
    rw [← hsign, ← String.toList_append, String.ofList_toList] at hnumber
    exact .inr hnumber

/-- What a reader takes a value for: a number that is none is written as `null`. -/
def Json.asRead : Json → Json
  | .decimal "null" => .null
  | j => j

theorem Json.asRead_decimal {text : String} (h : text = "null" ∨ number? text.toList = some (.decimal text)) :
    (asRead (.decimal text)).chars = (Json.decimal text).chars ∧ Readable (asRead (.decimal text)) := by
  rcases h with rfl | hnumber
  · exact ⟨rfl, .null⟩
  · have hread : asRead (.decimal text) = .decimal text := by
      unfold asRead
      split
      next he =>
        cases he
        have hnone : number? "null".toList = none := rfl
        rw [hnone] at hnumber
        cases hnumber
      next => rfl
    rw [hread]
    exact ⟨rfl, .decimal hnumber⟩

theorem Value.json_readable (v : Value) : v.json.asRead.chars = v.json.chars ∧ Readable v.json.asRead := by
  have hjson32 : NumberStyle.json32.ForJson := ⟨rfl, rfl, rfl, rfl⟩
  have hjson64 : NumberStyle.json64.ForJson := ⟨rfl, rfl, rfl, rfl⟩
  cases v with
  | text s => exact ⟨rfl, .string s⟩
  | f32 x => exact asRead_decimal (hjson32.write .single x.datum)
  | f64 x => exact asRead_decimal (hjson64.write .double x.datum)
  | bytes bs =>
    refine ⟨rfl, .array ?_⟩
    intro j hj
    obtain ⟨b, _, rfl⟩ := List.mem_map.mp hj
    exact .int b.toNat
  | u16 n => exact ⟨rfl, .int _⟩
  | i16 n => exact ⟨rfl, .int _⟩
  | u32 n => exact ⟨rfl, .int _⟩
  | i32 n => exact ⟨rfl, .int _⟩
  | u64 n => exact ⟨rfl, .int _⟩
  | i64 n => exact ⟨rfl, .int _⟩

end MeterPolling
