import MeterPolling.Address
import MeterPolling.Proofs.Text.Digits

namespace MeterPolling.IpAddress

/-- The rest does not begin with such a character. -/
def Stops (p : Char → Bool) (rest : List Char) : Prop := ∀ c, rest.head? = some c → p c = false

section Stops

variable {p : Char → Bool} {taken rest : List Char}

theorem stops_dropWhile (p : Char → Bool) (cs : List Char) : Stops p (cs.dropWhile p) := by
  intro c hc
  have hhead := List.head?_dropWhile_not p cs
  rw [hc] at hhead
  exact hhead

theorem Stops.dropWhile_eq (h : Stops p rest) : rest.dropWhile p = rest := by
  cases rest with
  | nil => rfl
  | cons c rest => exact List.dropWhile_cons_of_neg (by simp [h c rfl])

theorem Stops.dropWhile_append (h : Stops p rest) (all : ∀ c ∈ taken, p c) : (taken ++ rest).dropWhile p = rest := by
  rw [List.dropWhile_append_of_pos all, h.dropWhile_eq]

theorem Stops.takeWhile_append (h : Stops p rest) (all : ∀ c ∈ taken, p c) : (taken ++ rest).takeWhile p = taken := by
  have hboth := List.takeWhile_append_dropWhile (p := p) (l := taken ++ rest)
  rw [h.dropWhile_append all] at hboth
  exact List.append_cancel_right hboth

end Stops

theorem foldl_decimal (digits : List Char) :
    digits.foldl (fun n c => n * 10 + (c.toNat - 48)) 0 = Nat.ofDigitChars 10 digits 0 := by
  simp only [Nat.ofDigitChars_eq_foldl, Nat.mul_comm]
  rfl

variable {cs rest : List Char} {a b c d : UInt8}

theorem readByte_eq_some_iff :
    readByte cs = some (b, rest) ↔ cs = Nat.toDigits 10 b.toNat ++ rest ∧ Stops Char.isDigit rest := by
  unfold readByte
  simp only [foldl_decimal]
  constructor
  · intro h
    split at h
    next => cases h
    next hread =>
      simp only [not_or, not_and, Nat.not_lt, List.isEmpty_iff] at hread
      obtain ⟨hsome, -, hzero, hbound⟩ := hread
      obtain ⟨rfl, rfl⟩ := Prod.mk.inj (Option.some.inj h)
      have hpos := List.length_pos_iff.mpr hsome
      have hdigits := toDigits_ofDigitChars (fun c hc => List.all_eq_true.mp List.all_takeWhile c hc) hsome
        fun hfirst => Nat.le_antisymm (hzero hfirst) hpos
      rw [UInt8.toNat_ofNat_of_lt' (Nat.lt_succ_of_le hbound), hdigits, List.takeWhile_append_dropWhile]
      exact ⟨rfl, stops_dropWhile _ cs⟩
  · rintro ⟨rfl, hstops⟩
    have hlt := b.toNat_lt
    have hall := toDigits_isDigit b.toNat
    have hlength : (Nat.toDigits 10 b.toNat).length ≤ 3 :=
      (Nat.length_toDigits_le_iff (by decide) (by decide)).mpr (by omega)
    have hread : ¬ ((Nat.toDigits 10 b.toNat).isEmpty ∨ 3 < (Nat.toDigits 10 b.toNat).length ∨
        ((Nat.toDigits 10 b.toNat).head? = some '0' ∧ 1 < (Nat.toDigits 10 b.toNat).length) ∨ 255 < b.toNat) := by
      rintro (hempty | hlong | ⟨hzero, hmore⟩ | hbig)
      · exact Nat.toDigits_ne_nil (List.isEmpty_iff.mp hempty)
      · omega
      · rw [toDigits_single hzero] at hmore
        omega
      · omega
    rw [hstops.takeWhile_append hall, hstops.dropWhile_append hall, Nat.ofDigitChars_ten_toDigits, if_neg hread,
      UInt8.ofNat_toNat]

theorem readPointByte_eq_some_iff :
    readPointByte cs = some (b, rest) ↔ cs = '.' :: Nat.toDigits 10 b.toNat ++ rest ∧ Stops Char.isDigit rest := by
  unfold readPointByte
  split
  next more => simp [readByte_eq_some_iff]
  next hpoint =>
    constructor
    · nofun
    · rintro ⟨rfl, _⟩
      exact (hpoint _ rfl).elim

theorem stops_point (rest : List Char) : Stops Char.isDigit ('.' :: rest) := by
  intro c hc
  obtain rfl := Option.some.inj hc
  rfl

theorem readV4_eq_some_iff :
    readV4 cs = some ((a, b, c, d), rest) ↔ cs = dotted a b c d ++ rest ∧ Stops Char.isDigit rest := by
  unfold readV4 dotted
  simp only [Option.bind_eq_bind, Option.bind_eq_some_iff, Prod.exists, readByte_eq_some_iff, readPointByte_eq_some_iff]
  constructor
  · rintro ⟨_, _, ⟨rfl, -⟩, _, _, ⟨rfl, -⟩, _, _, ⟨rfl, -⟩, _, _, ⟨rfl, hstops⟩, h⟩
    simp only [pure, Option.some.injEq, Prod.mk.injEq] at h
    obtain ⟨⟨rfl, rfl, rfl, rfl⟩, rfl⟩ := h
    exact ⟨by simp, hstops⟩
  · rintro ⟨rfl, hstops⟩
    exact ⟨a, _, ⟨by simp, stops_point _⟩, b, _, ⟨rfl, stops_point _⟩, c, _, ⟨rfl, stops_point _⟩, d, rest,
      ⟨rfl, hstops⟩, rfl⟩

theorem parse_eq_v4_iff : parse cs = some (.v4 a b c d) ↔ cs = dotted a b c d := by
  have hread : readV4 cs = some ((a, b, c, d), []) ↔ cs = dotted a b c d := by
    rw [readV4_eq_some_iff, List.append_nil, and_iff_left]
    nofun
  rw [← hread]
  unfold parse
  constructor
  · intro h
    split at h
    next _ a b c d hv4 =>
      cases h
      exact hv4
    next =>
      split at h
      next => split at h <;> cases h
      next => cases h
  · intro h
    rw [h]

theorem colon_notMem_dotted (a b c d : UInt8) : ':' ∉ dotted a b c d := by
  have hbytes : ∀ b : UInt8, ':' ∉ Nat.toDigits 10 b.toNat := fun b h => nomatch toDigits_isDigit b.toNat ':' h
  simp [dotted, hbytes]

end MeterPolling.IpAddress
