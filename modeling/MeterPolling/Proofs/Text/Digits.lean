namespace MeterPolling

theorem toDigits_head {n : Nat} (h : 0 < n) : (Nat.toDigits 10 n).head? ≠ some '0' := by
  induction n using Nat.strongRecOn with
  | ind n ih =>
    by_cases hn : n < 10
    · rw [Nat.toDigits_of_lt_base hn]
      intro he
      have hc : n.digitChar = '0' := Option.some.inj he
      have hvalue := Nat.toNat_digitChar_of_lt_ten hn
      rw [hc] at hvalue
      have hzero : ('0' : Char).toNat = 48 := rfl
      omega
    · have hrest := ih (n / 10) (by omega) (by omega)
      rw [Nat.toDigits_of_base_le (by omega) (by omega), List.head?_append]
      cases hd : (Nat.toDigits 10 (n / 10)).head? with
      | none => exact absurd (List.head?_eq_none_iff.mp hd) Nat.toDigits_ne_nil
      | some c => simpa [hd] using hrest

theorem toDigits_single {n : Nat} (h : (Nat.toDigits 10 n).head? = some '0') :
    (Nat.toDigits 10 n).length = 1 := by
  have hn : n = 0 := by
    refine Nat.eq_zero_of_not_pos ?_
    intro hpos
    exact toDigits_head hpos h
  subst hn
  rfl

theorem toDigits_isDigit (n : Nat) : ∀ c ∈ Nat.toDigits 10 n, c.isDigit :=
  fun _ hc => Nat.isDigit_of_mem_toDigits (by omega) (by omega) hc

theorem isDigit_bounds {c : Char} (h : c.isDigit) : 48 ≤ c.toNat ∧ c.toNat ≤ 57 := Char.isDigit_iff_toNat.mp h

theorem toDigits_digit {c : Char} (h : c.isDigit) : Nat.toDigits 10 (c.toNat - 48) = [c] := by
  have hbounds := isDigit_bounds h
  have hvalue := Nat.toNat_digitChar_of_lt_ten (n := c.toNat - 48) (by omega)
  have hsame : (c.toNat - 48).digitChar = c := Char.toNat_inj.mp (by omega)
  rw [Nat.toDigits_of_lt_base (by omega), hsame]

theorem toDigits_append_digits {n : Nat} (h : 0 < n) {digits : List Char} (all : ∀ c ∈ digits, c.isDigit) :
    Nat.toDigits 10 n ++ digits = Nat.toDigits 10 (Nat.ofDigitChars 10 digits n) := by
  induction digits generalizing n with
  | nil => rw [List.append_nil, Nat.ofDigitChars_nil]
  | cons c rest ih =>
    obtain ⟨hc, hrest⟩ := List.forall_mem_cons.mp all
    have hbounds := isDigit_bounds hc
    calc Nat.toDigits 10 n ++ c :: rest
      _ = Nat.toDigits 10 n ++ Nat.toDigits 10 (c.toNat - 48) ++ rest := by rw [toDigits_digit hc, List.append_cons]
      _ = Nat.toDigits 10 (10 * n + (c.toNat - 48)) ++ rest := by
        rw [Nat.toDigits_append_toDigits (by decide) h (by omega)]
      _ = Nat.toDigits 10 (Nat.ofDigitChars 10 (c :: rest) n) := ih (by omega) hrest

/-- Digits without superfluous zeros in front are those of the number that they spell. -/
theorem toDigits_ofDigitChars {digits : List Char} (all : ∀ c ∈ digits, c.isDigit) (nonempty : digits ≠ [])
    (zero : digits.head? = some '0' → digits.length = 1) :
    Nat.toDigits 10 (Nat.ofDigitChars 10 digits 0) = digits := by
  cases digits with
  | nil => exact (nonempty rfl).elim
  | cons c rest =>
    obtain ⟨hc, hrest⟩ := List.forall_mem_cons.mp all
    by_cases hzero : c = '0'
    · have hlength := zero (congrArg some hzero)
      obtain rfl : rest = [] := List.eq_nil_of_length_eq_zero (by simpa using hlength)
      subst hzero
      rfl
    · have hbounds := isDigit_bounds hc
      have hne : c.toNat ≠ 48 := fun h => hzero (Char.toNat_inj.mp h)
      calc Nat.toDigits 10 (Nat.ofDigitChars 10 (c :: rest) 0)
        _ = Nat.toDigits 10 (Nat.ofDigitChars 10 rest (c.toNat - 48)) := by
          rw [Nat.ofDigitChars_cons, Nat.mul_zero, Nat.zero_add]
          rfl
        _ = Nat.toDigits 10 (c.toNat - 48) ++ rest := (toDigits_append_digits (by omega) hrest).symm
        _ = c :: rest := by rw [toDigits_digit hc, List.singleton_append]

end MeterPolling
