import Mathlib.Algebra.Group.Nat.Defs
import MeterPolling.Text.Hex

namespace MeterPolling.Text

def hexNumber? (digits : List Char) : Option Nat :=
  digits.foldlM (fun n c => (hexValue? c).map (16 * n + ·)) 0

variable {upper : Bool} {n : Nat} {c : Char}

theorem hexValue?_hexDigit (upper : Bool) {d : Nat} (h : d < 16) : hexValue? (hexDigit upper d) = some d := by
  revert upper d
  decide

theorem mem_hexDigitsRev {fuel : Nat} (h : c ∈ hexDigitsRev upper fuel n) : ∃ d < 16, c = hexDigit upper d := by
  induction fuel generalizing n with
  | zero => cases h
  | succ fuel ih =>
    rcases List.mem_cons.mp h with he | h
    · exact ⟨n % 16, Nat.mod_lt n (by decide), he⟩
    · split at h
      next => cases h
      next => exact ih h

theorem mem_hexPadded {width : Nat} (h : c ∈ hexPadded upper width n) : ∃ d < 16, c = hexDigit upper d := by
  rcases List.mem_append.mp h with h | h
  · rw [List.eq_of_mem_replicate h]
    exact ⟨0, by decide, rfl⟩
  · exact mem_hexDigitsRev (List.mem_reverse.mp h)

theorem hexDigitsRev_value {fuel : Nat} (h : n < 16 ^ fuel) :
    (hexDigitsRev upper fuel n).foldrM (fun c n => (hexValue? c).map (16 * n + ·)) 0 = some n := by
  induction fuel generalizing n with
  | zero =>
    have hzero : n = 0 := by simpa using h
    subst hzero
    rfl
  | succ fuel ih =>
    have hdigit := hexValue?_hexDigit upper (Nat.mod_lt n (by decide : 16 > 0))
    rw [hexDigitsRev, List.foldrM_cons]
    split
    next hlt => simp [Nat.mod_eq_of_lt hlt, hexValue?_hexDigit upper hlt]
    next =>
      rw [Nat.pow_succ] at h
      rw [ih (by omega)]
      simp only [Option.bind_eq_bind, Option.bind_some, hdigit, Option.map_some, Option.some.injEq]
      omega

theorem hexNumber?_hexDigits (upper : Bool) (n : Nat) : hexNumber? (hexDigits upper n) = some n := by
  have hlt : n < 16 ^ (n.log2 / 4 + 1) := by
    calc n < 2 ^ (n.log2 + 1) := Nat.lt_log2_self
      _ ≤ 2 ^ (4 * (n.log2 / 4 + 1)) := Nat.pow_le_pow_right (by decide) (by omega)
      _ = 16 ^ (n.log2 / 4 + 1) := by rw [Nat.pow_mul]
  rw [hexNumber?, hexDigits, List.foldlM_reverse]
  exact hexDigitsRev_value hlt

theorem hexNumber?_hexPadded (upper : Bool) (width n : Nat) : hexNumber? (hexPadded upper width n) = some n := by
  have hzeros : ∀ count, (List.replicate count '0').foldlM (fun n c => (hexValue? c).map (16 * n + ·)) 0 = some 0 := by
    intro count
    induction count with
    | zero => rfl
    | succ count ih => exact ih
  rw [hexNumber?, hexPadded, List.foldlM_append, hzeros]
  exact hexNumber?_hexDigits upper n

end MeterPolling.Text
