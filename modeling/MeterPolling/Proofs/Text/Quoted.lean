import MeterPolling.Proofs.Text.Hex
import MeterPolling.Text.Quoted

namespace MeterPolling.Text

/-- How a character is written inside quotes if `hidden` says which others are written by their numbers. -/
def escapedChar (hidden : Char → Bool) (c : Char) : List Char :=
  if c = '"' then ['\\', '"']
  else if c = '\\' then ['\\', '\\']
  else if c = '\n' then ['\\', 'n']
  else if c = '\r' then ['\\', 'r']
  else if c = '\t' then ['\\', 't']
  else if c = '\x00' then ['\\', '0']
  else if hidden c then '\\' :: 'u' :: '{' :: (hexPadded false 1 c.toNat ++ ['}'])
  else [c]

def quotedBy (hidden : Char → Bool) (s : String) : String :=
  String.ofList ('"' :: (s.toList.flatMap (escapedChar hidden) ++ ['"']))

def isHidden (c : Char) : Bool := joins c || !isPrintable c

theorem quoted_eq (s : String) : quoted s = quotedBy isHidden s := rfl

def quotedMarks : List (Char × Char) :=
  [('"', '"'), ('\\', '\\'), ('n', '\n'), ('r', '\r'), ('t', '\t'), ('0', '\x00')]

def readQuotedChar : List Char → Option (Char × List Char)
  | [] => none
  | '\\' :: 'u' :: '{' :: rest => do
    let n ← hexNumber? (rest.takeWhile (· ≠ '}'))
    return (Char.ofNat n, (rest.dropWhile (· ≠ '}')).tail)
  | '\\' :: mark :: rest => (quotedMarks.lookup mark).map (·, rest)
  | c :: rest => some (c, rest)

theorem hexDigit_ne_brace {d : Nat} (h : d < 16) : hexDigit false d ≠ '}' := by
  revert d
  decide

theorem readQuotedChar_number (c : Char) (rest : List Char) :
    readQuotedChar ('\\' :: 'u' :: '{' :: (hexPadded false 1 c.toNat ++ '}' :: rest)) = some (c, rest) := by
  have hdigits : ∀ d ∈ hexPadded false 1 c.toNat, (decide (d ≠ '}')) = true := by
    intro d hd
    obtain ⟨k, hk, rfl⟩ := mem_hexPadded hd
    exact decide_eq_true (hexDigit_ne_brace hk)
  have htake : (hexPadded false 1 c.toNat ++ '}' :: rest).takeWhile (· ≠ '}') = hexPadded false 1 c.toNat := by
    rw [List.takeWhile_append_of_pos hdigits]
    simp
  have hdrop : (hexPadded false 1 c.toNat ++ '}' :: rest).dropWhile (· ≠ '}') = '}' :: rest := by
    rw [List.dropWhile_append_of_pos hdigits]
    simp
  rw [readQuotedChar, htake, hdrop, hexNumber?_hexPadded]
  simp

theorem readQuotedChar_plain {c : Char} (h : c ≠ '\\') (rest : List Char) :
    readQuotedChar (c :: rest) = some (c, rest) := by
  unfold readQuotedChar
  split
  next he => cases he
  next he => exact absurd (List.cons.inj he).1 h
  next he => exact absurd (List.cons.inj he).1 h
  next he =>
    cases he
    rfl

theorem readQuotedChar_escapedChar (hidden : Char → Bool) (c : Char) (rest : List Char) :
    readQuotedChar (escapedChar hidden c ++ rest) = some (c, rest) := by
  by_cases hmarked : c ∈ ['"', '\\', '\n', '\r', '\t', '\x00']
  · simp only [List.mem_cons, List.not_mem_nil, or_false] at hmarked
    rcases hmarked with rfl | rfl | rfl | rfl | rfl | rfl <;> rfl
  · simp only [List.mem_cons, List.not_mem_nil, or_false, not_or] at hmarked
    obtain ⟨hquote, hslash, hn, hr, ht, hzero⟩ := hmarked
    simp only [escapedChar, hquote, hslash, hn, hr, ht, hzero, ↓reduceIte]
    split
    next =>
      simp only [List.cons_append, List.append_assoc, List.nil_append]
      exact readQuotedChar_number c rest
    next => exact readQuotedChar_plain hslash rest

/-- Lists are told apart by codes none of which is the beginning of another. -/
theorem flatMap_inj {α β : Type} {f g : α → List β} (hf : ∀ a, f a ≠ []) (hg : ∀ b, g b ≠ [])
    (code : ∀ a b x y, f a ++ x = g b ++ y → a = b ∧ x = y) {as bs : List α} (h : as.flatMap f = bs.flatMap g) :
    as = bs := by
  induction as generalizing bs with
  | nil =>
    cases bs with
    | nil => rfl
    | cons b bs => exact absurd (List.append_eq_nil_iff.mp h.symm).1 (hg b)
  | cons a as ih =>
    cases bs with
    | nil => exact absurd (List.append_eq_nil_iff.mp h).1 (hf a)
    | cons b bs =>
      obtain ⟨hab, hrest⟩ := code a b _ _ h
      rw [hab, ih hrest]

theorem escapedChar_ne_nil (hidden : Char → Bool) (c : Char) : escapedChar hidden c ≠ [] := by
  intro hnil
  have hread := readQuotedChar_escapedChar hidden c []
  rw [hnil] at hread
  cases hread

/-- Different texts are quoted differently, even if not the same characters are hidden in them. -/
theorem quotedBy_inj {hidden hidden' : Char → Bool} {s t : String} (h : quotedBy hidden s = quotedBy hidden' t) :
    s = t := by
  have hchars := List.append_cancel_right (List.cons.inj (String.ofList_injective h)).2
  refine String.toList_inj.mp (flatMap_inj (escapedChar_ne_nil hidden) (escapedChar_ne_nil hidden') ?_ hchars)
  intro c d x y he
  have hread := congrArg readQuotedChar he
  rw [readQuotedChar_escapedChar, readQuotedChar_escapedChar] at hread
  cases hread
  exact ⟨rfl, rfl⟩

def IsControl (c : Char) : Prop :=
  c.toNat < 0x20 ∨ 0x7F ≤ c.toNat ∧ c.toNat ≤ 0x9F ∨ c.toNat = 0x2028 ∨ c.toNat = 0x2029

instance (c : Char) : Decidable (IsControl c) := inferInstanceAs (Decidable (_ ∨ _))

theorem isHidden_of_isControl {c : Char} (h : IsControl c) : isHidden c := by
  have hrange : ∀ r ∈ unprintableRanges, r.1 ≤ c.toNat → c.toNat ≤ r.2 → 0x7F ≤ c.toNat → isHidden c := by
    intro r hr hlow hhigh hc
    have hin : inRanges unprintableRanges c := List.any_eq_true.mpr ⟨r, hr, by simp [hlow, hhigh]⟩
    have hprintable : isPrintable c = false := by
      rw [isPrintable, if_neg (by omega), if_neg (by omega), hin]
      rfl
    simp [isHidden, hprintable]
  rcases h with h | ⟨hlow, hhigh⟩ | h | h
  · have hprintable : isPrintable c = false := by rw [isPrintable, if_pos h]
    simp [isHidden, hprintable]
  · exact hrange (0x7F, 0xA0) (by decide) hlow (by omega) hlow
  · exact hrange (0x2028, 0x202F) (by decide) (by omega) (by omega) (by omega)
  · exact hrange (0x2028, 0x202F) (by decide) (by omega) (by omega) (by omega)

theorem hexDigit_not_control (upper : Bool) {d : Nat} (h : d < 16) : ¬ IsControl (hexDigit upper d) := by
  revert upper d
  decide

theorem hexPadded_singleLine (upper : Bool) (width n : Nat) : ∀ c ∈ hexPadded upper width n, ¬ IsControl c := by
  intro c hc
  obtain ⟨d, hd, rfl⟩ := mem_hexPadded hc
  exact hexDigit_not_control upper hd

theorem escapedChar_singleLine {hidden : Char → Bool} (h : ∀ c, IsControl c → hidden c) (c : Char) :
    ∀ d ∈ escapedChar hidden c, ¬ IsControl d := by
  have hmark : ∀ mark, ¬ IsControl mark → ∀ d ∈ ['\\', mark], ¬ IsControl d := by
    intro mark hplain
    simp only [List.forall_mem_cons]
    exact ⟨by decide, hplain, by simp⟩
  by_cases hmarked : c ∈ ['"', '\\', '\n', '\r', '\t', '\x00']
  · simp only [List.mem_cons, List.not_mem_nil, or_false] at hmarked
    rcases hmarked with rfl | rfl | rfl | rfl | rfl | rfl <;> exact hmark _ (by decide)
  · simp only [List.mem_cons, List.not_mem_nil, or_false, not_or] at hmarked
    obtain ⟨hquote, hslash, hn, hr, ht, hzero⟩ := hmarked
    simp only [escapedChar, hquote, hslash, hn, hr, ht, hzero, ↓reduceIte]
    split
    next =>
      simp only [List.forall_mem_cons, List.forall_mem_append]
      exact ⟨by decide, by decide, by decide, hexPadded_singleLine false 1 c.toNat, by decide, by simp⟩
    next hshown =>
      rw [List.forall_mem_singleton]
      exact fun hcontrol => hshown (h c hcontrol)

theorem quotedBy_singleLine {hidden : Char → Bool} (h : ∀ c, IsControl c → hidden c) (s : String) :
    ∀ c ∈ (quotedBy hidden s).toList, ¬ IsControl c := by
  rw [quotedBy, String.toList_ofList, List.forall_mem_cons, List.forall_mem_append]
  refine ⟨by decide, ?_, List.forall_mem_singleton.mpr (by decide)⟩
  intro c hc
  obtain ⟨d, _, hd⟩ := List.mem_flatMap.mp hc
  exact escapedChar_singleLine h d c hd

end MeterPolling.Text
