import Mathlib.Data.Nat.Init
import MeterPolling.Proofs.Address.Dotted
import MeterPolling.Proofs.Text.Hex

namespace MeterPolling.IpAddress

open Text

theorem isHexDigit_of_isDigit {c : Char} (h : c.isDigit) : isHexDigit c := by
  have hbounds := isDigit_bounds h
  have hrange : '0' ≤ c ∧ c ≤ '9' := hbounds
  simp [isHexDigit, hexValue?, hrange]

theorem isHexDigit_of_mem_hexDigits {n : Nat} {c : Char} (h : c ∈ hexDigits false n) : isHexDigit c := by
  obtain ⟨d, hd, rfl⟩ := mem_hexDigitsRev (List.mem_reverse.mp h)
  rw [isHexDigit, hexValue?_hexDigit false hd]
  rfl

theorem length_hexDigitsRev_le (upper : Bool) (fuel n : Nat) : (hexDigitsRev upper fuel n).length ≤ fuel := by
  induction fuel generalizing n with
  | zero => exact Nat.le_refl 0
  | succ fuel ih =>
    rw [hexDigitsRev, List.length_cons]
    split
    next => exact Nat.le_add_left 1 fuel
    next => exact Nat.succ_le_succ (ih _)

theorem length_hexDigits_le {n : Nat} (h : n < 65536) : (hexDigits false n).length ≤ 4 := by
  have hlog : n.log2 < 16 := by
    by_cases hzero : n = 0
    · subst hzero
      decide
    · exact (Nat.log2_lt hzero).mpr h
  have hfuel := length_hexDigitsRev_le false (n.log2 / 4 + 1) n
  rw [hexDigits, List.length_reverse]
  omega

theorem hexDigits_ne_nil (n : Nat) : hexDigits false n ≠ [] := by
  unfold hexDigits hexDigitsRev
  simp

theorem foldl_of_hexNumber {digits : List Char} {m n : Nat}
    (h : digits.foldlM (fun n c => (hexValue? c).map (16 * n + ·)) m = some n) :
    digits.foldl (fun n c => n * 16 + (hexValue? c).getD 0) m = n := by
  induction digits generalizing m with
  | nil => exact Option.some.inj h
  | cons c rest ih =>
    rw [List.foldlM_cons, Option.bind_eq_bind, Option.bind_eq_some_iff] at h
    obtain ⟨k, hk, hrest⟩ := h
    obtain ⟨v, hv, rfl⟩ := Option.map_eq_some_iff.mp hk
    rw [List.foldl_cons, hv, Option.getD_some, Nat.mul_comm]
    exact ih hrest

/-- Nothing or a colon comes next. -/
def Apart (rest : List Char) : Prop := ∀ c, rest.head? = some c → c = ':'

variable {cs rest : List Char}

theorem Apart.stops (h : Apart rest) : Stops isHexDigit rest := by
  intro c hc
  rw [h c hc]
  rfl

theorem readGroup_hexDigits (g : UInt16) (h : Apart rest) :
    readGroup (hexDigits false g.toNat ++ rest) = some (g, rest) := by
  have hall : ∀ c ∈ hexDigits false g.toNat, isHexDigit c := fun c => isHexDigit_of_mem_hexDigits
  have hlength := length_hexDigits_le g.toNat_lt
  have hvalue := foldl_of_hexNumber (hexNumber?_hexDigits false g.toNat)
  have hread : ¬ ((hexDigits false g.toNat).isEmpty ∨ 4 < (hexDigits false g.toNat).length) := by
    rintro (hempty | hlong)
    · exact hexDigits_ne_nil _ (List.isEmpty_iff.mp hempty)
    · omega
  unfold readGroup
  simp only [h.stops.takeWhile_append hall, h.stops.dropWhile_append hall, if_neg hread, hvalue, UInt16.ofNat_toNat]

theorem readGroup_apart (h : Apart rest) : readGroup rest = none := by
  have hnone : ([] ++ rest).takeWhile isHexDigit = [] := h.stops.takeWhile_append nofun
  rw [List.nil_append] at hnone
  simp [readGroup, hnone]

theorem readV4_group {digits : List Char} (all : ∀ c ∈ digits, isHexDigit c) (h : Apart rest) :
    readV4 (digits ++ rest) = none := by
  rw [Option.eq_none_iff_forall_ne_some]
  rintro ⟨⟨a, b, c, d⟩, more⟩ hread
  obtain ⟨htext, -⟩ := readV4_eq_some_iff.mp hread
  -- Both sides without the digits in front: there is a point on the right only.
  have hpoint : Stops isHexDigit ('.' :: (Nat.toDigits 10 b.toNat ++ '.' :: Nat.toDigits 10 c.toNat ++
      '.' :: Nat.toDigits 10 d.toNat ++ more)) := by
    intro x hx
    obtain rfl := Option.some.inj hx
    rfl
  have hleft := h.stops.dropWhile_append all
  have hright := hpoint.dropWhile_append fun x hx => isHexDigit_of_isDigit (toDigits_isDigit a.toNat x hx)
  have hsame : dotted a b c d ++ more = Nat.toDigits 10 a.toNat ++ '.' :: (Nat.toDigits 10 b.toNat ++
      '.' :: Nat.toDigits 10 c.toNat ++ '.' :: Nat.toDigits 10 d.toNat ++ more) := by simp [dotted]
  rw [htext, hsame, hright] at hleft
  have hcolon := h '.' (by rw [← hleft]; rfl)
  cases hcolon

theorem readV4_apart (h : Apart rest) : readV4 rest = none := by
  have hnone : readV4 ([] ++ rest) = none := readV4_group nofun h
  exact hnone

/-- Nothing comes next, or a double colon. -/
def Ended (rest : List Char) : Prop := rest = [] ∨ ∃ more, rest = ':' :: ':' :: more

theorem Ended.apart (h : Ended rest) : Apart rest := by
  rcases h with rfl | ⟨more, rfl⟩
  · nofun
  · intro c hc
    exact (Option.some.inj hc).symm

theorem apart_colon (rest : List Char) : Apart (':' :: rest) := fun _ hc => (Option.some.inj hc).symm

theorem skipColon_first (cs : List Char) : skipColon true cs = some cs := by
  unfold skipColon
  split
  next => rfl
  next => rfl

theorem readGroups_ended (first : Bool) (slots : Nat) (h : Ended rest) :
    readGroups first slots rest = ([], false, rest) := by
  cases slots with
  | zero => rfl
  | succ slots =>
    have hskip : skipColon first rest = none ∨ ∃ more, skipColon first rest = some more ∧ Apart more := by
      rcases h with rfl | ⟨more, rfl⟩
      · cases first with
        | true => exact .inr ⟨[], rfl, nofun⟩
        | false => exact .inl rfl
      · cases first with
        | true => exact .inr ⟨_, rfl, apart_colon _⟩
        | false => exact .inr ⟨_, rfl, apart_colon _⟩
    unfold readGroups
    rcases hskip with hskip | ⟨more, hskip, happart⟩
    · rw [hskip]
    · have hv4 : readV4 more = none := readV4_apart happart
      simp [hskip, hv4, readGroup_apart happart]

theorem readGroups_group {first : Bool} {slots : Nat} {g : UInt16} (apart : Apart rest)
    (skip : skipColon first cs = some (hexDigits false g.toNat ++ rest)) :
    readGroups first (slots + 1) cs =
      (g :: (readGroups false slots rest).1, (readGroups false slots rest).2.1, (readGroups false slots rest).2.2) := by
  have hv4 : readV4 (hexDigits false g.toNat ++ rest) = none :=
    readV4_group (fun c => isHexDigit_of_mem_hexDigits) apart
  rw [readGroups]
  simp [skip, hv4, readGroup_hexDigits g apart]

theorem groupChars_cons (g next : UInt16) (gs : List UInt16) :
    groupChars (g :: next :: gs) = hexDigits false g.toNat ++ ':' :: groupChars (next :: gs) := by
  simp [groupChars]

theorem readGroups_cons {first : Bool} {slots : Nat} {g : UInt16} {gs : List UInt16} (ended : Ended rest)
    (skip : skipColon first cs = some (groupChars (g :: gs) ++ rest)) (room : gs.length < slots) :
    readGroups first slots cs = (g :: gs, false, rest) := by
  induction gs generalizing first slots cs g with
  | nil =>
    cases slots with
    | zero => cases room
    | succ slots => rw [readGroups_group ended.apart skip, readGroups_ended false slots ended]
  | cons next gs ih =>
    cases slots with
    | zero => cases room
    | succ slots =>
      have hrest : readGroups false slots (':' :: (groupChars (next :: gs) ++ rest)) = (next :: gs, false, rest) :=
        ih rfl (Nat.lt_of_succ_lt_succ room)
      rw [groupChars_cons, List.append_assoc, List.cons_append] at skip
      rw [readGroups_group (apart_colon _) skip, hrest]

theorem readGroups_groupChars {slots : Nat} {gs : List UInt16} (ended : Ended rest) (room : gs.length ≤ slots) :
    readGroups true slots (groupChars gs ++ rest) = (gs, false, rest) := by
  cases gs with
  | nil => exact readGroups_ended true slots ended
  | cons g gs => exact readGroups_cons ended (skipColon_first _) room

theorem readGroups_dotted (slots : Nat) (a b c d : UInt8) :
    readGroups false (slots + 2) (':' :: dotted a b c d) = ([wordOfBytes a b, wordOfBytes c d], true, []) := by
  have hv4 : readV4 (dotted a b c d) = some ((a, b, c, d), []) :=
    readV4_eq_some_iff.mpr ⟨(List.append_nil _).symm, nofun⟩
  rw [readGroups]
  simp [skipColon, hv4]

theorem readV4_groupChars (gs : List UInt16) (ended : Ended rest) : readV4 (groupChars gs ++ rest) = none := by
  have hdigits : ∀ g : UInt16, ∀ c ∈ hexDigits false g.toNat, isHexDigit c :=
    fun g c => isHexDigit_of_mem_hexDigits
  cases gs with
  | nil => exact readV4_apart ended.apart
  | cons g gs =>
    cases gs with
    | nil => exact readV4_group (hdigits g) ended.apart
    | cons next gs =>
      rw [groupChars_cons, List.append_assoc]
      exact readV4_group (hdigits g) (apart_colon _)

theorem readV6_groupChars {groups : List UInt16} (eight : groups.length = 8) :
    readV6 (groupChars groups) = some (groups, []) := by
  have hread : readGroups true 8 (groupChars groups ++ []) = (groups, false, []) :=
    readGroups_groupChars (.inl rfl) (Nat.le_of_eq eight)
  rw [List.append_nil] at hread
  simp [readV6, hread, eight]

/-- A double colon stands for one group of zeros or more. -/
theorem readV6_shortened {front back : List UInt16} (short : front.length + back.length < 8) :
    readV6 (groupChars front ++ ':' :: ':' :: groupChars back) =
      some (front ++ List.replicate (8 - front.length - back.length) 0 ++ back, []) := by
  have hfront : readGroups true 8 (groupChars front ++ ':' :: ':' :: groupChars back) =
      (front, false, ':' :: ':' :: groupChars back) := readGroups_groupChars (.inr ⟨_, rfl⟩) (by omega)
  have hback : readGroups true (7 - front.length) (groupChars back ++ []) = (back, false, []) :=
    readGroups_groupChars (.inl rfl) (by omega)
  have hlength : front.length ≠ 8 := by omega
  rw [List.append_nil] at hback
  simp [readV6, hfront, hback, hlength]

theorem readV4_mapped (rest : List Char) : readV4 ("::ffff:".toList ++ rest) = none :=
  readV4_apart (apart_colon _)

theorem readV6_mapped (a b c d : UInt8) :
    readV6 ("::ffff:".toList ++ dotted a b c d) =
      some ([0, 0, 0, 0, 0, 0xFFFF, wordOfBytes a b, wordOfBytes c d], []) := by
  have htext : "::ffff:".toList ++ dotted a b c d =
      ':' :: ':' :: (hexDigits false (0xFFFF : UInt16).toNat ++ ':' :: dotted a b c d) := rfl
  have hended : Ended (':' :: ':' :: (hexDigits false (0xFFFF : UInt16).toNat ++ ':' :: dotted a b c d)) :=
    .inr ⟨_, rfl⟩
  have hback : readGroups true 7 (hexDigits false (0xFFFF : UInt16).toNat ++ ':' :: dotted a b c d) =
      ([0xFFFF, wordOfBytes a b, wordOfBytes c d], true, []) := by
    rw [readGroups_group (apart_colon _) (skipColon_first _), readGroups_dotted 4]
  rw [htext, readV6]
  simp only [readGroups_ended true 8 hended, List.length_nil, Nat.sub_zero, hback]
  rfl

theorem longestZeros_split (i : Nat) (groups : List UInt16) :
    ∃ front back, groups = front ++ List.replicate (longestZeros i groups).2 0 ++ back ∧
      (longestZeros i groups).1 = i + front.length := by
  induction groups generalizing i with
  | nil => exact ⟨[], [], rfl, rfl⟩
  | cons g gs ih =>
    obtain ⟨front, back, hgroups, hstart⟩ := ih (i + 1)
    rw [longestZeros]
    split
    next =>
      have hzeros : (g :: gs).takeWhile (· = 0) = List.replicate (leadingZeros (g :: gs)) 0 :=
        List.eq_replicate_of_mem fun x hx => by simpa using List.all_eq_true.mp List.all_takeWhile x hx
      refine ⟨[], (g :: gs).dropWhile (· = 0), ?_, rfl⟩
      rw [← hzeros, List.nil_append, List.takeWhile_append_dropWhile]
    next =>
      refine ⟨g :: front, back, ?_, ?_⟩
      · rw [List.cons_append, List.cons_append, ← hgroups]
      · rw [hstart, List.length_cons]
        omega

theorem readV6_chars {groups : List UInt16} (eight : groups.length = 8) :
    readV4 (v6 groups eight).chars = none ∧ readV6 (v6 groups eight).chars = some (groups, []) := by
  unfold chars
  dsimp only
  split
  next high low =>
    refine ⟨readV4_mapped _, ?_⟩
    rw [readV6_mapped, wordOfBytes_bytesOfWord, wordOfBytes_bytesOfWord]
  next =>
    obtain ⟨front, back, hgroups, hstart⟩ := longestZeros_split 0 groups
    generalize longestZeros 0 groups = zeros at hgroups hstart ⊢
    obtain ⟨start, count⟩ := zeros
    obtain rfl : start = front.length := hstart.trans (Nat.zero_add _)
    split
    next hlong =>
      have hfront : groups.take front.length = front := by rw [hgroups, List.append_assoc, List.take_left]
      have hback : groups.drop (front.length + count) = back := by
        have hlength : (front ++ List.replicate count 0).length = front.length + count := by simp
        rw [hgroups, ← hlength, List.drop_left]
      have hcount : 8 = front.length + count + back.length := by
        rw [← eight, hgroups]
        simp [Nat.add_assoc]
      have hzeros : count = 8 - front.length - back.length := by omega
      rw [hfront, hback]
      refine ⟨readV4_groupChars front (.inr ⟨_, rfl⟩), ?_⟩
      rw [readV6_shortened (by omega), ← hzeros, ← hgroups]
    next =>
      have hv4 : readV4 (groupChars groups ++ []) = none := readV4_groupChars groups (.inl rfl)
      rw [List.append_nil] at hv4
      exact ⟨hv4, readV6_groupChars eight⟩

/-- The canonical text spells the address. -/
theorem parse_chars (ip : IpAddress) : parse ip.chars = some ip := by
  cases ip with
  | v4 a b c d => exact parse_eq_v4_iff.mpr rfl
  | v6 groups eight =>
    obtain ⟨hv4, hv6⟩ := readV6_chars eight
    simp [parse, hv4, hv6, eight]

theorem readGroup_taken {g : UInt16} (h : readGroup cs = some (g, rest)) : ∃ digits, cs = digits ++ rest := by
  unfold readGroup at h
  dsimp only at h
  split at h
  next => cases h
  next =>
    obtain ⟨-, rfl⟩ := Prod.mk.inj (Option.some.inj h)
    exact ⟨_, List.takeWhile_append_dropWhile.symm⟩

theorem skipColon_taken {first : Bool} {more : List Char} (h : skipColon first cs = some more) :
    ∃ lead, cs = lead ++ more ∧ 2 ≤ lead.count ':' + if first then 2 else 1 := by
  cases first with
  | true =>
    rw [skipColon_first] at h
    exact ⟨[], Option.some.inj h, Nat.le_refl 2⟩
  | false =>
    unfold skipColon at h
    split at h
    next cs =>
      obtain rfl : cs = more := by simpa using h
      exact ⟨[':'], rfl, Nat.le_refl 2⟩
    next => simp at h

/-- A reader of groups stops, or takes four bytes, or takes a group and reads on behind it. -/
theorem readGroups_succ_cases {first withBytes : Bool} {slots : Nat} {gs : List UInt16}
    (h : readGroups first (slots + 1) cs = (gs, withBytes, rest)) :
    (gs = [] ∧ rest = cs) ∨ ∃ more, skipColon first cs = some more ∧
      ((∃ a b c d, readV4 more = some ((a, b, c, d), rest) ∧ gs = [wordOfBytes a b, wordOfBytes c d]) ∨
        ∃ g behind later, readGroup more = some (g, behind) ∧
          readGroups false slots behind = (later, withBytes, rest) ∧ gs = g :: later) := by
  rw [readGroups] at h
  cases hskip : skipColon first cs with
  | none =>
    simp only [hskip, Prod.mk.injEq] at h
    exact .inl ⟨h.1.symm, h.2.2.symm⟩
  | some more =>
    simp only [hskip] at h
    cases hv4 : (if 0 < slots then readV4 more else none) with
    | some read =>
      obtain ⟨⟨a, b, c, d⟩, behind⟩ := read
      have hread : readV4 more = some ((a, b, c, d), behind) := by
        split at hv4
        next => exact hv4
        next => cases hv4
      simp only [hv4, Prod.mk.injEq] at h
      obtain ⟨rfl, -, rfl⟩ := h
      exact .inr ⟨more, rfl, .inl ⟨a, b, c, d, hread, rfl⟩⟩
    | none =>
      simp only [hv4] at h
      cases hgroup : readGroup more with
      | none =>
        simp only [hgroup, Prod.mk.injEq] at h
        exact .inl ⟨h.1.symm, h.2.2.symm⟩
      | some read =>
        obtain ⟨g, behind⟩ := read
        rcases hbehind : readGroups false slots behind with ⟨later, withBytes', rest'⟩
        simp only [hgroup, hbehind, Prod.mk.injEq] at h
        obtain ⟨rfl, rfl, rfl⟩ := h
        exact .inr ⟨more, rfl, .inr ⟨g, behind, later, hgroup, hbehind, rfl⟩⟩

theorem readGroups_taken {first withBytes : Bool} {slots : Nat} {gs : List UInt16}
    (h : readGroups first slots cs = (gs, withBytes, rest)) :
    ∃ taken, cs = taken ++ rest ∧ gs.length ≤ taken.count ':' + if first then 2 else 1 := by
  induction slots generalizing first withBytes cs rest gs with
  | zero =>
    cases h
    exact ⟨[], rfl, Nat.zero_le _⟩
  | succ slots ih =>
    obtain ⟨rfl, rfl⟩ | ⟨more, hskip, hread⟩ := readGroups_succ_cases h
    · exact ⟨[], rfl, Nat.zero_le _⟩
    · obtain ⟨lead, rfl, hlead⟩ := skipColon_taken hskip
      obtain ⟨a, b, c, d, hv4, rfl⟩ | ⟨g, behind, later, hgroup, hlater, rfl⟩ := hread
      · obtain ⟨rfl, -⟩ := readV4_eq_some_iff.mp hv4
        refine ⟨lead ++ dotted a b c d, by rw [List.append_assoc], ?_⟩
        rw [List.count_append, List.length_cons, List.length_singleton]
        omega
      · obtain ⟨digits, rfl⟩ := readGroup_taken hgroup
        obtain ⟨taken, rfl, hcount⟩ := ih hlater
        refine ⟨lead ++ digits ++ taken, by simp, ?_⟩
        rw [List.count_append, List.count_append, List.length_cons]
        simp only [Bool.false_eq_true, ↓reduceIte] at hcount
        omega

theorem readV6_of_parse {groups : List UInt16} {eight : groups.length = 8} (h : parse cs = some (.v6 groups eight)) :
    readV6 cs = some (groups, []) := by
  unfold parse at h
  split at h
  next => cases h
  next =>
    split at h
    next hv6 =>
      split at h
      next =>
        cases h
        exact hv6
      next => cases h
    next => cases h

/-- A text with no colon or a single one spells no address of eight groups. -/
theorem two_le_count_colon {groups : List UInt16} {eight : groups.length = 8} (h : parse cs = some (.v6 groups eight)) :
    2 ≤ cs.count ':' := by
  have hread := readV6_of_parse h
  rw [readV6] at hread
  rcases hfront : readGroups true 8 cs with ⟨front, withBytes, rest⟩
  obtain ⟨taken, rfl, hcount⟩ := readGroups_taken hfront
  simp only [hfront] at hread
  rw [List.count_append]
  simp only [↓reduceIte] at hcount
  split at hread
  next hfull => omega
  next =>
    split at hread
    next => cases hread
    next =>
      split at hread
      next => simp only [List.count_cons_self]; omega
      next => cases hread

theorem parse_bracket (cs : List Char) : parse ('[' :: cs) = none := rfl

theorem parse_of_one_colon (h : cs.count ':' = 1) : parse cs = none := by
  rw [Option.eq_none_iff_forall_ne_some]
  intro ip hparse
  cases ip with
  | v4 a b c d =>
    rw [parse_eq_v4_iff.mp hparse, List.count_eq_zero.mpr (colon_notMem_dotted a b c d)] at h
    cases h
  | v6 groups eight =>
    have htwo := two_le_count_colon hparse
    omega

end MeterPolling.IpAddress
