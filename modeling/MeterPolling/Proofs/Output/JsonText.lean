import MeterPolling.Json.Reader
import MeterPolling.Proofs.Text.Digits
import MeterPolling.Text.Split

namespace MeterPolling

def signChars (negative : Bool) : List Char := if negative then ['-'] else []

theorem toString_int_toList (n : Int) :
    (toString n).toList = signChars (n < 0) ++ Nat.toDigits 10 n.natAbs := by
  rw [Int.toString_eq_repr, Int.repr_eq_if]
  split
  next hn =>
    have hsign : ¬ n < 0 := by omega
    have habs : n.toNat = n.natAbs := by omega
    simp [Nat.repr_eq_ofList_toDigits, signChars, hsign, habs]
  next hn =>
    have hsign : n < 0 := by omega
    have habs : (-n).toNat = n.natAbs := by omega
    simp only [signChars, hsign, habs, decide_true, ↓reduceIte, Nat.repr_eq_ofList_toDigits,
      String.toList_append, String.toList_ofList]
    rfl

namespace Json

/-- Digits that a number may start with: a zero stands alone. -/
structure WholeDigits (cs : List Char) : Prop where
  digits : ∀ c ∈ cs, c.isDigit
  nonempty : cs ≠ []
  zero : cs.head? = some '0' → cs.length = 1

theorem WholeDigits.ofNat (n : Nat) : WholeDigits (Nat.toDigits 10 n) :=
  ⟨toDigits_isDigit n, Nat.toDigits_ne_nil, toDigits_single⟩

theorem number?_parts (negative : Bool) {whole : List Char} (tail : List Char) (h : WholeDigits whole)
    (stop : ∀ c, tail.head? = some c → c.isDigit = false) :
    number? (signChars negative ++ whole ++ tail) =
      if tail.isEmpty then
        some (.int (if negative then -(Nat.ofDigitChars 10 whole 0 : Int) else Nat.ofDigitChars 10 whole 0))
      else if isTail tail then some (.decimal (String.ofList (signChars negative ++ whole ++ tail)))
      else none := by
  have hsign : ((signChars negative ++ whole ++ tail).head? = some '-') = (negative = true) := by
    cases negative with
    | true => simp [signChars]
    | false =>
      cases whole with
      | nil => exact absurd rfl h.nonempty
      | cons c whole =>
        have hc : c ≠ '-' := by
          rintro rfl
          exact absurd (h.digits '-' (List.mem_cons_self ..)) (by decide)
        simp [signChars, hc]
  have hunsigned : (if negative = true then (signChars negative ++ whole ++ tail).tail
      else signChars negative ++ whole ++ tail) = whole ++ tail := by
    cases negative <;> rfl
  have htake : tail.takeWhile Char.isDigit = [] ∧ tail.dropWhile Char.isDigit = tail := by
    cases tail with
    | nil => exact ⟨rfl, rfl⟩
    | cons c tail => simp [stop c rfl]
  have hwhole : (whole ++ tail).takeWhile Char.isDigit = whole := by
    rw [List.takeWhile_append_of_pos h.digits, htake.1, List.append_nil]
  have htail : (whole ++ tail).dropWhile Char.isDigit = tail := by
    rw [List.dropWhile_append_of_pos h.digits, htake.2]
  have hguard : (whole.isEmpty || (whole.head? = some '0' && 1 < whole.length)) = false := by
    have hsome := h.nonempty
    have hzero : ¬ (whole.head? = some '0' ∧ 1 < whole.length) := by
      rintro ⟨he, hlt⟩
      have hone := h.zero he
      omega
    simpa [hsome] using hzero
  unfold number?
  simp only [hsign, hunsigned, hwhole, htail, hguard]
  rfl

theorem number?_int (n : Int) : number? (toString n).toList = some (.int n) := by
  have hparts := number?_parts (n < 0) [] (WholeDigits.ofNat n.natAbs) (by simp)
  rw [List.append_nil, ← toString_int_toList] at hparts
  rw [hparts]
  have hvalue : (if n < 0 then -(n.natAbs : Int) else n.natAbs) = n := by
    split
    next => omega
    next => omega
  simpa [Nat.ofDigitChars_ten_toDigits] using hvalue

theorem isNumberChar_of_isDigit {c : Char} (h : c.isDigit) : isNumberChar c := by
  simp [isNumberChar, h]

theorem isDigits_iff {cs : List Char} : isDigits cs ↔ cs ≠ [] ∧ ∀ c ∈ cs, c.isDigit := by
  simp [isDigits]

theorem isExponent_chars {cs : List Char} (h : isExponent cs) : ∀ c ∈ cs, isNumberChar c := by
  cases cs with
  | nil => simp
  | cons mark rest =>
    obtain ⟨hmark, hdigits⟩ := (Bool.and_eq_true _ _).mp h
    have hfirst : isNumberChar mark := by
      simp only [Bool.or_eq_true, decide_eq_true_eq] at hmark
      rcases hmark with he | he
      · exact he ▸ rfl
      · exact he ▸ rfl
    refine List.forall_mem_cons.mpr ⟨hfirst, ?_⟩
    obtain ⟨_, hall⟩ := isDigits_iff.mp hdigits
    split at hall
    next hsigned =>
      cases rest with
      | nil => simp
      | cons sign digits =>
        have hsign : isNumberChar sign := by
          simp only [List.head?_cons, Option.some.injEq, Bool.or_eq_true, decide_eq_true_eq] at hsigned
          rcases hsigned with he | he
          · exact he ▸ rfl
          · exact he ▸ rfl
        exact List.forall_mem_cons.mpr ⟨hsign, fun c hc => isNumberChar_of_isDigit (hall c hc)⟩
    next => exact fun c hc => isNumberChar_of_isDigit (hall c hc)

theorem isTail_chars {cs : List Char} (h : isTail cs) : ∀ c ∈ cs, isNumberChar c := by
  unfold isTail at h
  split at h
  next rest =>
    obtain ⟨hfraction, hexponent⟩ := (Bool.and_eq_true _ _).mp h
    refine List.forall_mem_cons.mpr ⟨rfl, ?_⟩
    rw [← List.takeWhile_append_dropWhile (p := Char.isDigit) (l := rest)]
    refine List.forall_mem_append.mpr ⟨?_, ?_⟩
    · exact fun c hc => isNumberChar_of_isDigit ((isDigits_iff.mp hfraction).2 c hc)
    · rcases (Bool.or_eq_true _ _).mp hexponent with hnone | hsome
      · simp [List.isEmpty_iff.mp hnone]
      · exact isExponent_chars hsome
  next => exact isExponent_chars h

theorem unsigned_chars {unsigned : List Char} (whole : (unsigned.takeWhile Char.isDigit).isEmpty = false)
    (tail : (unsigned.dropWhile Char.isDigit).isEmpty ∨ isTail (unsigned.dropWhile Char.isDigit)) :
    unsigned ≠ [] ∧ ∀ c ∈ unsigned, isNumberChar c := by
  constructor
  · rintro rfl
    simp at whole
  · rw [← List.takeWhile_append_dropWhile (p := Char.isDigit) (l := unsigned)]
    refine List.forall_mem_append.mpr ⟨?_, ?_⟩
    · intro c hc
      exact isNumberChar_of_isDigit (List.all_eq_true.mp List.all_takeWhile c hc)
    · rcases tail with hnone | hsome
      · simp [List.isEmpty_iff.mp hnone]
      · exact isTail_chars hsome

theorem number?_chars {token : List Char} {j : Json} (h : number? token = some j) :
    token ≠ [] ∧ ∀ c ∈ token, isNumberChar c := by
  unfold number? at h
  simp only at h
  generalize hu : (if token.head? = some '-' then token.tail else token) = unsigned at h
  have hunsigned : unsigned ≠ [] ∧ ∀ c ∈ unsigned, isNumberChar c := by
    split at h
    next => cases h
    next hguard =>
      rw [Bool.not_eq_true, Bool.or_eq_false_iff] at hguard
      refine unsigned_chars hguard.1 ?_
      split at h
      next hnone => exact .inl hnone
      next =>
        split at h
        next htail => exact .inr htail
        next => cases h
  cases token with
  | nil =>
    subst hu
    simp at hunsigned
  | cons c rest =>
    refine ⟨List.cons_ne_nil c rest, ?_⟩
    by_cases hc : c = '-'
    · have hrest : rest = unsigned := by simpa [hc] using hu
      subst hc hrest
      exact List.forall_mem_cons.mpr ⟨rfl, hunsigned.2⟩
    · have hall : c :: rest = unsigned := by simpa [hc] using hu
      rw [hall]
      exact hunsigned.2

theorem hexChar?_control {n : Nat} (h : n < 0x20) :
    hexChar? (Text.hexPadded false 4 n) = some (Char.ofNat n) ∧ (Text.hexPadded false 4 n).length = 4 := by
  have hall : ∀ n < 0x20, hexChar? (Text.hexPadded false 4 n) = some (Char.ofNat n) ∧
      (Text.hexPadded false 4 n).length = 4 := by
    decide
  exact hall n h

theorem readChar_stringChar (c : Char) (rest : List Char) :
    readChar (stringChar c ++ rest) = some (c, rest) ∧ (stringChar c ++ rest).head? ≠ some '"' := by
  by_cases hescaped : c ∈ ['"', '\\', '\x08', '\x0C', '\n', '\r', '\t']
  · simp only [List.mem_cons, List.not_mem_nil, or_false] at hescaped
    rcases hescaped with rfl | rfl | rfl | rfl | rfl | rfl | rfl <;> exact ⟨rfl, by simp [stringChar]⟩
  · simp only [List.mem_cons, List.not_mem_nil, or_false, not_or] at hescaped
    obtain ⟨hquote, hslash, hb, hf, hn, hr, ht⟩ := hescaped
    by_cases hcontrol : c.toNat < 0x20
    · have hchars : stringChar c = '\\' :: 'u' :: Text.hexPadded false 4 c.toNat := by
        simp [stringChar, hquote, hslash, hb, hf, hn, hr, ht, hcontrol]
      obtain ⟨hvalue, hlength⟩ := hexChar?_control hcontrol
      have hlong : ¬ (Text.hexPadded false 4 c.toNat ++ rest).length < 4 := by
        rw [List.length_append]
        omega
      have htake : (Text.hexPadded false 4 c.toNat ++ rest).take 4 = Text.hexPadded false 4 c.toNat :=
        List.take_left' hlength
      have hdrop : (Text.hexPadded false 4 c.toNat ++ rest).drop 4 = rest :=
        List.drop_left' hlength
      rw [hchars]
      refine ⟨?_, by simp⟩
      simp only [List.cons_append, readChar, ↓reduceIte, hlong, htake, hdrop, hvalue, Char.ofNat_toNat]
      rfl
    · have hchars : stringChar c = [c] := by
        simp [stringChar, hquote, hslash, hb, hf, hn, hr, ht, hcontrol]
      rw [hchars]
      refine ⟨?_, by simpa using hquote⟩
      have hplain : readChar (c :: rest) = some (c, rest) := by
        unfold readChar
        split
        next h => cases h
        next h => exact absurd (List.cons.inj h).1 hslash
        next h =>
          cases h
          simp [hcontrol, hslash]
      exact hplain

theorem readString_stringChar {fuel : Nat} (cs rest : List Char) (h : cs.length < fuel) :
    readString fuel (cs.flatMap stringChar ++ '"' :: rest) = some (cs, rest) := by
  induction cs generalizing fuel with
  | nil =>
    match fuel, h with
    | fuel + 1, _ => simp [readString]
  | cons c cs ih =>
    match fuel, h with
    | fuel + 1, h =>
      obtain ⟨hread, hhead⟩ := readChar_stringChar c (cs.flatMap stringChar ++ '"' :: rest)
      have hshort : cs.length < fuel := by simpa using h
      have hrest := ih hshort
      rw [List.flatMap_cons, List.append_assoc, readString, if_neg hhead, hread]
      simp [hrest]

/-- A value whose decimals are the texts of numbers with a fraction or an exponent. -/
inductive Readable : Json → Prop
  | null : Readable .null
  | bool (b : Bool) : Readable (.bool b)
  | int (n : Int) : Readable (.int n)
  | decimal {text : String} (h : number? text.toList = some (.decimal text)) : Readable (.decimal text)
  | string (s : String) : Readable (.string s)
  | array {items : List Json} (h : ∀ j ∈ items, Readable j) : Readable (.array items)
  | object {members : List (String × Json)} (h : ∀ m ∈ members, Readable m.2) : Readable (.object members)

def Stops (rest : List Char) : Prop := ∀ c, rest.head? = some c → isNumberChar c = false

theorem readValue_number {fuel : Nat} {token rest : List Char} {j : Json} (h : number? token = some j)
    (stops : Stops rest) : readValue (fuel + 1) (token ++ rest) = some (j, rest) := by
  obtain ⟨hne, hall⟩ := number?_chars h
  have hnone : rest.takeWhile isNumberChar = [] ∧ rest.dropWhile isNumberChar = rest := by
    cases rest with
    | nil => exact ⟨rfl, rfl⟩
    | cons c rest => simp [stops c rfl]
  have htoken : (token ++ rest).takeWhile isNumberChar = token := by
    rw [List.takeWhile_append_of_pos hall, hnone.1, List.append_nil]
  have hrest : (token ++ rest).dropWhile isNumberChar = rest := by
    rw [List.dropWhile_append_of_pos hall, hnone.2]
  simp [readValue, htoken, hrest, hne, h]

theorem Readable.head {j : Json} (h : Readable j) : ∃ c rest, j.chars = c :: rest ∧ c ≠ ']' := by
  have hnumber : ∀ {token : List Char} {k : Json}, number? token = some k →
      ∃ c rest, token = c :: rest ∧ c ≠ ']' := by
    intro token k hk
    obtain ⟨hne, hall⟩ := number?_chars hk
    cases token with
    | nil => exact absurd rfl hne
    | cons c rest =>
      refine ⟨c, rest, rfl, ?_⟩
      rintro rfl
      exact absurd (hall ']' (List.mem_cons_self ..)) (by decide)
  cases h with
  | null => exact ⟨_, _, rfl, by decide⟩
  | bool b => cases b <;> exact ⟨_, _, rfl, by decide⟩
  | int n => exact hnumber (number?_int n)
  | decimal h => exact hnumber h
  | string s => exact ⟨_, _, rfl, by decide⟩
  | array h => exact ⟨_, _, rfl, by decide⟩
  | object h => exact ⟨_, _, rfl, by decide⟩

theorem itemChars_cons (j : Json) (rest : List Json) :
    itemChars false (j :: rest) = ',' :: itemChars true (j :: rest) := by
  simp [itemChars]

theorem memberChars_cons (m : String × Json) (rest : List (String × Json)) :
    memberChars false (m :: rest) = ',' :: memberChars true (m :: rest) := by
  simp [memberChars]

theorem length_le_flatMap_stringChar (cs : List Char) : cs.length ≤ (cs.flatMap stringChar).length := by
  induction cs with
  | nil => exact Nat.le_refl 0
  | cons c cs ih =>
    have hfirst : 0 < (stringChar c).length := by
      unfold stringChar
      repeat' split
      all_goals simp
    rw [List.flatMap_cons, List.length_append, List.length_cons]
    omega

/-- What a reader with enough fuel makes of values, of items and of members. -/
structure Reads (fuel : Nat) : Prop where
  value : ∀ {j : Json} (rest : List Char), Readable j → Stops rest → j.chars.length ≤ fuel →
    readValue fuel (j.chars ++ rest) = some (j, rest)
  items : ∀ {j : Json} {more : List Json} (rest : List Char), (∀ k ∈ j :: more, Readable k) →
    (itemChars true (j :: more)).length < fuel →
    readItems fuel (itemChars true (j :: more) ++ ']' :: rest) = some (j :: more, rest)
  members : ∀ {m : String × Json} {more : List (String × Json)} (rest : List Char),
    (∀ k ∈ m :: more, Readable k.2) → (memberChars true (m :: more)).length < fuel →
    readMembers fuel (memberChars true (m :: more) ++ '}' :: rest) = some (m :: more, rest)

section Step

variable {fuel : Nat} (rest : List Char)

theorem readString_stringChars (s : String) (h : (stringChars s.toList).length ≤ fuel + 1) :
    readString fuel (s.toList.flatMap stringChar ++ '"' :: rest) = some (s.toList, rest) := by
  have hle := length_le_flatMap_stringChar s.toList
  simp only [stringChars, List.length_cons, List.length_append, List.length_nil] at h
  exact readString_stringChar s.toList rest (by omega)

theorem Reads.value_succ (ih : Reads fuel) {j : Json} (h : Readable j) (stops : Stops rest)
    (hlength : j.chars.length ≤ fuel + 1) : readValue (fuel + 1) (j.chars ++ rest) = some (j, rest) := by
  have hquote : isNumberChar '"' = false := rfl
  have hbracket : isNumberChar '[' = false := rfl
  have hbrace : isNumberChar '{' = false := rfl
  cases h with
  | null => rfl
  | bool b => cases b <;> rfl
  | int n => exact readValue_number (number?_int n) stops
  | decimal h => exact readValue_number h stops
  | string s =>
    have hread := readString_stringChars rest s hlength
    simp [chars, stringChars, readValue, hquote, hread]
  | @array items h =>
    cases items with
    | nil => simp [chars, itemChars, readValue, hbracket]
    | cons k more =>
      simp only [chars, List.cons_append, List.length_cons, List.length_append, List.length_nil] at hlength
      have hread := ih.items rest h (by omega)
      obtain ⟨c, cs, hc, hne⟩ := (h k (List.mem_cons_self ..)).head
      have hhead : (itemChars true (k :: more)).head?.getD ']' ≠ ']' := by
        simp [itemChars, hc, hne]
      simp [chars, readValue, hbracket, hhead, hread]
  | @object members h =>
    cases members with
    | nil => simp [chars, memberChars, readValue, hbrace]
    | cons m more =>
      simp only [chars, List.cons_append, List.length_cons, List.length_append, List.length_nil] at hlength
      have hread := ih.members rest h (by omega)
      have hhead : (memberChars true (m :: more)).head?.getD '}' ≠ '}' := by
        simp [memberChars, stringChars]
      simp [chars, readValue, hbrace, hhead, hread]

theorem Reads.items_succ (ih : Reads fuel) {j : Json} {more : List Json}
    (h : ∀ k ∈ j :: more, Readable k) (hlength : (itemChars true (j :: more)).length < fuel + 1) :
    readItems (fuel + 1) (itemChars true (j :: more) ++ ']' :: rest) = some (j :: more, rest) := by
  have hchars : itemChars true (j :: more) = j.chars ++ itemChars false more := by
    simp [itemChars]
  rw [hchars, List.length_append] at hlength
  rw [hchars, List.append_assoc]
  obtain ⟨hfirst, hothers⟩ := List.forall_mem_cons.mp h
  cases more with
  | nil =>
    have hread := ih.value (']' :: rest) hfirst (by simp [Stops, isNumberChar]) (by omega)
    simp [itemChars, readItems, hread]
  | cons k more =>
    rw [itemChars_cons, List.length_cons] at hlength
    have hread := ih.value (',' :: (itemChars true (k :: more) ++ ']' :: rest)) hfirst
      (by simp [Stops, isNumberChar]) (by omega)
    have hrest := ih.items rest hothers (by omega)
    rw [itemChars_cons, List.cons_append]
    simp [readItems, hread, hrest]

theorem Reads.members_succ (ih : Reads fuel) {m : String × Json} {more : List (String × Json)}
    (h : ∀ k ∈ m :: more, Readable k.2) (hlength : (memberChars true (m :: more)).length < fuel + 1) :
    readMembers (fuel + 1) (memberChars true (m :: more) ++ '}' :: rest) = some (m :: more, rest) := by
  obtain ⟨name, value⟩ := m
  have hchars : memberChars true ((name, value) :: more) =
      stringChars name.toList ++ ':' :: (value.chars ++ memberChars false more) := by
    simp [memberChars]
  have hstring : ∀ behind, stringChars name.toList ++ behind =
      '"' :: (name.toList.flatMap stringChar ++ '"' :: behind) := by
    simp [stringChars]
  rw [hchars, List.length_append, List.length_cons, List.length_append] at hlength
  rw [hchars, List.append_assoc, hstring]
  have hname : ∀ behind : List Char,
      readString fuel (name.toList.flatMap stringChar ++ '"' :: behind) = some (name.toList, behind) :=
    fun behind => readString_stringChars behind name (by omega)
  obtain ⟨hfirst, hothers⟩ := List.forall_mem_cons.mp h
  have hvalue : Readable value := hfirst
  cases more with
  | nil =>
    have hread := ih.value ('}' :: rest) hvalue (by simp [Stops, isNumberChar]) (by omega)
    simp [memberChars, readMembers, hname, hread]
  | cons k more =>
    rw [memberChars_cons, List.length_cons] at hlength
    have hread := ih.value (',' :: (memberChars true (k :: more) ++ '}' :: rest)) hvalue
      (by simp [Stops, isNumberChar]) (by omega)
    have hrest := ih.members rest hothers (by omega)
    rw [memberChars_cons]
    simp [readMembers, hname, hread, hrest]

end Step

theorem reads_all (fuel : Nat) : Reads fuel := by
  induction fuel with
  | zero =>
    refine ⟨?_, by simp, by simp⟩
    intro j rest h _ hlength
    obtain ⟨c, cs, hc, _⟩ := h.head
    simp [hc] at hlength
  | succ fuel ih => exact ⟨ih.value_succ, ih.items_succ, ih.members_succ⟩

theorem read?_chars {j : Json} (h : Readable j) : read? j.chars = some j := by
  have hread := (reads_all j.chars.length).value [] h (by simp [Stops]) (Nat.le_refl _)
  rw [List.append_nil] at hread
  simp [read?, hread]

def Printable (cs : List Char) : Prop := ∀ c ∈ cs, 0x20 ≤ c.toNat

theorem printable_number {token : List Char} {j : Json} (h : number? token = some j) : Printable token := by
  intro c hc
  have hchar := (number?_chars h).2 c hc
  simp only [isNumberChar, Bool.or_eq_true, decide_eq_true_eq, Char.isDigit_iff_toNat] at hchar
  rcases hchar with ((((⟨hlow, _⟩ | he) | he) | he) | he) | he
  · have hzero : ('0' : Char).toNat = 48 := rfl
    omega
  all_goals
    rw [he]
    decide

theorem printable_stringChar (c : Char) : Printable (stringChar c) := by
  have hall : ((List.range 0x20).all fun n =>
      ('\\' :: 'u' :: Text.hexPadded false 4 n).all fun d => 0x20 ≤ d.toNat) = true := by decide
  have hhex : ∀ n < 0x20, Printable ('\\' :: 'u' :: Text.hexPadded false 4 n) := by
    intro n hn d hd
    have hcode := List.all_eq_true.mp hall n (List.mem_range.mpr hn)
    exact of_decide_eq_true (List.all_eq_true.mp hcode d hd)
  unfold stringChar
  split
  next => simp [Printable]
  next =>
    split
    next => simp [Printable]
    next =>
      by_cases hcontrol : c.toNat < 0x20
      · have hcode := hhex c.toNat hcontrol
        simp only [hcontrol, ↓reduceIte]
        repeat' split
        all_goals first | exact hcode | simp [Printable]
      · have hself : Printable [c] := by
          simp only [Printable, List.mem_singleton, forall_eq]
          omega
        simp only [hcontrol, ↓reduceIte]
        repeat' split
        all_goals first | exact hself | simp [Printable]

theorem printable_stringChars (cs : List Char) : Printable (stringChars cs) := by
  intro c hc
  simp only [stringChars, List.mem_cons, List.mem_append, List.mem_flatMap, List.not_mem_nil,
    or_false] at hc
  rcases hc with he | ⟨d, _, hd⟩ | he
  · rw [he]
    decide
  · exact printable_stringChar d c hd
  · rw [he]
    decide

theorem printable_items {items : List Json} (h : ∀ j ∈ items, Printable j.chars) (first : Bool) :
    Printable (itemChars first items) := by
  induction items generalizing first with
  | nil => simp [Printable, itemChars]
  | cons j rest ih =>
    obtain ⟨hfirst, hrest⟩ := List.forall_mem_cons.mp h
    have hcomma : Printable (if first then [] else [',']) := by
      cases first <;> simp [Printable]
    exact List.forall_mem_append.mpr ⟨List.forall_mem_append.mpr ⟨hcomma, hfirst⟩, ih hrest false⟩

theorem printable_members {members : List (String × Json)} (h : ∀ m ∈ members, Printable m.2.chars)
    (first : Bool) : Printable (memberChars first members) := by
  induction members generalizing first with
  | nil => simp [Printable, memberChars]
  | cons m rest ih =>
    obtain ⟨hfirst, hrest⟩ := List.forall_mem_cons.mp h
    have hcomma : Printable (if first then [] else [',']) := by
      cases first <;> simp [Printable]
    have hcolon : Printable (':' :: m.2.chars) := List.forall_mem_cons.mpr ⟨by decide, hfirst⟩
    have hname := printable_stringChars m.1.toList
    have hmember := List.forall_mem_append.mpr ⟨List.forall_mem_append.mpr ⟨hcomma, hname⟩, hcolon⟩
    exact List.forall_mem_append.mpr ⟨hmember, ih hrest false⟩

theorem printable_chars {j : Json} (h : Readable j) : Printable j.chars := by
  have hwrapped : ∀ {first last : Char} {cs : List Char}, 0x20 ≤ first.toNat → 0x20 ≤ last.toNat →
      Printable cs → Printable (first :: cs ++ [last]) := by
    intro first last cs hfirst hlast hcs
    refine List.forall_mem_append.mpr ⟨List.forall_mem_cons.mpr ⟨hfirst, hcs⟩, ?_⟩
    simpa using hlast
  induction h with
  | null => simp [Printable, chars]
  | bool b => cases b <;> simp [Printable, chars]
  | int n => exact printable_number (number?_int n)
  | decimal h => exact printable_number h
  | string s => exact printable_stringChars s.toList
  | array _ ih => exact hwrapped (by decide) (by decide) (printable_items ih true)
  | object _ ih => exact hwrapped (by decide) (by decide) (printable_members ih true)

/-- Lines without control characters are the parts between the line feeds; nothing stands behind the last one. -/
theorem split_lines {lines : List (List Char)} (h : ∀ line ∈ lines, Printable line) :
    Text.split '\n' (lines.flatMap (· ++ ['\n'])) = lines ++ [[]] := by
  have hline : ∀ (line rest : List Char), Printable line →
      Text.split '\n' (line ++ '\n' :: rest) = line :: Text.split '\n' rest := by
    intro line rest hprintable
    induction line with
    | nil => simp [Text.split, Text.cut]
    | cons c line ih =>
      obtain ⟨hc, hothers⟩ := List.forall_mem_cons.mp hprintable
      have hfeed : c ≠ '\n' := by
        rintro rfl
        exact absurd hc (by decide)
      obtain ⟨hpart, hmore⟩ := List.cons.inj (ih hothers)
      simp only [Text.split, List.cons_append, Text.cut, if_neg hfeed, hpart] at hmore ⊢
      rw [hmore]
  induction lines with
  | nil => rfl
  | cons line rest ih =>
    obtain ⟨hfirst, hothers⟩ := List.forall_mem_cons.mp h
    rw [List.flatMap_cons, List.append_assoc, List.singleton_append, hline line _ hfirst, ih hothers,
      List.cons_append]

end Json

end MeterPolling
