import MeterPolling.Proofs.Decoder.Words

namespace MeterPolling

namespace Decoder

variable {d : Decoder} {words : List UInt16} {cause : DecodeError} {value : Value}

def Fails (d : Decoder) (words : List UInt16) : DecodeError → Prop
  | .sizeMismatch expected actual =>
    ¬ d.Fits words.length ∧ expected = d.words.getD 1 ∧ actual = words.length
  | .notAscii => d.Fits words.length ∧ d.encoding = .ascii ∧ ¬ d.encoding.Valid words
  | .utf8 defect =>
    d.Fits words.length ∧ d.encoding = .utf8 ∧ Text.decodeUtf8 (bytesOfWords words) = .error defect
  | .notNumeric =>
    d.Fits words.length ∧ d.encoding.Valid words ∧ d.factors ≠ [] ∧
      (d.encoding = .ascii ∨ d.encoding = .utf8 ∨ d.encoding = .raw)

/-- What decoding yields: what the words hold, or its number times all factors, the first one first. -/
inductive Yields (words : List UInt16) : Decoder → Value → Prop
  | base {e : Encoding} {value : Value} (holds : e.Holds words value) : Yields words ⟨e, []⟩ value
  | scaled {e : Encoding} {value : Value} {x : Binary64} (holds : e.Holds words value)
      (number : value.toBinary64? = some x) (factor : Binary64) (rest : List Binary64) :
      Yields words ⟨e, factor :: rest⟩ (.f64 ((factor :: rest).foldl (· * ·) x))

theorem decode_unfit (h : ¬ d.Fits words.length) :
    d.decode words = .error (.sizeMismatch (d.words.getD 1) words.length) := by
  unfold decode
  rw [Encoding.checkSize_error h]
  rfl

theorem decode_error_iff : d.decode words = .error cause ↔ d.Fails words cause := by
  by_cases hfits : d.Fits words.length
  · rw [decode_error_of_fits hfits]
    constructor
    · rintro (hspoils | ⟨base, hread, hfactors, hnumber, hcause⟩)
      · generalize he : d.encoding = e at hspoils
        cases hspoils with
        | ascii invalid =>
          rw [← he] at invalid
          exact ⟨hfits, he, invalid⟩
        | utf8 invalid => exact ⟨hfits, he, invalid⟩
      · subst hcause
        have hholds := (Encoding.read_eq_ok_iff hfits.2).mp hread
        have htext := Encoding.words_eq_none_iff.mp ((Encoding.read_number_iff hread).mp hnumber)
        exact ⟨hfits, hholds.valid, hfactors, htext⟩
    · intro h
      cases cause with
      | sizeMismatch expected actual => exact absurd hfits h.1
      | notAscii =>
        obtain ⟨_, he, invalid⟩ := h
        rw [he] at invalid ⊢
        exact .inl (.ascii invalid)
      | utf8 defect =>
        obtain ⟨_, he, invalid⟩ := h
        rw [he]
        exact .inl (.utf8 invalid)
      | notNumeric =>
        obtain ⟨_, valid, hfactors, htext⟩ := h
        obtain ⟨base, hholds⟩ := Encoding.holds_exists valid hfits.2
        have hread := hholds.read hfits.2
        have hnumber := (Encoding.read_number_iff hread).mpr (Encoding.words_eq_none_iff.mpr htext)
        exact .inr ⟨base, hread, hfactors, hnumber, rfl⟩
  · rw [decode_unfit hfits]
    constructor
    · intro h
      cases h
      exact ⟨hfits, rfl, rfl⟩
    · intro h
      cases cause with
      | sizeMismatch expected actual =>
        obtain ⟨_, hexpected, hactual⟩ := h
        rw [hexpected, hactual]
      | notAscii => exact absurd h.1 hfits
      | utf8 defect => exact absurd h.1 hfits
      | notNumeric => exact absurd h.1 hfits

theorem decode_ok_iff : d.decode words = .ok value ↔ d.Fits words.length ∧ d.Yields words value := by
  by_cases hfits : d.Fits words.length
  · obtain ⟨e, factors⟩ := d
    rw [decode_eq hfits]
    constructor
    · intro h
      refine ⟨hfits, ?_⟩
      cases hr : e.read words with
      | error first =>
        simp only [hr] at h
        cases h
      | ok base =>
        have hholds := (Encoding.read_eq_ok_iff hfits.2).mp hr
        simp only [hr] at h
        have hscale : factors.foldlM Value.scale base = .ok value := h
        cases factors with
        | nil =>
          cases hscale
          exact .base hholds
        | cons factor rest =>
          cases hx : base.toBinary64? with
          | none => cases (Value.scale_none hx factor rest).symm.trans hscale
          | some x =>
            cases (Value.scale_all hx factor rest).symm.trans hscale
            exact .scaled hholds hx factor rest
    · rintro ⟨_, hyields⟩
      cases hyields with
      | base holds =>
        simp only [holds.read hfits.2]
        rfl
      | scaled holds number factor rest =>
        simp only [holds.read hfits.2]
        exact Value.scale_all number factor rest
  · rw [decode_unfit hfits]
    constructor
    · intro h
      cases h
    · intro h
      exact absurd h.1 hfits

theorem decode_base_iff {e : Encoding} :
    (⟨e, []⟩ : Decoder).decode words = .ok value ↔ (⟨e, []⟩ : Decoder).Fits words.length ∧ e.Holds words value := by
  rw [decode_ok_iff]
  refine and_congr_right fun _ => ?_
  constructor
  · rintro ⟨holds⟩
    exact holds
  · exact .base

end Decoder

/-- A decoder as it is nested: an encoding, or a factor around another decoder. -/
inductive NestedDecoder where
  | base (encoding : Encoding)
  | scaled (inner : NestedDecoder) (factor : Binary64)

def natOfBytes (bs : List UInt8) : Nat := bs.foldl (fun n b => n * 256 + b.toNat) 0

/-- So many bytes, of which those of the words are the first: zeros fill them up, and what is too much is cut off. -/
def filled (count : Nat) (words : List UInt16) : List UInt8 :=
  (bytesOfWords words ++ List.replicate count 0).take count

/-- Reads words without a look at their number; nothing is read if a word that is not there is asked for. -/
def Encoding.take? (words : List UInt16) : Encoding → Option (Except DecodeError Value)
  | .u16 => words[0]?.map fun w => .ok (.u16 w)
  | .i16 => some (.ok (.i16 (UInt16.ofNat (natOfBytes (filled 2 words))).toInt16))
  | .u32 => some (.ok (.u32 (UInt32.ofNat (natOfBytes (filled 4 words)))))
  | .i32 => some (.ok (.i32 (UInt32.ofNat (natOfBytes (filled 4 words))).toInt32))
  | .u64 => some (.ok (.u64 (UInt64.ofNat (natOfBytes (filled 8 words)))))
  | .i64 => some (.ok (.i64 (UInt64.ofNat (natOfBytes (filled 8 words))).toInt64))
  | .f32 => some (.ok (.f32 ⟨UInt32.ofNat (natOfBytes (filled 4 words))⟩))
  | .ascii => some (Encoding.ascii.read words)
  | .utf8 => some (Encoding.utf8.read words)
  | .raw => some (.ok (.bytes (bytesOfWords words)))

namespace NestedDecoder

def words : NestedDecoder → Option Nat
  | .base e => e.words
  | .scaled inner _ => inner.words

def mismatch? (n : NestedDecoder) (count : Nat) : Option DecodeError :=
  match n.words with
  | some expected => if count ≠ expected then some (.sizeMismatch expected count) else none
  | none => if count = 0 then some (.sizeMismatch 1 0) else none

/-- Decodes from the inside out; each level looks at the number of words before the one inside does. -/
def decode? (words : List UInt16) : NestedDecoder → Option (Except DecodeError Value)
  | .base e =>
    match (base e).mismatch? words.length with
    | some cause => some (.error cause)
    | none => e.take? words
  | .scaled inner factor =>
    match (scaled inner factor).mismatch? words.length with
    | some cause => some (.error cause)
    | none => (inner.decode? words).map (· >>= (·.scale factor))

/-- The encoding inside, and the factors around it from the inside out. -/
def flat : NestedDecoder → Decoder
  | .base e => ⟨e, []⟩
  | .scaled inner factor => ⟨inner.flat.encoding, inner.flat.factors ++ [factor]⟩

end NestedDecoder

theorem natOfBytes_bytesOfWords (words : List UInt16) : natOfBytes (bytesOfWords words) = natOfWords words := by
  have hfrom : ∀ n, (bytesOfWords words).foldl (fun n (b : UInt8) => n * 256 + b.toNat) n =
      words.foldl (fun n (w : UInt16) => n * 65536 + w.toNat) n := by
    induction words with
    | nil =>
      intro n
      rfl
    | cons w words ih =>
      intro n
      have hw := w.toNat_lt
      have hbytes : (n * 256 + (UInt8.ofNat (w.toNat / 256)).toNat) * 256 + (UInt8.ofNat (w.toNat % 256)).toNat =
          n * 65536 + w.toNat := by
        rw [UInt8.toNat_ofNat', UInt8.toNat_ofNat']
        omega
      rw [bytesOfWords_cons, List.foldl_append, List.foldl_cons, ← ih]
      simp only [bytesOfWord, List.foldl_cons, List.foldl_nil, hbytes]
  exact hfrom 0

theorem filled_eq {count : Nat} {words : List UInt16} (h : count = 2 * words.length) :
    filled count words = bytesOfWords words := by
  rw [filled, List.take_left']
  rw [length_bytesOfWords, h]

theorem Encoding.take?_eq {e : Encoding} {words : List UInt16} (h : ∀ n, e.words = some n → n = words.length) :
    e.take? words = some (e.read words) := by
  have hfilled : ∀ n, e.words = some n → natOfBytes (filled (2 * n) words) = natOfWords words := by
    intro n hn
    rw [filled_eq (by rw [h n hn]), natOfBytes_bytesOfWords]
  cases e with
  | ascii | utf8 | raw => rfl
  | u16 =>
    obtain ⟨w, hw⟩ := List.length_eq_one_iff.mp (h 1 rfl).symm
    subst hw
    have hone : natOfWords [w] = w.toNat := by simp [natOfWords]
    rw [read, hone, UInt16.ofNat_toNat]
    rfl
  | i16 => rw [take?, hfilled 1 rfl, read]
  | u32 => rw [take?, hfilled 2 rfl, read]
  | i32 => rw [take?, hfilled 2 rfl, read]
  | u64 => rw [take?, hfilled 4 rfl, read]
  | i64 => rw [take?, hfilled 4 rfl, read]
  | f32 => rw [take?, hfilled 2 rfl, read]

namespace NestedDecoder

theorem words_flat (n : NestedDecoder) : n.flat.words = n.words := by
  induction n with
  | base e => rfl
  | scaled inner factor ih => exact ih

theorem mismatch?_eq (n : NestedDecoder) (count : Nat) :
    n.mismatch? count =
      match n.flat.encoding.checkSize count with
      | .error cause => some cause
      | .ok () => none := by
  have hwords : n.flat.encoding.words = n.words := words_flat n
  unfold mismatch? Encoding.checkSize
  rw [hwords]
  cases n.words with
  | none => by_cases hzero : count = 0 <;> simp [hzero]
  | some expected => by_cases hcount : count = expected <;> simp [hcount]

theorem mismatch?_fits {n : NestedDecoder} {count : Nat} (h : n.flat.Fits count) : n.mismatch? count = none := by
  rw [mismatch?_eq, Encoding.checkSize_ok h]

theorem mismatch?_unfit {n : NestedDecoder} {count : Nat} (h : ¬ n.flat.Fits count) :
    n.mismatch? count = some (.sizeMismatch (n.flat.words.getD 1) count) := by
  rw [mismatch?_eq, Encoding.checkSize_error h]

theorem decode?_eq (n : NestedDecoder) (words : List UInt16) : n.decode? words = some (n.flat.decode words) := by
  induction n with
  | base e =>
    by_cases hfits : (base e).flat.Fits words.length
    · have htake : e.take? words = some (e.read words) := Encoding.take?_eq hfits.2
      rw [decode?, mismatch?_fits hfits, Decoder.decode_eq hfits]
      simp only [htake, flat]
      cases e.read words with
      | error cause => rfl
      | ok value => rfl
    · rw [decode?, mismatch?_unfit hfits, Decoder.decode_unfit hfits]
  | scaled inner factor ih =>
    by_cases hfits : (scaled inner factor).flat.Fits words.length
    · -- What fits the outer level fits the inner one, so that only its own error can come out of it.
      have hinner : inner.flat.Fits words.length := hfits
      rw [decode?, mismatch?_fits hfits, Decoder.decode_eq hfits]
      simp only [ih, Decoder.decode_eq hinner, flat, Option.map_some]
      cases inner.flat.encoding.read words with
      | error cause => rfl
      | ok base =>
        simp only [List.foldlM_append, List.foldlM_cons, List.foldlM_nil, bind_pure]
        rfl
    · rw [decode?, mismatch?_unfit hfits, Decoder.decode_unfit hfits]

end NestedDecoder

theorem Plan.commands_of_ofCommands {category : Category} {commands : List Command} {plan : Plan}
    (h : Plan.ofCommands category commands = .ok plan) : plan.commands = commands := by
  unfold Plan.ofCommands at h
  split at h
  next => cases h
  next =>
    cases h
    rfl

theorem Plan.category_of_ofCommands {category : Category} {commands : List Command} {plan : Plan}
    (h : Plan.ofCommands category commands = .ok plan) : plan.category = category := by
  unfold Plan.ofCommands at h
  split at h
  next => cases h
  next =>
    cases h
    rfl

theorem ReadCommand.decode_sizeMismatch_iff {c : ReadCommand} (sound : (Command.read c).defect? = none)
    {words : List UInt16} {expected actual : Nat} :
    c.decode words = .error (.sizeMismatch expected actual) ↔
      words.length ≠ c.count.toNat ∧ expected = c.count.toNat ∧ actual = words.length := by
  by_cases hlength : words.length = c.count.toNat
  · have hfits := c.fits sound
    rw [← hlength] at hfits
    rw [decode_eq hlength, Decoder.decode_error_iff]
    constructor
    · intro h
      exact absurd hfits h.1
    · intro h
      exact absurd hlength h.1
  · unfold decode
    rw [if_neg hlength]
    simp only [Except.error.injEq, DecodeError.sizeMismatch.injEq]
    constructor
    · rintro ⟨hexpected, hactual⟩
      exact ⟨hlength, hexpected.symm, hactual.symm⟩
    · rintro ⟨_, hexpected, hactual⟩
      exact ⟨hexpected.symm, hactual.symm⟩

/--
Whatever a decoder is nested of and whatever the words: no level asks for a word that is not there, and the outcome is
that of the flat decoder. This fails for another number of words than it takes, naming the number it wants or one if
that is open, else for bytes that are not the text that they should be, else for factors on text or raw bytes; and in
no other case. Otherwise it yields what the words hold, as the encoding's own kind of value, or with factors its number
times these, from the inside out. A read command decodes as its decoder does, and if it may stand in a plan it fails for
the number of words just when they are not as many as it asks for.
-/
theorem decode_outcome (n : NestedDecoder) (words : List UInt16) :
    n.decode? words = some (n.flat.decode words) ∧
    (∀ cause, n.flat.decode words = .error cause ↔ n.flat.Fails words cause) ∧
    ((∃ defect, Text.decodeUtf8 (bytesOfWords words) = .error defect) ↔ ¬ Encoding.utf8.Valid words) ∧
    (∀ value, n.flat.decode words = .ok value ↔ n.flat.Fits words.length ∧ n.flat.Yields words value) ∧
    (∀ c : ReadCommand, words.length = c.count.toNat → c.decode words = c.decoder.decode words) ∧
    ∀ (category : Category) (commands : List Command) (plan : Plan) (c : ReadCommand),
      Plan.ofCommands category commands = .ok plan → .read c ∈ commands → ∀ expected actual,
        (c.decode words = .error (.sizeMismatch expected actual) ↔
          words.length ≠ c.count.toNat ∧ expected = c.count.toNat ∧ actual = words.length) := by
  refine ⟨n.decode?_eq words, fun cause => Decoder.decode_error_iff, Text.decodeUtf8_error_iff,
    fun value => Decoder.decode_ok_iff, fun c => ReadCommand.decode_eq, ?_⟩
  intro category commands plan c hplan hc expected actual
  have hmem : Command.read c ∈ plan.commands := by
    rw [Plan.commands_of_ofCommands hplan]
    exact hc
  exact ReadCommand.decode_sizeMismatch_iff (plan.sound _ hmem)

-- Bytes that are no text are named as such also inside a factor, and -4 times 1/4 times 2 is -2.
example : (NestedDecoder.scaled (.base .ascii) ⟨0x4000000000000000⟩).decode? [0x8041] =
    some (.error .notAscii) := by rfl

example : (NestedDecoder.scaled (.scaled (.base .i16) ⟨0x3FD0000000000000⟩) ⟨0x4000000000000000⟩).decode? [0xFFFC] =
    some (.ok (.f64 ⟨0xC000000000000000⟩)) := by rfl

end MeterPolling
