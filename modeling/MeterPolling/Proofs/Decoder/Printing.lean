import MeterPolling.Proofs.Decoder.Numbers
import MeterPolling.Proofs.Decoder.Padding
import MeterPolling.Proofs.Output.NumberText
import MeterPolling.Proofs.Text.Quoted

namespace MeterPolling

open Text

namespace Value

/-- How the value is shown if `hidden` says which characters of a text are written by their numbers. -/
def displayBy (hidden : Char → Bool) : Value → String
  | .text s => quotedBy hidden s
  | v => v.display

theorem display_eq (v : Value) : v.display = v.displayBy isHidden := by
  cases v with
  | text s => exact Text.quoted_eq s
  | _ => rfl

theorem length_byteChars (b : UInt8) : (byteChars b).length = 4 := by
  have hall : ∀ n < 256, (hexPadded true 2 n).length = 2 := by decide +kernel
  have hlength := hall b.toNat b.toNat_lt
  rw [byteChars, List.length_cons, List.length_cons, hlength]

theorem byteChars_inj {a b : UInt8} (h : byteChars a = byteChars b) : a = b := by
  have hdigits := congrArg hexNumber? (List.cons.inj (List.cons.inj h).2).2
  rw [hexNumber?_hexPadded, hexNumber?_hexPadded] at hdigits
  exact UInt8.toNat_inj.mp (Option.some.inj hdigits)

theorem moreBytes_inj {as bs : List UInt8} (h : moreBytes as = moreBytes bs) : as = bs := by
  refine flatMap_inj (by simp) (by simp) ?_ h
  intro a b x y he
  have hrest := (List.cons.inj (List.cons.inj he).2).2
  have hlength : (byteChars a).length = (byteChars b).length := by
    rw [length_byteChars, length_byteChars]
  obtain ⟨hab, hxy⟩ := List.append_inj hrest hlength
  exact ⟨byteChars_inj hab, hxy⟩

theorem bytesChars_inj {as bs : List UInt8} (h : bytesChars as = bytesChars bs) : as = bs := by
  cases as with
  | nil =>
    cases bs with
    | nil => rfl
    | cons b bs => simp [bytesChars, byteChars] at h
  | cons a as =>
    cases bs with
    | nil => simp [bytesChars, byteChars] at h
    | cons b bs =>
      have hinner := List.append_cancel_right (List.cons.inj h).2
      refine moreBytes_inj ?_
      exact congrArg (fun cs => ',' :: ' ' :: cs) hinner

theorem byteChars_singleLine (b : UInt8) : ∀ c ∈ byteChars b, ¬ IsControl c := by
  rw [byteChars, List.forall_mem_cons, List.forall_mem_cons]
  exact ⟨by decide, by decide, hexPadded_singleLine true 2 b.toNat⟩

theorem bytesChars_singleLine (bs : List UInt8) : ∀ c ∈ bytesChars bs, ¬ IsControl c := by
  cases bs with
  | nil =>
    rw [bytesChars, List.forall_mem_cons, List.forall_mem_singleton]
    exact ⟨by decide, by decide⟩
  | cons b bs =>
    rw [bytesChars, List.forall_mem_cons, List.forall_mem_append, List.forall_mem_append, List.forall_mem_singleton]
    refine ⟨by decide, ⟨byteChars_singleLine b, ?_⟩, by decide⟩
    intro c hc
    obtain ⟨a, _, ha⟩ := List.mem_flatMap.mp hc
    simp only [List.mem_cons] at ha
    rcases ha with rfl | rfl | ha
    · decide
    · decide
    · exact byteChars_singleLine a c ha

theorem toString_int_inj {m n : Int} (h : toString m = toString n) : m = n := by
  have hnumber := congrArg (fun s : String => Json.number? s.toList) h
  simp only [Json.number?_int] at hnumber
  cases hnumber
  rfl

theorem toString_int_singleLine (n : Int) : ∀ c ∈ (toString n).toList, ¬ IsControl c := by
  intro c hc
  have hchar := (Json.number?_chars (Json.number?_int n)).2 c hc
  simp only [Json.isNumberChar, Bool.or_eq_true, decide_eq_true_eq, Char.isDigit_iff_toNat] at hchar
  rcases hchar with ((((⟨hlow, hhigh⟩ | rfl) | rfl) | rfl) | rfl) | rfl
  · have hzero : ('0' : Char).toNat = 48 := rfl
    have hnine : ('9' : Char).toNat = 57 := rfl
    unfold IsControl
    omega
  all_goals decide

theorem json_text_inj {v w : Value} (h : v.json.text = w.json.text) : v.json.asRead = w.json.asRead := by
  obtain ⟨hv, hreadV⟩ := v.json_readable
  obtain ⟨hw, hreadW⟩ := w.json_readable
  have hread := Json.read?_chars hreadV
  rw [hv, String.ofList_injective h, ← hw, Json.read?_chars hreadW] at hread
  exact (Option.some.inj hread).symm

end Value

theorem Encoding.Carries.printed {e : Encoding} {v : Value} {n : Int} (h : e.Carries v n) (whole : e ≠ .f32)
    (hidden : Char → Bool) : v.displayBy hidden = toString n ∧ v.json = .int n := by
  cases h with
  | f32 x => exact absurd rfl whole
  | _ => exact ⟨rfl, rfl⟩

namespace Decoder

theorem decode_raw_iff {ws : List UInt16} {v : Value} :
    (⟨.raw, []⟩ : Decoder).decode ws = .ok v ↔ ws ≠ [] ∧ v = .bytes (bytesOfWords ws) := by
  rw [decode_base_iff, fits_unfixed_iff rfl, List.length_pos_iff]
  refine and_congr_right fun _ => ?_
  constructor
  · rintro ⟨⟩
    rfl
  · rintro rfl
    exact .raw

theorem words_of_carried {e : Encoding} {k : Nat} {n : Int} {ws₁ ws₂ : List UInt16} {v₁ v₂ : Value}
    (fixed : e.words = some k) (h₁ : (⟨e, []⟩ : Decoder).decode ws₁ = .ok v₁)
    (h₂ : (⟨e, []⟩ : Decoder).decode ws₂ = .ok v₂) (hv₁ : e.Carries v₁ n) (hv₂ : e.Carries v₂ n) : ws₁ = ws₂ := by
  rw [(decode_carried_iff fixed hv₁).mp h₁, (decode_carried_iff fixed hv₂).mp h₂]

/-- What is printed of a reading, for people or as JSON, is the same. -/
def PrintedAlike (hidden : Char → Bool) (v₁ v₂ : Value) : Prop :=
  v₁.displayBy hidden = v₂.displayBy hidden ∨ v₁.json.text = v₂.json.text

section Alike

variable {hidden : Char → Bool} {ws₁ ws₂ : List UInt16} {v₁ v₂ : Value}

theorem whole_determined {e : Encoding} {k : Nat} (fixed : e.words = some k) (whole : e ≠ .f32)
    (h₁ : (⟨e, []⟩ : Decoder).decode ws₁ = .ok v₁) (h₂ : (⟨e, []⟩ : Decoder).decode ws₂ = .ok v₂)
    (h : PrintedAlike hidden v₁ v₂) : ws₁ = ws₂ := by
  have hv₁ := ((decode_number_iff fixed).mp h₁).2
  have hv₂ := ((decode_number_iff fixed).mp h₂).2
  obtain ⟨hdisplay₁, hjson₁⟩ := hv₁.printed whole hidden
  obtain ⟨hdisplay₂, hjson₂⟩ := hv₂.printed whole hidden
  refine words_of_carried fixed h₁ h₂ hv₁ (hv₂.of_eq ?_)
  rcases h with h | h
  · rw [hdisplay₁, hdisplay₂] at h
    exact (Value.toString_int_inj h).symm
  · have hread := Value.json_text_inj h
    rw [hjson₁, hjson₂] at hread
    exact (Json.int.inj hread).symm

theorem raw_determined (h₁ : (⟨.raw, []⟩ : Decoder).decode ws₁ = .ok v₁)
    (h₂ : (⟨.raw, []⟩ : Decoder).decode ws₂ = .ok v₂) (h : PrintedAlike hidden v₁ v₂) : ws₁ = ws₂ := by
  obtain ⟨_, rfl⟩ := decode_raw_iff.mp h₁
  obtain ⟨_, rfl⟩ := decode_raw_iff.mp h₂
  have hbytes : bytesOfWords ws₁ = bytesOfWords ws₂ := by
    rcases h with h | h
    · exact Value.bytesChars_inj (String.ofList_injective h)
    · refine (List.map_inj_right ?_).mp (Json.array.inj (Value.json_text_inj h))
      intro a b hab
      exact UInt8.toNat_inj.mp (Int.ofNat_inj.mp (Json.int.inj hab))
  have hwords := congrArg wordsOfBytes hbytes
  rwa [wordsOfBytes_bytesOfWords, wordsOfBytes_bytesOfWords] at hwords

theorem text_determined {s t : String} (h : PrintedAlike hidden (.text s) (.text t)) : s = t := by
  rcases h with h | h
  · exact quotedBy_inj h
  · cases Value.json_text_inj h
    rfl

end Alike

theorem display_singleLine {hidden : Char → Bool} (hidesControl : ∀ c, IsControl c → hidden c) {e : Encoding}
    (shown : e ≠ .f32) {ws : List UInt16} {v : Value} (h : (⟨e, []⟩ : Decoder).decode ws = .ok v) :
    ∀ c ∈ (v.displayBy hidden).toList, ¬ IsControl c := by
  cases hwords : e.words with
  | some k =>
    rw [(((decode_number_iff hwords).mp h).2.printed shown hidden).1]
    exact Value.toString_int_singleLine _
  | none =>
    obtain ⟨_, hholds⟩ := decode_base_iff.mp h
    cases hholds with
    | ascii valid => exact quotedBy_singleLine hidesControl _
    | utf8 text => exact quotedBy_singleLine hidesControl _
    | raw =>
      show ∀ c ∈ (String.ofList (Value.bytesChars (bytesOfWords ws))).toList, ¬ IsControl c
      rw [String.toList_ofList]
      exact Value.bytesChars_singleLine _
    | _ => cases hwords

end Decoder

/--
Whichever characters of a text are written by their numbers besides those with a mark of their own: two readings of
whole numbers or of raw bytes that are shown alike, or written alike as JSON, come from the same words, and two such
readings of texts from bytes that are the same up to the padding at their end. If control characters are among those
written by their numbers, as they are, each of these readings is shown on one line.
-/
theorem registers_determined (hidden : Char → Bool) :
    (∀ e ∈ [Encoding.u16, .i16, .u32, .i32, .u64, .i64, .raw], ∀ ws₁ ws₂ v₁ v₂,
      (⟨e, []⟩ : Decoder).decode ws₁ = .ok v₁ → (⟨e, []⟩ : Decoder).decode ws₂ = .ok v₂ →
      v₁.displayBy hidden = v₂.displayBy hidden ∨ v₁.json.text = v₂.json.text → ws₁ = ws₂) ∧
    (∀ e ∈ [Encoding.ascii, .utf8], ∀ ws₁ ws₂ v₁ v₂,
      (⟨e, []⟩ : Decoder).decode ws₁ = .ok v₁ → (⟨e, []⟩ : Decoder).decode ws₂ = .ok v₂ →
      v₁.displayBy hidden = v₂.displayBy hidden ∨ v₁.json.text = v₂.json.text →
      ∃ common run₁ run₂, bytesOfWords ws₁ = common ++ run₁ ∧ bytesOfWords ws₂ = common ++ run₂ ∧
        (∀ b ∈ run₁, b ∈ paddingBytes) ∧ ∀ b ∈ run₂, b ∈ paddingBytes) ∧
    ((∀ c, IsControl c → hidden c) → ∀ e ≠ Encoding.f32, ∀ ws v, (⟨e, []⟩ : Decoder).decode ws = .ok v →
      ∀ c ∈ (v.displayBy hidden).toList, ¬ IsControl c) ∧
    (∀ v : Value, v.display = v.displayBy isHidden) ∧ ∀ c, IsControl c → isHidden c := by
  refine ⟨?_, ?_, fun hidesControl e shown ws v h => Decoder.display_singleLine hidesControl shown h, Value.display_eq,
    fun c => isHidden_of_isControl⟩
  · intro e he ws₁ ws₂ v₁ v₂ h₁ h₂ h
    simp only [List.mem_cons, List.not_mem_nil, or_false] at he
    rcases he with rfl | rfl | rfl | rfl | rfl | rfl | rfl
    case inr.inr.inr.inr.inr.inr => exact Decoder.raw_determined h₁ h₂ h
    all_goals exact Decoder.whole_determined rfl (by decide) h₁ h₂ h
  · intro e he ws₁ ws₂ v₁ v₂ h₁ h₂ h
    have hutf8 : ∀ ws v, (⟨e, []⟩ : Decoder).decode ws = .ok v → (⟨.utf8, []⟩ : Decoder).decode ws = .ok v := by
      intro ws v hv
      simp only [List.mem_cons, List.not_mem_nil, or_false] at he
      rcases he with rfl | rfl
      · exact (Decoder.decode_ascii_iff.mp hv).2
      · exact hv
    obtain ⟨_, s, rfl, hs⟩ := Decoder.decode_utf8_iff.mp (hutf8 ws₁ v₁ h₁)
    obtain ⟨_, t, rfl, ht⟩ := Decoder.decode_utf8_iff.mp (hutf8 ws₂ v₂ h₂)
    cases Decoder.text_determined h
    obtain ⟨run₁, hbytes₁, hrun₁⟩ := hs.bytes
    obtain ⟨run₂, hbytes₂, hrun₂⟩ := ht.bytes
    exact ⟨_, run₁, run₂, hbytes₁, hbytes₂, hrun₁, hrun₂⟩

end MeterPolling
