import MeterPolling.Proofs.Modbus.Resynchronisation

namespace MeterPolling.Modbus

theorem Header.bytes_of_read? {bs : List UInt8} {h : Header} (hr : Header.read? bs = some h) :
    h.bytes = bs.take 7 := by
  unfold Header.read? at hr
  split at hr
  next t₁ t₀ p₁ p₀ l₁ l₀ unit rest =>
    have hh := Option.some.inj hr
    subst hh
    simp [Header.bytes, bytesOfWord_wordOfBytes]
  next => cases hr

theorem Header.frame?_delimited {h : Header} {bs left : List UInt8} {f : Frame} (hr : Header.read? bs = some h)
    (hs : h.startsFrame) (hf : h.frame? bs = some (f, left)) : bs = f.bytes ++ left ∧ f.fits := by
  obtain ⟨hprotocol, htwo⟩ := Header.startsFrame_iff.mp hs
  unfold Header.frame? at hf
  split at hf
  next => cases hf
  next hb =>
    split at hf
    next function data hd =>
      obtain ⟨hframe, hleft⟩ := Prod.mk.inj (Option.some.inj hf)
      have hlength := congrArg List.length hd
      simp only [List.length_drop, List.length_take, List.length_cons, Header.frameLength] at hlength hb
      have hmax := h.length.toNat_lt
      have hdata : data.length + 2 = h.length.toNat := by omega
      have hheader : f.header = h := by
        rw [← hframe, Frame.header, Frame.length, hdata, UInt16.ofNat_toNat, ← hprotocol]
      have hbytes : f.bytes = bs.take h.frameLength := by
        have hseven : (bs.take h.frameLength).take 7 = bs.take 7 := by
          rw [List.take_take]
          congr 1
          simp only [Header.frameLength]
          omega
        rw [Frame.bytes, hheader, Header.bytes_of_read? hr, ← hseven, ← hframe, ← hd, List.take_append_drop]
      refine ⟨?_, ?_⟩
      · rw [hbytes, ← hleft, List.take_append_drop]
      · rw [Frame.fits_iff, ← hframe]
        show data.length ≤ 65533
        omega
    next => cases hf

theorem nextFrame_delimited {bs left : List UInt8} {f : Frame} (hn : nextFrame bs = (some f, left)) :
    ∃ garbage, bs = garbage ++ (f.bytes ++ left) ∧ f.fits ∧ Quiet garbage (f.bytes ++ left) := by
  rw [nextFrame_iff] at hn
  generalize hfound : some f = found at hn
  induction hn with
  | short => cases hfound
  | frame header starts complete =>
    cases hfound
    obtain ⟨hbytes, hfits⟩ := Header.frame?_delimited header starts complete
    exact ⟨[], hbytes, hfits, quiet_nil _⟩
  | incomplete => cases hfound
  | @garbage b rest left h found header starts _ ih =>
    obtain ⟨garbage, hrest, hfits, hquiet⟩ := ih hfound
    subst hrest
    refine ⟨b :: garbage, rfl, hfits, quiet_cons.mpr ⟨?_, hquiet⟩⟩
    intro g hg
    have hsame : g = h := Option.some.inj (hg.symm.trans header)
    subst hsame
    exact mt Header.startsFrame_iff.mpr starts

theorem nextFrame_dropped {bs left : List UInt8} (hn : nextFrame bs = (none, left)) :
    ∃ dropped, bs = dropped ++ left := by
  rw [nextFrame_iff] at hn
  generalize hfound : none = found at hn
  induction hn with
  | short => exact ⟨[], rfl⟩
  | frame => cases hfound
  | incomplete => exact ⟨[], rfl⟩
  | @garbage b rest left h found header starts _ ih =>
    obtain ⟨dropped, hrest⟩ := ih hfound
    exact ⟨b :: dropped, by rw [hrest, List.cons_append]⟩

/-- The bytes are these bursts, what was dropped behind them and what may still become a frame. -/
structure Delimited (bs : List UInt8) (bursts : List Burst) (dropped left : List UInt8) : Prop where
  bytes : bs = stream bursts (dropped ++ left)
  framed : Framed (dropped ++ left) bursts
  responses : responses bs = (bursts.map Burst.response, left)

theorem responses_delimited (bs : List UInt8) : ∃ bursts dropped left, Delimited bs bursts dropped left := by
  -- A frame takes bytes off, so the induction is on the number of bytes that are left.
  induction hn : bs.length using Nat.strongRecOn generalizing bs with
  | _ n ih =>
    subst hn
    rcases hfound : nextFrame bs with ⟨found, left⟩
    cases found with
    | none =>
      obtain ⟨dropped, hbytes⟩ := nextFrame_dropped hfound
      exact ⟨[], dropped, left, hbytes, .nil, responses_none (nextResponse_of_no_frame hfound)⟩
    | some f =>
      obtain ⟨garbage, hbytes, hfits, hquiet⟩ := nextFrame_delimited hfound
      have hlength := nextFrame_length hfound
      obtain ⟨bursts, dropped, last, others⟩ := ih left.length (by omega) left rfl
      refine ⟨⟨garbage, f⟩ :: bursts, dropped, last, ?_, ?_, ?_⟩
      · rw [hbytes, others.bytes]
        rfl
      · rw [others.bytes] at hquiet
        exact .cons hfits hquiet others.framed
      · rw [responses_some (nextResponse_of_frame hfound), others.responses]
        rfl

theorem ofData_eq_values_iff {data : List UInt8} {words : List UInt16} :
    ResponseKind.ofData data = .values words ↔ data = bytesOfWords words := by
  unfold ResponseKind.ofData
  constructor
  · intro h
    split at h
    next heven =>
      have hwords := ResponseKind.values.inj h
      rw [← hwords, bytesOfWords_wordsOfBytes heven]
    next => cases h
  · intro h
    rw [h, length_bytesOfWords, if_pos (by omega), wordsOfBytes_bytesOfWords]

theorem classify_eq_values_iff {function : UInt8} {data : List UInt8} {words : List UInt16} :
    ResponseKind.classify function data = .values words ↔
      function = 3 ∧ ∃ count, data = count :: bytesOfWords words := by
  unfold ResponseKind.classify
  split
  next => simp
  next count rest =>
    rw [ofData_eq_values_iff]
    constructor
    · intro h
      exact ⟨rfl, count, by rw [h]⟩
    · rintro ⟨_, count', h⟩
      exact (List.cons.inj h).2
  next code hread =>
    constructor
    · intro h
      split at h
      next => cases h
      next => cases h
    · rintro ⟨hfunction, _⟩
      exact (hread hfunction).elim
  next hread =>
    constructor
    · intro h
      cases h
    · rintro ⟨hfunction, count, hdata⟩
      exact (hread count _ hfunction hdata).elim

theorem values_iff {f : Frame} {words : List UInt16} :
    (Response.ofFrame f).kind = .values words ↔ f.function = 3 ∧ ∃ count, f.data = count :: bytesOfWords words :=
  classify_eq_values_iff

/-- A byte count in front of pairs of bytes that does not count them. -/
def Frame.Miscounted (f : Frame) : Prop :=
  f.function = 3 ∧ ∃ count data, f.data = count :: data ∧ data.length % 2 = 0 ∧ count.toNat ≠ data.length

/-- The byte count of a frame is heeded: words are as many as it says, and a wrong one makes the frame malformed. -/
structure Frame.Heeded (f : Frame) : Prop where
  counted : ∀ words, (Response.ofFrame f).kind = .values words →
    f.function = 3 ∧ ∃ count data, f.data = count :: data ∧ data.length = count.toNat ∧ data.length = 2 * words.length
  rejected : ∀ count data, f.function = 3 → f.data = count :: data → count.toNat ≠ data.length →
    (Response.ofFrame f).kind = .malformed 3

theorem heeded_iff {f : Frame} : f.Heeded ↔ ¬ f.Miscounted := by
  constructor
  · rintro h ⟨hfunction, count, data, hdata, heven, hcount⟩
    have hvalues : (Response.ofFrame f).kind = .values (wordsOfBytes data) := by
      rw [values_iff, hdata, bytesOfWords_wordsOfBytes heven]
      exact ⟨hfunction, count, rfl⟩
    cases hvalues.symm.trans (h.rejected count data hfunction hdata hcount)
  · intro h
    constructor
    · intro words hwords
      obtain ⟨hfunction, count, hdata⟩ := values_iff.mp hwords
      have hlength := length_bytesOfWords words
      refine ⟨hfunction, count, bytesOfWords words, hdata, ?_, hlength⟩
      by_cases hcount : (bytesOfWords words).length = count.toNat
      · exact hcount
      · exact absurd ⟨hfunction, count, bytesOfWords words, hdata, by omega, Ne.symm hcount⟩ h
    · intro count data hfunction hdata hcount
      have hodd : data.length % 2 ≠ 0 := fun heven => h ⟨hfunction, count, data, hdata, heven, hcount⟩
      show ResponseKind.classify f.function f.data = _
      simp [hfunction, hdata, ResponseKind.classify, ResponseKind.ofData, hodd]

/-- Four bytes of data, of which the byte count speaks of two, are two words. -/
theorem byte_count_ignored :
    let f : Frame := ⟨7, 1, 3, [2, 0, 0, 0, 1]⟩
    f.fits ∧ f.Miscounted ∧ ¬ f.Heeded ∧ responses f.bytes = ([⟨1, 7, .values [0, 1]⟩], []) := by
  have hmiscounted : (⟨7, 1, 3, [2, 0, 0, 0, 1]⟩ : Frame).Miscounted :=
    ⟨rfl, 2, [0, 0, 0, 1], rfl, by decide, by decide⟩
  exact ⟨by decide, hmiscounted, fun h => heeded_iff.mp h hmiscounted, by decide⟩

end MeterPolling.Modbus
