import MeterPolling.Proofs.Modbus.Codec
import MeterPolling.Proofs.Session.Answer

namespace MeterPolling

open Modbus

/-- Frames, and the same frames with others among them, which bear foreign numbers. -/
inductive Interspersed (foreign : UInt16 → Prop) : List Frame → List Frame → Prop
  | nil : Interspersed foreign [] []
  | kept {f : Frame} {fs gs : List Frame} (fits : f.fits) (rest : Interspersed foreign fs gs) :
      Interspersed foreign (f :: fs) (f :: gs)
  | inserted {f : Frame} {fs gs : List Frame} (fits : f.fits) (other : foreign f.transaction)
      (rest : Interspersed foreign fs gs) : Interspersed foreign fs (f :: gs)

def Inserted (foreign : UInt16 → Prop) (bs bs' : List UInt8) : Prop :=
  ∃ fs gs, Interspersed foreign fs gs ∧ bs = fs.flatMap Frame.bytes ∧ bs' = gs.flatMap Frame.bytes

section Insertion

variable {foreign other : UInt16 → Prop} {fs gs fs' gs' : List Frame} {bs bs' cs cs' : List UInt8}

theorem Interspersed.append (h : Interspersed foreign fs gs) (h' : Interspersed foreign fs' gs') :
    Interspersed foreign (fs ++ fs') (gs ++ gs') := by
  induction h with
  | nil => exact h'
  | kept fits _ ih => exact .kept fits ih
  | inserted fits other _ ih => exact .inserted fits other ih

theorem Interspersed.mono (h : Interspersed foreign fs gs) (hf : ∀ id, foreign id → other id) :
    Interspersed other fs gs := by
  induction h with
  | nil => exact .nil
  | kept fits _ ih => exact .kept fits ih
  | inserted fits hforeign _ ih => exact .inserted fits (hf _ hforeign) ih

theorem Inserted.nil : Inserted foreign [] [] := ⟨[], [], .nil, rfl, rfl⟩

theorem Inserted.append (h : Inserted foreign bs bs') (h' : Inserted foreign cs cs') :
    Inserted foreign (bs ++ cs) (bs' ++ cs') := by
  obtain ⟨fs, gs, hi, hb, hb'⟩ := h
  obtain ⟨fs', gs', hi', hc, hc'⟩ := h'
  exact ⟨fs ++ fs', gs ++ gs', hi.append hi', by simp [hb, hc], by simp [hb', hc']⟩

theorem Inserted.mono (h : Inserted foreign bs bs') (hf : ∀ id, foreign id → other id) :
    Inserted other bs bs' := by
  obtain ⟨fs, gs, hi, hb, hb'⟩ := h
  exact ⟨fs, gs, hi.mono hf, hb, hb'⟩

theorem findResponse_of_next {rest : List UInt8} {r : Response}
    (hn : nextResponse bs = (some r, rest)) (transaction : UInt16) :
    findResponse transaction bs =
      if r.transaction = transaction then (some r, rest) else findResponse transaction rest := by
  by_cases hr : r.transaction = transaction
  · rw [if_pos hr]
    exact findResponse_eq_some_iff.mpr (.here hn hr)
  · rw [if_neg hr]
    rcases findResponse_cases transaction rest with ⟨s, left, he, hs⟩ | ⟨he, hno⟩
    · rw [he]
      exact findResponse_eq_some_iff.mpr (.later hn hr hs)
    · rcases findResponse_cases transaction bs with ⟨s, left, _, hs⟩ | ⟨he', _⟩
      · exact absurd ((noResponse_iff_of_some hn).mpr ⟨hr, hno⟩) hs.not_noResponse
      · rw [he, he', responses_some hn]

theorem findResponse_frame {f : Frame} (hf : f.fits) (rest : List UInt8) (transaction : UInt16) :
    findResponse transaction (f.bytes ++ rest) =
      if f.transaction = transaction then (some (.ofFrame f), rest)
      else findResponse transaction rest :=
  findResponse_of_next (nextResponse_bytes hf rest) transaction

/-- The same answer is found, if any. If none is, no frame is left over. -/
theorem Inserted.find (h : Inserted foreign bs bs') {transaction : UInt16}
    (ht : ∀ id, foreign id → id ≠ transaction) :
    ∃ found left left', findResponse transaction bs = (found, left) ∧
      findResponse transaction bs' = (found, left') ∧ Inserted foreign left left' ∧
      (found = none → left = [] ∧ left' = []) := by
  obtain ⟨fs, gs, hi, hb, hb'⟩ := h
  subst hb hb'
  induction hi with
  | nil => exact ⟨none, [], [], rfl, rfl, .nil, fun _ => ⟨rfl, rfl⟩⟩
  | @kept f fs gs fits rest ih =>
    simp only [List.flatMap_cons, findResponse_frame fits]
    by_cases hf : f.transaction = transaction
    · refine ⟨some (.ofFrame f), _, _, if_pos hf, if_pos hf, ⟨fs, gs, rest, rfl, rfl⟩, ?_⟩
      simp
    · simpa only [if_neg hf] using ih
  | inserted fits other rest ih =>
    have hf := ht _ other
    simpa only [List.flatMap_cons, findResponse_frame fits, if_neg hf] using ih

end Insertion

end MeterPolling
