import MeterPolling.Session
import MeterPolling.Proofs.Modbus.Stream

namespace MeterPolling

open Modbus

def firstAnswer (transaction : UInt16) (bs : List UInt8) : Option Response :=
  (responses bs).1.find? (·.transaction = transaction)

theorem firstAnswer_append {transaction : UInt16} {bs : List UInt8} {r : Response}
    (h : firstAnswer transaction bs = some r) (more : List UInt8) :
    firstAnswer transaction (bs ++ more) = some r := by
  unfold firstAnswer at *
  rw [responses_append, List.find?_append, h]
  rfl

inductive FirstResponse (transaction : UInt16) : List UInt8 → Response → List UInt8 → Prop
  | here {bs left : List UInt8} {r : Response} (next : nextResponse bs = (some r, left))
      (same : r.transaction = transaction) : FirstResponse transaction bs r left
  | later {bs rest left : List UInt8} {foreign r : Response}
      (next : nextResponse bs = (some foreign, rest)) (other : foreign.transaction ≠ transaction)
      (found : FirstResponse transaction rest r left) : FirstResponse transaction bs r left

def NoResponse (transaction : UInt16) (bs : List UInt8) : Prop :=
  ∀ r ∈ (responses bs).1, r.transaction ≠ transaction

theorem noResponse_of_none {bs left : List UInt8} (hn : nextResponse bs = (none, left))
    (transaction : UInt16) : NoResponse transaction bs := by
  intro r hr
  simp [responses_none hn] at hr

theorem noResponse_iff_of_some {bs rest : List UInt8} {r : Response} {transaction : UInt16}
    (hn : nextResponse bs = (some r, rest)) :
    NoResponse transaction bs ↔ r.transaction ≠ transaction ∧ NoResponse transaction rest := by
  simp [NoResponse, responses_some hn]

namespace FirstResponse

variable {transaction : UInt16} {bs left : List UInt8} {r : Response}

theorem firstAnswer (h : FirstResponse transaction bs r left) :
    firstAnswer transaction bs = some r := by
  unfold MeterPolling.firstAnswer
  induction h with
  | here next same => simp [responses_some next, same]
  | later next other _ ih => simpa [responses_some next, other] using ih

theorem append (h : FirstResponse transaction bs r left) (more : List UInt8) :
    FirstResponse transaction (bs ++ more) r (left ++ more) := by
  induction h with
  | here next same => exact .here (nextResponse_append next more) same
  | later next other _ ih => exact .later (nextResponse_append next more) other ih

theorem unique (h : FirstResponse transaction bs r left) {s : Response} {left' : List UInt8}
    (h' : FirstResponse transaction bs s left') : r = s ∧ left = left' := by
  induction h with
  | here next same =>
    cases h' with
    | here next' same' =>
      obtain ⟨hr, hl⟩ := Prod.mk.inj (next.symm.trans next')
      exact ⟨Option.some.inj hr, hl⟩
    | later next' other _ =>
      obtain ⟨hr, _⟩ := Prod.mk.inj (next.symm.trans next')
      exact absurd (Option.some.inj hr ▸ same) other
  | later next other _ ih =>
    cases h' with
    | here next' same' =>
      obtain ⟨hr, _⟩ := Prod.mk.inj (next.symm.trans next')
      exact absurd (Option.some.inj hr ▸ same') other
    | later next' _ found' =>
      obtain ⟨_, hl⟩ := Prod.mk.inj (next.symm.trans next')
      subst hl
      exact ih found'

end FirstResponse

/-- Bytes without the response that have been searched once are left out of the next search. -/
theorem FirstResponse.of_resumed {transaction : UInt16} {bs more left : List UInt8} {r : Response}
    (hno : NoResponse transaction bs)
    (h : FirstResponse transaction ((responses bs).2 ++ more) r left) :
    FirstResponse transaction (bs ++ more) r left := by
  -- On the number of bytes: each response taken from them makes them fewer.
  induction hlen : bs.length using Nat.strongRecOn generalizing bs with
  | _ n ih =>
    rcases hn : nextResponse bs with ⟨found, rest⟩
    cases found with
    | none =>
      rw [responses_none hn] at h
      have hr := nextResponse_resume hn more
      cases h with
      | here next same => exact .here (hr.trans next) same
      | later next other found => exact .later (hr.trans next) other found
    | some f =>
      obtain ⟨hf, hrest⟩ := (noResponse_iff_of_some hn).mp hno
      have hshort := nextResponse_length hn
      rw [responses_some hn] at h
      exact .later (nextResponse_append hn more) hf (ih rest.length (by omega) hrest h rfl)

theorem NoResponse.firstAnswer {transaction : UInt16} {bs : List UInt8}
    (hno : NoResponse transaction bs) : firstAnswer transaction bs = none := by
  refine List.find?_eq_none.mpr ?_
  intro r hr
  simpa using hno r hr

theorem NoResponse.append {transaction : UInt16} {bs more : List UInt8}
    (hno : NoResponse transaction bs) (hmore : NoResponse transaction ((responses bs).2 ++ more)) :
    NoResponse transaction (bs ++ more) := by
  intro r hr
  rw [responses_append, List.mem_append] at hr
  rcases hr with hr | hr
  · exact hno r hr
  · exact hmore r hr

theorem findResponseIn_cases {transaction : UInt16} {fuel : Nat} {bs : List UInt8}
    (hb : bs.length < fuel) :
    (∃ r left, findResponseIn transaction fuel bs = (some r, left) ∧
      FirstResponse transaction bs r left) ∨
    (findResponseIn transaction fuel bs = (none, (responses bs).2) ∧ NoResponse transaction bs) := by
  induction fuel generalizing bs with
  | zero => omega
  | succ fuel ih =>
    rcases hn : nextResponse bs with ⟨found, rest⟩
    cases found with
    | none =>
      refine .inr ⟨?_, noResponse_of_none hn transaction⟩
      simp only [findResponseIn, hn, responses_none hn]
    | some f =>
      have hshort := nextResponse_length hn
      by_cases hf : f.transaction = transaction
      · refine .inl ⟨f, rest, ?_, .here hn hf⟩
        simp only [findResponseIn, hn, hf, ↓reduceIte]
      · have hstep : findResponseIn transaction (fuel + 1) bs =
            findResponseIn transaction fuel rest := by
          simp only [findResponseIn, hn, hf, ↓reduceIte]
        rw [hstep]
        have hrest : rest.length < fuel := by omega
        rcases ih hrest with ⟨r, left, he, hr⟩ | ⟨he, hno⟩
        · exact .inl ⟨r, left, he, .later hn hf hr⟩
        · refine .inr ⟨?_, (noResponse_iff_of_some hn).mpr ⟨hf, hno⟩⟩
          rw [he, responses_some hn]

/-- The answer is found if there is one; else the bytes that may still become responses are left. -/
theorem findResponse_cases (transaction : UInt16) (bs : List UInt8) :
    (∃ r left, findResponse transaction bs = (some r, left) ∧
      FirstResponse transaction bs r left) ∨
    (findResponse transaction bs = (none, (responses bs).2) ∧ NoResponse transaction bs) :=
  findResponseIn_cases (Nat.lt_succ_self bs.length)

theorem FirstResponse.not_noResponse {transaction : UInt16} {bs left : List UInt8} {r : Response}
    (h : FirstResponse transaction bs r left) : ¬ NoResponse transaction bs := by
  intro hno
  have hfirst := h.firstAnswer
  rw [hno.firstAnswer] at hfirst
  cases hfirst

theorem findResponse_eq_some_iff {transaction : UInt16} {bs left : List UInt8} {r : Response} :
    findResponse transaction bs = (some r, left) ↔ FirstResponse transaction bs r left := by
  rcases findResponse_cases transaction bs with ⟨s, left', he, hs⟩ | ⟨he, hno⟩
  · constructor
    · intro h
      obtain ⟨hr, hl⟩ := Prod.mk.inj (he.symm.trans h)
      cases Option.some.inj hr
      subst hl
      exact hs
    · intro h
      obtain ⟨hr, hl⟩ := hs.unique h
      rw [he, hr, hl]
  · constructor
    · intro h
      simp [he] at h
    · intro h
      exact absurd hno h.not_noResponse

end MeterPolling
