import MeterPolling.Proofs.Modbus.Codec

namespace MeterPolling.Modbus

namespace Request

def Oversized (r : Request) : Prop :=
  ∃ address values, r.operation = .writeRegisters address values ∧ 123 < values.length

def size (r : Request) : Nat :=
  match r.operation with
  | .readRegisters _ _ => 12
  | .writeRegisters _ values => 13 + 2 * values.length

/-- A number, protocol zero, and the length of all that follows; the counts in it are not cut off. -/
structure LaidOut (r : Request) (bytes : List UInt8) : Prop where
  length : bytes.length = r.size
  header : ∃ (count : UInt16) (rest : List UInt8),
    bytes = bytesOfWord r.transaction ++ bytesOfWord 0 ++ bytesOfWord count ++ rest ∧ count.toNat = rest.length
  counts : ∀ address values, r.operation = .writeRegisters address values →
    (UInt16.ofNat values.length).toNat = values.length ∧
      (UInt8.ofNat (2 * values.length)).toNat = 2 * values.length

def written (r : Request) : List UInt8 :=
  match r.encode with
  | .ok bs => bs
  | .error _ => []

/-- The requests that have been put into a buffer, going by what came of each. -/
def accepted (requests : List Request) (results : List (Except EncodeError Unit)) : List Request :=
  (requests.zip results).filterMap fun p => (p.2.map fun _ => p.1).toOption

theorem tooLong_iff {r : Request} : r.operation.tooLong ↔ r.Oversized := by
  unfold Oversized
  cases hr : r.operation with
  | readRegisters address count => simp [Operation.tooLong]
  | writeRegisters address values =>
    rw [Operation.tooLong_write_iff]
    constructor
    · intro hlong
      exact ⟨address, values, rfl, hlong⟩
    · intro h
      obtain ⟨_, _, he, hlong⟩ := h
      cases he
      exact hlong

section Frames

variable {r : Request}

theorem length_frame (r : Request) : r.frame.bytes.length = r.size := by
  rw [Frame.length_bytes]
  unfold size
  cases hr : r.operation with
  | readRegisters address count => simp [frame, hr, Operation.data, bytesOfWord]
  | writeRegisters address values =>
    have hdata : r.frame.data.length = 5 + 2 * values.length := by
      simp only [frame, hr, Operation.data, bytesOfWord, List.length_append, List.length_cons,
        List.length_nil, length_bytesOfWords]
      omega
    show r.frame.data.length + 8 = 13 + 2 * values.length
    omega

theorem laidOut_frame (h : ¬ r.Oversized) : r.LaidOut r.frame.bytes := by
  have hshort : ¬ r.operation.tooLong := fun hlong => h (tooLong_iff.mp hlong)
  refine ⟨length_frame r, ?_, ?_⟩
  · refine ⟨r.frame.header.length, r.unit :: r.frame.function :: r.frame.data, ?_, ?_⟩
    · simp [Frame.bytes, Header.bytes, Frame.header, frame]
    · rw [Frame.length_header (fits_frame hshort)]
      simp only [List.length_cons]
  · intro address values he
    have hle : ¬ 123 < values.length := fun hlong => h ⟨address, values, he, hlong⟩
    rw [UInt16.toNat_ofNat', UInt8.toNat_ofNat']
    omega

theorem encode_of_oversized (h : r.Oversized) : r.encode = .error .tooManyRegisters := by
  have hlong := tooLong_iff.mpr h
  simp only [encode, hlong, ↓reduceIte]

theorem encode_of_not_oversized (h : ¬ r.Oversized) : r.encode = .ok r.frame.bytes :=
  encode_of_short fun hlong => h (tooLong_iff.mp hlong)

end Frames

theorem append_eq (r : Request) (buffer : List UInt8) :
    r.append buffer = (r.encode.map fun _ => (), buffer ++ r.written) := by
  unfold append written
  cases r.encode with
  | ok bs => rfl
  | error e => simp [Except.map]

theorem appendAll_cons (r : Request) (rest : List Request) (buffer : List UInt8) :
    appendAll buffer (r :: rest) =
      ((r.encode.map fun _ => ()) :: (appendAll (buffer ++ r.written) rest).1,
        (appendAll (buffer ++ r.written) rest).2) := by
  rw [appendAll, append_eq]

/-- What becomes of a request does not depend on the buffer, and neither do its bytes. -/
theorem appendAll_eq (buffer : List UInt8) (requests : List Request) :
    appendAll buffer requests =
      (requests.map fun r => r.encode.map fun _ => (), buffer ++ requests.flatMap written) := by
  induction requests generalizing buffer with
  | nil => simp [appendAll]
  | cons r rest ih => simp [appendAll_cons, ih]

theorem accepted_appendAll (buffer : List UInt8) (requests : List Request) :
    accepted requests (appendAll buffer requests).1 =
      requests.filter fun r => !r.operation.tooLong := by
  rw [appendAll_eq]
  unfold accepted
  induction requests with
  | nil => rfl
  | cons r rest ih =>
    simp only [List.map_cons, List.zip_cons_cons, List.filterMap_cons, List.filter_cons]
    rw [ih]
    by_cases h : r.operation.tooLong
    · have he := encode_of_oversized (tooLong_iff.mp h)
      simp [he, h, Except.map, Except.toOption]
    · have he := encode_of_short h
      simp [he, h, Except.map, Except.toOption]

theorem flatMap_written (requests : List Request) :
    requests.flatMap written =
      (requests.filter fun r => !r.operation.tooLong).flatMap fun r => r.frame.bytes := by
  induction requests with
  | nil => rfl
  | cons r rest ih =>
    rw [List.flatMap_cons, ih, List.filter_cons]
    by_cases h : r.operation.tooLong
    · have he := encode_of_oversized (tooLong_iff.mp h)
      simp [written, he, h]
    · have he := encode_of_short h
      simp [written, he, h]

theorem decodeMany?_frames {requests : List Request} (short : ∀ r ∈ requests, ¬ r.operation.tooLong)
    {fuel : Nat} (enough : requests.length ≤ fuel) :
    decodeMany? fuel (requests.flatMap fun r => r.frame.bytes) = some requests := by
  induction requests generalizing fuel with
  | nil => cases fuel <;> rfl
  | cons r rest ih =>
    have hfirst := decode?_bytes (short r (List.mem_cons_self ..)) (rest.flatMap fun r => r.frame.bytes)
    rw [List.flatMap_cons]
    cases fuel with
    | zero => simp at enough
    | succ fuel =>
      have hrest := ih (fun q hq => short q (List.mem_cons_of_mem r hq))
        (Nat.le_of_succ_le_succ enough)
      -- The bytes are taken apart, as reading goes by whether there are any.
      cases hb : r.frame.bytes ++ rest.flatMap fun r => r.frame.bytes with
      | nil =>
        have hlen := congrArg List.length hb
        simp at hlen
      | cons b bs =>
        rw [hb] at hfirst
        simp [decodeMany?, hfirst, hrest]

theorem length_le_frames (requests : List Request) :
    requests.length ≤ (requests.flatMap fun r => r.frame.bytes).length := by
  induction requests with
  | nil => simp
  | cons r rest ih =>
    simp only [List.flatMap_cons, List.length_append, List.length_cons, Frame.length_bytes]
    omega

theorem decodeAll?_written (buffer : List UInt8) (requests : List Request) :
    decodeAll? (requests.flatMap written) =
      some (accepted requests (appendAll buffer requests).1) := by
  rw [accepted_appendAll, flatMap_written]
  refine decodeMany?_frames ?_ (length_le_frames _)
  intro r hr
  have := (List.mem_filter.mp hr).2
  simpa using this

theorem appendAll_step (buffer : List UInt8) {requests : List Request} {i : Nat} {r : Request}
    (hi : requests[i]? = some r) :
    let before := (appendAll buffer (requests.take i)).2
    let after := (appendAll buffer (requests.take (i + 1))).2
    r.Oversized ∧ (appendAll buffer requests).1[i]? = some (.error .tooManyRegisters) ∧ after = before ∨
      ¬ r.Oversized ∧ (appendAll buffer requests).1[i]? = some (.ok ()) ∧
        ∃ bytes, after = before ++ bytes ∧ r.LaidOut bytes := by
  intro before after
  have hafter : after = before ++ r.written := by
    simp [after, before, appendAll_eq, List.take_add_one, hi]
  have hresult : (appendAll buffer requests).1[i]? = some (r.encode.map fun _ => ()) := by
    rw [appendAll_eq, List.getElem?_map, hi]
    rfl
  by_cases h : r.Oversized
  · have he := encode_of_oversized h
    have hnone : r.written = [] := by simp only [written, he]
    refine .inl ⟨h, ?_, ?_⟩
    · rw [hresult, he]
      rfl
    · rw [hafter, hnone, List.append_nil]
  · have he := encode_of_not_oversized h
    have hsome : r.written = r.frame.bytes := by simp only [written, he]
    refine .inr ⟨h, ?_, r.frame.bytes, ?_, laidOut_frame h⟩
    · rw [hresult, he]
      rfl
    · rw [hafter, hsome]

/--
Whatever is in a buffer and whatever requests are put behind it: each one is refused just if it writes more
than 123 registers, and then the buffer stays as it is. Every other one is laid out behind all that was there.
The requests that were not refused can be read back from the new bytes, with none left over, so that no other
requests have the same bytes.
-/
theorem requests_recovered (buffer : List UInt8) (requests : List Request) :
    let results := (appendAll buffer requests).1
    let filled (n : Nat) := (appendAll buffer (requests.take n)).2
    results.length = requests.length ∧
    (∀ i r, requests[i]? = some r →
      r.Oversized ∧ results[i]? = some (.error .tooManyRegisters) ∧ filled (i + 1) = filled i ∨
      ¬ r.Oversized ∧ results[i]? = some (.ok ()) ∧
        ∃ bytes, filled (i + 1) = filled i ++ bytes ∧ r.LaidOut bytes) ∧
    ∃ added, (appendAll buffer requests).2 = buffer ++ added ∧
      decodeAll? added = some (accepted requests results) ∧
      ∀ front others, (appendAll front others).2 = front ++ added →
        accepted others (appendAll front others).1 = accepted requests results := by
  intro results filled
  refine ⟨?_, fun i r hi => appendAll_step buffer hi, requests.flatMap written, ?_,
    decodeAll?_written buffer requests, ?_⟩
  · have hall := appendAll_eq buffer requests
    simp [results, hall]
  · rw [appendAll_eq]
  · intro front others hsame
    rw [appendAll_eq] at hsame
    have hbytes := List.append_cancel_left hsame
    have hread := decodeAll?_written front others
    rw [hbytes, decodeAll?_written buffer requests] at hread
    exact (Option.some.inj hread).symm

end Request

end MeterPolling.Modbus
