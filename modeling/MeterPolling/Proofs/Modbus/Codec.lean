import MeterPolling.Modbus.Request
import MeterPolling.Proofs.Modbus.Stream

namespace MeterPolling.Modbus

theorem Header.read?_bytes (h : Header) (rest : List UInt8) :
    Header.read? (h.bytes ++ rest) = some h := by
  simp [Header.read?, Header.bytes, bytesOfWord, wordOfBytes_bytesOfWord]

@[simp] theorem Header.length_bytes (h : Header) : h.bytes.length = 7 := rfl

namespace Frame

variable {f : Frame}

@[simp] theorem length_bytes (f : Frame) : f.bytes.length = f.data.length + 8 := by
  simp only [Frame.bytes, List.length_append, Header.length_bytes, List.length_cons]
  omega

theorem fits_iff : f.fits ↔ f.data.length ≤ 65533 := by
  simp [fits, length]

theorem length_header (hf : f.fits) : f.header.length.toNat = f.data.length + 2 := by
  rw [fits_iff] at hf
  simp only [header, length, UInt16.toNat_ofNat']
  omega

theorem startsFrame_header (hf : f.fits) : f.header.startsFrame := by
  have hl := length_header hf
  simp only [Header.startsFrame, decide_eq_true_eq]
  exact ⟨rfl, by omega⟩

theorem frame?_bytes (hf : f.fits) (rest : List UInt8) :
    f.header.frame? (f.bytes ++ rest) = some (f, rest) := by
  have hl : f.header.frameLength = f.bytes.length := by
    have := length_header hf
    simp only [Header.frameLength, length_bytes]
    omega
  have hdrop : f.bytes.drop 7 = f.function :: f.data := rfl
  unfold Header.frame?
  rw [hl, if_neg (by simp), List.take_left, List.drop_left, hdrop]
  rfl

theorem read?_header (f : Frame) (rest : List UInt8) :
    Header.read? (f.bytes ++ rest) = some f.header := by
  rw [Frame.bytes, List.append_assoc]
  exact Header.read?_bytes f.header _

theorem read?_bytes (hf : f.fits) (rest : List UInt8) :
    Frame.read? (f.bytes ++ rest) = some (f, rest) := by
  simp [Frame.read?, read?_header, startsFrame_header hf, frame?_bytes hf]

end Frame

theorem nextResponse_bytes {f : Frame} (hf : f.fits) (rest : List UInt8) :
    nextResponse (f.bytes ++ rest) = (some (.ofFrame f), rest) :=
  nextResponse_of_frame (nextFrame_iff.mpr (.frame (f.read?_header rest)
    (Frame.startsFrame_header hf) (Frame.frame?_bytes hf rest)))

namespace Operation

theorem tooLong_write_iff {address : UInt16} {values : List UInt16} :
    (writeRegisters address values).tooLong ↔ 123 < values.length := by
  simp only [tooLong, decide_eq_true_eq]
  rfl

theorem length_data_le {operation : Operation} (h : ¬ operation.tooLong) :
    operation.data.length ≤ 251 := by
  cases operation with
  | readRegisters address count => simp [data, bytesOfWord]
  | writeRegisters address values =>
    rw [tooLong_write_iff] at h
    simp only [data, bytesOfWord, List.length_append, List.length_cons, List.length_nil,
      length_bytesOfWords]
    omega

theorem decode?_data {operation : Operation} (h : ¬ operation.tooLong) :
    decode? operation.function operation.data = some operation := by
  cases operation with
  | readRegisters address count => simp [decode?, function, data, bytesOfWord, wordOfBytes_bytesOfWord]
  | writeRegisters address values =>
    rw [tooLong_write_iff] at h
    have hbytes : (UInt8.ofNat (2 * values.length)).toNat = 2 * values.length := by
      rw [UInt8.toNat_ofNat']
      omega
    have hcount : (UInt16.ofNat values.length).toNat * 2 = 2 * values.length := by
      rw [UInt16.toNat_ofNat']
      omega
    simp only [decode?, function, data, bytesOfWord, List.cons_append, List.nil_append,
      wordOfBytes_bytesOfWord, length_bytesOfWords, hbytes, hcount, and_self, ↓reduceIte,
      wordsOfBytes_bytesOfWords]

end Operation

namespace Request

variable {r : Request}

theorem fits_frame (h : ¬ r.operation.tooLong) : r.frame.fits := by
  have := Operation.length_data_le h
  rw [Frame.fits_iff]
  simp only [frame]
  omega

theorem encode_of_short (h : ¬ r.operation.tooLong) : r.encode = .ok r.frame.bytes := by
  simp [encode, h, fits_frame h]

/-- Only a request that is too long has no frame. -/
theorem encode_error {e : EncodeError} (h : r.encode = .error e) :
    r.operation.tooLong ∧ e = .tooManyRegisters := by
  by_cases hl : r.operation.tooLong
  · refine ⟨hl, ?_⟩
    simp only [encode, hl, ↓reduceIte] at h
    exact (Except.error.inj h).symm
  · rw [encode_of_short hl] at h
    cases h

theorem ofFrame?_frame (h : ¬ r.operation.tooLong) : ofFrame? r.frame = some r := by
  simp [ofFrame?, frame, Operation.decode?_data h]

theorem decode?_bytes (h : ¬ r.operation.tooLong) (rest : List UInt8) :
    decode? (r.frame.bytes ++ rest) = some (r, rest) := by
  simp [decode?, Frame.read?_bytes (fits_frame h), ofFrame?_frame h]

end Request

theorem classify_written (address count : UInt16) :
    ResponseKind.classify 0x10 (bytesOfWord address ++ bytesOfWord count) =
      .written address count := by
  simp only [bytesOfWord, List.cons_append, List.nil_append, ResponseKind.classify,
    wordOfBytes_bytesOfWord]

theorem classify_values (n : UInt8) (words : List UInt16) :
    ResponseKind.classify 0x03 (n :: bytesOfWords words) = .values words := by
  simp [ResponseKind.classify, ResponseKind.ofData]

end MeterPolling.Modbus
