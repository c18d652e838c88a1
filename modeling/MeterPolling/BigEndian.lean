namespace MeterPolling

def bytesOfWord (w : UInt16) : List UInt8 :=
  [UInt8.ofNat (w.toNat / 256), UInt8.ofNat (w.toNat % 256)]

def wordOfBytes (high low : UInt8) : UInt16 :=
  UInt16.ofNat (high.toNat * 256 + low.toNat)

def bytesOfWords (ws : List UInt16) : List UInt8 :=
  ws.flatMap bytesOfWord

/-- Two bytes a word; a last single byte makes no word. -/
def wordsOfBytes : List UInt8 → List UInt16
  | high :: low :: rest => wordOfBytes high low :: wordsOfBytes rest
  | _ => []

/-- The number that the words spell in base 65536. -/
def natOfWords (ws : List UInt16) : Nat :=
  ws.foldl (fun n w => n * 65536 + w.toNat) 0

theorem wordOfBytes_bytesOfWord (w : UInt16) :
    wordOfBytes (UInt8.ofNat (w.toNat / 256)) (UInt8.ofNat (w.toNat % 256)) = w := by
  apply UInt16.toNat_inj.mp
  have h := w.toNat_lt
  simp only [wordOfBytes, UInt16.toNat_ofNat', UInt8.toNat_ofNat']
  omega

theorem bytesOfWords_cons (w : UInt16) (ws : List UInt16) :
    bytesOfWords (w :: ws) = bytesOfWord w ++ bytesOfWords ws := rfl

@[simp] theorem wordsOfBytes_bytesOfWords (ws : List UInt16) :
    wordsOfBytes (bytesOfWords ws) = ws := by
  induction ws with
  | nil => rfl
  | cons w ws ih =>
    rw [bytesOfWords_cons]
    simp [bytesOfWord, wordsOfBytes, wordOfBytes_bytesOfWord, ih]

@[simp] theorem length_bytesOfWords (ws : List UInt16) :
    (bytesOfWords ws).length = 2 * ws.length := by
  induction ws with
  | nil => rfl
  | cons w ws ih =>
    rw [bytesOfWords_cons, List.length_append, ih, List.length_cons]
    simp [bytesOfWord]
    omega

theorem toNat_wordOfBytes (high low : UInt8) : (wordOfBytes high low).toNat = high.toNat * 256 + low.toNat := by
  have hhigh := high.toNat_lt
  have hlow := low.toNat_lt
  simp only [wordOfBytes, UInt16.toNat_ofNat']
  omega

theorem bytesOfWord_wordOfBytes (high low : UInt8) : bytesOfWord (wordOfBytes high low) = [high, low] := by
  have hlow := low.toNat_lt
  have hdiv : (high.toNat * 256 + low.toNat) / 256 = high.toNat := by omega
  have hmod : (high.toNat * 256 + low.toNat) % 256 = low.toNat := by omega
  rw [bytesOfWord, toNat_wordOfBytes, hdiv, hmod, UInt8.ofNat_toNat, UInt8.ofNat_toNat]

theorem bytesOfWords_wordsOfBytes {bs : List UInt8} (h : bs.length % 2 = 0) :
    bytesOfWords (wordsOfBytes bs) = bs := by
  fun_induction wordsOfBytes bs with
  | case1 high low rest ih =>
    have hrest : rest.length % 2 = 0 := by
      simp only [List.length_cons] at h
      omega
    rw [bytesOfWords_cons, bytesOfWord_wordOfBytes, ih hrest]
    rfl
  | case2 bs hshort =>
    match bs, hshort with
    | [], _ => rfl
    | [_], _ => simp at h
    | high :: low :: rest, hshort => exact absurd rfl (hshort high low rest)

end MeterPolling
