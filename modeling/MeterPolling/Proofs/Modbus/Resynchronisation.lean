import MeterPolling.Proofs.Modbus.Codec

namespace MeterPolling.Modbus

/-- Read on into the bytes behind it, no place in the garbage shows protocol zero and a length of two or more. -/
def Quiet (garbage behind : List UInt8) : Prop :=
  ∀ i < garbage.length, ∀ h ∈ Header.read? ((garbage ++ behind).drop i),
    ¬ (h.protocol = 0 ∧ 2 ≤ h.length.toNat)

instance (garbage behind : List UInt8) : Decidable (Quiet garbage behind) :=
  inferInstanceAs (Decidable (∀ i < garbage.length, ∀ h ∈ Header.read? ((garbage ++ behind).drop i),
    ¬ (h.protocol = 0 ∧ 2 ≤ h.length.toNat)))

/-- A frame and the garbage in front of it. -/
structure Burst where
  garbage : List UInt8
  frame : Frame

def Burst.response (b : Burst) : Response := .ofFrame b.frame

def stream : List Burst → List UInt8 → List UInt8
  | [], tail => tail
  | b :: rest, tail => b.garbage ++ (b.frame.bytes ++ stream rest tail)

/-- All frames fit their length fields, and all garbage is quiet in front of what comes behind it. -/
inductive Framed (tail : List UInt8) : List Burst → Prop
  | nil : Framed tail []
  | cons {b : Burst} {rest : List Burst} (fits : b.frame.fits)
      (quiet : Quiet b.garbage (b.frame.bytes ++ stream rest tail)) (others : Framed tail rest) :
      Framed tail (b :: rest)

def Unfinished (tail : List UInt8) : Prop := ∃ f : Frame, f.fits ∧ tail <+: f.bytes ∧ tail ≠ f.bytes

theorem Header.read?_of_length {bs : List UInt8} (hb : 7 ≤ bs.length) : ∃ h, Header.read? bs = some h := by
  match bs, hb with
  | t₁ :: t₀ :: p₁ :: p₀ :: l₁ :: l₀ :: unit :: _, _ =>
    exact ⟨⟨wordOfBytes t₁ t₀, wordOfBytes p₁ p₀, wordOfBytes l₁ l₀, unit⟩, rfl⟩

theorem Header.length_of_read? {bs : List UInt8} {h : Header} (hr : Header.read? bs = some h) :
    7 ≤ bs.length := by
  unfold Header.read? at hr
  split at hr
  next => simp only [List.length_cons]; omega
  next => cases hr

theorem Header.startsFrame_iff {h : Header} : h.startsFrame ↔ h.protocol = 0 ∧ 2 ≤ h.length.toNat := by
  simp [startsFrame]

theorem quiet_nil (behind : List UInt8) : Quiet [] behind := by
  intro i hi
  simp at hi

theorem quiet_cons {g : UInt8} {garbage behind : List UInt8} :
    Quiet (g :: garbage) behind ↔
      (∀ h ∈ Header.read? (g :: (garbage ++ behind)), ¬ (h.protocol = 0 ∧ 2 ≤ h.length.toNat)) ∧
        Quiet garbage behind := by
  constructor
  · intro hq
    refine ⟨hq 0 (by simp), ?_⟩
    intro i hi
    exact hq (i + 1) (by simpa using hi)
  · rintro ⟨hfront, hq⟩ i hi
    cases i with
    | zero => exact hfront
    | succ i => exact hq i (by simpa using hi)

theorem Frame.bytes_short {f : Frame} (hf : f.length < 256) :
    ∃ t₁ t₀ l rest, f.bytes = t₁ :: t₀ :: 0 :: 0 :: 0 :: l :: rest := by
  have hhigh : UInt8.ofNat (f.header.length.toNat / 256) = 0 := by
    have hlow : f.header.length.toNat / 256 = 0 := by
      simp only [Frame.header, UInt16.toNat_ofNat']
      omega
    rw [hlow]
    rfl
  refine ⟨UInt8.ofNat (f.transaction.toNat / 256), UInt8.ofNat (f.transaction.toNat % 256),
    UInt8.ofNat (f.header.length.toNat % 256), f.unit :: f.function :: f.data, ?_⟩
  have hprotocol : bytesOfWord (0 : UInt16) = [0, 0] := by decide
  have hlength : bytesOfWord f.header.length = [0, UInt8.ofNat (f.header.length.toNat % 256)] := by
    rw [bytesOfWord, hhigh]
  have hzero : f.header.protocol = 0 := rfl
  rw [Frame.bytes, Header.bytes, hzero, hprotocol, hlength]
  rfl

/-- So close in front of a short frame nothing looks like a header: the zeros of its protocol number are read as a length. -/
theorem quiet_short {garbage : List UInt8} {f : Frame} (hg : garbage.length ≤ 2) (hf : f.length < 256)
    (behind : List UInt8) : Quiet garbage (f.bytes ++ behind) := by
  obtain ⟨t₁, t₀, l, rest, hbytes⟩ := Frame.bytes_short hf
  have hone : ∀ g, Quiet [g] (f.bytes ++ behind) := by
    intro g
    refine quiet_cons.mpr ⟨?_, quiet_nil _⟩
    intro h hr
    rw [hbytes] at hr
    cases hr
    simp [wordOfBytes]
  rcases garbage with _ | ⟨g₁, _ | ⟨g₂, _ | ⟨g₃, more⟩⟩⟩
  · exact quiet_nil _
  · exact hone g₁
  · refine quiet_cons.mpr ⟨?_, hone g₂⟩
    intro h hr
    rw [hbytes] at hr
    cases hr
    simp [wordOfBytes]
  · simp only [List.length_cons] at hg
    omega

theorem nextFrame_garbage {garbage behind : List UInt8} {f : Frame} (hf : f.fits)
    (hq : Quiet garbage (f.bytes ++ behind)) :
    nextFrame (garbage ++ (f.bytes ++ behind)) = (some f, behind) := by
  rw [nextFrame_iff]
  induction garbage with
  | nil =>
    exact .frame (f.read?_header behind) (Frame.startsFrame_header hf) (Frame.frame?_bytes hf behind)
  | cons g garbage ih =>
    obtain ⟨hfront, hrest⟩ := quiet_cons.mp hq
    have hlong : 7 ≤ (g :: (garbage ++ (f.bytes ++ behind))).length := by
      simp only [List.length_cons, List.length_append, Frame.length_bytes]
      omega
    obtain ⟨h, hr⟩ := Header.read?_of_length hlong
    exact .garbage hr (mt Header.startsFrame_iff.mp (hfront h hr)) (ih hrest)

theorem nextFrame_unfinished {tail : List UInt8} (ht : Unfinished tail) : nextFrame tail = (none, tail) := by
  obtain ⟨f, hf, ⟨more, hmore⟩, hne⟩ := ht
  have hshort : tail.length < f.bytes.length := by
    rw [← hmore, List.length_append]
    have hpos : 0 < more.length := by
      rw [List.length_pos_iff]
      rintro rfl
      exact hne (by simpa using hmore)
    omega
  rw [nextFrame_iff]
  by_cases hb : 7 ≤ tail.length
  · have hheader : Header.read? tail = some f.header := by
      have hwhole := f.read?_header []
      rw [List.append_nil, ← hmore] at hwhole
      exact Header.read?_of_append more hwhole hb
    have hmissing : f.header.frame? tail = none := by
      have hlength := Frame.length_header hf
      rw [Frame.length_bytes] at hshort
      unfold Header.frame?
      rw [if_pos (by simp only [Header.frameLength]; omega)]
    exact .incomplete hheader (Frame.startsFrame_header hf) hmissing
  · cases hr : Header.read? tail with
    | none => exact .short hr
    | some h => exact absurd (Header.length_of_read? hr) hb

variable {tail : List UInt8}

theorem takeResponses_stream (ht : Unfinished tail) {bursts : List Burst} (h : Framed tail bursts) (limit : Nat) :
    takeResponses limit (stream bursts tail) =
      ((bursts.take limit).map Burst.response, stream (bursts.drop limit) tail) := by
  induction limit generalizing bursts with
  | zero => rfl
  | succ limit ih =>
    cases h with
    | nil => exact takeResponses_none (nextResponse_of_no_frame (nextFrame_unfinished ht)) limit
    | cons fits quiet others =>
      have hnext := nextResponse_of_frame (nextFrame_garbage fits quiet)
      rw [stream, takeResponses_some hnext, ih others]
      rfl

theorem length_le_stream (bursts : List Burst) (tail : List UInt8) :
    bursts.length ≤ (stream bursts tail).length := by
  induction bursts with
  | nil => simp
  | cons b rest ih =>
    simp only [stream, List.length_cons, List.length_append, Frame.length_bytes]
    omega

theorem responses_stream (ht : Unfinished tail) {bursts : List Burst} (h : Framed tail bursts) :
    responses (stream bursts tail) = (bursts.map Burst.response, tail) := by
  have hlength := length_le_stream bursts tail
  have hall := takeResponses_stream ht h ((stream bursts tail).length + 1)
  rw [List.take_of_length_le (by omega), List.drop_of_length_le (by omega)] at hall
  exact hall

inductive Look where
  | over (found : Option Response) (left : List UInt8)
  | again (left : List UInt8)

def advance? (n : Nat) (bs : List UInt8) : Option (List UInt8) := if n ≤ bs.length then some (bs.drop n) else none

/-- A look at the front of a buffer. There is none if it would fetch, or move on over, a byte that is not there. -/
def look? (bs : List UInt8) : Option Look :=
  match Header.read? bs with
  | none => some (.over none bs)
  | some h =>
    if h.startsFrame then
      if (bs.drop 7).length < h.length.toNat - 1 then some (.over none bs)
      else
        let body := (bs.drop 7).take (h.length.toNat - 1)
        match body[0]?, advance? h.frameLength bs with
        | some function, some left =>
          some (.over (some (.ofFrame ⟨h.transaction, h.unit, function, body.drop 1⟩)) left)
        | _, _ => none
    else (advance? 1 bs).map .again

def lookOn? : Nat → List UInt8 → Option (Option Response × List UInt8)
  | 0, _ => none
  | fuel + 1, bs =>
    match look? bs with
    | some (.over found left) => some (found, left)
    | some (.again left) => lookOn? fuel left
    | none => none

theorem Header.body {h : Header} (starts : h.startsFrame) {bs : List UInt8} (header : Header.read? bs = some h)
    (whole : ¬ (bs.drop 7).length < h.length.toNat - 1) :
    ∃ function data, (bs.drop 7).take (h.length.toNat - 1) = function :: data ∧
      advance? h.frameLength bs = some (bs.drop h.frameLength) ∧
      h.frame? bs = some (⟨h.transaction, h.unit, function, data⟩, bs.drop h.frameLength) := by
  have hbytes := Header.length_of_read? header
  have htwo := (Header.startsFrame_iff.mp starts).2
  rw [List.length_drop] at whole
  have hlong : h.frameLength ≤ bs.length := by
    simp only [Header.frameLength]
    omega
  have hbody : (bs.take h.frameLength).drop 7 = (bs.drop 7).take (h.length.toNat - 1) := by
    rw [List.drop_take]
    simp only [Header.frameLength]
    congr 1
    omega
  cases hd : (bs.drop 7).take (h.length.toNat - 1) with
  | nil =>
    have hzero := congrArg List.length hd
    rw [List.length_take, List.length_drop, List.length_nil] at hzero
    omega
  | cons function data =>
    refine ⟨function, data, rfl, if_pos hlong, ?_⟩
    unfold Header.frame?
    rw [if_neg (by omega), hbody, hd]

theorem look?_cases (bs : List UInt8) :
    (look? bs = some (.over none bs) ∧ nextResponse bs = (none, bs)) ∨
    (∃ r left, look? bs = some (.over (some r) left) ∧ nextResponse bs = (some r, left)) ∨
    ∃ b left, bs = b :: left ∧ look? bs = some (.again left) ∧ nextResponse bs = nextResponse left := by
  cases hr : Header.read? bs with
  | none =>
    refine .inl ⟨by simp [look?, hr], ?_⟩
    exact nextResponse_of_no_frame (nextFrame_iff.mpr (.short hr))
  | some h =>
    by_cases hs : h.startsFrame
    · by_cases hw : (bs.drop 7).length < h.length.toNat - 1
      · have hmissing : h.frame? bs = none := by
          have hbytes := Header.length_of_read? hr
          rw [List.length_drop] at hw
          unfold Header.frame?
          rw [if_pos (by simp only [Header.frameLength]; omega)]
        refine .inl ⟨?_, nextResponse_of_no_frame (nextFrame_iff.mpr (.incomplete hr hs hmissing))⟩
        simp only [look?, hr, hs, hw, ↓reduceIte]
      · obtain ⟨function, data, hbody, hadvance, hframe⟩ := Header.body hs hr hw
        refine .inr (.inl ⟨.ofFrame ⟨h.transaction, h.unit, function, data⟩, bs.drop h.frameLength, ?_,
          nextResponse_of_frame (nextFrame_iff.mpr (.frame hr hs hframe))⟩)
        simp only [look?, hr, hs, hw, hbody, hadvance, ↓reduceIte, List.getElem?_cons_zero, List.drop_succ_cons,
          List.drop_zero]
    · have hbytes := Header.length_of_read? hr
      cases bs with
      | nil => simp at hbytes
      | cons b left =>
        have hone : advance? 1 (b :: left) = some left := if_pos (by simp)
        have hnext : nextFrame (b :: left) = nextFrame left :=
          nextFrame_iff.mpr (.garbage hr hs (nextFrame_search left))
        refine .inr (.inr ⟨b, left, rfl, ?_, ?_⟩)
        · simp [look?, hr, hs, hone]
        · simp only [nextResponse, hnext]

theorem lookOn?_eq {fuel : Nat} {bs : List UInt8} (hb : bs.length < fuel) :
    lookOn? fuel bs = some (nextResponse bs) := by
  induction fuel generalizing bs with
  | zero => omega
  | succ fuel ih =>
    rcases look?_cases bs with ⟨hl, hn⟩ | ⟨r, left, hl, hn⟩ | ⟨b, left, hcons, hl, hn⟩
    · simp [lookOn?, hl, hn]
    · simp [lookOn?, hl, hn]
    · subst hcons
      rw [List.length_cons] at hb
      simp only [lookOn?, hl, hn]
      exact ih (by omega)

/--
Frames in a stream, with quiet garbage in front of them and an unfinished frame behind the last: they have one
response each, in order, however many are asked for at first, and the unfinished frame is what is left. One or two
bytes of garbage in front of a frame that is shorter than 256 bytes are quiet. And in any buffer each look is possible:
it is the last one, which may take a frame off, or it takes a single byte off; and what looking on comes to is the
next response.
-/
theorem responses_resynchronised :
    (∀ (bursts : List Burst) (tail : List UInt8), Framed tail bursts → Unfinished tail →
      responses (stream bursts tail) = (bursts.map Burst.response, tail) ∧
      ∀ limit, takeResponses limit (stream bursts tail) =
        ((bursts.take limit).map Burst.response, stream (bursts.drop limit) tail)) ∧
    (∀ (garbage behind : List UInt8) (f : Frame), garbage.length ≤ 2 → f.length < 256 →
      f.fits ∧ Quiet garbage (f.bytes ++ behind)) ∧
    ∀ bs : List UInt8, lookOn? (bs.length + 1) bs = some (nextResponse bs) ∧
      (look? bs = some (.over none bs) ∨
        (∃ r left, look? bs = some (.over (some r) left) ∧ left.length + 8 ≤ bs.length) ∨
        ∃ b left, look? bs = some (.again left) ∧ bs = b :: left) := by
  refine ⟨?_, ?_, ?_⟩
  · intro bursts tail framed unfinished
    exact ⟨responses_stream unfinished framed, takeResponses_stream unfinished framed⟩
  · intro garbage behind f hg hf
    refine ⟨?_, quiet_short hg hf behind⟩
    simp only [Frame.fits, decide_eq_true_eq]
    omega
  · intro bs
    refine ⟨lookOn?_eq (by omega), ?_⟩
    rcases look?_cases bs with ⟨hl, _⟩ | ⟨r, left, hl, hn⟩ | ⟨b, left, hcons, hl, _⟩
    · exact .inl hl
    · exact .inr (.inl ⟨r, left, hl, nextResponse_length hn⟩)
    · exact .inr (.inr ⟨b, left, hl, hcons⟩)

/-- Zeros in front of frames whose numbers are zero, a longer piece of garbage, and all of a frame but its last byte. -/
theorem responses_resynchronised_zeros :
    let bursts : List Burst := [⟨[0, 0], ⟨0, 0, 0x83, [6]⟩⟩, ⟨[], ⟨0, 9, 3, [2, 0, 7]⟩⟩,
      ⟨[5, 5, 0, 0, 0, 0], ⟨0, 9, 0x10, [0, 1, 0, 2]⟩⟩]
    let tail : List UInt8 := [0, 1, 0, 0, 0, 4, 9, 3, 2]
    Framed tail bursts ∧ Unfinished tail ∧
      responses (stream bursts tail) =
        ([⟨0, 0, .exception 6⟩, ⟨9, 0, .values [7]⟩, ⟨9, 0, .written 1 2⟩], tail) := by
  intro bursts tail
  have framed : Framed tail bursts := by
    refine .cons (by decide) (quiet_short (by decide) (by decide) _) ?_
    refine .cons (by decide) (quiet_nil _) ?_
    exact .cons (by decide) (by decide) .nil
  have unfinished : Unfinished tail := ⟨⟨1, 9, 3, [2, 5]⟩, by decide, ⟨[5], by decide⟩, by decide⟩
  exact ⟨framed, unfinished, (responses_resynchronised.1 bursts tail framed unfinished).1⟩

end MeterPolling.Modbus
