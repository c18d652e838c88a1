import MeterPolling.Modbus.Response

namespace MeterPolling.Modbus

theorem Header.read?_append {bs : List UInt8} {h : Header} (hr : Header.read? bs = some h)
    (more : List UInt8) : Header.read? (bs ++ more) = some h := by
  unfold Header.read? at hr
  split at hr
  next => simpa [Header.read?] using hr
  next => simp at hr

theorem Header.read?_of_append {bs : List UInt8} {h : Header} (more : List UInt8)
    (hr : Header.read? (bs ++ more) = some h) (hb : 7 ≤ bs.length) : Header.read? bs = some h := by
  match bs, hb with
  | _ :: _ :: _ :: _ :: _ :: _ :: _ :: _, _ => simpa [Header.read?] using hr

theorem Header.frame?_append {h : Header} {bs left : List UInt8} {f : Frame}
    (hf : h.frame? bs = some (f, left)) (more : List UInt8) :
    h.frame? (bs ++ more) = some (f, left ++ more) := by
  unfold Header.frame? at hf
  split at hf
  next => simp at hf
  next hb =>
    have hle : h.frameLength ≤ bs.length := by omega
    have hlen : ¬ (bs ++ more).length < h.frameLength := by
      simp only [List.length_append]; omega
    unfold Header.frame?
    rw [if_neg hlen, List.take_append_of_le_length hle, List.drop_append_of_le_length hle]
    split at hf
    next =>
      obtain ⟨hfr, hl⟩ := Prod.mk.inj (Option.some.inj hf)
      simp only [hfr, hl]
    next => simp at hf

theorem Header.length_of_frame? {h : Header} {bs left : List UInt8} {f : Frame}
    (hs : h.startsFrame) (hf : h.frame? bs = some (f, left)) : left.length + 8 ≤ bs.length := by
  have hlen : 2 ≤ h.length.toNat := by
    simp only [Header.startsFrame, decide_eq_true_eq] at hs
    exact hs.2
  unfold Header.frame? at hf
  split at hf
  next => simp at hf
  next hb =>
    split at hf
    next =>
      obtain ⟨_, hl⟩ := Prod.mk.inj (Option.some.inj hf)
      subst hl
      simp only [Header.frameLength] at hb ⊢
      simp only [List.length_drop]
      omega
    next => simp at hf

theorem Header.frame?_taken {h : Header} {bs left : List UInt8} {f : Frame}
    (hf : h.frame? bs = some (f, left)) :
    bs = bs.take h.frameLength ++ left ∧ h.frame? (bs.take h.frameLength) = some (f, []) := by
  unfold Header.frame? at hf
  split at hf
  next => simp at hf
  next hb =>
    have htake : (bs.take h.frameLength).length = h.frameLength := by
      rw [List.length_take]; omega
    split at hf
    next function data hd =>
      obtain ⟨hfr, hl⟩ := Prod.mk.inj (Option.some.inj hf)
      subst hl
      refine ⟨(List.take_append_drop _ bs).symm, ?_⟩
      unfold Header.frame?
      rw [if_neg (by omega), List.take_of_length_le (by omega), hd, List.drop_of_length_le (by omega)]
      simp only [hfr]
    next => simp at hf

/-- How a frame is looked for: what cannot start one is dropped byte by byte. -/
inductive FrameSearch : List UInt8 → Option Frame → List UInt8 → Prop
  | short {bs : List UInt8} (header : Header.read? bs = none) : FrameSearch bs none bs
  | frame {bs left : List UInt8} {h : Header} {f : Frame} (header : Header.read? bs = some h)
      (starts : h.startsFrame) (complete : h.frame? bs = some (f, left)) :
      FrameSearch bs (some f) left
  | incomplete {bs : List UInt8} {h : Header} (header : Header.read? bs = some h)
      (starts : h.startsFrame) (missing : h.frame? bs = none) : FrameSearch bs none bs
  | garbage {b : UInt8} {rest left : List UInt8} {h : Header} {found : Option Frame}
      (header : Header.read? (b :: rest) = some h) (starts : ¬ h.startsFrame)
      (later : FrameSearch rest found left) : FrameSearch (b :: rest) found left

theorem nextFrame_search (bs : List UInt8) : FrameSearch bs (nextFrame bs).1 (nextFrame bs).2 := by
  induction bs with
  | nil => exact .short rfl
  | cons b rest ih =>
    unfold nextFrame
    split
    next hr => exact .short hr
    next h hr =>
      split
      next hs =>
        split
        next f left hf => exact .frame hr hs hf
        next hf => exact .incomplete hr hs hf
      next hs => exact .garbage hr hs ih

theorem FrameSearch.nextFrame_eq {bs left : List UInt8} {found : Option Frame}
    (h : FrameSearch bs found left) : nextFrame bs = (found, left) := by
  induction h with
  | @short bs header =>
    cases bs with
    | nil => rfl
    | cons b rest => simp only [nextFrame, header]
  | @frame bs left h f header starts complete =>
    cases bs with
    | nil => simp [Header.read?] at header
    | cons b rest => simp only [nextFrame, header, starts, complete, ↓reduceIte]
  | @incomplete bs h header starts missing =>
    cases bs with
    | nil => rfl
    | cons b rest => simp only [nextFrame, header, starts, missing, ↓reduceIte]
  | garbage header starts _ ih =>
    rw [nextFrame]
    simp only [header, starts, Bool.false_eq_true, ↓reduceIte, ih]

theorem nextFrame_iff {bs left : List UInt8} {found : Option Frame} :
    nextFrame bs = (found, left) ↔ FrameSearch bs found left := by
  constructor
  · intro h
    have hs := nextFrame_search bs
    rwa [h] at hs
  · exact FrameSearch.nextFrame_eq

theorem nextFrame_append {bs left : List UInt8} {f : Frame} (hn : nextFrame bs = (some f, left))
    (more : List UInt8) : nextFrame (bs ++ more) = (some f, left ++ more) := by
  rw [nextFrame_iff] at hn ⊢
  generalize hfound : some f = found at hn
  induction hn with
  | short => cases hfound
  | frame header starts complete =>
    cases hfound
    exact .frame (Header.read?_append header more) starts (Header.frame?_append complete more)
  | incomplete => cases hfound
  | garbage header starts _ ih => exact .garbage (Header.read?_append header more) starts (ih hfound)

/-- Where no frame was found, the bytes dropped in the search would be dropped again. -/
theorem nextFrame_resume {bs left : List UInt8} (hn : nextFrame bs = (none, left))
    (more : List UInt8) : nextFrame (bs ++ more) = nextFrame (left ++ more) := by
  rw [nextFrame_iff] at hn
  generalize hfound : none = found at hn
  induction hn with
  | short => rfl
  | frame => cases hfound
  | incomplete => rfl
  | @garbage b rest left h _ header starts _ ih =>
    have hg : FrameSearch (b :: rest ++ more) _ _ :=
      .garbage (Header.read?_append header more) starts (nextFrame_search (rest ++ more))
    rw [hg.nextFrame_eq]
    exact ih hfound

theorem nextFrame_length {bs left : List UInt8} {f : Frame} (hn : nextFrame bs = (some f, left)) :
    left.length + 8 ≤ bs.length := by
  rw [nextFrame_iff] at hn
  generalize hfound : some f = found at hn
  induction hn with
  | short => cases hfound
  | frame _ starts complete => exact Header.length_of_frame? starts complete
  | incomplete => cases hfound
  | garbage _ _ _ ih =>
    have := ih hfound
    simp only [List.length_cons]
    omega

theorem nextFrame_taken {bs left : List UInt8} {f : Frame} (hn : nextFrame bs = (some f, left)) :
    ∃ taken, bs = taken ++ left ∧ nextFrame taken = (some f, []) := by
  rw [nextFrame_iff] at hn
  generalize hfound : some f = found at hn
  induction hn with
  | short => cases hfound
  | @frame bs left h g header starts complete =>
    cases hfound
    obtain ⟨he, htaken⟩ := Header.frame?_taken complete
    have hlen := Header.length_of_frame? starts htaken
    simp only [List.length_nil] at hlen
    rw [he] at header
    have hheader := Header.read?_of_append left header (by omega)
    exact ⟨_, he, nextFrame_iff.mpr (.frame hheader starts htaken)⟩
  | incomplete => cases hfound
  | @garbage b rest left h _ header starts _ ih =>
    subst hfound
    obtain ⟨taken, he, ht⟩ := ih rfl
    have hlen := nextFrame_length ht
    simp only [List.length_nil] at hlen
    subst he
    have hheader : Header.read? (b :: taken) = some h :=
      Header.read?_of_append left header (by simp only [List.length_cons]; omega)
    exact ⟨b :: taken, rfl, nextFrame_iff.mpr (.garbage hheader starts (nextFrame_iff.mp ht))⟩

theorem nextFrame_left {bs left : List UInt8} (hn : nextFrame bs = (none, left)) :
    nextFrame left = (none, left) := by
  have h := nextFrame_resume hn []
  simp only [List.append_nil] at h
  exact h.symm.trans hn

theorem nextResponse_of_frame {bs left : List UInt8} {f : Frame}
    (hn : nextFrame bs = (some f, left)) : nextResponse bs = (some (.ofFrame f), left) := by
  simp only [nextResponse, hn]

theorem nextResponse_of_no_frame {bs left : List UInt8} (hn : nextFrame bs = (none, left)) :
    nextResponse bs = (none, left) := by
  simp only [nextResponse, hn]

theorem nextResponse_frame {bs left : List UInt8} {r : Response}
    (hn : nextResponse bs = (some r, left)) : ∃ f, nextFrame bs = (some f, left) ∧ r = .ofFrame f := by
  rcases hf : nextFrame bs with ⟨found, rest⟩
  cases found with
  | none => simp [nextResponse_of_no_frame hf] at hn
  | some f =>
    rw [nextResponse_of_frame hf] at hn
    obtain ⟨hr, hl⟩ := Prod.mk.inj hn
    subst hl
    exact ⟨f, rfl, (Option.some.inj hr).symm⟩

theorem nextResponse_no_frame {bs left : List UInt8} (hn : nextResponse bs = (none, left)) :
    nextFrame bs = (none, left) := by
  rcases hf : nextFrame bs with ⟨found, rest⟩
  cases found with
  | none =>
    rw [nextResponse_of_no_frame hf] at hn
    obtain ⟨_, hl⟩ := Prod.mk.inj hn
    subst hl
    rfl
  | some f => simp [nextResponse_of_frame hf] at hn

theorem nextResponse_append {bs left : List UInt8} {r : Response}
    (hn : nextResponse bs = (some r, left)) (more : List UInt8) :
    nextResponse (bs ++ more) = (some r, left ++ more) := by
  obtain ⟨f, hf, hr⟩ := nextResponse_frame hn
  subst hr
  exact nextResponse_of_frame (nextFrame_append hf more)

theorem nextResponse_taken {bs left : List UInt8} {r : Response}
    (hn : nextResponse bs = (some r, left)) :
    ∃ taken, bs = taken ++ left ∧ nextResponse taken = (some r, []) := by
  obtain ⟨f, hf, hr⟩ := nextResponse_frame hn
  obtain ⟨taken, he, ht⟩ := nextFrame_taken hf
  subst hr
  exact ⟨taken, he, nextResponse_of_frame ht⟩

theorem nextResponse_resume {bs left : List UInt8} (hn : nextResponse bs = (none, left))
    (more : List UInt8) : nextResponse (bs ++ more) = nextResponse (left ++ more) := by
  have hf := nextFrame_resume (nextResponse_no_frame hn) more
  simp only [nextResponse, hf]

theorem nextResponse_left {bs left : List UInt8} (hn : nextResponse bs = (none, left)) :
    nextResponse left = (none, left) :=
  nextResponse_of_no_frame (nextFrame_left (nextResponse_no_frame hn))

theorem nextResponse_length {bs left : List UInt8} {r : Response}
    (hn : nextResponse bs = (some r, left)) : left.length + 8 ≤ bs.length := by
  obtain ⟨f, hf, _⟩ := nextResponse_frame hn
  exact nextFrame_length hf

theorem takeResponses_none {bs left : List UInt8} (hn : nextResponse bs = (none, left))
    (limit : Nat) : takeResponses (limit + 1) bs = ([], left) := by
  simp only [takeResponses, hn]

theorem takeResponses_some {bs left : List UInt8} {r : Response}
    (hn : nextResponse bs = (some r, left)) (limit : Nat) :
    takeResponses (limit + 1) bs =
      (r :: (takeResponses limit left).1, (takeResponses limit left).2) := by
  simp only [takeResponses, hn]

theorem takeResponses_enough {bs : List UInt8} {limit : Nat} (hb : bs.length < limit) :
    takeResponses limit bs = responses bs := by
  induction limit using Nat.strongRecOn generalizing bs with
  | _ limit ih =>
    obtain ⟨n, rfl⟩ : ∃ n, limit = n + 1 := ⟨limit - 1, by omega⟩
    unfold responses
    rcases hn : nextResponse bs with ⟨found, left⟩
    cases found with
    | none => rw [takeResponses_none hn, takeResponses_none hn]
    | some r =>
      have hlen := nextResponse_length hn
      rw [takeResponses_some hn, takeResponses_some hn, ih n (by omega) (by omega),
        ih bs.length (by omega) (by omega)]

theorem responses_none {bs left : List UInt8} (hn : nextResponse bs = (none, left)) :
    responses bs = ([], left) :=
  takeResponses_none hn _

theorem responses_some {bs left : List UInt8} {r : Response}
    (hn : nextResponse bs = (some r, left)) :
    responses bs = (r :: (responses left).1, (responses left).2) := by
  have hlen := nextResponse_length hn
  unfold responses
  rw [takeResponses_some hn, takeResponses_enough (by omega)]
  rfl

/--
Some of the responses may be taken now, and the others once more bytes have come: neither the responses nor
the bytes left in the end depend on it.
-/
theorem takeResponses_append (limit : Nat) (bs more : List UInt8) :
    responses (bs ++ more) =
      ((takeResponses limit bs).1 ++ (responses ((takeResponses limit bs).2 ++ more)).1,
        (responses ((takeResponses limit bs).2 ++ more)).2) := by
  induction limit generalizing bs with
  | zero => rfl
  | succ limit ih =>
    rcases hn : nextResponse bs with ⟨found, left⟩
    cases found with
    | none =>
      rw [takeResponses_none hn]
      have hr := nextResponse_resume hn more
      rcases hm : nextResponse (left ++ more) with ⟨found, left'⟩
      rw [hm] at hr
      cases found with
      | none => simp [responses_none hm, responses_none hr]
      | some r => simp [responses_some hm, responses_some hr]
    | some r =>
      rw [takeResponses_some hn, responses_some (nextResponse_append hn more), ih left]
      rfl

theorem responses_append (bs more : List UInt8) :
    responses (bs ++ more) =
      ((responses bs).1 ++ (responses ((responses bs).2 ++ more)).1,
        (responses ((responses bs).2 ++ more)).2) :=
  takeResponses_append (bs.length + 1) bs more

theorem takeResponses_short {limit : Nat} {bs : List UInt8}
    (hs : (takeResponses limit bs).1.length < limit) :
    nextResponse (takeResponses limit bs).2 = (none, (takeResponses limit bs).2) := by
  induction limit generalizing bs with
  | zero => omega
  | succ limit ih =>
    rcases hn : nextResponse bs with ⟨found, left⟩
    cases found with
    | none =>
      rw [takeResponses_none hn]
      exact nextResponse_left hn
    | some r =>
      rw [takeResponses_some hn] at hs ⊢
      exact ih (by simpa using hs)

theorem takeResponses_length_le (limit : Nat) (bs : List UInt8) :
    (takeResponses limit bs).1.length ≤ bs.length := by
  induction limit generalizing bs with
  | zero => simp [takeResponses]
  | succ limit ih =>
    rcases hn : nextResponse bs with ⟨found, left⟩
    cases found with
    | none => simp [takeResponses_none hn]
    | some r =>
      have hlen := nextResponse_length hn
      have := ih left
      rw [takeResponses_some hn]
      simp only [List.length_cons]
      omega

end MeterPolling.Modbus
