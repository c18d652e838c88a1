import MeterPolling.Proofs.Modbus.Stream

namespace MeterPolling.Modbus

/-- Whether more responses were asked for than there were. -/
def Feed.Exhausts (f : Feed) (d : Drained) : Prop := ∀ n ∈ f.limit, d.responses.length < n

theorem Feed.drain_eq (f : Feed) (buffer : List UInt8) :
    ∃ limit, ((f.drain buffer).responses, (f.drain buffer).left) =
      takeResponses limit (buffer ++ f.bytes) :=
  ⟨_, rfl⟩

theorem Feed.drain_append (f : Feed) (buffer more : List UInt8) :
    responses (buffer ++ f.bytes ++ more) =
      ((f.drain buffer).responses ++ (responses ((f.drain buffer).left ++ more)).1,
        (responses ((f.drain buffer).left ++ more)).2) := by
  obtain ⟨limit, hd⟩ := f.drain_eq buffer
  obtain ⟨ht, hl⟩ := Prod.mk.inj hd
  rw [ht, hl]
  exact takeResponses_append limit (buffer ++ f.bytes) more

theorem Feed.drain_final (f : Feed) (eof : Bool) (buffer : List UInt8) :
    ({ f with final := eof }.drain buffer).responses = (f.drain buffer).responses ∧
      ({ f with final := eof }.drain buffer).left = (f.drain buffer).left :=
  ⟨rfl, rfl⟩

theorem Feed.nextResponse_of_exhausts {f : Feed} {buffer : List UInt8}
    (h : f.Exhausts (f.drain buffer)) :
    nextResponse (f.drain buffer).left = (none, (f.drain buffer).left) := by
  unfold Feed.Exhausts at h
  unfold Feed.drain at h ⊢
  cases hl : f.limit with
  | none =>
    simp only [Option.getD_none]
    apply takeResponses_short
    have := takeResponses_length_le ((buffer ++ f.bytes).length + 1) (buffer ++ f.bytes)
    omega
  | some n =>
    simp only [hl, Option.mem_def, Option.some.injEq, forall_eq', Option.getD_some] at h
    simp only [Option.getD_some]
    exact takeResponses_short h

theorem Feed.truncated_iff (f : Feed) (buffer : List UInt8) :
    (f.drain buffer).truncated = true ↔
      f.final = true ∧ f.Exhausts (f.drain buffer) ∧ (f.drain buffer).left ≠ [] := by
  unfold Feed.Exhausts Feed.drain
  cases f.limit <;> simp [and_assoc]

theorem drainAll_total (feeds : List Feed) (buffer : List UInt8) :
    responses (buffer ++ feeds.flatMap Feed.bytes) =
      ((drainAll buffer feeds).1.flatMap Drained.responses ++
          (responses (drainAll buffer feeds).2).1,
        (responses (drainAll buffer feeds).2).2) := by
  induction feeds generalizing buffer with
  | nil => simp [drainAll]
  | cons f rest ih =>
    have hf := f.drain_append buffer (rest.flatMap Feed.bytes)
    rw [ih (f.drain buffer).left] at hf
    simpa [drainAll] using hf

theorem drainAll_take (feeds : List Feed) (buffer : List UInt8) (i : Nat) :
    (drainAll buffer (feeds.take i)).1 = (drainAll buffer feeds).1.take i := by
  induction feeds generalizing buffer i with
  | nil => simp [drainAll]
  | cons f rest ih =>
    cases i with
    | zero => rfl
    | succ i => simp [drainAll, ih]

theorem drainAll_ends (feeds : List Feed) (buffer : List UInt8) (eof : Nat → Bool) :
    (drainAll buffer (feeds.mapIdx fun i f => { f with final := eof i })).2 =
        (drainAll buffer feeds).2 ∧
      (drainAll buffer (feeds.mapIdx fun i f => { f with final := eof i })).1.map
          (fun d => (d.responses, d.left)) =
        (drainAll buffer feeds).1.map (fun d => (d.responses, d.left)) := by
  induction feeds generalizing buffer eof with
  | nil => simp [drainAll]
  | cons f rest ih =>
    obtain ⟨hl, hr⟩ := ih (f.drain buffer).left (fun i => eof (i + 1))
    obtain ⟨hdr, hdl⟩ := f.drain_final (eof 0) buffer
    simp only [List.mapIdx_cons, drainAll, hdr, hdl, List.map_cons, hl, hr, and_self]

theorem drainAll_getElem {feeds : List Feed} {buffer : List UInt8} {i : Nat} {d : Drained}
    (hd : (drainAll buffer feeds).1[i]? = some d) :
    ∃ f before, feeds[i]? = some f ∧ d = f.drain before := by
  induction feeds generalizing buffer i with
  | nil => simp [drainAll] at hd
  | cons f rest ih =>
    cases i with
    | zero => exact ⟨f, buffer, rfl, (Option.some.inj hd).symm⟩
    | succ i => exact ih hd

/--
However a stream is cut into feeds, and however many responses each of them asks for: what is taken in the
end, with what can still be taken, and the bytes left are those of the whole stream. At every moment the
responses so far are a prefix of those in the bytes so far, and these of those in the whole stream. Ending
the stream at any feeds changes neither the responses nor the bytes left; it is noticed just where a response
is asked for, none is there, and bytes are left.
-/
theorem drainAll_segmentation (buffer : List UInt8) (feeds : List Feed) :
    let run := drainAll buffer feeds
    let whole := responses (buffer ++ feeds.flatMap Feed.bytes)
    (run.1.flatMap Drained.responses ++ (responses run.2).1, (responses run.2).2) = whole ∧
    (∀ i, let soFar := responses (buffer ++ (feeds.take i).flatMap Feed.bytes)
      (run.1.take i).flatMap Drained.responses <+: soFar.1 ∧ soFar.1 <+: whole.1) ∧
    ∀ eof : Nat → Bool,
      let ended := drainAll buffer (feeds.mapIdx fun i f => { f with final := eof i })
      ended.2 = run.2 ∧
      ended.1.map (fun d => (d.responses, d.left)) = run.1.map (fun d => (d.responses, d.left)) ∧
      ∀ i f d, feeds[i]? = some f → ended.1[i]? = some d →
        (d.truncated = true ↔ eof i = true ∧ f.Exhausts d ∧ d.left ≠ []) ∧
        (f.Exhausts d → nextResponse d.left = (none, d.left)) := by
  intro run whole
  refine ⟨(drainAll_total feeds buffer).symm, ?_, ?_⟩
  · intro i soFar
    have htotal : soFar = _ := drainAll_total (feeds.take i) buffer
    rw [drainAll_take] at htotal
    have hwhole : whole = responses (buffer ++ (feeds.take i).flatMap Feed.bytes ++
        (feeds.drop i).flatMap Feed.bytes) := by
      rw [List.append_assoc, ← List.flatMap_append, List.take_append_drop]
    rw [responses_append] at hwhole
    refine ⟨?_, ?_⟩
    · rw [htotal]
      exact List.prefix_append _ _
    · rw [hwhole]
      exact List.prefix_append _ _
  · intro eof ended
    obtain ⟨hleft, hsame⟩ := drainAll_ends feeds buffer eof
    refine ⟨hleft, hsame, ?_⟩
    intro i f d hf hd
    obtain ⟨g, before, hg, hdrain⟩ := drainAll_getElem hd
    rw [List.getElem?_mapIdx, hf] at hg
    cases Option.some.inj hg
    subst d
    exact ⟨Feed.truncated_iff { f with final := eof i } before,
      Feed.nextResponse_of_exhausts (f := { f with final := eof i })⟩

-- A reading of one word, cut inside its header.
example : (drainAll [] [{ bytes := [0, 1, 0, 0, 0] }, { bytes := [5, 9, 3, 2, 0, 7, 0] }]).1.map
    Drained.responses = [[], [⟨9, 1, .values [7]⟩]] := by decide

end MeterPolling.Modbus
