import MeterPolling.Proofs.Session.Inbox
import MeterPolling.Proofs.Session.Reconnection
import MeterPolling.Proofs.Session.Simulation

namespace MeterPolling

open Modbus

variable {σ : Type}

def AnsweredAt (ts : List (Turn σ)) (n : Nat) : Prop := ∃ t r, ts[n]? = some t ∧ t.reply = .ok r

theorem AnsweredAt.append {ts : List (Turn σ)} {n : Nat} (h : AnsweredAt ts n) (t : Turn σ) :
    AnsweredAt (ts ++ [t]) n := by
  obtain ⟨u, r, hu, hr⟩ := h
  have hn := (List.getElem?_eq_some_iff.mp hu).1
  exact ⟨u, r, by rw [List.getElem?_append_left hn, hu], hr⟩

/-- Frames by connection, and the numbers of the attempts whose requests they are. -/
structure RequestStream {link : Link (StateM σ)} (inbox : Inbox link) (settings : SessionSettings)
    (ts : List (Turn σ)) (frames : List (List (List UInt8))) (numbers : List (List Nat)) :
    Prop where
  encoded : frames.map (·.map some) =
    numbers.map (·.map fun n => ts[n]?.bind (·.request.encode.toOption))
  ordered : numbers.flatten.Pairwise (· < ·)
  below : ∀ n ∈ numbers.flatten, n < ts.length
  answered : ∀ ns ∈ numbers, ∀ m ∈ ns, ∀ n ∈ ns, ∀ j, m ≤ j → j < n → AnsweredAt ts j
  missing : ∀ n t, ts[n]? = some t → n ∉ numbers.flatten → t.Missing inbox settings

def LastAnswered (ts : List (Turn σ)) (numbers : List (List Nat)) : Prop :=
  ∃ front last, numbers = front ++ [last] ∧
    ∀ n ∈ last, ∀ j, n ≤ j → j < ts.length → AnsweredAt ts j

theorem LastAnswered.append {ts : List (Turn σ)} {numbers : List (List Nat)}
    (h : LastAnswered ts numbers) {t : Turn σ} {r : Response} (hr : t.reply = .ok r) :
    LastAnswered (ts ++ [t]) numbers := by
  obtain ⟨front, last, he, hlast⟩ := h
  refine ⟨front, last, he, ?_⟩
  intro n hn j hnj hj
  rw [List.length_append, List.length_singleton] at hj
  by_cases hlt : j < ts.length
  · exact (hlast n hn j hnj hlt).append t
  · have hj' : j = ts.length := by omega
    subst hj'
    exact ⟨t, r, by simp, hr⟩

namespace RequestStream

theorem start {link : Link (StateM σ)} (inbox : Inbox link) (settings : SessionSettings) :
    RequestStream inbox settings [] [] [] :=
  ⟨rfl, .nil, by simp, by simp, by simp⟩

variable {link : Link (StateM σ)} {inbox : Inbox link} {settings : SessionSettings}
  {ts : List (Turn σ)} {frames : List (List (List UInt8))} {numbers : List (List Nat)}

theorem connection (h : RequestStream inbox settings ts frames numbers) :
    RequestStream inbox settings ts (frames ++ [[]]) (numbers ++ [[]]) := by
  have hflat : (numbers ++ [[]]).flatten = numbers.flatten := by simp
  refine ⟨?_, ?_, ?_, ?_, ?_⟩
  · simp [h.encoded]
  · rw [hflat]
    exact h.ordered
  · rw [hflat]
    exact h.below
  · intro ns hns
    rcases List.mem_append.mp hns with hns | hns
    · exact h.answered ns hns
    · have he := List.mem_singleton.mp hns
      subst he
      simp
  · rw [hflat]
    exact h.missing

theorem encoded_append (h : RequestStream inbox settings ts frames numbers) (t : Turn σ) :
    frames.map (·.map some) =
      numbers.map (·.map fun n => (ts ++ [t])[n]?.bind (·.request.encode.toOption)) := by
  rw [h.encoded]
  refine List.map_congr_left ?_
  intro ns hns
  refine List.map_congr_left ?_
  intro n hn
  have hlt := h.below n (List.mem_flatten.mpr ⟨ns, hns, hn⟩)
  rw [List.getElem?_append_left hlt]

theorem lost (h : RequestStream inbox settings ts frames numbers) {t : Turn σ}
    (ht : t.Missing inbox settings) : RequestStream inbox settings (ts ++ [t]) frames numbers := by
  refine ⟨h.encoded_append t, h.ordered, ?_, ?_, ?_⟩
  · intro n hn
    have hlt := h.below n hn
    simp only [List.length_append, List.length_singleton]
    omega
  · intro ns hns m hm n hn j hmj hjn
    exact (h.answered ns hns m hm n hn j hmj hjn).append t
  · intro n u hu hn
    by_cases hlt : n < ts.length
    · rw [List.getElem?_append_left hlt] at hu
      exact h.missing n u hu hn
    · rw [List.getElem?_append_right (by omega)] at hu
      have he : t = u := by
        have hmem := List.mem_of_getElem? hu
        exact (List.mem_singleton.mp hmem).symm
      rwa [← he]

theorem arrived {front : List (List (List UInt8))} {last : List (List UInt8)} {firsts : List (List Nat)}
    {ns : List Nat} (h : RequestStream inbox settings ts (front ++ [last]) (firsts ++ [ns]))
    (hlast : ∀ n ∈ ns, ∀ j, n ≤ j → j < ts.length → AnsweredAt ts j) {t : Turn σ}
    {frame : List UInt8} (ht : t.request.encode = .ok frame) :
    RequestStream inbox settings (ts ++ [t]) (front ++ [last ++ [frame]])
      (firsts ++ [ns ++ [ts.length]]) := by
  have hflat : (firsts ++ [ns ++ [ts.length]]).flatten = (firsts ++ [ns]).flatten ++ [ts.length] := by
    simp
  have hself : (ts ++ [t])[ts.length]?.bind (·.request.encode.toOption) = some frame := by
    simp [ht, Except.toOption]
  refine ⟨?_, ?_, ?_, ?_, ?_⟩
  · have he := h.encoded_append t
    simp only [List.map_append, List.map_cons, List.map_nil] at he ⊢
    obtain ⟨hfront, hns⟩ := List.append_inj' he rfl
    have hn := List.singleton_inj.mp hns
    rw [hfront, hn, hself]
  · rw [hflat, List.pairwise_append]
    refine ⟨h.ordered, List.pairwise_singleton _ _, ?_⟩
    intro a ha b hb
    have hlt := h.below a ha
    have he := List.mem_singleton.mp hb
    omega
  · intro n hn
    rw [hflat, List.mem_append] at hn
    simp only [List.length_append, List.length_singleton]
    rcases hn with hn | hn
    · have hlt := h.below n hn
      omega
    · have he := List.mem_singleton.mp hn
      omega
  · intro ms hms m hm n hn j hmj hjn
    rcases List.mem_append.mp hms with hms | hms
    · have hin : ms ∈ firsts ++ [ns] := List.mem_append_left [ns] hms
      exact (h.answered ms hin m hm n hn j hmj hjn).append t
    · have he := List.mem_singleton.mp hms
      subst he
      have hin : ns ∈ firsts ++ [ns] := List.mem_append_right firsts (List.mem_singleton_self ns)
      have hbound : ∀ k ∈ ns ++ [ts.length], k ≤ ts.length := by
        intro k hk
        rcases List.mem_append.mp hk with hk | hk
        · have hlt := h.below k (List.mem_flatten.mpr ⟨ns, hin, hk⟩)
          omega
        · have he := List.mem_singleton.mp hk
          omega
      have hn' := hbound n hn
      -- The new number is the greatest, so it can only be the end of the attempts in question.
      rcases List.mem_append.mp hm with hm | hm
      · exact (hlast m hm j hmj (by omega)).append t
      · have he := List.mem_singleton.mp hm
        omega
  · intro n u hu hn
    rw [hflat, List.mem_append, not_or] at hn
    by_cases hlt : n < ts.length
    · rw [List.getElem?_append_left hlt] at hu
      exact h.missing n u hu hn.1
    · have hle := (List.getElem?_eq_some_iff.mp hu).1
      simp only [List.length_append, List.length_singleton] at hle
      have he : n = ts.length := by omega
      exact absurd (List.mem_singleton.mpr he) hn.2

theorem last_frames {firsts : List (List Nat)} {ns : List Nat}
    (h : RequestStream inbox settings ts frames (firsts ++ [ns])) :
    ∃ front last, frames = front ++ [last] := by
  have he := h.encoded
  rw [List.map_append] at he
  obtain ⟨front, others, hf, _, hothers⟩ := List.map_eq_append_iff.mp he
  obtain ⟨last, hl, _⟩ := List.map_eq_singleton_iff.mp hothers
  exact ⟨front, last, by rw [hf, hl]⟩

end RequestStream

/-- The requests received since there were those of `base`, and whether the connection goes on. -/
def Streamed {link : Link (StateM σ)} (inbox : Inbox link) (settings : SessionSettings)
    (base : List (List (List UInt8))) (ts : List (Turn σ)) (m : Moment σ) : Prop :=
  ∃ frames numbers, inbox.received m.world = base ++ frames ∧
    RequestStream inbox settings ts frames numbers ∧
    (m.session.buffer.isSome → LastAnswered ts numbers)

section Streamed

variable {link : Link (StateM σ)} {inbox : Inbox link} {settings : SessionSettings}
  {base : List (List (List UInt8))} {ts : List (Turn σ)} {m : Moment σ}

theorem Streamed.opened (h : Streamed inbox settings base ts m) (operation : Operation) :
    ∃ frames numbers, (m.attempt link settings operation).opened inbox = base ++ frames ∧
      RequestStream inbox settings ts frames numbers ∧ LastAnswered ts numbers := by
  obtain ⟨frames, numbers, hreceived, hstream, hlast⟩ := h
  have hopened : (m.attempt link settings operation).opened inbox =
      inbox.received m.world ++ if m.session.buffer.isSome then [] else [[]] := rfl
  rw [hopened]
  by_cases hb : m.session.buffer.isSome
  · refine ⟨frames, numbers, ?_, hstream, hlast hb⟩
    simp [hb, hreceived]
  · refine ⟨frames ++ [[]], numbers ++ [[]], ?_, hstream.connection, numbers, [], rfl, by simp⟩
    simp [hb, hreceived]

theorem Streamed.attempt (h : Streamed inbox settings base ts m) (operation : Operation) :
    Streamed inbox settings base (ts ++ [m.attempt link settings operation])
      (m.attempt link settings operation).after := by
  obtain ⟨frames₁, numbers₁, hopened, hstream₁, hlast₁⟩ := h.opened operation
  obtain ⟨frames, numbers, hreceived, hstream, _⟩ := h
  have hkept := (Moment.attempt_step link settings operation m).2.1.kept_iff
  have hcome : (m.attempt link settings operation).Received inbox settings :=
    turn_received inbox settings _ _
  have hbefore : inbox.received (m.attempt link settings operation).before.world =
      inbox.received m.world := rfl
  generalize m.attempt link settings operation = t at *
  -- A request comes in on the last connection, where all attempts so far have answers. A missing one leaves
  -- the frames as they are, with or without the connection that the attempt was to open.
  cases hcome with
  | arrived encoded added =>
    obtain ⟨firsts, ns, hn, hns⟩ := hlast₁
    subst hn
    obtain ⟨front, last, hf⟩ := hstream₁.last_frames
    subst hf
    refine ⟨_, _, ?_, hstream₁.arrived hns encoded, ?_⟩
    · rw [added, hopened, ← List.append_assoc, Gateway.logFrame_concat, List.append_assoc]
    · intro hb
      obtain ⟨r, hr⟩ := hkept.mp hb
      refine ⟨firsts, ns ++ [ts.length], rfl, ?_⟩
      intro n hn j hnj hj
      rw [List.length_append, List.length_singleton] at hj
      by_cases hlt : j < ts.length
      · rcases List.mem_append.mp hn with hn | hn
        · exact (hns n hn j hnj hlt).append t
        · have he := List.mem_singleton.mp hn
          omega
      · have hj' : j = ts.length := by omega
        subst hj'
        exact ⟨t, r, by simp, hr⟩
  | missing reason same =>
    rcases same with hsame | ⟨⟨cause, hcause⟩, hsame⟩
    · refine ⟨frames₁, numbers₁, hsame.trans hopened, hstream₁.lost reason, ?_⟩
      intro hb
      obtain ⟨r, hr⟩ := hkept.mp hb
      exact hlast₁.append hr
    · refine ⟨frames, numbers, ?_, hstream.lost reason, ?_⟩
      · rw [hsame, hbefore, hreceived]
      · intro hb
        obtain ⟨r, hr⟩ := hkept.mp hb
        simp [hcause] at hr

theorem Streamed.resumed (h : Streamed inbox settings base ts m)
    (reply : Except TransportError Response) :
    Streamed inbox settings base ts (m.resumed link settings reply) := by
  obtain ⟨frames, numbers, hreceived, hstream, hlast⟩ := h
  refine ⟨frames, numbers, (inbox.pause_received settings m reply).trans hreceived, hstream, ?_⟩
  rw [Moment.resumed_eq]
  exact hlast

end Streamed

end MeterPolling
