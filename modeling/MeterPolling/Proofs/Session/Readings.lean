import MeterPolling.Proofs.Modbus.Delimited
import MeterPolling.Proofs.Session.Retries
import MeterPolling.Proofs.Session.Soundness

namespace MeterPolling

open Modbus

variable {σ : Type} {link : Link (StateM σ)} {settings : SessionSettings} {m : Moment σ} {register count : UInt16}
  {words : List UInt16}

/-- The bytes in which an attempt looks for its answer. -/
def Turn.inbox (t : Turn σ) : List UInt8 := t.before.session.buffer.getD [] ++ t.bytes

theorem Moment.read_answered
    (h : ((((Session.client link settings).read register count).run m.session).run m.world).1.1 = .ok words) :
    ∃ n ≤ settings.retries,
      let t := m.tryAt link settings (.readRegisters register count) n
      ∃ r, firstAnswer t.request.transaction t.inbox = some r ∧ r.kind = .values words ∧
        words.length = count.toNat := by
  obtain ⟨last, hleast, hretrying⟩ := m.retrying_eq link settings (.readRegisters register count) settings.retries
  have hanswer := m.answer_erased link settings (.read register count)
  rw [m.answer_eq link settings (.read register count)] at hanswer
  have hoperation : (Call.read register count).operation = .readRegisters register count := rfl
  rw [hoperation, hretrying] at hanswer
  have hresult := congrArg (fun run => run.1.1) hanswer
  have hread : CallResult.read ((m.tryAt link settings (.readRegisters register count) last).reply.bind
      (Session.reading count)) = .read (.ok words) := by
    rw [← h]
    exact hresult.symm
  obtain ⟨r, hreply, hreading⟩ := bind_eq_ok_iff.mp (CallResult.read.inj hread)
  have hdecided := (m.tryAt_step link settings (.readRegisters register count) last).decided
  exact ⟨last, hleast.2 (.inl rfl), r, (hdecided.reply_eq_ok_iff.mp hreply).2, reading_eq_ok_iff.mp hreading⟩

theorem Modbus.Delimited.frame_of_firstAnswer {transaction : UInt16} {bs dropped left : List UInt8}
    {bursts : List Burst} {r : Response} (hd : Delimited bs bursts dropped left)
    (h : firstAnswer transaction bs = some r) :
    ∃ b ∈ bursts, b.frame.transaction = transaction ∧ b.response = r := by
  have hmem := List.mem_of_find?_eq_some h
  have hnumber := List.find?_some h
  rw [hd.responses] at hmem
  obtain ⟨b, hb, hr⟩ := List.mem_map.mp hmem
  refine ⟨b, hb, ?_, hr⟩
  subst hr
  exact of_decide_eq_true hnumber

/--
Any bytes are cut into frames, with a response for each. A response has words just if its frame has the function code
of a read, a byte count and the bytes of these words; that the byte count is right is not asked, and it is heeded
just where it is right or the data are no pairs. When a read returns words, then these are the data of a frame in the
bytes that one of its attempts looks into, which has the number of that attempt and two bytes of data for each
register; its byte count says so too if it is heeded.
-/
theorem readings_delimited (link : Link (StateM σ)) (settings : SessionSettings) (m : Moment σ)
    (register count : UInt16) :
    (∀ bs, ∃ bursts dropped left, Delimited bs bursts dropped left) ∧
    (∀ (f : Frame) (words : List UInt16), (Response.ofFrame f).kind = .values words ↔
      f.function = 3 ∧ ∃ counted, f.data = counted :: bytesOfWords words) ∧
    (∀ f : Frame, f.Heeded ↔ ¬ f.Miscounted) ∧
    ∀ words, ((((Session.client link settings).read register count).run m.session).run m.world).1.1 = .ok words →
      words.length = count.toNat ∧ ∃ n ≤ settings.retries,
        let t := m.tryAt link settings (.readRegisters register count) n
        ∃ bursts dropped left, Delimited t.inbox bursts dropped left ∧
          ∃ b ∈ bursts, b.frame.transaction = t.request.transaction ∧ b.frame.function = 3 ∧
            ∃ counted, b.frame.data = counted :: bytesOfWords words ∧
              (b.frame.Heeded ↔ counted.toNat = 2 * count.toNat) := by
  refine ⟨responses_delimited, fun f words => values_iff, fun f => heeded_iff, ?_⟩
  intro words hread
  obtain ⟨n, hn, r, hfirst, hkind, hcount⟩ := Moment.read_answered hread
  obtain ⟨bursts, dropped, left, hdelimited⟩ :=
    responses_delimited (m.tryAt link settings (.readRegisters register count) n).inbox
  obtain ⟨b, hb, htransaction, hresponse⟩ := hdelimited.frame_of_firstAnswer hfirst
  rw [← hresponse] at hkind
  obtain ⟨hfunction, counted, hdata⟩ := values_iff.mp hkind
  refine ⟨hcount, n, hn, bursts, dropped, left, hdelimited, b, hb, htransaction, hfunction, counted, hdata, ?_⟩
  have hlength := length_bytesOfWords words
  constructor
  · intro hheeded
    obtain ⟨_, counted', data, hdata', hsize, _⟩ := hheeded.counted words hkind
    obtain ⟨hcounted, hrest⟩ := List.cons.inj (hdata.symm.trans hdata')
    rw [hcounted, ← hsize, ← hrest, hlength, hcount]
  · intro hcounted
    rw [heeded_iff]
    rintro ⟨_, counted', data, hdata', _, hwrong⟩
    obtain ⟨hsame, hrest⟩ := List.cons.inj (hdata.symm.trans hdata')
    apply hwrong
    rw [← hsame, ← hrest, hlength, hcounted, hcount]

end MeterPolling
