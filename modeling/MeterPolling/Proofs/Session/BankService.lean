import MeterPolling.Gateway
import MeterPolling.Proofs.Modbus.Codec
import MeterPolling.Proofs.Session.Exchange

namespace MeterPolling

open Modbus

variable {σ : Type}

structure GatewayView (σ : Type) where
  Ready : σ → Prop
  bank : σ → Bank
  /-- The bytes on their way back on the connection; absent while there is none. -/
  coming : σ → Option (List UInt8)
  clock : σ → TimeSpan

structure GatewayView.Later (view : GatewayView σ) (w w' : σ) (bank : Bank)
    (coming : Option (List UInt8)) : Prop where
  ready : view.Ready w'
  clock : (view.clock w).nanoseconds ≤ (view.clock w').nanoseconds
  bank : view.bank w' = bank
  coming : view.coming w' = coming

theorem GatewayView.Later.trans {view : GatewayView σ} {w w₁ w₂ : σ} {b c : Bank}
    {coming on : Option (List UInt8)} (h : view.Later w w₁ b coming)
    (h' : view.Later w₁ w₂ c on) : view.Later w w₂ c on :=
  ⟨h'.ready, Nat.le_trans h.clock h'.clock, h'.bank, h'.coming⟩

/--
A link to such a gateway. A request that is sent is carried out on the bank, and the response to it follows
the bytes that are on their way. They may come in pieces, but enough of them do come.
-/
structure BankService (settings : SessionSettings) (link : Link (StateM σ)) extends GatewayView σ where
  connects : ∀ w, Ready w → coming w = none →
    ∃ w', (link.connect (addressOf settings.host)).run w = (.ok (), w') ∧
      toGatewayView.Later w w' (bank w) (some [])
  answers : ∀ w bytes frame request, Ready w → coming w = some bytes →
    Request.decode? frame = some (request, []) →
    ∃ w', (link.send frame).run w = (.ok (), w') ∧
      toGatewayView.Later w w' (Gateway.answer (bank w) request).1
        (some (bytes ++ (Gateway.answer (bank w) request).2.bytes))
  delivers : ∀ w bytes (enough : List UInt8 → Bool), Ready w → coming w = some bytes → enough bytes →
    ∃ d left w', (link.receive enough).run w = (d, w') ∧ bytes = d.bytes ++ left ∧ enough d.bytes ∧
      toGatewayView.Later w w' (bank w) (some left)
  tells : ∀ w, Ready w → ∃ now w', link.now.run w = (now, w') ∧
    now.nanoseconds ≤ (clock w').nanoseconds ∧ toGatewayView.Later w w' (bank w) (coming w)
  waits : ∀ w t, Ready w → t.nanoseconds ≤ (clock w).nanoseconds + settings.sendDelay.nanoseconds →
    ∃ w', (link.sleepUntil t).run w = ((), w') ∧ toGatewayView.Later w w' (bank w) (coming w)

theorem answer_transaction (b : Bank) (r : Request) :
    (Gateway.answer b r).2.transaction = r.transaction := by
  unfold Gateway.answer
  cases r.operation with
  | readRegisters => rfl
  | writeRegisters => rfl

theorem answer_fits (b : Bank) {r : Request}
    (hr : ∀ address count, r.operation = .readRegisters address count →
      count.toNat ≤ maxRegisters) : (Gateway.answer b r).2.fits := by
  rw [Frame.fits_iff]
  cases ho : r.operation with
  | readRegisters address count =>
    have hcount := hr address count ho
    simp only [Gateway.answer, ho, List.length_cons, length_bytesOfWords, Bank.length_read,
      maxRegisters] at hcount ⊢
    omega
  | writeRegisters address values => simp [Gateway.answer, ho, bytesOfWord]

theorem answer_read (b : Bank) {r : Request} {address count : UInt16}
    (hr : r.operation = .readRegisters address count) :
    (Gateway.answer b r).1 = b ∧ (Response.ofFrame (Gateway.answer b r).2).kind =
      .values (b.read address count.toNat) := by
  simp only [Gateway.answer, hr, Response.ofFrame, classify_values, and_self]

theorem answer_write (b : Bank) {r : Request} {address : UInt16} {values : List UInt16}
    (hr : r.operation = .writeRegisters address values) :
    (Gateway.answer b r).1 = b.write address values ∧
      (Response.ofFrame (Gateway.answer b r).2).kind =
        .written address (UInt16.ofNat values.length) := by
  simp only [Gateway.answer, hr, Response.ofFrame, classify_written, and_self]

theorem retry_answer (b : Bank) (r : Request) :
    Session.Retry.of (.ok (.ofFrame (Gateway.answer b r).2)) = .no := by
  cases ho : r.operation with
  | readRegisters address count =>
    simp [Session.Retry.of, Response.isBusy, Response.exceptionCode?, (answer_read b ho).2]
  | writeRegisters address values =>
    simp [Session.Retry.of, Response.isBusy, Response.exceptionCode?, (answer_write b ho).2]

theorem findResponse_bytes {f : Frame} (hf : f.fits) :
    findResponse f.transaction f.bytes = (some (.ofFrame f), []) := by
  have hn := nextResponse_bytes hf []
  rw [List.append_nil] at hn
  exact findResponse_eq_some_iff.mpr (.here hn rfl)

/-- Nothing less than the whole frame holds its response. -/
theorem findResponse_piece {f : Frame} (hf : f.fits) {bs left : List UInt8}
    (he : f.bytes = bs ++ left) (hs : (findResponse f.transaction bs).1.isSome) :
    findResponse f.transaction bs = (some (.ofFrame f), []) ∧ left = [] := by
  obtain ⟨r, hr⟩ := Option.isSome_iff_exists.mp hs
  have hpiece : findResponse f.transaction bs = (some r, (findResponse f.transaction bs).2) := by
    rw [← hr]
  have hlong := (findResponse_eq_some_iff.mp hpiece).append left
  rw [← he] at hlong
  obtain ⟨hsame, hleft⟩ := (findResponse_eq_some_iff.mp (findResponse_bytes hf)).unique hlong
  obtain ⟨hbehind, hrest⟩ := List.append_eq_nil_iff.mp hleft.symm
  rw [hpiece, ← hsame, hbehind]
  exact ⟨rfl, hrest⟩

namespace BankService

variable {settings : SessionSettings} {link : Link (StateM σ)} (service : BankService settings link)

/-- A session that talks to the gateway and has no request out. -/
structure Idle (s : Session) (w : σ) : Prop where
  ready : service.Ready w
  nothing_left : (s.buffer = none ∧ service.coming w = none) ∨
    (s.buffer = some [] ∧ service.coming w = some [])
  lastSend : ∀ last, s.lastSend = some last → last.nanoseconds ≤ (service.clock w).nanoseconds

variable {service} {s : Session} {w : σ}

theorem Idle.later (h : service.Idle s w) {w' : σ}
    (hw : service.Later w w' (service.bank w) (service.coming w)) : service.Idle s w' := by
  refine ⟨hw.ready, ?_, fun last hl => Nat.le_trans (h.lastSend last hl) hw.clock⟩
  rw [hw.coming]
  exact h.nothing_left

theorem open_run (h : service.Idle s w) (log : List LinkEvent) :
    ∃ w', ((openBuffer link.logged settings s).run log).run w =
        ((.ok [], log ++ opening settings s.buffer), w') ∧
      service.Later w w' (service.bank w) (some []) := by
  rcases h.nothing_left with ⟨hb, hc⟩ | ⟨hb, hc⟩
  · obtain ⟨w', hrun, hw⟩ := service.connects w h.ready hc
    refine ⟨w', ?_, hw⟩
    simp [openBuffer, opening, hb, hrun]
  · refine ⟨w, ?_, h.ready, Nat.le_refl _, rfl, hc⟩
    simp [openBuffer, opening, hb]

theorem turn_run (hw : service.Ready w)
    (hl : ∀ last, s.lastSend = some last → last.nanoseconds ≤ (service.clock w).nanoseconds)
    (log : List LinkEvent) :
    ∃ now w', ((waitTurn link.logged settings s).run log).run w = ((now, log), w') ∧
      now.nanoseconds ≤ (service.clock w').nanoseconds ∧
      service.Later w w' (service.bank w) (service.coming w) := by
  cases hs : s.lastSend with
  | none =>
    obtain ⟨now, w', hrun, hnow, hlater⟩ := service.tells w hw
    refine ⟨now, w', ?_, hnow, hlater⟩
    simp [waitTurn, hs, hrun]
  | some last =>
    have hle := hl last hs
    obtain ⟨w₁, hwait, h₁⟩ := service.waits w
      ⟨last.nanoseconds + settings.sendDelay.nanoseconds⟩ hw (by simp only; omega)
    obtain ⟨now, w', hrun, hnow, hlater⟩ := service.tells w₁ h₁.ready
    rw [h₁.bank, h₁.coming] at hlater
    refine ⟨now, w', ?_, hnow, h₁.trans hlater⟩
    simp [waitTurn, hs, hwait, hrun]

theorem roundTrip_run (hw : service.Ready w) (hc : service.coming w = some []) {r : Request}
    (hr : ¬ r.operation.tooLong) (hf : (Gateway.answer (service.bank w) r).2.fits)
    (log : List LinkEvent) :
    ∃ d w', ((roundTrip link.logged settings r []).run log).run w =
        ((.ok (.ofFrame (Gateway.answer (service.bank w) r).2, []),
          log ++ [.sent r.frame.bytes (.ok ()), .received d]), w') ∧
      service.Later w w' (Gateway.answer (service.bank w) r).1 (some []) := by
  have hdecode := Request.decode?_bytes hr []
  rw [List.append_nil] at hdecode
  obtain ⟨w₁, hsend, h₁⟩ := service.answers w [] r.frame.bytes r hw hc hdecode
  have hfind := findResponse_bytes hf
  have hpiece := @findResponse_piece _ hf
  rw [answer_transaction] at hfind hpiece
  obtain ⟨d, left, w', hreceive, he, henough, h'⟩ := service.delivers w₁ _
    (fun bytes => (findResponse r.transaction ([] ++ bytes)).1.isSome) h₁.ready h₁.coming
    (by simp [hfind])
  obtain ⟨hfound, hleft⟩ := hpiece he henough
  subst hleft
  rw [h₁.bank] at h'
  refine ⟨d, w', ?_, h₁.trans h'⟩
  have hnone : findResponse r.transaction [] = (none, []) := rfl
  simp only [List.nil_append] at hreceive
  simp [roundTrip, awaitResponse, Request.encode_of_short hr, hsend, hnone, hreceive, hfound]

theorem exchange_run (h : service.Idle s w) {r : Request} (hr : ¬ r.operation.tooLong)
    (hf : (Gateway.answer (service.bank w) r).2.fits) (log : List LinkEvent) :
    ∃ d s' w', ((exchange link.logged settings r s).run log).run w =
        (((.ok (.ofFrame (Gateway.answer (service.bank w) r).2), s'),
          log ++ opening settings s.buffer ++ [.sent r.frame.bytes (.ok ()), .received d]), w') ∧
      service.Idle s' w' ∧ s'.buffer = some [] ∧
      service.bank w' = (Gateway.answer (service.bank w) r).1 := by
  obtain ⟨w₁, hopen, h₁⟩ := open_run h log
  have hlast : ∀ last, s.lastSend = some last →
      last.nanoseconds ≤ (service.clock w₁).nanoseconds :=
    fun last hl => Nat.le_trans (h.lastSend last hl) h₁.clock
  obtain ⟨now, w₂, hturn, hnow, h₂⟩ := turn_run h₁.ready hlast (log ++ opening settings s.buffer)
  rw [h₁.bank, h₁.coming] at h₂
  rw [← h₂.bank] at hf
  obtain ⟨d, w', htrip, h'⟩ := roundTrip_run h₂.ready h₂.coming hr hf
    (log ++ opening settings s.buffer)
  rw [h₂.bank] at htrip h'
  refine ⟨d, { s with buffer := some [], lastSend := some now }, w', ?_, ?_, rfl, h'.bank⟩
  · simp [exchange_eq, concluded, hopen, hturn, htrip]
  · refine ⟨h'.ready, .inr ⟨rfl, h'.coming⟩, ?_⟩
    intro last hl
    cases Option.some.inj hl
    exact Nat.le_trans hnow h'.clock

end BankService

end MeterPolling
