import MeterPolling.Proofs.Cycle.Simulation
import MeterPolling.Proofs.Session.GatewayService

namespace MeterPolling

open Modbus

/-- The same client, keeping what there is to be seen after each call, the first sight first. -/
def Client.watched {m : Type → Type} [Monad m] {α : Type} (client : Client m) (look : m α) :
    Client (StateT (List α) m) where
  read register count := do
    let reply ← client.read register count
    let sight ← look
    modify (· ++ [sight])
    return reply
  write register values := do
    let reply ← client.write register values
    let sight ← look
    modify (· ++ [sight])
    return reply

section Watched

variable {σ : Type} (client : Client (StateT Session (StateT (List LinkEvent) (StateM σ))))
  (seen : List Session) (s : Session) (log : List LinkEvent) (w : σ)

@[simp] theorem Client.run_read_watched (register count : UInt16) :
    (((((client.watched get).read register count).run seen).run s).run log).run w =
      let run := (((client.read register count).run s).run log).run w
      ((((run.1.1.1, seen ++ [run.1.1.2]), run.1.1.2), run.1.2), run.2) := rfl

@[simp] theorem Client.run_write_watched (register : UInt16) (values : List UInt16) :
    (((((client.watched get).write register values).run seen).run s).run log).run w =
      let run := (((client.write register values).run s).run log).run w
      ((((run.1.1.1, seen ++ [run.1.1.2]), run.1.1.2), run.1.2), run.2) := rfl

end Watched

@[simp] theorem Bank.run_read (b : Bank) (register count : UInt16) :
    (Bank.client.read register count).run b = (.ok (b.read register count.toNat), b) := rfl

@[simp] theorem Bank.run_write (b : Bank) (register : UInt16) (values : List UInt16) :
    (Bank.client.write register values).run b = (.ok (), b.write register values) := rfl

def Executor.withToken {m : Type → Type} [Monad m] {τ : Type} (registry : Registry)
    (token : τ → Bool × τ) (now : m TimeSpan) : Executor (StateT τ m) where
  registry
  stopped := fun t => pure (token t)
  now := StateT.lift now

section Runs

variable {τ : Type} (registry : Registry) (plan : Plan) (cycles : Nat) (token : τ → Bool × τ)

def sessionRuns {σ : Type} (link : Link (StateM σ)) (settings : SessionSettings) (t : τ) (w : σ) :
    ((((List CycleResult × τ) × List Session) × Session) × List LinkEvent) × σ :=
  let now := StateT.lift (StateT.lift (StateT.lift link.now))
  let client := ((Session.client link.logged settings).watched get).lift
  ((((((Executor.withToken registry token now).repeatedly plan client cycles).run t).run []).run
    {}).run []).run w

def bankRuns (t : τ) (b : Bank) : (List CycleResult × τ) × Bank :=
  (((Executor.withToken registry token (pure .zero)).repeatedly plan Bank.client.lift cycles).run
    t).run b

end Runs

def dialogue (settings : SessionSettings) : List (List UInt8 × Delivery) → List LinkEvent
  | [] => []
  | exchanges => .connected (addressOf settings.host) (.ok ()) ::
      exchanges.flatMap fun (frame, d) => [.sent frame (.ok ()), .received d]

variable {σ : Type}

namespace BankService

variable {settings : SessionSettings} {link : Link (StateM σ)} {service : BankService settings link}
  {s : Session} {w : σ}

/-- The first attempt is answered, and a bank is never busy. -/
theorem sendRetrying_run (h : service.Idle s w) (operation : Operation)
    (hr : ¬ operation.tooLong)
    (hcount : ∀ address count, operation = .readRegisters address count →
      count.toNat ≤ maxRegisters) (log : List LinkEvent) :
    ∃ (r : Request) (d : Delivery) (s' : Session) (w' : σ), r.operation = operation ∧
      (((Session.sendRetrying link.logged settings operation).run s).run log).run w =
        (((.ok (.ofFrame (Gateway.answer (service.bank w) r).2), s'),
          log ++ opening settings s.buffer ++ [.sent r.frame.bytes (.ok ()), .received d]), w') ∧
      service.Idle s' w' ∧ s'.buffer = some [] ∧
      service.bank w' = (Gateway.answer (service.bank w) r).1 := by
  have hnext : service.Idle s.takeTransaction.2 w := ⟨h.ready, h.nothing_left, h.lastSend⟩
  let r : Request := ⟨settings.unit, s.nextTransaction, operation⟩
  obtain ⟨d, s', w', hrun, hidle, hbuffer, hbank⟩ :=
    exchange_run hnext (r := r) hr (answer_fits _ hcount) log
  refine ⟨r, d, s', w', rfl, ?_, hidle, hbuffer, hbank⟩
  have hsend : (((Session.send link.logged settings operation).run s).run log).run w = _ := hrun
  have hno := retry_answer (service.bank w) r
  unfold Session.sendRetrying
  cases settings.retries with
  | zero => exact hsend
  | succ retries => simp [Session.retrying, hsend, hno, Session.takeTransaction]

theorem read_run (h : service.Idle s w) (register : UInt16) {count : UInt16}
    (hcount : count.toNat ≤ maxRegisters) (log : List LinkEvent) :
    ∃ frame d s' w',
      ((((Session.client link.logged settings).read register count).run s).run log).run w =
        (((.ok ((service.bank w).read register count.toNat), s'),
          log ++ opening settings s.buffer ++ [.sent frame (.ok ()), .received d]), w') ∧
      service.Idle s' w' ∧ s'.buffer = some [] ∧ service.bank w' = service.bank w := by
  obtain ⟨r, d, s', w', hr, hrun, hidle, hbuffer, hbank⟩ :=
    sendRetrying_run h (.readRegisters register count) (by simp [Operation.tooLong])
      (by
        rintro _ _ ⟨⟩
        exact hcount) log
  obtain ⟨hsame, hkind⟩ := answer_read (service.bank w) hr
  refine ⟨r.frame.bytes, d, s', w', ?_, hidle, hbuffer, hbank.trans hsame⟩
  simp [Session.client, hrun, Except.bind, Session.reading, hkind]

theorem write_run (h : service.Idle s w) (register : UInt16) {values : List UInt16}
    (hlength : values.length ≤ maxRegisters) (log : List LinkEvent) :
    ∃ frame d s' w',
      ((((Session.client link.logged settings).write register values).run s).run log).run w =
        (((.ok (), s'),
          log ++ opening settings s.buffer ++ [.sent frame (.ok ()), .received d]), w') ∧
      service.Idle s' w' ∧ s'.buffer = some [] ∧
      service.bank w' = (service.bank w).write register values := by
  have hshort : values.length ≤ 123 := hlength
  have hcount : (UInt16.ofNat values.length).toNat = values.length := by
    rw [UInt16.toNat_ofNat']
    omega
  obtain ⟨r, d, s', w', hr, hrun, hidle, hbuffer, hbank⟩ :=
    sendRetrying_run h (.writeRegisters register values)
      (by
        rw [Operation.tooLong_write_iff]
        omega)
      (by simp) log
  obtain ⟨hstored, hkind⟩ := answer_write (service.bank w) hr
  refine ⟨r.frame.bytes, d, s', w', ?_, hidle, hbuffer, hbank.trans hstored⟩
  simp [Session.client, hrun, Except.bind, Session.acknowledgement, hkind, hcount]

/--
What holds between two requests: everything has happened on one connection, and whenever the session was looked
at after a request, no bytes were left over.
-/
structure Linked (service : BankService settings link) (s : Session) (seen : List Session)
    (log : List LinkEvent) (w : σ) : Prop where
  idle : service.Idle s w
  one_connection : ∃ exchanges, log = dialogue settings exchanges ∧
    exchanges.length = seen.length ∧ (s.buffer = none ↔ exchanges = [])
  nothing_seen : ∀ t ∈ seen, t.buffer = some []

theorem Linked.next {seen : List Session} {log : List LinkEvent} (h : service.Linked s seen log w)
    {s' : Session} {w' : σ} (idle : service.Idle s' w') (buffer : s'.buffer = some [])
    (frame : List UInt8) (d : Delivery) :
    service.Linked s' (seen ++ [s'])
      (log ++ opening settings s.buffer ++ [.sent frame (.ok ()), .received d]) w' := by
  obtain ⟨exchanges, hlog, hlength, hfirst⟩ := h.one_connection
  refine ⟨idle, ⟨exchanges ++ [(frame, d)], ?_, by simp [hlength], by simp [buffer]⟩, ?_⟩
  · cases hb : s.buffer with
    | none =>
      have he := hfirst.mp hb
      subst he
      simp [hlog, dialogue, opening]
    | some left =>
      have hne : exchanges ≠ [] := by
        intro he
        simp [hfirst.mpr he] at hb
      obtain ⟨e, more, he⟩ := List.exists_cons_of_ne_nil hne
      subst he
      simp [hlog, dialogue, opening]
  · intro t ht
    rcases List.mem_append.mp ht with ht | ht
    · exact h.nothing_seen t ht
    · rw [List.mem_singleton.mp ht]
      exact buffer

def simulation (service : BankService settings link) (τ : Type) :
    Simulation (StateT τ (StateT (List Session) (StateT Session (StateT (List LinkEvent) (StateM σ)))))
      (StateT τ (StateM Bank)) where
  Holds R x y := ∀ t s seen log w, service.Linked s seen log w →
    ∃ a b t' s' seen' log' w',
      ((((x.run t).run seen).run s).run log).run w = (((((a, t'), seen'), s'), log'), w') ∧
      (y.run t).run (service.bank w) = ((b, t'), service.bank w') ∧
      R a b ∧ service.Linked s' seen' log' w'
  pure_holds hab := fun t s seen log w h => ⟨_, _, t, s, seen, log, w, rfl, rfl, hab, h⟩
  bind_holds hx hf := by
    intro t s seen log w h
    obtain ⟨a, b, t₁, s₁, seen₁, log₁, w₁, hrun, hdirect, hab, h₁⟩ := hx t s seen log w h
    obtain ⟨c, d, t', s', seen', log', w', hrun', hdirect', hcd, h'⟩ :=
      hf a b hab t₁ s₁ seen₁ log₁ w₁ h₁
    refine ⟨c, d, t', s', seen', log', w', ?_, ?_, hcd, h'⟩
    · simp [hrun, hrun']
    · simp [hdirect, hdirect']

theorem simulation_clients (service : BankService settings link) (τ : Type) :
    (service.simulation τ).Clients ((Session.client link.logged settings).watched get).lift
      Bank.client.lift where
  read register count hcount := by
    intro t s seen log w h
    obtain ⟨frame, d, s', w', hrun, hidle, hbuffer, hbank⟩ := read_run h.idle register hcount log
    refine ⟨.ok ((service.bank w).read register count.toNat),
      .ok ((service.bank w).read register count.toNat), t, s', _, _, w', ?_, ?_, rfl,
      h.next hidle hbuffer frame d⟩
    · simp [Client.lift, hrun]
    · simp [Client.lift, hbank]
  write register values hlength := by
    intro t s seen log w h
    obtain ⟨frame, d, s', w', hrun, hidle, hbuffer, hbank⟩ := write_run h.idle register hlength log
    refine ⟨.ok (), .ok (), t, s', _, _, w', ?_, ?_, rfl, h.next hidle hbuffer frame d⟩
    · simp [Client.lift, hrun]
    · simp [Client.lift, hbank]

theorem simulation_executors (service : BankService settings link) {τ : Type} (registry : Registry)
    (token : τ → Bool × τ) :
    (service.simulation τ).Executors
      (.withToken registry token (StateT.lift (StateT.lift (StateT.lift link.now))))
      (.withToken registry token (pure .zero)) where
  stopped := by
    intro t s seen log w h
    exact ⟨(token t).1, (token t).1, (token t).2, s, seen, log, w, rfl, rfl, rfl, h⟩
  now := by
    intro t s seen log w h
    obtain ⟨now, w', hrun, _, hlater⟩ := service.tells w h.idle.ready
    refine ⟨now, .zero, t, s, seen, log, w', ?_, ?_, trivial, h.idle.later hlater,
      h.one_connection, h.nothing_seen⟩
    · simp [Executor.withToken, hrun]
    · simp [Executor.withToken, hlater.bank]

end BankService

/--
A working gateway is as good as its bank. However often a plan is run with a new session, and whenever the
token tells to stop, the results are those of running it with the bank itself, but for the time taken, and so
is the bank in the end. Everything happens on one connection, and after each request no bytes are left over.
-/
theorem session_refines_bank {τ : Type} {settings : SessionSettings} {link : Link (StateM σ)}
    (service : BankService settings link) {w : σ} (ready : service.Ready w)
    (unconnected : service.coming w = none) (registry : Registry) (plan : Plan) (cycles : Nat)
    (token : τ → Bool × τ) (t : τ) :
    ∃ results expected t' seen s exchanges w',
      sessionRuns registry plan cycles token link settings t w =
        (((((results, t'), seen), s), dialogue settings exchanges), w') ∧
      bankRuns registry plan cycles token t (service.bank w) =
        ((expected, t'), service.bank w') ∧
      results.map untimed = expected.map untimed ∧
      exchanges.length = seen.length ∧ ∀ s ∈ seen, s.buffer = some [] := by
  have hstart : service.Linked {} [] [] w :=
    ⟨⟨ready, .inl ⟨rfl, unconnected⟩, by simp⟩, ⟨[], rfl, rfl, by simp⟩, by simp⟩
  obtain ⟨results, expected, t', s', seen, log, w', hrun, hdirect, hsame, hlinked⟩ :=
    Simulation.repeatedly (service.simulation_clients τ)
      (service.simulation_executors registry token) plan cycles t {} [] [] w hstart
  obtain ⟨exchanges, hlog, hlength, _⟩ := hlinked.one_connection
  subst hlog
  exact ⟨results, expected, t', seen, s', exchanges, w', hrun, hdirect, hsame, hlength,
    hlinked.nothing_seen⟩

/-- A gateway on the local host, with a plan that writes, without a pause between requests and with one. -/
theorem session_refines_bank_localhost :
    let prompt : SessionSettings := { host := "127.0.0.1" }
    let patient : SessionSettings := { host := "127.0.0.1", sendDelay := .ofMilliseconds 25 }
    let g : Gateway := ⟨{}, some "127.0.0.1:502", {}, {}, none, [], .zero, false⟩
    let refines (link : Link (StateM Gateway)) (settings : SessionSettings) : Prop :=
      ∃ results expected t' seen s exchanges g',
        sessionRuns .builtin .schneider 2 (fun u : Unit => (false, u)) link settings
          () g = (((((results, t'), seen), s), dialogue settings exchanges), g') ∧
        bankRuns .builtin .schneider 2 (fun u : Unit => (false, u)) () {} = ((expected, t'), g'.bank) ∧
        results.map untimed = expected.map untimed ∧
        exchanges.length = seen.length ∧ ∀ s ∈ seen, s.buffer = some []
    g.Working prompt ∧ refines (Gateway.link prompt) prompt ∧
      g.Serving patient ∧ refines (Gateway.endlessLink patient) patient := by
  intro prompt patient g refines
  have hparse : Endpoint.parse "127.0.0.1:502" = .ok ⟨.ip (.v4 127 0 0 1), 502⟩ := rfl
  have hserving : ∀ settings : SessionSettings, addressOf settings.host = "127.0.0.1:502" → g.Serving settings := by
    intro settings haddress
    refine ⟨?_, rfl, by simp [g], rfl⟩
    intro h hn ha
    simp [Gateway.connect, haddress, hparse, hn, ha, g]
  have hworking : g.Working prompt := ⟨hserving prompt (by decide), by decide⟩
  have hpatient : g.Serving patient := hserving patient (by decide)
  exact ⟨hworking,
    session_refines_bank (Gateway.service prompt rfl) hworking rfl .builtin .schneider 2 (fun u : Unit => (false, u)) (),
    hpatient,
    session_refines_bank (Gateway.endlessService patient) hpatient rfl .builtin .schneider 2
      (fun u : Unit => (false, u)) ()⟩

end MeterPolling
