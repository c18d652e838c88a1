import MeterPolling.Gateway
import MeterPolling.Session.Queue
import MeterPolling.Proofs.Session.Unused
import MeterPolling.Proofs.Session.Simulation

namespace MeterPolling

open Modbus

section Exchange

variable {σ : Type} {link : Link (StateM σ)} {settings : SessionSettings}

theorem FirstResponse.same {transaction : UInt16} {bs left : List UInt8} {r : Response}
    (h : FirstResponse transaction bs r left) : r.transaction = transaction := by
  induction h with
  | here _ same => exact same
  | later _ _ _ ih => exact ih

theorem exchange_renumbered {request : Request} {s s' : Session} {w w' : σ}
    {result : Except TransportError Response}
    (h : (exchange link settings request s).run w = ((result, s'), w')) (n : UInt16) :
    (exchange link settings request { s with nextTransaction := n }).run w =
      ((result, { s' with nextTransaction := n }), w') := by
  have hopen : openBuffer link settings { s with nextTransaction := n } = openBuffer link settings s := rfl
  have hturn : waitTurn link settings { s with nextTransaction := n } = waitTurn link settings s := rfl
  rw [exchange_eq] at h
  rw [exchange_eq, hopen, hturn]
  rcases hopened : (openBuffer link settings s).run w with ⟨opened, w₁⟩
  cases opened with
  | error e =>
    simp only [StateT.run_bind, hopened, id_bind] at h ⊢
    cases h
    rfl
  | ok buffer =>
    rcases hnow : (waitTurn link settings s).run w₁ with ⟨now, w₂⟩
    rcases htrip : (roundTrip link settings request buffer).run w₂ with ⟨reply, w₃⟩
    simp only [StateT.run_bind, hopened, hnow, htrip, id_bind] at h ⊢
    cases reply with
    | error e =>
      cases h
      rfl
    | ok p =>
      cases h
      rfl

theorem exchange_transaction {request : Request} {s s' : Session} {w w' : σ} {r : Response}
    (h : (exchange link settings request s).run w = ((.ok r, s'), w')) :
    r.transaction = request.transaction := by
  obtain ⟨events, reply, t, w₁, hrun, hstep, _⟩ := exchange_step link settings request s [] w
  obtain ⟨hpair, _⟩ := Simulation.exchange settings link.logged_links request s [] w
  have hreply : reply = .ok r := by
    simpa [hrun, h] using congrArg Prod.fst hpair
  subst hreply
  generalize s.buffer = opened, t.buffer = closed at hstep
  cases hstep with
  | answered trip => exact trip.answer.same

end Exchange

namespace Queue

variable {σ : Type} {link : Link (StateM σ)} {settings : SessionSettings} {world : σ}

def exchangeAll (link : Link (StateM σ)) (settings : SessionSettings) :
    List Request → StateT Session (StateM σ) (List (Except TransportError Response))
  | [] => pure []
  | request :: rest => do
    let result ← (fun s => exchange link settings request s)
    let results ← exchangeAll link settings rest
    return result :: results

theorem exchangeAll_append (first rest : List Request) :
    exchangeAll link settings (first ++ rest) = (do
      let results ← exchangeAll link settings first
      let more ← exchangeAll link settings rest
      return results ++ more) := by
  induction first with
  | nil => simp [exchangeAll]
  | cons r first ih => simp [exchangeAll, ih]

theorem exchangeAll_concat {requests : List Request} {request : Request}
    {results : List (Except TransportError Response)} {result : Except TransportError Response}
    {s s₁ s' : Session} {w w₁ w' : σ}
    (first : ((exchangeAll link settings requests).run s).run w = ((results, s₁), w₁))
    (last : (exchange link settings request s₁).run w₁ = ((result, s'), w')) :
    ((exchangeAll link settings (requests ++ [request])).run s).run w =
      ((results ++ [result], s'), w') := by
  have hone : ((exchangeAll link settings [request]).run s₁).run w₁ =
      let run := (exchange link settings request s₁).run w₁
      (([run.1.1], run.1.2), run.2) := rfl
  rw [last] at hone
  rw [exchangeAll_append]
  simp [first, hone]

section Callers

variable (s : State σ) (i : Nat) (c : Caller)

@[simp] theorem State.setCaller_callers_self : (s.setCaller i c).callers i = c := if_pos rfl

theorem State.setCaller_callers_of_ne {i k : Nat} (h : k ≠ i) :
    (s.setCaller i c).callers k = s.callers k := if_neg h

def Caller.told (request : Request) (result : Except TransportError Response) : Caller → Caller
  | .waiting r => if r = request then .answered r result else .waiting r
  | c => c

@[simp] theorem Caller.told_waiting (request : Request) (result : Except TransportError Response) :
    Caller.told request result (.waiting request) = .answered request result := if_pos rfl

@[simp] theorem Caller.told_gone (request : Request) (result : Except TransportError Response) :
    Caller.told request result .gone = .gone := rfl

theorem Caller.told_cases (request : Request) (result : Except TransportError Response) (c : Caller) :
    c.told request result = c ∨ ∃ r, c = .waiting r ∧ c.told request result = .answered r result := by
  cases c with
  | waiting r =>
    by_cases he : r = request
    · exact .inr ⟨r, rfl, if_pos he⟩
    · exact .inl (if_neg he)
  | _ => exact .inl rfl

theorem State.deliver_eq (j : Job) (result : Except TransportError Response) :
    s.deliver j result = { s with callers := fun k =>
      if k = j.caller then Caller.told j.request result (s.callers k) else s.callers k } := by
  have hsame (h : Caller.told j.request result (s.callers j.caller) = s.callers j.caller) :
      (fun k => if k = j.caller then Caller.told j.request result (s.callers k) else s.callers k) =
        s.callers := by
    funext k
    by_cases hk : k = j.caller
    · simp [hk, h]
    · simp [hk]
  unfold State.deliver
  split
  next r hr =>
    split
    next he =>
      have htold : Caller.told j.request result (s.callers j.caller) = .answered r result := by
        simp [hr, he]
      unfold State.setCaller
      congr
      funext k
      by_cases hk : k = j.caller
      · simp [hk, htold]
      · simp [hk]
    next he => rw [hsame (by simp [hr, Caller.told, he])]
  next hn =>
    rw [hsame]
    cases hc : s.callers j.caller with
    | waiting r => exact absurd hc (hn r)
    | _ => rfl

theorem State.finish_eq (j : Job) (result : Except TransportError Response) (session : Session) (w : σ) :
    s.finish j result session w = { s with
      callers := fun k =>
        if k = j.caller then Caller.told j.request result (s.callers k) else s.callers k
      inFlight := none, session, world := w, done := s.done ++ [⟨j, result⟩] } := by
  unfold State.finish
  rw [State.deliver_eq]

theorem State.finish_callers (j : Job) (result : Except TransportError Response) (session : Session)
    (w : σ) (k : Nat) : (s.finish j result session w).callers k =
      if k = j.caller then Caller.told j.request result (s.callers k) else s.callers k := by
  rw [State.finish_eq]

end Callers

def State.pending (s : State σ) : List Job := s.inFlight.toList ++ s.queue

/--
How things stand between the callers and the session. `in_turn` and `exchanged` say what the session has done,
`told` and `untold` where this leaves the callers of the jobs.
-/
structure Served (link : Link (StateM σ)) (settings : SessionSettings) (world : σ) (s : State σ) : Prop where
  in_turn : s.entered = s.done.map Exchange.job ++ s.pending
  once : (s.entered.map Job.caller).Nodup
  exchanged : ((exchangeAll link settings (s.done.map (·.job.request))).run {}).run world =
    ((s.done.map Exchange.result, { s.session with nextTransaction := 0 }), s.world)
  own : ∀ e ∈ s.done, ∀ r, e.result = .ok r → r.transaction = e.job.request.transaction
  told : ∀ e ∈ s.done, s.callers e.job.caller = .answered e.job.request e.result ∨
    s.callers e.job.caller = .gone
  untold : ∀ j ∈ s.pending, s.callers j.caller = .waiting j.request ∨ s.callers j.caller = .gone
  entered : ∀ i r, s.callers i = .waiting r ∨ (∃ result, s.callers i = .answered r result) →
    ⟨i, r⟩ ∈ s.entered

theorem Served.initial (link : Link (StateM σ)) (settings : SessionSettings) (world : σ) :
    Served link settings world (.initial world) where
  in_turn := rfl
  once := .nil
  exchanged := rfl
  own := nofun
  told := nofun
  untold := nofun
  entered := by
    intro i r h
    rcases h with h | ⟨result, h⟩
    · cases h
    · cases h

namespace Served

variable {s : State σ} {i : Nat}

theorem mem_of_done (h : Served link settings world s) {e : Exchange} (he : e ∈ s.done) :
    e.job ∈ s.entered := by
  rw [h.in_turn]
  exact List.mem_append_left _ (List.mem_map_of_mem he)

theorem mem_of_pending (h : Served link settings world s) {j : Job} (hj : j ∈ s.pending) :
    j ∈ s.entered := by
  rw [h.in_turn]
  exact List.mem_append_right _ hj

theorem told_of_mem (h : Served link settings world s) {j : Job} (hj : j ∈ s.entered) :
    s.callers j.caller = .gone ∨ s.callers j.caller = .waiting j.request ∨
      ∃ result, s.callers j.caller = .answered j.request result := by
  rw [h.in_turn, List.mem_append, List.mem_map] at hj
  rcases hj with ⟨e, he, rfl⟩ | hj
  · rcases h.told e he with hc | hc
    · exact .inr (.inr ⟨_, hc⟩)
    · exact .inl hc
  · rcases h.untold j hj with hc | hc
    · exact .inr (.inl hc)
    · exact .inl hc

theorem absent (h : Served link settings world s)
    (early : s.callers i = .idle ∨ ∃ r, s.callers i = .numbered r) {j : Job} (hj : j ∈ s.entered) :
    j.caller ≠ i := by
  rintro rfl
  rcases h.told_of_mem hj with hc | hc | ⟨result, hc⟩
  all_goals
    rcases early with he | ⟨r, he⟩
    · simp [hc] at he
    · simp [hc] at he

/-- A caller without a job may do as it likes until it enters the queue, and any caller may go away. -/
theorem setCaller (h : Served link settings world s) {c : Caller}
    (away : c = .gone ∨ ∀ j ∈ s.entered, j.caller ≠ i)
    (quiet : ∀ r, ¬ (c = .waiting r ∨ ∃ result, c = .answered r result)) :
    Served link settings world (s.setCaller i c) := by
  have hsame : ∀ j ∈ s.entered, (s.setCaller i c).callers j.caller = s.callers j.caller ∨
      (s.setCaller i c).callers j.caller = .gone := by
    intro j hj
    by_cases hji : j.caller = i
    · rcases away with rfl | habsent
      · exact .inr (if_pos hji)
      · exact absurd hji (habsent j hj)
    · exact .inl (if_neg hji)
  refine ⟨h.in_turn, h.once, h.exchanged, h.own, ?_, ?_, ?_⟩
  · intro e he
    rcases hsame e.job (h.mem_of_done he) with hk | hk
    · rw [hk]
      exact h.told e he
    · exact .inr hk
  · intro j hj
    rcases hsame j (h.mem_of_pending hj) with hk | hk
    · rw [hk]
      exact h.untold j hj
    · exact .inr hk
  · intro k r hk
    by_cases hki : k = i
    · subst hki
      rw [State.setCaller_callers_self] at hk
      exact absurd hk (quiet r)
    · rw [State.setCaller_callers_of_ne s c hki] at hk
      exact h.entered k r hk

theorem number (h : Served link settings world s) (operation : Operation)
    (idle : s.callers i = .idle) : Served link settings world (s.number settings i operation) := by
  have hset := h.setCaller (c := .numbered ⟨settings.unit, s.session.nextTransaction, operation⟩)
    (.inr fun j hj => h.absent (.inl idle) hj) (by simp)
  exact ⟨hset.in_turn, hset.once, hset.exchanged, hset.own, hset.told, hset.untold, hset.entered⟩

theorem leave (h : Served link settings world s) (i : Nat) :
    Served link settings world (s.setCaller i .gone) :=
  h.setCaller (.inl rfl) (by simp)

theorem enter (h : Served link settings world s) {r : Request} (numbered : s.callers i = .numbered r) :
    Served link settings world (s.enter i r) := by
  have habsent : ∀ j ∈ s.entered, j.caller ≠ i := fun j hj => h.absent (.inr ⟨r, numbered⟩) hj
  have hpending : (s.enter i r).pending = s.pending ++ [⟨i, r⟩] := by
    simp [State.pending, State.enter, State.setCaller]
  have hothers : ∀ j ∈ s.entered, (s.enter i r).callers j.caller = s.callers j.caller :=
    fun j hj => if_neg (habsent j hj)
  refine ⟨?_, ?_, h.exchanged, h.own, ?_, ?_, ?_⟩
  · rw [hpending, ← List.append_assoc]
    exact congrArg (· ++ [⟨i, r⟩]) h.in_turn
  · have hnew : i ∉ s.entered.map Job.caller := by
      intro hi
      obtain ⟨j, hj, hji⟩ := List.mem_map.mp hi
      exact habsent j hj hji
    have hentered : (s.enter i r).entered.map Job.caller = s.entered.map Job.caller ++ [i] := by
      simp [State.enter, State.setCaller]
    rw [hentered]
    exact List.nodup_append.mpr ⟨h.once, by simp, by grind⟩
  · intro e he
    rw [hothers e.job (h.mem_of_done he)]
    exact h.told e he
  · intro j hj
    rw [hpending, List.mem_append, List.mem_singleton] at hj
    rcases hj with hj | rfl
    · rw [hothers j (h.mem_of_pending hj)]
      exact h.untold j hj
    · exact .inl (if_pos rfl)
  · intro k r' hk
    by_cases hki : k = i
    · subst hki
      have hself : (s.enter k r).callers k = .waiting r := if_pos rfl
      obtain rfl : r = r' := by simpa [hself] using hk
      exact List.mem_append_right _ (List.mem_singleton_self _)
    · have hother : (s.enter i r).callers k = s.callers k := if_neg hki
      rw [hother] at hk
      exact List.mem_append_left _ (h.entered k r' hk)

theorem start (h : Served link settings world s) {j : Job} {rest : List Job} (free : s.inFlight = none)
    (next : s.queue = j :: rest) :
    Served link settings world { s with queue := rest, inFlight := some j } := by
  have hpending : s.pending = j :: rest := by simp [State.pending, free, next]
  have hin := h.in_turn
  have huntold := h.untold
  rw [hpending] at hin huntold
  exact ⟨hin, h.once, h.exchanged, h.own, h.told, huntold, h.entered⟩

theorem finish (h : Served link settings world s) {j : Job} {result : Except TransportError Response}
    {session : Session} {w : σ} (busy : s.inFlight = some j)
    (exchanged : (exchange link settings j.request s.session).run s.world = ((result, session), w)) :
    Served link settings world (s.finish j result session w) := by
  have hpending : s.pending = j :: s.queue := by simp [State.pending, busy]
  have hself : s.callers j.caller = .waiting j.request ∨ s.callers j.caller = .gone :=
    h.untold j (by simp [hpending])
  have hentered : s.entered = s.done.map Exchange.job ++ j :: s.queue := hpending ▸ h.in_turn
  rw [State.finish_eq]
  let told := fun k => if k = j.caller then Caller.told j.request result (s.callers k) else s.callers k
  -- All other jobs have other callers.
  have hother : ∀ k ∈ s.done.map Exchange.job ++ s.queue, told k.caller = s.callers k.caller := by
    intro k hk
    have honce := h.once
    rw [hentered, (List.perm_middle.map Job.caller).nodup_iff, List.map_cons, List.nodup_cons] at honce
    have hne : k.caller ≠ j.caller := by
      intro he
      exact honce.1 (he ▸ List.mem_map_of_mem hk)
    exact if_neg hne
  have hnow : told j.caller = .answered j.request result ∨ told j.caller = .gone := by
    rcases hself with hc | hc
    · simp [told, hc]
    · simp [told, hc]
  refine ⟨?_, h.once, ?_, ?_, ?_, ?_, ?_⟩
  · rw [hentered]
    simp [State.pending]
  · have hexchanged := exchangeAll_concat h.exchanged (exchange_renumbered exchanged 0)
    simpa using hexchanged
  · intro e he r hr
    rcases List.mem_append.mp he with he | he
    · exact h.own e he r hr
    · obtain rfl := List.mem_singleton.mp he
      subst hr
      exact exchange_transaction exchanged
  · intro e he
    rcases List.mem_append.mp he with he | he
    · have hsame := hother e.job (List.mem_append_left _ (List.mem_map_of_mem he))
      have htold := h.told e he
      rw [← hsame] at htold
      exact htold
    · obtain rfl := List.mem_singleton.mp he
      exact hnow
  · intro k hk
    have hk' : k ∈ s.queue := by simpa [State.pending] using hk
    have hsame := hother k (List.mem_append_right _ hk')
    have huntold := h.untold k (by simp [hpending, hk'])
    rw [← hsame] at huntold
    exact huntold
  · intro i r hi
    change told i = _ ∨ (∃ result, told i = _) at hi
    by_cases hij : i = j.caller
    · subst hij
      have hj : j ∈ s.entered := by simp [hentered]
      rcases hnow with hc | hc
      · obtain rfl : j.request = r := by simpa [hc] using hi
        exact hj
      · simp [hc] at hi
    · have hsame : told i = s.callers i := if_neg hij
      exact h.entered i r (hsame ▸ hi)

end Served

theorem Step.served {s t : State σ} (next : Step link settings s t)
    (h : Served link settings world s) : Served link settings world t := by
  cases next with
  | number i operation idle => exact h.number operation idle
  | enter i r numbered => exact h.enter numbered
  | start j rest free next => exact h.start free next
  | finish j result session w busy exchanged => exact h.finish busy exchanged
  | leave i r present => exact h.leave i

theorem Reachable.served {s : State σ} (reached : Reachable link settings world s) :
    Served link settings world s := by
  induction reached with
  | initial => exact .initial link settings world
  | step s t _ next ih => exact next.served ih

inductive Steps (link : Link (StateM σ)) (settings : SessionSettings) (s : State σ) : State σ → Prop
  | refl : Steps link settings s s
  | tail {t u : State σ} (steps : Steps link settings s t) (next : Step link settings t u) :
      Steps link settings s u

theorem Steps.single {s t : State σ} (next : Step link settings s t) : Steps link settings s t :=
  .tail .refl next

theorem Steps.trans {s t u : State σ} (steps : Steps link settings s t) (more : Steps link settings t u) :
    Steps link settings s u := by
  induction more with
  | refl => exact steps
  | tail _ next ih => exact .tail ih next

theorem Steps.reachable {s t : State σ} (steps : Steps link settings s t)
    (reached : Reachable link settings world s) : Reachable link settings world t := by
  induction steps with
  | refl => exact reached
  | tail _ next ih => exact .step _ _ ih next

/-- What a caller that waits, has been told something or is gone can be at any later time. -/
structure Caller.Becomes (c d : Caller) : Prop where
  waiting : ∀ r, c = .waiting r → d = .waiting r ∨ d = .gone ∨ ∃ result, d = .answered r result
  answered : ∀ r result, c = .answered r result → d = .answered r result
  gone : c = .gone → d = .gone

namespace Caller.Becomes

theorem refl (c : Caller) : c.Becomes c :=
  ⟨fun _ h => .inl h, fun _ _ h => h, fun h => h⟩

theorem of_early {c d : Caller} (early : c = .idle ∨ ∃ r, c = .numbered r) : c.Becomes d := by
  rcases early with rfl | ⟨r, rfl⟩
  · exact ⟨nofun, nofun, nofun⟩
  · exact ⟨nofun, nofun, nofun⟩

theorem told (request : Request) (result : Except TransportError Response) (c : Caller) :
    c.Becomes (c.told request result) := by
  rcases c.told_cases request result with hc | ⟨r, rfl, hc⟩
  · rw [hc]
    exact refl c
  · rw [hc]
    refine ⟨?_, nofun, nofun⟩
    rintro r' ⟨⟩
    exact .inr (.inr ⟨result, rfl⟩)

theorem trans {c d e : Caller} (h : c.Becomes d) (h' : d.Becomes e) : c.Becomes e := by
  refine ⟨?_, fun r result hc => h'.answered r result (h.answered r result hc),
    fun hc => h'.gone (h.gone hc)⟩
  intro r hc
  rcases h.waiting r hc with hd | hd | ⟨result, hd⟩
  · exact h'.waiting r hd
  · exact .inr (.inl (h'.gone hd))
  · exact .inr (.inr ⟨result, h'.answered r result hd⟩)

end Caller.Becomes

/-- What was entered and what is done stays so, and what a caller was told is told for good. -/
structure Later (s t : State σ) : Prop where
  entered : s.entered <+: t.entered
  done : s.done <+: t.done
  callers : ∀ i, (s.callers i).Becomes (t.callers i)

theorem Later.setCaller {s : State σ} {i : Nat} {c : Caller} (h : (s.callers i).Becomes c) (k : Nat) :
    (s.callers k).Becomes ((s.setCaller i c).callers k) := by
  by_cases hk : k = i
  · subst hk
    rw [State.setCaller_callers_self]
    exact h
  · rw [State.setCaller_callers_of_ne s c hk]
    exact .refl _

theorem Step.later {s t : State σ} (next : Step link settings s t) : Later s t := by
  cases next with
  | number i operation idle =>
    exact ⟨List.prefix_rfl, List.prefix_rfl, Later.setCaller (.of_early (.inl idle))⟩
  | enter i r numbered =>
    exact ⟨List.prefix_append _ _, List.prefix_rfl, Later.setCaller (.of_early (.inr ⟨r, numbered⟩))⟩
  | start j rest free next => exact ⟨List.prefix_rfl, List.prefix_rfl, fun k => .refl _⟩
  | finish j result session w busy exchanged =>
    rw [State.finish_eq]
    refine ⟨List.prefix_rfl, List.prefix_append _ _, fun k => ?_⟩
    by_cases hk : k = j.caller
    · simpa only [hk, ↓reduceIte] using Caller.Becomes.told j.request result (s.callers j.caller)
    · simpa only [hk, ↓reduceIte] using Caller.Becomes.refl (s.callers k)
  | leave i r present =>
    refine ⟨List.prefix_rfl, List.prefix_rfl, Later.setCaller ?_⟩
    rcases present with hc | hc
    · exact .of_early (.inr ⟨r, hc⟩)
    · rw [hc]
      exact ⟨fun _ _ => .inr (.inl rfl), nofun, nofun⟩

theorem Steps.later {s t : State σ} (steps : Steps link settings s t) : Later s t := by
  induction steps with
  | refl => exact ⟨List.prefix_rfl, List.prefix_rfl, fun i => .refl _⟩
  | tail _ next ih =>
    have h := next.later
    exact ⟨ih.entered.trans h.entered, ih.done.trans h.done,
      fun i => (ih.callers i).trans (h.callers i)⟩

structure Worked (link : Link (StateM σ)) (settings : SessionSettings) (s t : State σ) : Prop where
  steps : Steps link settings s t
  entered : t.entered = s.entered
  callers : ∀ i, t.callers i = s.callers i ∨
    ∃ r result, s.callers i = .waiting r ∧ t.callers i = .answered r result

theorem Worked.trans {s t u : State σ} (h : Worked link settings s t) (h' : Worked link settings t u) :
    Worked link settings s u := by
  refine ⟨h.steps.trans h'.steps, h'.entered.trans h.entered, fun i => ?_⟩
  rcases h.callers i with he | ⟨r, result, hw, ha⟩
  · rw [← he]
    exact h'.callers i
  · exact .inr ⟨r, result, hw, (h'.steps.later.callers i).answered r result ha⟩

theorem Step.finished (link : Link (StateM σ)) (settings : SessionSettings) (s : State σ) (j : Job)
    (busy : s.inFlight = some j) :
    let run := (exchange link settings j.request s.session).run s.world
    Step link settings s (s.finish j run.1.1 run.1.2 run.2) :=
  .finish s j _ _ _ busy rfl

theorem finish_worked (link : Link (StateM σ)) (settings : SessionSettings) {s : State σ} {j : Job}
    (busy : s.inFlight = some j) :
    ∃ t, Worked link settings s t ∧ t.inFlight = none ∧ t.queue = s.queue := by
  refine ⟨_, ⟨.single (Step.finished link settings s j busy), ?_, ?_⟩, ?_, ?_⟩
  · rw [State.finish_eq]
  · intro i
    rw [State.finish_callers]
    by_cases hi : i = j.caller
    · rw [if_pos hi]
      rcases (s.callers i).told_cases j.request _ with hc | ⟨r, hw, ha⟩
      · exact .inl hc
      · exact .inr ⟨r, _, hw, ha⟩
    · exact .inl (if_neg hi)
  · rw [State.finish_eq]
  · rw [State.finish_eq]

theorem queue_worked (link : Link (StateM σ)) (settings : SessionSettings) {s : State σ}
    (free : s.inFlight = none) :
    ∃ t, Worked link settings s t ∧ t.pending = [] := by
  induction hq : s.queue generalizing s with
  | nil =>
    refine ⟨s, ⟨.refl, rfl, fun i => .inl rfl⟩, ?_⟩
    simp [State.pending, free, hq]
  | cons j rest ih =>
    let started : State σ := { s with queue := rest, inFlight := some j }
    have hstart : Worked link settings s started :=
      ⟨.single (.start s j rest free hq), rfl, fun i => .inl rfl⟩
    obtain ⟨t, hfinish, hfree, hrest⟩ := finish_worked link settings (s := started) rfl
    obtain ⟨u, hu, hpending⟩ := ih hfree hrest
    exact ⟨u, (hstart.trans hfinish).trans hu, hpending⟩

theorem all_worked (link : Link (StateM σ)) (settings : SessionSettings) (s : State σ) :
    ∃ t, Worked link settings s t ∧ t.pending = [] := by
  cases hf : s.inFlight with
  | none => exact queue_worked link settings hf
  | some j =>
    obtain ⟨t, ht, hfree, _⟩ := finish_worked link settings hf
    obtain ⟨u, hu, hpending⟩ := queue_worked link settings hfree
    exact ⟨u, ht.trans hu, hpending⟩

theorem Served.not_waiting {s : State σ} (h : Served link settings world s) (empty : s.pending = [])
    (i : Nat) (r : Request) : s.callers i ≠ .waiting r := by
  intro hi
  have hj := h.entered i r (.inl hi)
  rw [h.in_turn, empty, List.append_nil, List.mem_map] at hj
  obtain ⟨e, he, hej⟩ := hj
  have htold := h.told e he
  rw [hej] at htold
  simp [hi] at htold

/-- The callers of `s`, of whom `i` has not gone away. -/
structure Stayed (s : State σ) (i : Nat) (callers : Nat → Caller) : Prop where
  others : ∀ k, k ≠ i → callers k = s.callers k
  same : s.callers i ≠ .gone → callers i = s.callers i
  present : callers i ≠ .gone

section Stayed

variable {s : State σ} {i k : Nat} {callers : Nat → Caller}

theorem Stayed.eq_of_present (h : Stayed s i callers) (present : s.callers k ≠ .gone) :
    callers k = s.callers k := by
  by_cases hk : k = i
  · subst hk
    exact h.same present
  · exact h.others k hk

theorem Stayed.update (h : Stayed s i callers) {f : Caller → Caller} {t : State σ}
    (ht : t.callers = fun l => if l = k then f (s.callers l) else s.callers l)
    (settled : s.callers k = .gone → f .gone = .gone) (stays : k = i → ∀ c, c ≠ .gone → f c ≠ .gone) :
    Stayed t i fun l => if l = k then f (callers l) else callers l := by
  by_cases hik : i = k
  · subst hik
    refine ⟨?_, ?_, ?_⟩
    · intro l hl
      simp only [ht, if_neg hl]
      exact h.others l hl
    · intro hpresent
      simp only [ht, ↓reduceIte] at hpresent ⊢
      rw [h.same]
      intro hgone
      rw [hgone] at hpresent
      exact hpresent (settled hgone)
    · simp only [↓reduceIte]
      exact stays rfl _ h.present
  · refine ⟨?_, ?_, ?_⟩
    · intro l hl
      simp only [ht, h.others l hl]
    · simp only [ht, if_neg hik]
      exact h.same
    · simp only [if_neg hik]
      exact h.present

end Stayed

theorem Step.stayed {s t : State σ} (next : Step link settings s t) {i : Nat} {callers : Nat → Caller}
    (h : Stayed s i callers) : ∃ callers', Stayed t i callers' ∧
      Steps link settings { s with callers } { t with callers := callers' } := by
  cases next with
  | number k operation idle =>
    have hk : callers k = .idle := (h.eq_of_present (by simp [idle])).trans idle
    refine ⟨_, ?_, .single (.number { s with callers } k operation hk)⟩
    exact h.update (f := fun _ => _) rfl (by simp [idle]) (by simp)
  | enter k r numbered =>
    have hk : callers k = .numbered r := (h.eq_of_present (by simp [numbered])).trans numbered
    refine ⟨_, ?_, .single (.enter { s with callers } k r hk)⟩
    exact h.update (f := fun _ => _) rfl (by simp [numbered]) (by simp)
  | start j rest free next =>
    exact ⟨callers, ⟨h.others, h.same, h.present⟩, .single (.start _ j rest free next)⟩
  | finish j result session w busy exchanged =>
    have hstep : Step link settings { s with callers } _ :=
      .finish { s with callers } j result session w busy exchanged
    rw [State.finish_eq] at hstep ⊢
    refine ⟨_, ?_, .single hstep⟩
    refine h.update rfl (fun _ => rfl) ?_
    intro _ c hc
    rcases c.told_cases j.request result with he | ⟨r, _, he⟩
    · rwa [he]
    · simp [he]
  | leave k r present =>
    by_cases hk : k = i
    · subst hk
      refine ⟨callers, ⟨?_, ?_, h.present⟩, .refl⟩
      · intro l hl
        rw [State.setCaller_callers_of_ne s _ hl]
        exact h.others l hl
      · intro hpresent
        exact absurd (State.setCaller_callers_self s k .gone) hpresent
    · have hthere : s.callers k ≠ .gone := by
        rcases present with hc | hc
        · simp [hc]
        · simp [hc]
      have hk' : callers k = .numbered r ∨ callers k = .waiting r := by
        rwa [h.eq_of_present hthere]
      refine ⟨_, ?_, .single (.leave { s with callers } k r hk')⟩
      exact h.update (f := fun _ => .gone) rfl (fun _ => rfl) (fun he => absurd he hk)

theorem Reachable.stayed {s : State σ} (reached : Reachable link settings world s) (i : Nat) :
    ∃ callers, Stayed s i callers ∧ Reachable link settings world { s with callers } := by
  induction reached with
  | initial => exact ⟨fun _ => .idle, ⟨fun _ _ => rfl, fun _ => rfl, nofun⟩, .initial⟩
  | step s t _ next ih =>
    obtain ⟨callers, h, hreached⟩ := ih
    obtain ⟨callers', h', hsteps⟩ := next.stayed h
    exact ⟨callers', h', hsteps.reachable hreached⟩

theorem Served.alone {s t : State σ} (h : Served link settings world s)
    (h' : Served link settings world t) (same : t.done.map Exchange.job = s.done.map Exchange.job) :
    t.done = s.done ∧ t.world = s.world := by
  have hrequests : t.done.map (·.job.request) = s.done.map (·.job.request) := by
    simpa [Function.comp_def] using congrArg (List.map Job.request) same
  have hrun := h'.exchanged
  rw [hrequests, h.exchanged] at hrun
  have hworld : s.world = t.world := congrArg Prod.snd hrun
  have hresults : s.done.map Exchange.result = t.done.map Exchange.result :=
    congrArg (fun run => run.1.1) hrun
  refine ⟨?_, hworld.symm⟩
  have hlength : t.done.length = s.done.length := by simpa using congrArg List.length same
  refine List.ext_getElem hlength ?_
  intro n hn hn'
  have hjob := List.getElem_of_eq same (by simpa using hn)
  have hresult := List.getElem_of_eq hresults.symm (by simpa using hn)
  simp only [List.getElem_map] at hjob hresult
  calc t.done[n] = ⟨t.done[n].job, t.done[n].result⟩ := rfl
    _ = s.done[n] := by rw [hjob, hresult]

/--
Wherever callers and session have got to: the jobs are taken in the order in which they entered, each one once
and only when the one before is done; and what is done is what comes of the same requests in the same order
without any callers. An answer has the number of its own request, whatever the order of the numbers. Callers that
have been told something have been told the result of their own job, once and for all; those that wait have
a job to be done; and they are all told if the session goes on. Who goes away changes nothing for anybody else.
-/
theorem served_in_turn (link : Link (StateM σ)) (settings : SessionSettings) (world : σ) (s : State σ)
    (reached : Reachable link settings world s) :
    Served link settings world s ∧
    (∀ t, Steps link settings s t → Served link settings world t ∧ Later s t) ∧
    (∃ t, Steps link settings s t ∧ t.entered = s.entered ∧ t.pending = [] ∧
      ∀ i, (∃ r result, s.callers i = .waiting r ∧ t.callers i = .answered r result) ∨
        (∀ r, s.callers i ≠ .waiting r) ∧ t.callers i = s.callers i) ∧
    (∀ i, ∃ callers, Stayed s i callers ∧ Reachable link settings world { s with callers }) ∧
    ∀ t, Reachable link settings world t → t.done.map Exchange.job = s.done.map Exchange.job →
      t.done = s.done ∧ t.world = s.world := by
  refine ⟨reached.served, ?_, ?_, reached.stayed, ?_⟩
  · intro t steps
    exact ⟨(steps.reachable reached).served, steps.later⟩
  · obtain ⟨t, worked, hpending⟩ := all_worked link settings s
    have hserved := (worked.steps.reachable reached).served
    refine ⟨t, worked.steps, worked.entered, hpending, fun i => ?_⟩
    rcases worked.callers i with he | ha
    · refine .inr ⟨fun r => ?_, he⟩
      rw [← he]
      exact hserved.not_waiting hpending i r
    · exact .inl ha
  · intro t reached' same
    exact reached.served.alone reached'.served same

/--
Two callers whose requests enter the queue against the order of their numbers. The first in the queue goes away
while its request is in flight; the other one is told the answer to its own.
-/
theorem served_in_turn_crossed :
    let settings : SessionSettings := { host := "127.0.0.1" }
    let link := Gateway.link settings
    let g : Gateway := ⟨{}, some "127.0.0.1:502", {}, {}, none, [], .zero, false⟩
    let read : Operation := .readRegisters 100 2
    let early : Job := ⟨0, settings.unit, 0, read⟩
    let late : Job := ⟨1, settings.unit, 1, read⟩
    let numbered := ((State.initial g).number settings 0 read).number settings 1 read
    let crossed := (numbered.enter 1 late.request).enter 0 early.request
    let s := { crossed with queue := [early], inFlight := some late }.setCaller 1 .gone
    Reachable link settings g s ∧ s.entered = [late, early] ∧
      ∃ t result, Steps link settings s t ∧ t.callers 1 = .gone ∧
        t.callers 0 = .answered early.request result ∧ ∀ r, result = .ok r → r.transaction = 0 := by
  intro settings link g read early late numbered crossed s
  have hnumbered : Reachable link settings g numbered :=
    .step _ _ (.step _ _ .initial (.number _ 0 read rfl)) (.number _ 1 read rfl)
  have hcrossed : Reachable link settings g crossed :=
    .step _ _ (.step _ _ hnumbered (.enter _ 1 late.request rfl)) (.enter _ 0 early.request rfl)
  have hs : Reachable link settings g s :=
    .step _ _ (.step _ _ hcrossed (.start _ late [early] rfl rfl)) (.leave _ 1 late.request (.inr rfl))
  obtain ⟨_, hlater, ⟨t, hsteps, hentered, hpending, hcallers⟩, _⟩ := served_in_turn link settings g s hs
  obtain ⟨hserved, hbecomes⟩ := hlater t hsteps
  have hjobs : t.done.map Exchange.job = [late, early] := by
    have hturn := hserved.in_turn
    rw [hpending, List.append_nil, hentered] at hturn
    exact hturn.symm
  have hearly : early ∈ t.done.map Exchange.job := by simp [hjobs]
  obtain ⟨e, he, hjob⟩ := List.mem_map.mp hearly
  have hown := hserved.own e he
  rw [hjob] at hown
  rcases hcallers 0 with ⟨r, result, _, hanswered⟩ | ⟨hnot, _⟩
  · have htold := hserved.told e he
    rw [hjob] at htold
    rcases htold with htold | hgone
    · exact ⟨hs, rfl, t, e.result, hsteps, hbecomes.callers 1 |>.gone rfl, htold, hown⟩
    · exact absurd (hanswered.symm.trans hgone) nofun
  · exact absurd rfl (hnot early.request)

end Queue

end MeterPolling
