import Mathlib.Data.List.Forall2
import MeterPolling.Bench
import MeterPolling.Proofs.Cycle.Run
import MeterPolling.Proofs.Decoder.Outcome

namespace MeterPolling

theorem bytesOfWords_zeros (count : Nat) :
    bytesOfWords (List.replicate count 0) = List.replicate (2 * count) 0 := by
  induction count with
  | zero => rfl
  | succ count ih =>
    rw [List.replicate_succ, bytesOfWords_cons, ih]
    rfl

theorem Encoding.valid_zeros (e : Encoding) (count : Nat) : e.Valid (List.replicate count 0) := by
  cases e with
  | ascii =>
    intro b hb
    rw [bytesOfWords_zeros] at hb
    rw [List.eq_of_mem_replicate hb]
    decide
  | utf8 =>
    have hzero : String.utf8EncodeChar '\x00' = [0] := by decide
    refine ⟨List.replicate (2 * count) '\x00', ?_⟩
    rw [bytesOfWords_zeros]
    simp [List.flatMap_replicate, hzero]
  | _ => trivial

namespace Decoder

/-- The factors are for text or raw bytes, which are no numbers. -/
def Unscalable (d : Decoder) : Prop := d.factors ≠ [] ∧ d.words = none

variable {d : Decoder} {words : List UInt16} {value : Value}

theorem not_unscalable_of_decode (h : d.decode words = .ok value) : ¬ d.Unscalable := by
  obtain ⟨hfits, hyields⟩ := decode_ok_iff.mp h
  rintro ⟨hfactors, hwords⟩
  cases hyields with
  | base => exact hfactors rfl
  | scaled holds number factor rest =>
    have hread := holds.read hfits.2
    have hnone := (Encoding.read_number_iff hread).mpr hwords
    cases number.symm.trans hnone

theorem decode_zeros {count : Nat} (fits : d.Fits count) (scalable : ¬ d.Unscalable) :
    ∃ value, d.decode (List.replicate count 0) = .ok value := by
  cases hdecode : d.decode (List.replicate count 0) with
  | ok value => exact ⟨value, rfl⟩
  | error cause =>
    have hfits : d.Fits (List.replicate count (0 : UInt16)).length := by rwa [List.length_replicate]
    have hvalid := d.encoding.valid_zeros count
    have hfails := decode_error_iff.mp hdecode
    cases cause with
    | sizeMismatch expected actual => exact absurd hfits hfails.1
    | notAscii =>
      obtain ⟨_, _, hinvalid⟩ := hfails
      exact absurd hvalid hinvalid
    | utf8 defect =>
      obtain ⟨_, hencoding, hdefect⟩ := hfails
      rw [hencoding] at hvalid
      exact absurd hvalid (Text.decodeUtf8_error_iff.mp ⟨defect, hdefect⟩)
    | notNumeric =>
      obtain ⟨_, _, hfactors, htext⟩ := hfails
      exact absurd ⟨hfactors, Encoding.words_eq_none_iff.mpr htext⟩ scalable

end Decoder

namespace ReadCommand

variable {c : ReadCommand}

theorem decode_zeros (sound : (Command.read c).defect? = none) (scalable : ¬ c.decoder.Unscalable) :
    ∃ value, c.decode (List.replicate c.count.toNat 0) = .ok value := by
  rw [decode_eq List.length_replicate]
  exact Decoder.decode_zeros (c.fits sound) scalable

theorem not_unscalable_of_decode {words : List UInt16} {value : Value} (h : c.decode words = .ok value) :
    ¬ c.decoder.Unscalable := by
  unfold decode at h
  split at h
  next => exact Decoder.not_unscalable_of_decode h
  next => cases h

/-- A read that a plan may hold can be satisfied unless it scales what is no number. -/
theorem decode_exists_iff (sound : (Command.read c).defect? = none) :
    (∃ words value, c.decode words = .ok value) ↔ ¬ c.decoder.Unscalable := by
  constructor
  · rintro ⟨words, value, h⟩
    exact not_unscalable_of_decode h
  · intro scalable
    obtain ⟨value, h⟩ := decode_zeros sound scalable
    exact ⟨_, value, h⟩

end ReadCommand

section Run

variable {σ : Type} {client : Client (StateM σ)} {stopped : StateM σ Bool}

theorem Completes.decoded {w w' : σ} {commands : List Command} {outcomes : List Outcome}
    (h : Completes client stopped w commands outcomes w') {c : ReadCommand} (hc : .read c ∈ commands) :
    ∃ words value, c.decode words = .ok value := by
  induction h with
  | nil => cases hc
  | cons first _ ih =>
    rcases List.mem_cons.mp hc with rfl | hrest
    · cases first with
      | read _ _ decoded => exact ⟨_, _, decoded⟩
    · exact ih hrest

theorem execute_of_completes (x : Executor (StateM σ)) (plan : Plan) {w w' : σ} {outcomes : List Outcome}
    (h : Completes client x.stopped (x.now.run w).2 plan.commands outcomes w') :
    ∃ elapsed, (x.execute plan client).run w = (.ok ⟨plan.category, outcomes, elapsed⟩, (x.now.run w').2) := by
  have hnil : (runCommands client x.stopped []).run w' = (([], none), w') := rfl
  have hrun := runCommands_append h hnil
  rw [List.append_nil, List.append_nil] at hrun
  exact ⟨_, execute_of_runCommands x plan hrun⟩

theorem execute_aborts (x : Executor (StateM σ)) (client : Client (StateM σ)) {plan : Plan} {c : ReadCommand}
    (hc : .read c ∈ plan.commands) (unscalable : c.decoder.Unscalable) (w : σ) :
    ∃ aborted, ((x.execute plan client).run w).1 = .error aborted := by
  rcases execute_run x client plan w with
    ⟨outcomes, elapsed, w₁, hcompletes, _⟩ | ⟨before, d, after, outcomes, elapsed, w₁, calls, e, w₂, _, _, _, hrun⟩
  · obtain ⟨words, value, hdecode⟩ := hcompletes.decoded hc
    exact absurd unscalable (ReadCommand.not_unscalable_of_decode hdecode)
  · exact ⟨_, congrArg Prod.fst hrun⟩

end Run

/-- The reply has as many words as a read asks for; that of a write has none. -/
def Command.AnsweredBy : Command → List UInt16 → Prop
  | .read c, words => words.length = c.count.toNat
  | .write _, words => words = []

def Command.zeros : Command → List UInt16
  | .read c => List.replicate c.count.toNat 0
  | .write _ => []

theorem Command.answeredBy_zeros (c : Command) : c.AnsweredBy c.zeros := by
  cases c with
  | read c => exact List.length_replicate
  | write c => rfl

namespace Bench

/-- These are the replies to the next calls, and nobody asks for a stop. -/
structure Scripted (b : Bench) (replies : List (List UInt16)) : Prop where
  replies : b.replies = replies.map fun words => some (.words words)
  stopped : b.stopped = false
  stopAt : b.stopAt = none
  stopAtCall : b.stopAtCall = none

variable {b : Bench} {reply : List UInt16} {replies : List (List UInt16)}

theorem Scripted.sleepUntil (h : b.Scripted replies) (t : TimeSpan) : (b.sleepUntil t).Scripted replies := by
  unfold Bench.sleepUntil
  split
  next => exact ⟨h.replies, by simp [h.stopped, h.stopAt], h.stopAt, h.stopAtCall⟩
  next => exact h

theorem Scripted.arrive (h : b.Scripted (reply :: replies)) :
    ∃ b', b.arrive = (some (.words reply), b') ∧ b'.Scripted replies := by
  have hcalled : Scripted { b with calls := b.calls + 1 } (reply :: replies) :=
    ⟨h.replies, h.stopped, h.stopAt, h.stopAtCall⟩
  have hslept := hcalled.sleepUntil (b.now.pauseEnd b.delay)
  unfold Bench.arrive
  simp only [hslept.replies, List.map_cons]
  exact ⟨_, rfl, rfl, by simp [hslept.stopped, hslept.stopAtCall], hslept.stopAt, hslept.stopAtCall⟩

theorem Scripted.look (h : b.Scripted replies) (registry : Registry) (seesStop : Bool) :
    (executor registry seesStop).stopped.run b = (false, b) := by
  simp [executor, h.stopped]

theorem completes_zeros (registry : Registry) (seesStop : Bool) {commands : List Command}
    (sound : ∀ c ∈ commands, c.defect? = none)
    (scalable : ∀ c, .read c ∈ commands → ¬ c.decoder.Unscalable)
    (h : b.Scripted (commands.map Command.zeros)) :
    ∃ outcomes b', Completes client (executor registry seesStop).stopped b commands outcomes b' := by
  induction commands generalizing b with
  | nil => exact ⟨[], b, .nil⟩
  | cons c rest ih =>
    obtain ⟨hc, hrest⟩ := List.forall_mem_cons.mp sound
    have hlook := h.look registry seesStop
    obtain ⟨b₁, harrive, hscripted⟩ := h.arrive
    obtain ⟨outcomes, b', hothers⟩ := ih hrest (fun d hd => scalable d (List.mem_cons_of_mem c hd)) hscripted
    cases c with
    | read c =>
      obtain ⟨value, hdecode⟩ := c.decode_zeros hc (scalable c List.mem_cons_self)
      have hreply : (client.read c.register c.count).run b = (.ok (List.replicate c.count.toNat 0), b₁) := by
        simp [client, read, harrive, Command.zeros]
      exact ⟨_, b', .cons (.read hlook hreply hdecode) hothers⟩
    | write c =>
      have hreply : (client.write c.register c.values).run b = (.ok (), b₁) := by
        simp [client, write, harrive]
      exact ⟨_, b', .cons (.wrote hlook hreply) hothers⟩

end Bench

/--
A plan of commands that may stand in one. Each of its reads can be satisfied by some words just if it does not scale text
or raw bytes. If none of them does that, there are replies, one for each command and with as many words as a read asks for,
with which every command has its outcome and the cycle is complete; and if one does, the plan is aborted by every meter.
-/
theorem plan_completable_iff {category : Category} {commands : List Command} {plan : Plan}
    (accepted : Plan.ofCommands category commands = .ok plan) :
    (∀ c, .read c ∈ commands → ((∃ words value, c.decode words = .ok value) ↔ ¬ c.decoder.Unscalable)) ∧
    ((∀ c, .read c ∈ commands → ¬ c.decoder.Unscalable) →
      ∃ replies, List.Forall₂ Command.AnsweredBy commands replies ∧
        ∀ (registry : Registry) (seesStop : Bool) (b : Bench), b.Scripted replies →
          let x := Bench.executor registry seesStop
          ∃ outcomes elapsed b', Completes Bench.client x.stopped b commands outcomes b' ∧
            (x.execute plan Bench.client).run b = (.ok ⟨category, outcomes, elapsed⟩, b')) ∧
    ∀ c, .read c ∈ commands → c.decoder.Unscalable →
      ∀ {σ : Type} (x : Executor (StateM σ)) (client : Client (StateM σ)) (w : σ),
        ∃ aborted, ((x.execute plan client).run w).1 = .error aborted := by
  have hcommands := Plan.commands_of_ofCommands accepted
  have hsound : ∀ c ∈ commands, c.defect? = none := hcommands ▸ plan.sound
  have hcategory := Plan.category_of_ofCommands accepted
  refine ⟨fun c hc => c.decode_exists_iff (hsound _ hc), ?_, ?_⟩
  · intro scalable
    refine ⟨commands.map Command.zeros, ?_, ?_⟩
    · rw [List.forall₂_map_right_iff, List.forall₂_same]
      exact fun c _ => c.answeredBy_zeros
    · intro registry seesStop b hscripted x
      obtain ⟨outcomes, b', hcompletes⟩ := Bench.completes_zeros registry seesStop hsound scalable hscripted
      obtain ⟨elapsed, hrun⟩ := execute_of_completes x plan (w := b) (hcommands ▸ hcompletes)
      rw [hcategory] at hrun
      exact ⟨outcomes, elapsed, b', hcompletes, hrun⟩
  · intro c hc unscalable σ x client w
    exact execute_aborts x client (hcommands ▸ hc) unscalable w

theorem plan_completable_iff_scaled :
    let commands : List Command := [.read ⟨"Model", 0x0031, 20, ⟨.utf8, []⟩⟩, .write ⟨"Tariff daily", 0x105E, [1]⟩,
      .read ⟨"Active power", 0x0BF3, 1, ⟨.i16, [⟨0x3FD0000000000000⟩, ⟨0x4000000000000000⟩]⟩⟩]
    ∃ plan, Plan.ofCommands .schneider commands = .ok plan ∧
      ∃ replies outcomes elapsed b', List.Forall₂ Command.AnsweredBy commands replies ∧
        ((Bench.executor {} true).execute plan Bench.client).run
            { replies := replies.map fun words => some (.words words) } =
          (.ok ⟨.schneider, outcomes, elapsed⟩, b') := by
  intro commands
  let plan : Plan := ⟨.schneider, commands, by decide⟩
  have haccepted : Plan.ofCommands .schneider commands = .ok plan := rfl
  obtain ⟨-, hcompletes, -⟩ := plan_completable_iff haccepted
  obtain ⟨replies, hreplies, hruns⟩ := hcompletes <| by simp [commands, Decoder.Unscalable, Decoder.words, Encoding.words]
  let b : Bench := { replies := replies.map fun words => some (.words words) }
  obtain ⟨outcomes, elapsed, b', -, hrun⟩ := hruns {} true b ⟨rfl, rfl, rfl, rfl⟩
  exact ⟨plan, haccepted, replies, outcomes, elapsed, b', hreplies, hrun⟩

/-- A plan of one read, which doubles a text. It is accepted, and no replies complete it. -/
theorem doubled_text_never_completes :
    ∃ plan, Plan.ofCommands .abb [.read ⟨"Model", 0x0031, 2, ⟨.ascii, [⟨0x4000000000000000⟩]⟩⟩] = .ok plan ∧
      ∀ {σ : Type} (x : Executor (StateM σ)) (client : Client (StateM σ)) (w : σ) (cycle : Cycle),
        ((x.execute plan client).run w).1 ≠ .ok cycle := by
  let c : ReadCommand := ⟨"Model", 0x0031, 2, ⟨.ascii, [⟨0x4000000000000000⟩]⟩⟩
  let plan : Plan := ⟨.abb, [.read c], by decide⟩
  have hc : Command.read c ∈ plan.commands := List.mem_singleton_self _
  refine ⟨plan, rfl, ?_⟩
  intro σ x client w cycle completed
  obtain ⟨aborted, haborted⟩ := execute_aborts x client hc ⟨List.cons_ne_nil _ _, rfl⟩ w
  cases haborted.symm.trans completed

end MeterPolling
