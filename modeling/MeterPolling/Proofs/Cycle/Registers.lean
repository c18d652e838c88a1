import MeterPolling.Bench
import MeterPolling.Proofs.Cycle.Run
import MeterPolling.Proofs.Cycle.Simulation

namespace MeterPolling

def Registers : Type := UInt16 → UInt16

namespace Registers

def span (m : Registers) (address : UInt16) (count : Nat) : List UInt16 :=
  (List.range count).map fun i => m (address + UInt16.ofNat i)

/-- Words stored from an address on. All other registers hold what they have held. -/
def store (m : Registers) (address : UInt16) (words : List UInt16) : Registers :=
  fun a => words[(a - address).toNat]?.getD (m a)

def after (m : Registers) : List Command → Registers
  | [] => m
  | .read _ :: rest => m.after rest
  | .write c :: rest => (m.store c.register c.values).after rest

def result (m : Registers) : Command → Except DecodeError OutcomeKind
  | .read c => (c.decoder.decode (m.span c.register c.count.toNat)).map .read
  | .write c => .ok (.wrote c.values)

end Registers

def Bank.registers (b : Bank) : Registers := b.get

def WriteCommand.Spares (c : WriteCommand) (address : UInt16) (count : Nat) : Prop :=
  ∀ i < c.values.length, ∀ j < count, c.register + UInt16.ofNat i ≠ address + UInt16.ofNat j

theorem Bank.read_eq_span (b : Bank) (address : UInt16) (count : Nat) :
    b.read address count = b.registers.span address count := by
  induction count generalizing address with
  | zero => rfl
  | succ count ih =>
    have hnext : ∀ i, address + 1 + UInt16.ofNat i = address + UInt16.ofNat (i + 1) := by
      intro i
      rw [UInt16.ofNat_add, UInt16.add_assoc, UInt16.add_comm 1]
      rfl
    have hfirst : address + UInt16.ofNat 0 = address := UInt16.add_zero address
    simp only [Bank.read, ih, Registers.span, List.range_succ_eq_map, List.map_cons, List.map_map,
      hfirst, Function.comp_def, hnext]
    rfl

theorem toNat_sub_succ (a address : UInt16) :
    (a - (address + 1)).toNat = ((a - address).toNat + 65535) % 65536 := by
  have ha := a.toNat_lt
  have haddress := address.toNat_lt
  simp only [UInt16.toNat_sub, UInt16.toNat_add, UInt16.reduceToNat]
  omega

theorem Bank.registers_write {b : Bank} {address : UInt16} {words : List UInt16}
    (h : words.length ≤ 65536) :
    (b.write address words).registers = b.registers.store address words := by
  induction words generalizing b address with
  | nil => rfl
  | cons w words ih =>
    rw [List.length_cons] at h
    have hrest : words.length ≤ 65536 := by omega
    funext a
    have hset : (b.set address w).registers a = if a = address then w else b.registers a :=
      Bank.get_set b address a w
    rw [Bank.write, ih hrest]
    simp only [Registers.store, hset]
    by_cases ha : a = address
    · subst a
      -- All the way around, the first register would come last.
      have hlast : (address - (address + 1)).toNat = 65535 := by
        rw [toNat_sub_succ, UInt16.sub_self]
        rfl
      have hnone : words[65535]? = none := List.getElem?_eq_none (by omega)
      rw [hlast, hnone]
      simp
    · obtain ⟨n, hn⟩ : ∃ n, (a - address).toNat = n + 1 := by
        refine Nat.exists_eq_succ_of_ne_zero ?_
        intro hz
        have hzero : a - address = 0 := UInt16.toNat_inj.mp hz
        exact ha (by rw [← UInt16.sub_add_cancel a address, hzero, UInt16.zero_add])
      have hprev : (a - (address + 1)).toNat = n := by
        have hlt := (a - address).toNat_lt
        rw [toNat_sub_succ, hn]
        omega
      simp [hprev, hn, ha]

namespace Registers

variable {m : Registers} {address : UInt16}

@[simp] theorem length_span (m : Registers) (address : UInt16) (count : Nat) :
    (m.span address count).length = count := by
  simp [span]

theorem span_store {words : List UInt16} (h : words.length ≤ 65536) :
    (m.store address words).span address words.length = words := by
  refine List.ext_getElem (length_span _ _ _) ?_
  intro i hi hw
  have hoffset : (address + UInt16.ofNat i - address).toNat = i := by
    rw [UInt16.add_comm, UInt16.add_sub_cancel, UInt16.toNat_ofNat']
    omega
  have hstored : words[i]? = some words[i] := List.getElem?_eq_getElem hw
  simp only [span, store, List.getElem_map, List.getElem_range, hoffset, hstored, Option.getD_some]

theorem span_store_other {c : WriteCommand} {count : Nat} (h : c.Spares address count) :
    (m.store c.register c.values).span address count = m.span address count := by
  refine List.map_congr_left ?_
  intro j hj
  have hj' := List.mem_range.mp hj
  have hnone : c.values[(address + UInt16.ofNat j - c.register).toNat]? = none := by
    refine List.getElem?_eq_none (Nat.le_of_not_lt fun hi => h _ hi j hj' ?_)
    rw [UInt16.ofNat_toNat, UInt16.add_comm, UInt16.sub_add_cancel]
  simp only [store, hnone, Option.getD_none]

theorem after_append (m : Registers) (before rest : List Command) :
    m.after (before ++ rest) = (m.after before).after rest := by
  induction before generalizing m with
  | nil => rfl
  | cons c before ih =>
    cases c with
    | read c => exact ih m
    | write c => exact ih _

theorem span_after_other {commands : List Command} {count : Nat}
    (h : ∀ c, .write c ∈ commands → c.Spares address count) :
    (m.after commands).span address count = m.span address count := by
  induction commands generalizing m with
  | nil => rfl
  | cons c rest ih =>
    have hrest : ∀ d, .write d ∈ rest → d.Spares address count :=
      fun d hd => h d (List.mem_cons_of_mem c hd)
    cases c with
    | read c => exact ih hrest
    | write c =>
      have hfirst : c.Spares address count := h c (List.mem_cons_self ..)
      rw [after, ih hrest, span_store_other hfirst]

end Registers

namespace Bench

/-- Every answer comes from a bank, whose registers hold this. -/
def Holds (b : Bench) (m : Registers) : Prop :=
  b.replies = [] ∧ ∃ bank, b.bank = some bank ∧ bank.registers = m

theorem sleepUntil_keeps (b : Bench) (t : TimeSpan) :
    (b.sleepUntil t).replies = b.replies ∧ (b.sleepUntil t).bank = b.bank := by
  unfold sleepUntil
  split
  next => exact ⟨rfl, rfl⟩
  next => exact ⟨rfl, rfl⟩

theorem arrive_eq {b : Bench} (h : b.replies = []) :
    ∃ b', b.arrive = (none, b') ∧ b'.replies = [] ∧ b'.bank = b.bank := by
  obtain ⟨hreplies, hbank⟩ := sleepUntil_keeps { b with calls := b.calls + 1 } (b.now.pauseEnd b.delay)
  have hnone := hreplies.trans h
  unfold arrive
  simp only
  split
  next hnil => exact ⟨_, rfl, hnil, hbank⟩
  next hcons => exact absurd (hnone.symm.trans hcons) (List.cons_ne_nil _ _).symm

variable {b : Bench} {m : Registers}

theorem read_run (h : b.Holds m) (register count : UInt16) :
    ∃ b', (client.read register count).run b = (.ok (m.span register count.toNat), b') ∧
      b'.Holds m := by
  obtain ⟨hreplies, bank, hbank, hm⟩ := h
  obtain ⟨b', ha, hreplies', hsame⟩ := arrive_eq hreplies
  have hbank' := hsame.trans hbank
  refine ⟨b', ?_, hreplies', bank, hbank', hm⟩
  simp [client, read, ha, hbank', Bank.read_eq_span, hm]

theorem write_run (h : b.Holds m) (register : UInt16) (values : List UInt16)
    (hlength : values.length ≤ 65536) :
    ∃ b', (client.write register values).run b = (.ok (), b') ∧
      b'.Holds (m.store register values) := by
  obtain ⟨hreplies, bank, hbank, hm⟩ := h
  obtain ⟨b', ha, hreplies', hsame⟩ := arrive_eq hreplies
  have hbank' := hsame.trans hbank
  have hstored : (bank.write register values).registers = m.store register values := by
    rw [Bank.registers_write hlength, hm]
  refine ⟨{ b' with bank := some (bank.write register values) }, ?_, hreplies', _, rfl, hstored⟩
  simp [client, write, ha, hbank']

end Bench

/-- The outcomes of commands, each with what the registers hold after those before it. -/
structure Registers.Performed (m : Registers) (commands : List Command) (outcomes : List Outcome) :
    Prop where
  length : outcomes.length = commands.length
  each : ∀ i c, commands[i]? = some c → ∃ kind, (m.after (commands.take i)).result c = .ok kind ∧
    outcomes[i]? = some ⟨c.name, c.register, kind⟩

theorem Registers.Performed.cons {m : Registers} {c : Command} {kind : OutcomeKind}
    {commands : List Command} {outcomes : List Outcome} (first : m.result c = .ok kind)
    (others : (m.after [c]).Performed commands outcomes) :
    m.Performed (c :: commands) (⟨c.name, c.register, kind⟩ :: outcomes) := by
  refine ⟨by simp [others.length], ?_⟩
  intro i d hd
  cases i with
  | zero =>
    cases Option.some.inj hd
    exact ⟨kind, first, rfl⟩
  | succ i =>
    obtain ⟨k, hk, ho⟩ := others.each i d hd
    refine ⟨k, ?_, ho⟩
    have happ : m.after ((c :: commands).take (i + 1)) = (m.after [c]).after (commands.take i) :=
      m.after_append [c] _
    rw [happ, hk]

/-- Why a command has no outcome: a stop precedes it, or it does not decode what the registers hold. -/
inductive Registers.Fails (m : Registers) (seesStop : Bool) (c : Command) : CycleError → Prop
  | interrupted (sees : seesStop) : Fails m seesStop c (.interrupted c.name)
  | undecoded {cause : DecodeError} (rejected : m.result c = .error cause) :
      Fails m seesStop c (.decode c.name cause)

/-- How a run ends behind commands with outcomes, given the commands that are left: there are none, or the first fails. -/
inductive Registers.Ends (m : Registers) (seesStop : Bool) (category : Category) (outcomes : List Outcome)
    (elapsed : TimeSpan) : List Command → CycleResult → Prop
  | through : Ends m seesStop category outcomes elapsed [] (.ok ⟨category, outcomes, elapsed⟩)
  | failed {c : Command} {more : List Command} {e : CycleError} (why : m.Fails seesStop c e) :
      Ends m seesStop category outcomes elapsed (c :: more) (.error ⟨category, outcomes, elapsed, e⟩)

section Runs

variable {registry : Registry} {seesStop : Bool} {b b' : Bench} {m : Registers}

theorem Registers.Performed.outcome {done rest before behind : List Command} {c : Command} {outcomes : List Outcome}
    {kind : OutcomeKind} (h : m.Performed done outcomes) (split : done ++ rest = before ++ c :: behind)
    (result : (m.after before).result c = .ok kind) (hlt : before.length < outcomes.length) :
    outcomes[before.length]? = some ⟨c.name, c.register, kind⟩ := by
  have hdone : before.length < done.length := h.length ▸ hlt
  have hcommand : done[before.length]? = some c := by
    rw [← List.getElem?_append_left hdone, split, List.getElem?_append_right (Nat.le_refl _), Nat.sub_self]
    rfl
  have htake : done.take before.length = before := by
    rw [← List.take_append_of_le_length (Nat.le_of_lt hdone), split, List.take_left]
  obtain ⟨kind', hkind, hout⟩ := h.each before.length c hcommand
  rw [htake, result] at hkind
  cases hkind
  exact hout

theorem Registers.Ends.interrupted {done rest before behind : List Command} {c : Command} {category : Category}
    {outcomes : List Outcome} {elapsed : TimeSpan} {ending : CycleResult} {kind : OutcomeKind}
    (h : (m.after done).Ends seesStop category outcomes elapsed rest ending)
    (split : done ++ rest = before ++ c :: behind) (result : (m.after before).result c = .ok kind)
    (hlength : before.length = done.length) :
    ending = .error ⟨category, outcomes, elapsed, .interrupted c.name⟩ := by
  obtain ⟨hdone, hrest⟩ := List.append_inj split hlength.symm
  subst hdone
  cases h with
  | through => cases hrest
  | failed why =>
    cases hrest
    cases why with
    | interrupted => rfl
    | undecoded rejected =>
      rw [result] at rejected
      cases rejected

theorem decode_span (c : ReadCommand) (m : Registers) :
    (c.decode (m.span c.register c.count.toNat)).map .read = m.result (.read c) := by
  simp [ReadCommand.decode, Registers.result]

theorem token_seen {stop : Bool} (h : (Bench.executor registry seesStop).stopped.run b = (stop, b')) :
    b' = b ∧ (stop → seesStop) := by
  cases h
  refine ⟨rfl, ?_⟩
  simp +contextual

theorem benchStep_outcome {c : Command} {calls : List Call} {outcome : Outcome}
    (h : CommandStep Bench.client (Bench.executor registry seesStop).stopped b c calls (.ok outcome) b')
    (hb : b.Holds m) (sound : c.defect? = none) :
    b'.Holds (m.after [c]) ∧
      ∃ kind, m.result c = .ok kind ∧ outcome = ⟨c.name, c.register, kind⟩ := by
  cases h with
  | @read _ _ c words value token reply decoded =>
    obtain ⟨hsame, _⟩ := token_seen token
    subst hsame
    obtain ⟨b₂, hrun, hb₂⟩ := Bench.read_run hb c.register c.count
    obtain ⟨hwords, hworld⟩ := Prod.mk.inj (hrun.symm.trans reply)
    cases hwords
    subst hworld
    refine ⟨hb₂, .read value, ?_, rfl⟩
    rw [← decode_span, decoded]
    rfl
  | @wrote _ _ c token reply =>
    obtain ⟨hsame, _⟩ := token_seen token
    subst hsame
    have hshort := WriteCommand.length_le sound
    simp only [maxRegisters] at hshort
    obtain ⟨b₂, hrun, hb₂⟩ := Bench.write_run hb c.register c.values (by omega)
    obtain ⟨_, hworld⟩ := Prod.mk.inj (hrun.symm.trans reply)
    subst hworld
    exact ⟨hb₂, .wrote c.values, rfl, rfl⟩

theorem benchStep_failure {c : Command} {calls : List Call} {e : CycleError}
    (h : CommandStep Bench.client (Bench.executor registry seesStop).stopped b c calls (.error e) b')
    (hb : b.Holds m) (sound : c.defect? = none) :
    b'.Holds m ∧ m.Fails seesStop c e := by
  cases h with
  | interrupted token =>
    obtain ⟨hsame, hsees⟩ := token_seen token
    subst hsame
    exact ⟨hb, .interrupted (hsees rfl)⟩
  | @unread _ _ c cause token reply =>
    obtain ⟨hsame, _⟩ := token_seen token
    subst hsame
    obtain ⟨b₂, hrun, _⟩ := Bench.read_run hb c.register c.count
    obtain ⟨hwords, _⟩ := Prod.mk.inj (hrun.symm.trans reply)
    cases hwords
  | @undecoded _ _ c words cause token reply rejected =>
    obtain ⟨hsame, _⟩ := token_seen token
    subst hsame
    obtain ⟨b₂, hrun, hb₂⟩ := Bench.read_run hb c.register c.count
    obtain ⟨hwords, hworld⟩ := Prod.mk.inj (hrun.symm.trans reply)
    cases hwords
    subst hworld
    refine ⟨hb₂, .undecoded ?_⟩
    rw [← decode_span, rejected]
    rfl
  | @unwritten _ _ c cause token reply =>
    obtain ⟨hsame, _⟩ := token_seen token
    subst hsame
    have hshort := WriteCommand.length_le sound
    simp only [maxRegisters] at hshort
    obtain ⟨b₂, hrun, _⟩ := Bench.write_run hb c.register c.values (by omega)
    obtain ⟨hdone, _⟩ := Prod.mk.inj (hrun.symm.trans reply)
    cases hdone

theorem bench_completes {commands : List Command} {outcomes : List Outcome}
    (h : Completes Bench.client (Bench.executor registry seesStop).stopped b commands outcomes b')
    (hb : b.Holds m) (sound : ∀ c ∈ commands, c.defect? = none) :
    b'.Holds (m.after commands) ∧ m.Performed commands outcomes := by
  induction h generalizing m with
  | nil => exact ⟨hb, rfl, by simp⟩
  | @cons _ _ _ c rest _ _ first _ ih =>
    obtain ⟨hb₁, kind, hkind, hout⟩ := benchStep_outcome first hb (sound c (List.mem_cons_self ..))
    obtain ⟨hb', hothers⟩ := ih hb₁ fun d hd => sound d (List.mem_cons_of_mem c hd)
    subst hout
    refine ⟨?_, .cons hkind hothers⟩
    have happ : m.after (c :: rest) = (m.after [c]).after rest := m.after_append [c] rest
    rwa [happ]

theorem decode_raw {words : List UInt16} (h : words ≠ []) :
    (⟨.raw, []⟩ : Decoder).decode words = .ok (.bytes (bytesOfWords words)) := by
  have hlength : words.length ≠ 0 := by simpa using h
  simp [Decoder.decode, Encoding.checkSize, Encoding.words, Encoding.read, hlength]
  rfl

/-- What a write has stored is read back behind commands that spare it. -/
theorem result_readBack {w : WriteCommand} {r : ReadCommand} (before : List Command) {between : List Command}
    (sound : (Command.write w).defect? = none) (register : r.register = w.register)
    (count : r.count.toNat = w.values.length) (decoder : r.decoder = ⟨.raw, []⟩)
    (spared : ∀ c, .write c ∈ between → c.Spares w.register w.values.length) :
    (m.after (before ++ .write w :: between)).result (.read r) =
      .ok (.read (.bytes (bytesOfWords w.values))) := by
  have hshort := WriteCommand.length_le sound
  simp only [maxRegisters] at hshort
  have hne : w.values ≠ [] := by
    intro he
    simp [Command.defect?, he] at sound
  have hspan : (m.after (before ++ .write w :: between)).span r.register r.count.toNat = w.values := by
    rw [m.after_append, register, count, Registers.after, Registers.span_after_other spared,
      Registers.span_store (by omega)]
  rw [Registers.result, hspan, decoder, decode_raw hne]
  rfl

theorem bench_run (registry : Registry) (seesStop : Bool) (plan : Plan) (hb : b.Holds m) :
    ∃ done rest outcomes elapsed result b', plan.commands = done ++ rest ∧
      ((Bench.executor registry seesStop).execute plan Bench.client).run b = (result, b') ∧
      b'.Holds (m.after done) ∧ m.Performed done outcomes ∧
      (m.after done).Ends seesStop plan.category outcomes elapsed rest result := by
  rcases execute_run (Bench.executor registry seesStop) Bench.client plan b with
    ⟨outcomes, elapsed, b₁, hc, hrun⟩ |
    ⟨before, c, more, outcomes, elapsed, b₁, calls, e, b₂, he, hbefore, hc, hrun⟩
  · obtain ⟨hb₁, hper⟩ := bench_completes hc hb plan.sound
    exact ⟨plan.commands, [], outcomes, elapsed, _, b₁, (List.append_nil _).symm, hrun, hb₁, hper, .through⟩
  · have hsound : ∀ d ∈ before ++ c :: more, d.defect? = none := he ▸ plan.sound
    obtain ⟨hb₁, hper⟩ := bench_completes hbefore hb fun d hd => hsound d (by simp [hd])
    obtain ⟨hb₂, why⟩ := benchStep_failure hc hb₁ (hsound c (by simp))
    exact ⟨before, c :: more, outcomes, elapsed, _, b₂, he, hrun, hb₂, hper, .failed why⟩

end Runs

/--
A plan that is run against a bank, whenever the token tells to stop. The commands done are those up to the end
of the plan or up to a command that a stop precedes or whose registers hold nothing that it decodes. The outcome
of each of them is what it makes of the registers as the writes before it have left them, and in the end the
registers are as the writes done have left them. A write that no other one has touched since is read back as the
bytes of its words.
-/
theorem bench_cycle (registry : Registry) (seesStop : Bool) (plan : Plan) (b : Bench) (bank : Bank) :
    let start : Bench := { b with replies := [], bank := some bank }
    let run := ((Bench.executor registry seesStop).execute plan Bench.client).run start
    ∃ done rest outcomes elapsed bank', plan.commands = done ++ rest ∧
      run.2.bank = some bank' ∧ bank'.registers = bank.registers.after done ∧
      bank.registers.Performed done outcomes ∧
      (bank.registers.after done).Ends seesStop plan.category outcomes elapsed rest run.1 ∧
      ∀ before w between r behind,
        plan.commands = before ++ .write w :: between ++ .read r :: behind →
        r.register = w.register → r.count.toNat = w.values.length → r.decoder = ⟨.raw, []⟩ →
        (∀ c, .write c ∈ between → c.Spares w.register w.values.length) →
        let i := (before ++ .write w :: between).length
        (i < outcomes.length →
          outcomes[i]? = some ⟨r.name, r.register, .read (.bytes (bytesOfWords w.values))⟩) ∧
        (i = outcomes.length → run.1 = .error ⟨plan.category, outcomes, elapsed, .interrupted r.name⟩) := by
  intro start run
  have hstart : start.Holds bank.registers := ⟨rfl, bank, rfl, rfl⟩
  obtain ⟨done, rest, outcomes, elapsed, result, b', he, hrun, ⟨_, bank', hbank', hregisters⟩, hper, hends⟩ :=
    bench_run registry seesStop plan hstart
  have hresult : run = (result, b') := hrun
  rw [hresult]
  refine ⟨done, rest, outcomes, elapsed, bank', he, hbank', hregisters, hper, hends, ?_⟩
  intro before w between r behind hcut hregister hcount hdecoder hspared i
  have hw : (Command.write w).defect? = none := plan.sound _ (by simp [hcut])
  have hback := result_readBack (m := bank.registers) before hw hregister hcount hdecoder hspared
  have hsplit : done ++ rest = (before ++ .write w :: between) ++ .read r :: behind := he.symm.trans hcut
  constructor
  · intro hlt
    exact hper.outcome hsplit hback hlt
  · intro heq
    exact hends.interrupted hsplit hback (heq.trans hper.length)

end MeterPolling
