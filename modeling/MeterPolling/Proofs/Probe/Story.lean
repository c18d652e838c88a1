import MeterPolling.Probe
import MeterPolling.Proofs.Output.Delivery
import MeterPolling.Proofs.Output.NumberText

namespace MeterPolling.Probe

/-- What is told of one command, or of the failure that ended a cycle. -/
inductive Told where
  | outcome (cycle : Nat) (o : Outcome)
  | failure (cycle : Nat) (e : CycleError)

def told (cycle : Nat) : CycleResult → List Told
  | .ok c => c.outcomes.map (.outcome cycle)
  | .error a => a.completed.map (.outcome cycle) ++ [.failure cycle a.error]

def story (first : Nat) : List CycleResult → List Told
  | [] => []
  | result :: rest => told first result ++ story (first + 1) rest

def tellings : List CycleResult → Nat
  | [] => 0
  | .ok c :: rest => c.outcomes.length + tellings rest
  | .error a :: rest => a.completed.length + 1 + tellings rest

theorem story_length (first : Nat) (results : List CycleResult) : (story first results).length = tellings results := by
  induction results generalizing first with
  | nil => rfl
  | cons result rest ih =>
    have hrest := ih (first + 1)
    cases result with
    | ok c => simp [story, told, tellings, hrest]
    | error a =>
      simp only [story, told, tellings, List.length_append, List.length_map, List.length_singleton, hrest]

/-- An error and each of its causes, with a colon in front of every cause. -/
def causeText (chain : List String) : String :=
  chain.headD "" ++ String.join (chain.tail.map (": " ++ ·))

namespace Told

def cycle : Told → Nat
  | .outcome cycle _ | .failure cycle _ => cycle

def command? : Told → Option String
  | .outcome _ o => some o.name
  | .failure _ e => e.command?

def register? : Told → Option UInt16
  | .outcome _ o => some o.register
  | .failure _ _ => none

def message? : Told → Option String
  | .outcome _ _ => none
  | .failure _ e => some (causeText e.chain)

/-- An object and a row tell of it, and so agree with each other. -/
structure Tells (t : Told) (members : List (String × Json)) (row : List (List Char)) : Prop where
  keys : (members.map Prod.fst).Nodup
  cells : row.length = 4
  cycle : members.lookup "cycle" = some (.int t.cycle) ∧ row[0]? = some (toString t.cycle).toList
  name : members.lookup "name" = some ((t.command?.map Json.string).getD .null) ∧
    row[1]? = some (t.command?.getD "").toList
  register : members.lookup "register" = t.register?.map (fun r => .int r.toNat) ∧
    row[2]? = some ((t.register?.map registerText).getD "").toList
  outcome : ∀ c o, t = .outcome c o →
    members.lookup o.kind.member.1 = some o.kind.member.2.asRead ∧ row[3]? = some o.kind.display.toList
  error : members.lookup "error" = t.message?.map .string
  failure : ∀ message, members.lookup "error" = some (.string message) ↔
    row[2]? = some [] ∧ row[3]? = some ("error: " ++ message).toList

def entry : Told → Entry
  | .outcome cycle o => outcomeEntry cycle o
  | .failure cycle e => failureEntry cycle e

def members : Told → List (String × Json)
  | .outcome cycle o =>
    [("cycle", .int cycle), ("name", .string o.name), ("register", .int o.register.toNat),
      (o.kind.member.1, o.kind.member.2.asRead)]
  | .failure cycle e =>
    [("cycle", .int cycle), ("name", (e.command?.map Json.string).getD .null),
      ("error", .string (joinCauses e.chain))]

def row (t : Told) : List (List Char) := t.entry.row.map String.toList

end Told

theorem entries_eq (cycle : Nat) (result : CycleResult) : entries cycle result = (told cycle result).map Told.entry := by
  cases result with
  | ok c => simp [entries, told, Told.entry]
  | error a => simp [entries, told, Told.entry]

theorem intercalate_cons (separator message : List Char) (causes : List (List Char)) :
    separator.intercalate (message :: causes) = message ++ causes.flatMap (separator ++ ·) := by
  induction causes generalizing message with
  | nil => simp [List.intercalate]
  | cons cause rest ih =>
    have hrest := ih cause
    simp only [List.intercalate] at hrest ⊢
    simp [List.intersperse, hrest]

theorem joinCauses_eq (chain : List String) : joinCauses chain = causeText chain := by
  cases chain with
  | nil => rfl
  | cons message causes =>
    apply String.toList_injective
    have hcolon : ": ".toList = [':', ' '] := rfl
    simp [joinCauses, causeText, hcolon, intercalate_cons, List.flatMap_map]

namespace Told

theorem registerText_ne_nil (register : UInt16) : (registerText register).toList ≠ [] := by
  simp [registerText]

theorem tells (t : Told) : t.Tells t.members t.row := by
  cases t with
  | outcome c o =>
    obtain ⟨name, register, kind⟩ := o
    have hkeys : ((outcome c ⟨name, register, kind⟩).members.map Prod.fst).Nodup := by
      cases kind with
      | read value => simp [members, OutcomeKind.member]
      | wrote values => simp [members, OutcomeKind.member]
    have hkind : (outcome c ⟨name, register, kind⟩).members.lookup kind.member.1 = some kind.member.2.asRead := by
      cases kind with
      | read value => rfl
      | wrote values => rfl
    have herror : (outcome c ⟨name, register, kind⟩).members.lookup "error" = none := by
      cases kind with
      | read value => rfl
      | wrote values => rfl
    refine ⟨hkeys, rfl, ⟨rfl, rfl⟩, ⟨rfl, rfl⟩, ⟨rfl, rfl⟩, ?_, herror, ?_⟩
    · rintro c o ⟨⟩
      exact ⟨hkind, rfl⟩
    · intro message
      rw [herror]
      constructor
      · intro h
        cases h
      · rintro ⟨hempty, _⟩
        have hcell : (outcome c ⟨name, register, kind⟩).row[2]? = some (registerText register).toList := rfl
        rw [hcell] at hempty
        exact absurd (Option.some.inj hempty) (registerText_ne_nil register)
  | failure c e =>
    have herror : (failure c e).members.lookup "error" = some (.string (joinCauses e.chain)) := rfl
    have hvalue : (failure c e).row[3]? = some ("error: " ++ joinCauses e.chain).toList := rfl
    refine ⟨by simp [members], rfl, ⟨rfl, rfl⟩, ⟨rfl, rfl⟩, ⟨rfl, rfl⟩, by rintro _ _ ⟨⟩, ?_, ?_⟩
    · rw [herror, joinCauses_eq]
      rfl
    · intro message
      rw [herror, hvalue]
      constructor
      · intro h
        cases h
        exact ⟨rfl, rfl⟩
      · rintro ⟨_, h⟩
        have hsame : (joinCauses e.chain).toList = message.toList := by
          simpa using h
        rw [String.toList_injective hsame]

end Told

theorem record_readable (t : Told) :
    t.entry.record.chars = (Json.object t.members).chars ∧ Json.Readable (.object t.members) := by
  cases t with
  | outcome c o =>
    have hkind : o.kind.member.2.asRead.chars = o.kind.member.2.chars ∧ Json.Readable o.kind.member.2.asRead := by
      cases o.kind with
      | read value => exact value.json_readable
      | wrote values =>
        refine ⟨rfl, .array ?_⟩
        intro j hj
        obtain ⟨w, _, rfl⟩ := List.mem_map.mp hj
        exact .int w.toNat
    constructor
    · simp [Told.entry, outcomeEntry, Outcome.members, Told.members, Json.chars, Json.memberChars, hkind.1]
    · refine .object ?_
      simp only [Told.members, List.forall_mem_cons, List.not_mem_nil, false_implies, implies_true, and_true]
      exact ⟨.int _, .string _, .int _, hkind.2⟩
  | failure c e =>
    refine ⟨rfl, .object ?_⟩
    simp only [Told.members, List.forall_mem_cons, List.not_mem_nil, false_implies, implies_true, and_true]
    refine ⟨.int _, ?_, .string _⟩
    cases e.command? with
    | none => exact .null
    | some name => exact .string name

theorem record_printable (t : Told) : Json.Printable t.entry.record.chars := by
  obtain ⟨hchars, hreadable⟩ := record_readable t
  rw [hchars]
  exact Json.printable_chars hreadable

theorem record_read (t : Told) : Json.read? t.entry.record.chars = some (.object t.members) := by
  obtain ⟨hchars, hreadable⟩ := record_readable t
  rw [hchars]
  exact Json.read?_chars hreadable

section Reports

variable {m : Type → Type} [Monad m]

def reports (o : Output m) : List CycleResult → StateT Nat (StateT Formatter m) (Except OutputFailure Unit)
  | [] => return .ok ()
  | result :: rest => do
    match ← report o result with
    | .error failure => return .error failure
    | .ok () => reports o rest

def account (o : Output m) (results : List CycleResult) : StateT Formatter m (Except OutputFailure Unit) := do
  match ← o.headers headers with
  | .error failure => return .error failure
  | .ok () =>
    match ← (reports o results).run' 0 with
    | .error failure => return .error failure
    | .ok () => o.flush

end Reports

section Sink

variable {σ α β : Type} {sink : Sink (StateM σ)} {k : Intake sink} {f : Formatter} {text : Entry → List Char}

theorem entries_cells (cycle : Nat) (result : CycleResult) : ∀ e ∈ entries cycle result, 2 ≤ e.row.length := by
  rw [entries_eq]
  intro e he
  obtain ⟨t, _, rfl⟩ := List.mem_map.mp he
  have hfour : t.entry.row.length = 4 := by
    cases t with
    | outcome cycle o => rfl
    | failure cycle e => rfl
  omega

theorem report_delivered (h : f.Streams text) (path : Option String) (n : Nat) (result : CycleResult) :
    k.Delivers (report ⟨sink, path⟩ result n f) ((.ok (), n + 1), f)
      ((told (n + 1) result).flatMap fun t => text t.entry) := by
  have hwrite : k.Delivers (write ⟨sink, path⟩ (n + 1) result f) (.ok (), f)
      ((entries (n + 1) result).flatMap text ++ []) := by
    unfold write
    exact .bind_state (Output.results_delivered h path (entries_cells _ _)) (Output.flush_delivered h path)
  have hrun : report ⟨sink, path⟩ result n f =
      write ⟨sink, path⟩ (n + 1) result f >>= fun r => pure ((r.1, n + 1), r.2) := rfl
  have hboth : k.Delivers (write ⟨sink, path⟩ (n + 1) result f >>= fun r => pure ((r.1, n + 1), r.2))
      ((.ok (), n + 1), f) ((entries (n + 1) result).flatMap text ++ [] ++ []) := hwrite.bind (.pure _)
  rw [List.append_nil, List.append_nil, entries_eq, List.flatMap_map] at hboth
  rw [hrun]
  exact hboth

theorem reports_delivered (h : f.Streams text) (path : Option String) (n : Nat) (results : List CycleResult) :
    k.Delivers (reports ⟨sink, path⟩ results n f) ((.ok (), n + results.length), f)
      ((story (n + 1) results).flatMap fun t => text t.entry) := by
  induction results generalizing n with
  | nil => exact .pure _
  | cons result rest ih =>
    have hfirst := report_delivered (k := k) h path n result
    have hrest := ih (n + 1)
    have hcount : n + 1 + rest.length = n + (result :: rest).length := by
      rw [List.length_cons]
      omega
    rw [hcount] at hrest
    rw [story, List.flatMap_append]
    unfold reports
    exact .bind_states hfirst hrest

theorem account_delivered {format : OutputFormat} {pieces : List Piece}
    (hheaders : (Formatter.new format).headers headers = (⟨pieces, none⟩, f)) (h : f.Streams text)
    (path : Option String) (results : List CycleResult) {s : σ} (hs : k.fine s) :
    ∃ t, (account ⟨sink, path⟩ results).run' (.new format) s = (.ok (), t) ∧
      k.written t = k.taken s ++ (piecesChars pieces ++ (story 1 results).flatMap fun t => text t.entry) := by
  have hfirst := Output.headers_delivered (k := k) hheaders path
  have hcounted : k.Delivers (reports ⟨sink, path⟩ results 0 f >>= fun r => pure (r.1.1, r.2)) (.ok (), f)
      (((story 1 results).flatMap fun t => text t.entry) ++ []) :=
    (reports_delivered h path 0 results).bind (.pure _)
  have hreports : k.Delivers ((reports ⟨sink, path⟩ results).run' 0 f) (.ok (), f)
      (((story 1 results).flatMap fun t => text t.entry) ++ []) := hcounted
  have hall : k.Delivers (account ⟨sink, path⟩ results (Formatter.new format)) (.ok (), f)
      (piecesChars pieces ++ ((((story 1 results).flatMap fun t => text t.entry) ++ []) ++ [])) := by
    unfold account
    exact .bind_state hfirst <| .bind_state hreports (Output.flush_delivered h path)
  have hsettles : k.Settles (account ⟨sink, path⟩ results (Formatter.new format)) := by
    unfold account
    exact .bind_state hfirst <| .bind_state hreports (Output.flush_settles h.flush path)
  obtain ⟨t, hrun, _, htaken⟩ := hall s hs
  have hrun' : (account ⟨sink, path⟩ results).run' (.new format) s = (.ok (), t) := by
    calc (account ⟨sink, path⟩ results).run' (.new format) s =
          ((account ⟨sink, path⟩ results (.new format) s).1.1, (account ⟨sink, path⟩ results (.new format) s).2) := rfl
      _ = (.ok (), t) := by rw [hrun]
  refine ⟨t, hrun', ?_⟩
  have hwritten := hsettles s hs
  rw [hrun] at hwritten
  rw [hwritten, htaken, List.append_nil, List.append_nil]

theorem account_lines (k : Intake sink) (path : Option String) (results : List CycleResult) {s : σ} (hs : k.fine s)
    (hnew : k.taken s = []) :
    ∃ t, (account ⟨sink, path⟩ results).run' (.new .jsonl) s = (.ok (), t) ∧
      Text.split '\n' (k.written t) = (story 1 results).map (fun t => t.entry.record.chars) ++ [[]] := by
  have hheaders : (Formatter.new .jsonl : Formatter).headers headers = (⟨[], none⟩, .jsonl) := rfl
  obtain ⟨t, hrun, hwritten⟩ := account_delivered hheaders Formatter.jsonl_streams path results hs
  have hlines : k.written t = ((story 1 results).map fun t => t.entry.record.chars).flatMap (· ++ ['\n']) := by
    rw [hwritten, hnew, List.flatMap_map]
    rfl
  refine ⟨t, hrun, ?_⟩
  rw [hlines]
  refine Json.split_lines ?_
  intro line hline
  obtain ⟨t, _, rfl⟩ := List.mem_map.mp hline
  exact record_printable t

theorem account_rows (k : Intake sink) (path : Option String) (results : List CycleResult) {s : σ} (hs : k.fine s)
    (hnew : k.taken s = []) :
    ∃ t, (account ⟨sink, path⟩ results).run' (.new .csv) s = (.ok (), t) ∧
      Csv.parse? (k.written t) = some (headers.map String.toList :: (story 1 results).map Told.row) := by
  have hwide : 2 ≤ headers.length := by decide
  obtain ⟨pieces, hrow, hheader⟩ := Formatter.csvRow_pieces hwide
  have hheaders : (Formatter.new .csv : Formatter).headers headers = (⟨pieces, none⟩, .csv true) := by
    rw [Formatter.new, Formatter.headers, hrow]
  obtain ⟨t, hrun, hwritten⟩ := account_delivered hheaders Formatter.csv_streams path results hs
  have hrows : k.written t =
      (headers.map String.toList :: (story 1 results).map Told.row).flatMap Csv.rowChars := by
    rw [hwritten, hnew, hheader, List.flatMap_cons, List.flatMap_map]
    rfl
  refine ⟨t, hrun, ?_⟩
  rw [hrows]
  refine Csv.parse?_rowChars _ ?_
  intro row hrow
  rcases List.mem_cons.mp hrow with he | hrow
  · rw [he]
    decide
  · obtain ⟨t, _, rfl⟩ := List.mem_map.mp hrow
    have hcells := t.tells.cells
    omega

end Sink

end MeterPolling.Probe

namespace MeterPolling

open Probe

/--
Where no write is refused, the lines of JSON and the rows of comma separated values behind the header are as many as
there are outcomes and aborted cycles. In both, each of them tells of the same outcome or failure.
-/
theorem formats_agree {σ : Type} {sink : Sink (StateM σ)} (k : Intake sink) (path : Option String)
    (results : List CycleResult) {s : σ} (hs : k.fine s) (hnew : k.taken s = []) :
    ∃ (lines : List (List Char)) (rows : List (List (List Char))) (s₁ s₂ : σ),
      (account ⟨sink, path⟩ results).run' (.new .jsonl) s = (.ok (), s₁) ∧
      Text.split '\n' (k.written s₁) = lines ++ [[]] ∧
      (account ⟨sink, path⟩ results).run' (.new .csv) s = (.ok (), s₂) ∧
      Csv.parse? (k.written s₂) = some (headers.map String.toList :: rows) ∧
      lines.length = tellings results ∧ rows.length = lines.length ∧
      (story 1 results).length = lines.length ∧ (∀ line ∈ lines, Json.Printable line) ∧
      ∀ (i : Nat) (t : Told), (story 1 results)[i]? = some t →
        ∃ line row members, lines[i]? = some line ∧ rows[i]? = some row ∧
          Json.read? line = some (.object members) ∧ t.Tells members row := by
  obtain ⟨s₁, hrun₁, hsplit⟩ := account_lines k path results hs hnew
  obtain ⟨s₂, hrun₂, hparse⟩ := account_rows k path results hs hnew
  refine ⟨_, _, s₁, s₂, hrun₁, hsplit, hrun₂, hparse, ?_, ?_, ?_, ?_, ?_⟩
  · rw [List.length_map, story_length]
  · rw [List.length_map, List.length_map]
  · rw [List.length_map]
  · intro line hline
    obtain ⟨t, _, rfl⟩ := List.mem_map.mp hline
    exact record_printable t
  · intro i t ht
    refine ⟨t.entry.record.chars, t.row, t.members, ?_, ?_, record_read t, t.tells⟩
    · rw [List.getElem?_map, ht]
      rfl
    · rw [List.getElem?_map, ht]
      rfl

/-- A reading that holds quotes, a comma and a line feed, and a cycle that is aborted behind its first command. -/
theorem formats_agree_terminal :
    let terminal : Medium := { holds := some Medium.terminalHolds }
    let results : List CycleResult := [
      .ok ⟨.abb, [⟨"serial", 0x8900, .read (.text "a\"b\",\nc")⟩], .zero⟩,
      .error ⟨.schneider, [⟨"set tariff", 2007, .wrote [4]⟩], .zero, .decode "tariff" .notAscii⟩]
    Medium.intake.fine terminal ∧ Medium.intake.taken terminal = [] ∧
      ∃ (lines : List (List Char)) (rows : List (List (List Char))) (s₁ s₂ : Medium),
        (account ⟨Medium.sink, none⟩ results).run' (.new .jsonl) terminal = (.ok (), s₁) ∧
        Text.split '\n' s₁.written.toList = lines ++ [[]] ∧
        (account ⟨Medium.sink, none⟩ results).run' (.new .csv) terminal = (.ok (), s₂) ∧
        Csv.parse? s₂.written.toList = some (headers.map String.toList :: rows) ∧
        lines.length = 3 ∧ rows.length = 3 ∧
        ∃ line row members, lines[2]? = some line ∧ rows[2]? = some row ∧
          Json.read? line = some (.object members) ∧
          (Told.failure 2 (.decode "tariff" .notAscii)).Tells members row := by
  intro terminal results
  have hfine : Medium.intake.fine terminal := ⟨rfl, by rintro ⟨⟩⟩
  have hnew : Medium.intake.taken terminal = [] := rfl
  refine ⟨hfine, hnew, ?_⟩
  obtain ⟨lines, rows, s₁, s₂, hjson, hsplit, hcsv, hparse, hcount, hrows, _, _, htells⟩ :=
    formats_agree Medium.intake none results hfine hnew
  have hthree : lines.length = 3 := hcount
  exact ⟨lines, rows, s₁, s₂, hjson, hsplit, hcsv, hparse, hthree, hrows.trans hthree, htells 2 _ rfl⟩

end MeterPolling
