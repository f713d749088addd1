import RecordFarm.Proofs.File.Parsing
import RecordFarm.Proofs.File.Writing

/-!
# A writer keeps account of what it has written

Until a write fails a writer has put on its stream the records of the messages that it accepted,
and nothing else, and it has counted them (`RecordWriter.Accounts`). Messages that it refuses or
skips leave no trace. When a write fails, the records that were counted stand on the stream, and
behind them a part of the next one, but not all of it (`RecordWriter.BreaksOff`). When that is, is
told by the limit of the stream and the lengths of the records alone (`writing_accounted`).
-/

namespace RecordFarm

namespace Record

/-- A row of whole records is parsed as just these. -/
theorem parsed_flatten {records : List Bytes} (whole : ∀ r ∈ records, isWhole r = true) :
    Parsed records.flatten records [] := by
  induction records with
  | nil => exact parsed_nil
  | cons r rs ih =>
    obtain ⟨hr, hrs⟩ := List.forall_mem_cons.1 whole
    exact (ih hrs).cons hr

end Record

namespace RecordWriter

open OutStream (Fits Spent limit?)

def after (w : RecordWriter) (messages : List Message) : RecordWriter :=
  messages.foldl (fun w m => (w.send m).2) w

def accepted (w : RecordWriter) : List Message → List Bytes
  | [] => []
  | m :: rest =>
    (match (w.send m).1 with
      | .ok () => m.content
      | .error _ => []) ++ (w.send m).2.accepted rest

/-- A write fails when this message is sent: its records are known, and yet it is answered by an
error. -/
def Breaks (w : RecordWriter) (m : Message) : Prop :=
  m.Carries ∧ ∃ cause, (w.send m).1 = .error cause

def Unbroken (w : RecordWriter) (messages : List Message) : Prop :=
  ∀ earlier m later, messages = earlier ++ m :: later → ¬ (w.after earlier).Breaks m

/-- The writer has written these records and has counted them. -/
structure Accounts (w : RecordWriter) (records : List Bytes) : Prop where
  written : w.out.written = records.flatten
  /-- What was written is a file of just these records. -/
  parsed : Record.Parsed w.out.written records []
  recordsWritten : w.recordsWritten = records.length
  bytesWritten : w.bytesWritten = records.flatten.length

/-- The writer had written these records and then met the failure `text` when it was sent the
message: some records of the message were still written, and of the next one the beginning. -/
structure BreaksOff (records : List Bytes) (m : Message) (text : String)
    (x : Except Error Unit × RecordWriter) (done : List Bytes) (next part : Bytes)
    (rest : List Bytes) : Prop where
  answer : x.1 = .error (.stream text)
  content : m.content = done ++ next :: rest
  written : x.2.out.written = (records ++ done).flatten ++ part
  starts : part <+: next
  strict : part ≠ next
  recordsWritten : x.2.recordsWritten = (records ++ done).length
  bytesWritten : x.2.bytesWritten = (records ++ done).flatten.length

variable {w : RecordWriter} {m : Message} {records : List Bytes} {text : String} {left : Nat}

/-! ## One message -/

/-- A message that is no `process` message leaves the writer as it is. -/
theorem send_of_ne_process (hkind : m.kind ≠ .process) : (w.send m).2 = w := by
  unfold send
  cases h : m.kind with
  | process => exact absurd h hkind
  | _ => rfl

/-- A message whose records cannot be told leaves the writer as it is. -/
theorem send_of_refused {cause : Violation} (hkind : m.kind = .process)
    (h : m.records = .error cause) : w.send m = (.error cause, w) := by
  unfold send
  rw [hkind]
  simp only [h]

/-- A message is written as its records. -/
theorem send_of_carries (hkind : m.kind = .process) (h : m.records = .ok records) :
    w.send m = writeRecords records w := by
  unfold send
  rw [hkind]
  simp only [h]

/-- A message without known records has no content and leaves no trace. -/
theorem send_of_not_carries (h : ¬ m.Carries) : (w.send m).2 = w ∧ m.content = [] := by
  by_cases hkind : m.kind = .process
  · cases hrecords : m.records with
    | error cause =>
      rw [send_of_refused hkind hrecords]
      refine ⟨rfl, ?_⟩
      unfold Message.content
      rw [if_pos hkind, hrecords]
    | ok records => exact absurd ⟨hkind, records, hrecords⟩ h
  · exact ⟨send_of_ne_process hkind, if_neg hkind⟩

theorem whole_content (m : Message) : ∀ r ∈ m.content, Record.isWhole r = true := by
  by_cases carries : m.Carries
  · obtain ⟨hkind, records, hrecords⟩ := carries
    rw [Message.content_of_records hkind hrecords]
    exact Message.isWhole_of_records hrecords
  · rw [(send_of_not_carries (w := { out := {} }) carries).2]
    nofun

/-- Records that fit are written. -/
theorem send_of_fits (carries : m.Carries) (fits : Fits w.out.ahead m.content.flatten.length) :
    ∃ out, w.send m = (.ok (), w.past m.content out) ∧
      out.written = w.out.written ++ m.content.flatten ∧
      Spent w.out.ahead m.content.flatten.length out.ahead := by
  obtain ⟨hkind, records, hrecords⟩ := carries
  rw [Message.content_of_records hkind hrecords] at fits ⊢
  obtain ⟨out, all, written, spent, -⟩ := writeRecords_of_fits records fits
  exact ⟨out, (send_of_carries hkind hrecords).trans all, written, spent⟩

/-- Records that do not fit are written as far as they do. -/
theorem send_of_short (carries : m.Carries) (hlimit : limit? w.out.ahead = some (left, text))
    (short : left < m.content.flatten.length) :
    ∃ done next rest out, m.content = done ++ next :: rest ∧ done.flatten.length ≤ left ∧
      left < done.flatten.length + next.length ∧
      w.send m = (.error (.stream text), w.past done out) ∧
      out.written = w.out.written ++ done.flatten ++ next.take (left - done.flatten.length) := by
  obtain ⟨hkind, records, hrecords⟩ := carries
  rw [Message.content_of_records hkind hrecords] at short ⊢
  rw [send_of_carries hkind hrecords]
  exact writeRecords_of_short records hlimit short

/-- **A write fails if and only if the records do not fit.** -/
theorem breaks_iff : w.Breaks m ↔ m.Carries ∧ ¬ Fits w.out.ahead m.content.flatten.length := by
  refine and_congr_right fun carries => ⟨?_, fun short => ?_⟩
  · rintro ⟨cause, failed⟩ fits
    obtain ⟨out, all, -⟩ := send_of_fits carries fits
    rw [all] at failed
    cases failed
  · obtain ⟨left, text, hlimit, short⟩ := OutStream.not_fits_iff.1 short
    obtain ⟨done, next, rest, out, -, -, -, failed, -⟩ := send_of_short carries hlimit short
    exact ⟨_, congrArg Prod.fst failed⟩

/-! ## A run of messages -/

/-- The writer, which began with this stream before it and nothing written, has written these
records, and there was room for them. -/
structure Level (ahead : List Acceptance) (w : RecordWriter) (records : List Bytes) : Prop where
  written : w.out.written = records.flatten
  whole : ∀ r ∈ records, Record.isWhole r = true
  recordsWritten : w.recordsWritten = records.length
  bytesWritten : w.bytesWritten = records.flatten.length
  fits : Fits ahead records.flatten.length
  spent : Spent ahead records.flatten.length w.out.ahead

/-- A new writer has written no records. -/
theorem Level.start (ahead : List Acceptance) (flushFailure : Option String) :
    Level ahead { out := { ahead, flushFailure } } [] where
  written := rfl
  whole := nofun
  recordsWritten := rfl
  bytesWritten := rfl
  fits := OutStream.fits_zero ahead
  spent := .zero ahead

variable {ahead : List Acceptance}

/-- A writer level with some records accounts for them. -/
theorem Level.accounts (level : Level ahead w records) : Accounts w records where
  written := level.written
  parsed := by
    rw [level.written]
    exact Record.parsed_flatten level.whole
  recordsWritten := level.recordsWritten
  bytesWritten := level.bytesWritten

theorem length_flatten_append (records more : List Bytes) :
    (records ++ more).flatten.length = records.flatten.length + more.flatten.length := by
  rw [List.flatten_append, List.length_append]

/-- **A message in which no write fails keeps the account.** -/
theorem Level.send (level : Level ahead w records) (unbroken : ¬ w.Breaks m) :
    Level ahead (w.send m).2
      (records ++ match (w.send m).1 with
        | .ok () => m.content
        | .error _ => []) := by
  by_cases carries : m.Carries
  · have fits : Fits w.out.ahead m.content.flatten.length :=
      Classical.byContradiction fun short => unbroken (breaks_iff.2 ⟨carries, short⟩)
    obtain ⟨out, all, written, spent⟩ := send_of_fits carries fits
    rw [all]
    exact
      { written := by rw [List.flatten_append, ← level.written]; exact written
        whole := List.forall_mem_append.2 ⟨level.whole, whole_content m⟩
        recordsWritten := by
          rw [List.length_append, ← level.recordsWritten]
          rfl
        bytesWritten := by
          rw [length_flatten_append, ← level.bytesWritten]
          rfl
        fits := by
          rw [length_flatten_append]
          exact (level.spent.fits_iff level.fits).1 fits
        spent := by
          rw [length_flatten_append]
          exact level.spent.trans spent }
  · obtain ⟨same, nothing⟩ := send_of_not_carries (w := w) carries
    have hnothing : (match (w.send m).1 with
        | .ok () => m.content
        | .error _ => []) = [] := by
      split
      · exact nothing
      · rfl
    rw [same, hnothing, List.append_nil]
    exact level

theorem after_cons (w : RecordWriter) (m : Message) (messages : List Message) :
    w.after (m :: messages) = (w.send m).2.after messages := rfl

/-- Messages go through unbroken one after the other. -/
theorem unbroken_cons {messages : List Message} :
    w.Unbroken (m :: messages) ↔ ¬ w.Breaks m ∧ (w.send m).2.Unbroken messages := by
  constructor
  · intro unbroken
    refine ⟨unbroken [] m messages rfl, fun earlier m' later h => ?_⟩
    exact unbroken (m :: earlier) m' later (by rw [h]; rfl)
  · rintro ⟨first, others⟩ earlier m' later h
    cases earlier with
    | nil =>
      obtain ⟨rfl, rfl⟩ := List.cons.inj h
      exact first
    | cons m₀ earlier =>
      obtain ⟨rfl, tail⟩ := List.cons.inj h
      exact others earlier m' later tail

/-- **A run in which no write fails keeps the account.** Induction on the messages. -/
theorem Level.run {messages : List Message} (level : Level ahead w records)
    (unbroken : w.Unbroken messages) :
    Level ahead (w.after messages) (records ++ w.accepted messages) := by
  induction messages generalizing w records with
  | nil =>
    unfold accepted
    rw [List.append_nil]
    exact level
  | cons m rest ih =>
    obtain ⟨first, others⟩ := unbroken_cons.1 unbroken
    rw [after_cons, accepted, ← List.append_assoc]
    exact ih (level.send first) others

/-- A write fails in the next message if and only if there is no room for its records as well. -/
theorem Level.breaks_iff (level : Level ahead w records) :
    w.Breaks m ↔ m.Carries ∧ ∃ left text, limit? ahead = some (left, text) ∧
      left < (records ++ m.content).flatten.length := by
  rw [RecordWriter.breaks_iff, length_flatten_append, ← OutStream.not_fits_iff,
    level.spent.fits_iff level.fits]

/-- What is within the limit when it lies in the record behind these. -/
theorem take_flatten {done rest : List Bytes} {next : Bytes} (enough : done.flatten.length ≤ left)
    (short : left < done.flatten.length + next.length) :
    (done ++ next :: rest).flatten.take left
      = done.flatten ++ next.take (left - done.flatten.length) := by
  rw [List.flatten_append, List.flatten_cons, List.take_append, List.take_of_length_le enough,
    List.take_append_of_le_length (by omega)]

/-- The write that fails breaks the account off. -/
theorem Level.breaksOff (level : Level ahead w records) (carries : m.Carries)
    (hlimit : limit? ahead = some (left, text))
    (short : left < (records ++ m.content).flatten.length) :
    ∃ done next part rest, BreaksOff records m text (w.send m) done next part rest ∧
      (w.send m).2.out.written = (records ++ m.content).flatten.take left := by
  have enough := level.fits left text hlimit
  have hspent : limit? w.out.ahead = some (left - records.flatten.length, text) := by
    rw [level.spent, hlimit]
    rfl
  rw [length_flatten_append] at short
  obtain ⟨done, next, rest, out, hcontent, hdone, hnext, failed, written⟩ :=
    send_of_short carries hspent (by omega)
  have hlength := length_flatten_append records done
  -- The limit lies in the record behind those that were counted.
  have hwritten : out.written = (records ++ done).flatten
      ++ next.take (left - (records ++ done).flatten.length) := by
    rw [hlength, List.flatten_append, ← Nat.sub_sub, written, level.written]
  have hpart : next.take (left - (records ++ done).flatten.length) ≠ next := by
    intro all
    have := congrArg List.length all
    rw [List.length_take] at this
    omega
  rw [failed]
  refine ⟨done, next, _, rest,
    { answer := rfl
      content := hcontent
      written := hwritten
      starts := List.take_prefix _ _
      strict := hpart
      recordsWritten := by
        rw [List.length_append, ← level.recordsWritten]
        rfl
      bytesWritten := by
        rw [hlength, ← level.bytesWritten]
        rfl }, ?_⟩
  rw [hcontent, ← List.append_assoc, take_flatten (by omega) (by omega)]
  exact hwritten

/-- **Writing is accounted exactly, also on failure.** Messages that are no `process` messages, and
those whose records cannot be determined, leave the writer as it is, whatever happened before. As
long as no write has failed, the accepted records are written and counted, and a write fails if and
only if the records of the next message do not fit; then the stream holds all of them that fits,
which is the records counted so far and a strict prefix of the next one. -/
theorem writing_accounted (ahead : List Acceptance) (flushFailure : Option String)
    (sent : List Message) (m : Message) :
    let start : RecordWriter := { out := { ahead, flushFailure } }
    let w := start.after sent
    let records := start.accepted sent
    (m.kind ≠ .process → (w.send m).2 = w) ∧
    (∀ cause, m.kind = .process → m.records = .error cause → w.send m = (.error cause, w)) ∧
    (start.Unbroken sent →
      Accounts w records ∧
      (w.Breaks m ↔ m.Carries ∧ ∃ left text, limit? ahead = some (left, text) ∧
        left < (records ++ m.content).flatten.length) ∧
      (w.Breaks m → ∃ left text done next part rest, limit? ahead = some (left, text) ∧
        BreaksOff records m text (w.send m) done next part rest ∧
        (w.send m).2.out.written = (records ++ m.content).flatten.take left)) := by
  intro start w records
  refine ⟨send_of_ne_process, fun cause => send_of_refused, fun unbroken => ?_⟩
  have level : Level ahead w records := (Level.start ahead flushFailure).run unbroken
  refine ⟨level.accounts, level.breaks_iff, fun breaks => ?_⟩
  obtain ⟨carries, left, text, hlimit, short⟩ := level.breaks_iff.1 breaks
  obtain ⟨done, next, part, rest, breaksOff, written⟩ := level.breaksOff carries hlimit short
  exact ⟨left, text, done, next, part, rest, hlimit, breaksOff, written⟩

def fourteen : List Acceptance := [.room 3, .interrupted, .room 11, .failure "disk full"]

/-- Two records, a message that is refused, and one that is skipped. -/
def firstNine : List Message :=
  [.process [[5, 0, 0, 0, 7], [4, 0, 0, 0]], .process [[7]], .barrier [[5, 0, 0, 0, 8]]]

def elevenMore : Message :=
  .process [[3, 0, 0, 0], [4, 0, 0, 0, 6, 0, 0, 0, 1, 2, 4, 0, 0, 0]]

theorem firstNine_unbroken : Unbroken { out := { ahead := fourteen } } firstNine := by
  refine unbroken_cons.2 ⟨?_, unbroken_cons.2 ⟨?_, unbroken_cons.2 ⟨?_, ?_⟩⟩⟩
  · rintro ⟨-, cause, failed⟩
    cases failed
  · rintro ⟨⟨-, records, known⟩, -⟩
    cases known
  · rintro ⟨⟨kind, -⟩, -⟩
    cases kind
  · rintro (_ | _) m later h <;> cases h

/-- The limit lies in the fourth record: its first byte is written, and it is not counted. -/
theorem writing_accounted_torn :
    let start : RecordWriter := { out := { ahead := fourteen } }
    start.Unbroken firstNine ∧
    Accounts (start.after firstNine) [[5, 0, 0, 0, 7], [4, 0, 0, 0]] ∧
    (start.after firstNine).Breaks elevenMore ∧
    (∃ left text done next part rest, limit? fourteen = some (left, text) ∧
      BreaksOff [[5, 0, 0, 0, 7], [4, 0, 0, 0]] elevenMore text
        ((start.after firstNine).send elevenMore) done next part rest) ∧
    ((start.after firstNine).send elevenMore).2.out.written
      = [5, 0, 0, 0, 7, 4, 0, 0, 0, 4, 0, 0, 0, 6] ∧
    ((start.after firstNine).send elevenMore).2.recordsWritten = 3 := by
  intro start
  obtain ⟨-, -, run⟩ := writing_accounted fourteen none firstNine elevenMore
  obtain ⟨accounts, -, torn⟩ := run firstNine_unbroken
  have breaks : (start.after firstNine).Breaks elevenMore := ⟨⟨rfl, _, rfl⟩, _, rfl⟩
  obtain ⟨left, text, done, next, part, rest, hlimit, off, -⟩ := torn breaks
  exact ⟨firstNine_unbroken, accounts, breaks,
    ⟨left, text, done, next, part, rest, hlimit, off⟩, rfl, rfl⟩

end RecordWriter

end RecordFarm
