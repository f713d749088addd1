import RecordFarm.Copying
import RecordFarm.Proofs.File.Reading
import RecordFarm.Proofs.File.Writing

/-!
# Copies of record files are exact

A file source puts the records that its reader takes at a time into one message (`Holds.next`), and
a writer takes them out again. How many records travel together depends on the way of reading only;
what has been copied after so many messages does not depend on the shape of the messages at all
(`Ready.run`). So a copy is the same file byte for byte (`run_exact`).
-/

namespace RecordFarm

namespace Converter

/-- A single record is read as a message of it. -/
theorem convert_single {bytes : Bytes} (hne : bytes ≠ []) :
    record.convert ⟨bytes⟩ = .ok (.process [bytes]) := by
  unfold convert Item.isEnd
  rw [List.isEmpty_eq_false_iff.2 hne]
  rfl

/-- A block of whole records is read as their batch. -/
theorem convert_flatten {records : List Bytes} (hne : records.flatten ≠ [])
    (whole : ∀ r ∈ records, Record.isWhole r = true)
    (fits : records.flatten.length < UInt32.size) :
    block.convert ⟨records.flatten⟩ = .ok (.ofBatch (Batch.packed records)) := by
  have counted := Record.count_flatten records whole
  have batched := Batch.ofBlock_flatten whole fits
  unfold convert Item.isEnd
  rw [List.isEmpty_eq_false_iff.2 hne, if_neg Bool.false_ne_true]
  simp only [counted]
  show (Batch.ofBlock (UInt32.ofNat records.length) records.flatten >>= _) = _
  rw [batched]
  rfl

end Converter

namespace FileSource

/-- The source converts what its reader takes at a time: one record, or a block, of which one record
is the smallest. -/
def Matched (s : FileSource) : Prop := s.reader.mode = .single ∨ s.converter = .block

/-- A source that reads these records and nothing else, and has not found the end yet. -/
structure Holds (s : FileSource) (records : List Bytes) : Prop where
  reader : s.reader.Holds records
  matched : s.Matched
  running : s.reader.finished = false
  positive : 0 < s.reader.blockRecords
  fits : records.flatten.length < UInt32.size

variable {s : FileSource} {records : List Bytes}

def past (s : FileSource) (records : List Bytes) (stream : InStream) : FileSource :=
  { s with reader := s.reader.past records stream }

theorem Holds.stride_pos (h : s.Holds records) : 0 < s.reader.stride := by
  have positive := h.positive
  unfold RecordReader.stride
  split
  · decide
  · exact positive

/-- **The next message** carries the records that are read at a time, in the one shape or in the
other. -/
theorem Holds.next (h : s.Holds records) (hne : records ≠ []) :
    ∃ m stream, s.next = (.ok m, s.past (records.take s.reader.stride) stream) ∧
      m.kind = .process ∧ m.records = .ok (records.take s.reader.stride) ∧
      (s.past (records.take s.reader.stride) stream).Holds (records.drop s.reader.stride) := by
  have positive := h.stride_pos
  obtain ⟨stream, item, later⟩ := h.reader.read hne h.running positive h.fits
  have split := congrArg (fun rs => rs.flatten.length)
    (List.take_append_drop s.reader.stride records)
  simp only [List.flatten_append, List.length_append] at split
  have fits := h.fits
  have left : (s.past (records.take s.reader.stride) stream).Holds
      (records.drop s.reader.stride) := ⟨later, h.matched, h.running, h.positive, by omega⟩
  have whole : ∀ r ∈ records.take s.reader.stride, Record.isWhole r = true :=
    fun r hr => h.reader.whole r (List.mem_of_mem_take hr)
  have bytes : (records.take s.reader.stride).flatten ≠ [] := by
    refine Record.flatten_ne_nil whole ?_
    rw [ne_eq, List.take_eq_nil_iff]
    exact not_or.2 ⟨Nat.ne_of_gt positive, hne⟩
  unfold FileSource.next
  rw [item]
  cases hconverter : s.converter with
  | block =>
    have converted := Converter.convert_flatten bytes whole (by omega)
    refine ⟨_, stream, ?_, rfl, Message.records_packed whole (by omega), left⟩
    simp only [converted, past, hconverter]
  | record =>
    -- Records are converted one by one only if they are read one by one.
    have single : s.reader.mode = .single :=
      h.matched.resolve_right fun block => by rw [hconverter] at block; cases block
    have one : s.reader.stride = 1 := by
      unfold RecordReader.stride
      rw [single]
    obtain ⟨record, rest, rfl⟩ := List.exists_cons_of_ne_nil hne
    rw [one, List.take_succ_cons, List.take_zero] at whole bytes left ⊢
    rw [List.flatten_singleton] at bytes
    refine ⟨.process [record], stream, ?_, rfl, Message.records_process whole, left⟩
    simp only [List.flatten_singleton, Converter.convert_single bytes, past, hconverter]

/-- When there are no more records, the next message is the end, and so is every later one. -/
theorem Holds.next_nil (h : s.Holds []) :
    ∃ after, s.next = (.ok .endOfStream, after) ∧ after.next = (.ok .endOfStream, after) ∧
      after.reader.recordsRead = s.reader.recordsRead ∧
      after.reader.bytesRead = s.reader.bytesRead := by
  obtain ⟨stream, item⟩ := h.reader.read_nil h.running
  refine ⟨{ s with reader := { s.reader.past [] stream with finished := true } }, ?_, ?_, rfl, rfl⟩
  · unfold FileSource.next
    rw [item]
    rfl
  · unfold FileSource.next
    rw [RecordReader.read_of_finished rfl]
    rfl

end FileSource

namespace Copying

structure Ready (c : Copying) (records : List Bytes) : Prop where
  source : c.source.Holds records
  willing : c.writer.out.Willing

/-- From `c` to `after` exactly these records have been copied. -/
structure Copied (c after : Copying) (records : List Bytes) : Prop where
  written : after.writer.out.written = c.writer.out.written ++ records.flatten
  recordsWritten : after.writer.recordsWritten = c.writer.recordsWritten + records.length
  bytesWritten : after.writer.bytesWritten = c.writer.bytesWritten + records.flatten.length
  recordsRead : after.source.reader.recordsRead = c.source.reader.recordsRead + records.length
  bytesRead : after.source.reader.bytesRead = c.source.reader.bytesRead + records.flatten.length

/-- How many messages carry so many records, `stride` of them at a time. -/
def loads (count stride : Nat) : Nat := (count + stride - 1) / stride

theorem loads_zero {stride : Nat} (positive : 0 < stride) : loads 0 stride = 0 := by
  unfold loads
  rw [Nat.zero_add]
  exact Nat.div_eq_of_lt (by omega)

/-- The first load takes `stride` records, or all that there are. -/
theorem loads_succ {count stride : Nat} (hpos : 0 < count) (positive : 0 < stride) :
    loads count stride = loads (count - stride) stride + 1 := by
  unfold loads
  rcases Nat.lt_or_ge count stride with few | many
  · have last : count + stride - 1 = (count - 1) + stride := by omega
    have hcancel : count - stride + stride - 1 = stride - 1 := by omega
    rw [last, hcancel, Nat.add_div_right _ positive, Nat.div_eq_of_lt (by omega),
      Nat.div_eq_of_lt (by omega)]
  · have first : count + stride - 1 = (count - stride + stride - 1) + stride := by omega
    rw [first, Nat.add_div_right _ positive]

/-- The loads hold everything. -/
theorem le_loads_mul (count : Nat) {stride : Nat} (positive : 0 < stride) :
    count ≤ loads count stride * stride := by
  have parts := Nat.div_add_mod (count + stride - 1) stride
  have rest := Nat.mod_lt (count + stride - 1) positive
  unfold loads
  rw [Nat.mul_comm]
  omega

variable {c mid after : Copying} {records more : List Bytes}

theorem Copied.nil (c : Copying) : c.Copied c [] :=
  ⟨(List.append_nil _).symm, rfl, rfl, rfl, rfl⟩

theorem Copied.append (first : c.Copied mid records) (later : mid.Copied after more) :
    c.Copied after (records ++ more) where
  written := by rw [later.written, first.written, List.flatten_append, List.append_assoc]
  recordsWritten := by
    rw [later.recordsWritten, first.recordsWritten, List.length_append, Nat.add_assoc]
  bytesWritten := by
    rw [later.bytesWritten, first.bytesWritten, List.flatten_append, List.length_append,
      Nat.add_assoc]
  recordsRead := by rw [later.recordsRead, first.recordsRead, List.length_append, Nat.add_assoc]
  bytesRead := by
    rw [later.bytesRead, first.bytesRead, List.flatten_append, List.length_append, Nat.add_assoc]

/-- The next message is copied. -/
theorem Ready.step (h : c.Ready records) (hne : records ≠ []) :
    ∃ after, c.step = (.ok false, after) ∧ c.Copied after (records.take c.source.reader.stride) ∧
      after.Ready (records.drop c.source.reader.stride) ∧
      after.source.reader.stride = c.source.reader.stride ∧ after.messages = c.messages + 1 := by
  obtain ⟨m, stream, next, kind, carried, later⟩ := h.source.next hne
  obtain ⟨out, sent, willing, written⟩ := RecordWriter.send_process h.willing kind carried
  have notEnd : m.isEnd = false := by
    unfold Message.isEnd
    rw [kind]
    rfl
  refine ⟨⟨_, c.writer.past _ out, c.messages + 1⟩, ?_, ⟨written, rfl, rfl, rfl, rfl⟩,
    ⟨later, willing⟩, rfl, rfl⟩
  unfold Copying.step
  simp only [next, sent, notEnd]
  rfl

/-- The end of the stream is copied. -/
theorem Ready.step_nil (h : c.Ready []) :
    ∃ after, c.step = (.ok true, after) ∧ c.Copied after [] ∧ after.messages = c.messages ∧
      after.source.next = (.ok .endOfStream, after.source) := by
  obtain ⟨source, next, ended, recordsRead, bytesRead⟩ := h.source.next_nil
  refine ⟨{ c with source }, ?_, ⟨(List.append_nil _).symm, rfl, rfl, recordsRead, bytesRead⟩, rfl,
    ended⟩
  unfold Copying.step
  simp only [next, RecordWriter.send_endOfStream h.willing]
  rfl

/-- After so many messages their records have been copied, and when they were more than there are,
the source has ended. Induction on the messages. -/
theorem Ready.run (h : c.Ready records) (left : Nat) :
    ∃ after, run left c = (.ok (), after) ∧
      c.Copied after (records.take (left * c.source.reader.stride)) ∧
      after.messages = c.messages + min left (loads records.length c.source.reader.stride) ∧
      (loads records.length c.source.reader.stride < left →
        after.source.next = (.ok .endOfStream, after.source)) := by
  have positive := h.source.stride_pos
  induction left generalizing c records with
  | zero =>
    refine ⟨c, rfl, ?_, ?_, fun many => absurd many (Nat.not_lt_zero _)⟩
    · rw [Nat.zero_mul, List.take_zero]
      exact .nil c
    · rw [Nat.zero_min, Nat.add_zero]
  | succ left ih =>
    cases records with
    | nil =>
      obtain ⟨after, last, copied, messages, ended⟩ := h.step_nil
      refine ⟨after, ?_, ?_, ?_, fun _ => ended⟩
      · unfold Copying.run
        simp only [last]
      · rw [List.take_nil]
        exact copied
      · rw [messages, List.length_nil, loads_zero positive, Nat.min_zero, Nat.add_zero]
    | cons record rest =>
      obtain ⟨mid, first, copied, ready, stride, messages⟩ := h.step (List.cons_ne_nil _ _)
      rw [← stride] at positive
      obtain ⟨after, later, copiedMore, messagesMore, ended⟩ := ih ready positive
      rw [stride, List.length_drop] at messagesMore ended
      have one := loads_succ (Nat.succ_pos rest.length) (stride ▸ positive)
      rw [Nat.succ_eq_add_one] at one
      rw [List.length_cons] at messagesMore ended ⊢
      refine ⟨after, ?_, ?_, ?_, fun many => ended (by omega)⟩
      · unfold Copying.run
        simp only [first, later]
      · rw [stride] at copiedMore
        rw [Nat.succ_mul, Nat.add_comm, List.take_add]
        exact copied.append copiedMore
      · rw [messagesMore, messages]
        omega

/-- **A copy is exact.** Let a file hold whole records, which fit into a batch together, and let it
be read in any matching way: record by record, or in blocks of `n`. Copying never fails, each
message carries the next records, and after the last of them comes the end, for ever. Then the copy
is the file, and both sides have counted its records and bytes. -/
theorem run_exact {records : List Bytes} {stream : InStream} {out : OutStream} {mode : ReadMode}
    {converter : Converter} (whole : ∀ record ∈ records, Record.isWhole record = true)
    (fits : records.flatten.length < UInt32.size) (delivers : stream.Delivers records.flatten)
    (willing : out.Willing) (fresh : out.written = [])
    (matched : mode = .single ∨ converter = .block) (n : Nat) :
    let start : Copying := { source := ⟨.new stream mode n, converter⟩, writer := { out } }
    let count :=
      if mode = .single then records.length else (records.length + max n 1 - 1) / max n 1
    ∀ left, ∃ c, run left start = (.ok (), c) ∧ c.messages = min left count ∧
      (count < left →
        c.writer.out.written = records.flatten ∧
        c.writer.recordsWritten = records.length ∧ c.source.reader.recordsRead = records.length ∧
        c.writer.bytesWritten = records.flatten.length ∧
        c.source.reader.bytesRead = records.flatten.length ∧
        c.source.next = (.ok .endOfStream, c.source)) := by
  intro start count left
  have ready : start.Ready records :=
    ⟨⟨⟨whole, delivers⟩, matched, rfl, Nat.le_max_right n 1, fits⟩, willing⟩
  have hcount : loads records.length start.source.reader.stride = count := by
    show loads records.length (RecordReader.stride (.new stream mode n)) = count
    cases mode with
    | single => exact Nat.div_one _
    | block => exact (if_neg (by decide)).symm
  obtain ⟨c, run, copied, messages, ended⟩ := ready.run left
  rw [hcount] at messages ended
  refine ⟨c, run, by rw [messages]; exact Nat.zero_add _, fun many => ?_⟩
  -- More messages than there are loads carry all the records.
  have all : records.take (left * start.source.reader.stride) = records := by
    refine List.take_of_length_le ?_
    calc records.length ≤ count * start.source.reader.stride :=
          hcount ▸ le_loads_mul _ ready.source.stride_pos
      _ ≤ left * start.source.reader.stride := Nat.mul_le_mul_right _ (Nat.le_of_lt many)
  rw [all] at copied
  refine ⟨?_, ?_, ?_, ?_, ?_, ended many⟩
  · rw [copied.written]
    show out.written ++ _ = _
    rw [fresh, List.nil_append]
  · rw [copied.recordsWritten]
    exact Nat.zero_add _
  · rw [copied.recordsRead]
    exact Nat.zero_add _
  · rw [copied.bytesWritten]
    exact Nat.zero_add _
  · rw [copied.bytesRead]
    exact Nat.zero_add _

/-- Four empty records and one with a byte, read in blocks of four through a stream that interrupts
and breaks off inside a header, and written a few bytes at a time. -/
theorem run_exact_fours :
    let records : List Bytes := List.replicate 4 [4, 0, 0, 0] ++ [[5, 0, 0, 0, 7]]
    let stream : InStream := [.interrupted, .bytes [4, 0], .bytes [0, 0, 4, 0, 0, 0, 4, 0, 0, 0],
      .interrupted, .bytes [4, 0, 0, 0, 5, 0, 0, 0, 7]]
    let start : Copying :=
      { source := ⟨.new stream .block 4, .block⟩
        writer := { out := { ahead := [.room 7, .interrupted, .room 2] } } }
    stream.Delivers records.flatten ∧
      ∃ c, run 3 start = (.ok (), c) ∧ c.messages = 2 ∧ c.writer.out.written = records.flatten ∧
        c.source.next = (.ok .endOfStream, c.source) := by
  intro records stream start
  have delivers : stream.Delivers records.flatten :=
    .interrupted (.bytes [4, 0] (by decide) (.bytes _ (by decide)
      (.interrupted (.bytes [4, 0, 0, 0, 5, 0, 0, 0, 7] (by decide) .done))))
  have willing : start.writer.out.Willing := by
    refine ⟨fun a ha => ?_, rfl⟩
    simp only [start, List.mem_cons, List.not_mem_nil, or_false] at ha
    rcases ha with rfl | rfl | rfl
    · exact Or.inr ⟨7, rfl⟩
    · exact Or.inl rfl
    · exact Or.inr ⟨2, rfl⟩
  obtain ⟨c, run, messages, done⟩ := @run_exact records stream _ .block .block (by decide)
    (by decide) delivers willing rfl (Or.inr rfl) 4 3
  obtain ⟨written, -, -, -, -, ended⟩ := done (by decide)
  exact ⟨delivers, c, run, messages.trans (by decide), written, ended⟩

end Copying

end RecordFarm
