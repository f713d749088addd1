import RecordFarm.RecordReader
import RecordFarm.Proofs.Wire.Hop

/-!
# Reading the records of a file

A stream that `Delivers` some bytes may hand them over in chunks of any sizes and may be interrupted
at any time; then it finds the end for ever. A reader cannot tell such streams apart: filling a
buffer takes the first bytes, wherever the chunks end (`Delivers.fill`). So a reader finds the whole
records that its stream delivers first, one at a time or in blocks, and whatever comes behind them
matters only to a reader that gets there (`Faces.read`). A reader whose stream delivers whole
records and nothing else finds just these (`Holds.read`). -/

namespace RecordFarm

namespace InStream

/-- The stream delivers these bytes, in chunks and with interruptions, and then finds the end for
ever. -/
inductive Delivers : InStream → Bytes → Prop where
  | done : Delivers [] []
  | interrupted {stream : InStream} {bytes : Bytes} (later : Delivers stream bytes) :
      Delivers (.interrupted :: stream) bytes
  | bytes {stream : InStream} {bytes : Bytes} (chunk : Bytes) (hne : chunk ≠ [])
      (later : Delivers stream bytes) : Delivers (.bytes chunk :: stream) (chunk ++ bytes)

/-- A chunk that is too long is left in part. -/
theorem fill_of_long {chunk : Bytes} {wanted : Nat} (hpos : 0 < wanted)
    (long : wanted < chunk.length) (stream : InStream) :
    fill wanted (.bytes chunk :: stream)
      = (.ok (chunk.take wanted), .bytes (chunk.drop wanted) :: stream) := by
  have kept : (chunk.drop wanted).length ≠ 0 := by
    rw [List.length_drop]
    omega
  obtain ⟨n, rfl⟩ : ∃ n, wanted = n + 1 := ⟨wanted - 1, by omega⟩
  match chunk with
  | [] => exact absurd long (Nat.not_lt_zero _)
  | c :: cs =>
    cases hdrop : (c :: cs).drop (n + 1) with
    | nil => exact absurd (congrArg List.length hdrop) kept
    | cons b bs => simp only [fill, hdrop]

/-- A chunk that is not too long is taken whole. -/
theorem fill_of_short {chunk more : Bytes} {wanted : Nat} {stream rest : InStream}
    (hne : chunk ≠ []) (short : chunk.length ≤ wanted)
    (later : fill (wanted - chunk.length) stream = (.ok more, rest)) :
    fill wanted (.bytes chunk :: stream) = (.ok (chunk ++ more), rest) := by
  match chunk, wanted with
  | c :: cs, n + 1 =>
    have gone : (c :: cs).drop (n + 1) = [] := List.drop_eq_nil_of_le short
    have taken : (c :: cs).take (n + 1) = c :: cs := List.take_of_length_le short
    simp only [fill, gone, taken, later]

/-- Filling a buffer takes the first bytes off the stream. Induction on what the reads meet: a chunk
that is too short is taken whole, and one that is too long is left in part. -/
theorem Delivers.fill {stream : InStream} {bytes : Bytes} (h : stream.Delivers bytes)
    (wanted : Nat) :
    ∃ rest, stream.fill wanted = (.ok (bytes.take wanted), rest) ∧
      rest.Delivers (bytes.drop wanted) := by
  induction h generalizing wanted with
  | done =>
    refine ⟨[], ?_, ?_⟩
    · cases wanted <;> rfl
    · rw [List.drop_nil]
      exact .done
  | @interrupted stream bytes later ih =>
    cases wanted with
    | zero => exact ⟨_, rfl, .interrupted later⟩
    | succ n => exact ih (n + 1)
  | @bytes stream bytes chunk hne later ih =>
    cases wanted with
    | zero => exact ⟨_, rfl, .bytes chunk hne later⟩
    | succ n =>
      rcases Nat.lt_or_ge (n + 1) chunk.length with long | short
      · refine ⟨.bytes (chunk.drop (n + 1)) :: stream, ?_, ?_⟩
        · rw [List.take_append_of_le_length (by omega)]
          exact fill_of_long (Nat.succ_pos n) long stream
        · have kept : chunk.drop (n + 1) ≠ [] := by
            rw [ne_eq, List.drop_eq_nil_iff]
            omega
          rw [List.drop_append_of_le_length (by omega)]
          exact .bytes _ kept later
      · obtain ⟨rest, filled, left⟩ := ih (n + 1 - chunk.length)
        refine ⟨rest, ?_, ?_⟩
        · rw [fill_of_short hne short filled, List.take_append, List.take_of_length_le short]
        · rw [List.drop_append, List.drop_eq_nil_of_le short, List.nil_append]
          exact left

end InStream

namespace RecordReader

/-- A reader whose stream delivers these records, which are whole, and then these bytes. -/
structure Faces (r : RecordReader) (records : List Bytes) (rest : Bytes) : Prop where
  whole : ∀ record ∈ records, Record.isWhole record = true
  delivers : r.stream.Delivers (records.flatten ++ rest)

/-- A reader whose stream delivers these records, which are whole, and nothing else. -/
structure Holds (r : RecordReader) (records : List Bytes) : Prop where
  whole : ∀ record ∈ records, Record.isWhole record = true
  delivers : r.stream.Delivers records.flatten

def past (r : RecordReader) (records : List Bytes) (stream : InStream) : RecordReader :=
  { r with
    stream
    recordsRead := r.recordsRead + records.length
    bytesRead := r.bytesRead + records.flatten.length }

def stride (r : RecordReader) : Nat :=
  match r.mode with
  | .single => 1
  | .block => r.blockRecords

theorem past_past (r : RecordReader) (records more : List Bytes) (s s' : InStream) :
    (r.past records s).past more s' = r.past (records ++ more) s' := by
  unfold past
  simp only [List.length_append, List.flatten_append, Nat.add_assoc]

variable {r : RecordReader} {record behind rest : Bytes} {records : List Bytes}

/-- What is read behind the header depends on the size that the header says, if it has room for
one. -/
theorem readRecord_of_header {header : Bytes} {stream : InStream}
    (filled : r.stream.fill Record.headerSize = (.ok header, stream)) (there : header ≠ []) :
    r.readRecord =
      match Record.size? header with
      | none => (.error (Violation.truncatedHeader r.recordsRead header.length), { r with stream })
      | some size =>
        if size < Record.headerSize then
          (.error (Violation.sizeBelowHeader r.recordsRead size), { r with stream })
        else
          match stream.fill (size - Record.headerSize) with
          | (.error text, stream) => (.error (.stream text), { r with stream })
          | (.ok body, stream) =>
            if body.length < size - Record.headerSize then
              (.error (Violation.truncatedBody r.recordsRead body.length
                (size - Record.headerSize)), { r with stream })
            else
              (.ok (header ++ body),
                { r with
                  stream
                  recordsRead := r.recordsRead + 1
                  bytesRead := r.bytesRead + size }) := by
  obtain ⟨b, bs, rfl⟩ := List.exists_cons_of_ne_nil there
  unfold RecordReader.readRecord
  rewrite [filled]
  rfl

/-- A record that is there is read whole: its header first, and then as many bytes as that says. -/
theorem readRecord_of_whole (whole : Record.isWhole record = true)
    (delivers : r.stream.Delivers (record ++ behind)) :
    ∃ stream, r.readRecord = (.ok (some record), r.past [record] stream) ∧
      stream.Delivers behind := by
  have hfour : Record.headerSize ≤ record.length := Record.four_le_of_isWhole whole
  obtain ⟨atBody, hheader, delivers⟩ := delivers.fill Record.headerSize
  obtain ⟨atEnd, hbody, delivers⟩ := delivers.fill (record.length - Record.headerSize)
  rw [List.take_append_of_le_length hfour] at hheader
  rw [List.drop_append_of_le_length hfour] at hbody delivers
  have hlength : (record.drop Record.headerSize).length = record.length - Record.headerSize :=
    List.length_drop
  rw [← hlength, List.take_left] at hbody
  rw [← hlength, List.drop_left] at delivers
  -- The header is the record's own beginning, so it says the record's own length.
  have hsize : Record.size? (record.take Record.headerSize) = some record.length :=
    (Record.size?_take hfour (Nat.le_refl 4)).trans (Record.isWhole_iff.1 whole)
  have hnotEmpty : record.take Record.headerSize ≠ [] := by
    intro hnone
    rw [hnone] at hsize
    cases hsize
  refine ⟨atEnd, ?_, delivers⟩
  rw [readRecord_of_header hheader hnotEmpty, hsize]
  rw [hlength] at hbody
  simp only [hbody, hlength, Nat.lt_irrefl, if_false, if_neg (Nat.not_lt.2 hfour),
    List.take_append_drop]
  simp only [past, List.length_singleton, List.flatten_singleton]

/-- Where nothing is left nothing is read. -/
theorem readRecord_of_nil (delivers : r.stream.Delivers []) :
    ∃ stream, r.readRecord = (.ok none, r.past [] stream) ∧ stream.Delivers [] := by
  obtain ⟨stream, filled, delivers⟩ := delivers.fill Record.headerSize
  refine ⟨stream, ?_, by rwa [List.drop_nil] at delivers⟩
  unfold RecordReader.readRecord
  rw [filled]
  rfl

/-- A reader that has read the first records faces the others. -/
theorem Faces.drop (h : r.Faces records rest) {stream : InStream} (n : Nat)
    (delivers : stream.Delivers ((records.drop n).flatten ++ rest)) :
    (r.past (records.take n) stream).Faces (records.drop n) rest :=
  ⟨fun record hrecord => h.whole record (List.mem_of_mem_drop hrecord), delivers⟩

/-- The first record is read whole. -/
theorem Faces.readRecord (h : r.Faces (record :: records) rest) :
    ∃ stream, r.readRecord = (.ok (some record), r.past [record] stream) ∧
      (r.past [record] stream).Faces records rest := by
  have delivers := h.delivers
  rw [List.flatten_cons, List.append_assoc] at delivers
  obtain ⟨stream, first, delivers⟩ :=
    readRecord_of_whole (h.whole record List.mem_cons_self) delivers
  exact ⟨stream, first, h.drop 1 delivers⟩

/-- Of the next records as many are read as there are, up to `n`. What is behind them is not looked
at, unless it is looked for another record. Induction on `n`. -/
theorem Faces.readRecords (h : r.Faces records rest) (n : Nat)
    (reach : rest = [] ∨ n ≤ records.length) :
    ∃ stream, readRecords n r = (.ok (records.take n), r.past (records.take n) stream) ∧
      (r.past (records.take n) stream).Faces (records.drop n) rest := by
  induction n generalizing r records with
  | zero => exact ⟨r.stream, rfl, h.whole, h.delivers⟩
  | succ n ih =>
    cases records with
    | nil =>
      obtain rfl : rest = [] := reach.resolve_right (Nat.not_succ_le_zero n)
      obtain ⟨stream, nothing, delivers⟩ := readRecord_of_nil h.delivers
      refine ⟨stream, ?_, nofun, delivers⟩
      unfold RecordReader.readRecords
      rw [nothing]
      rfl
    | cons record records =>
      obtain ⟨after, first, later⟩ := h.readRecord
      obtain ⟨stream, more, left⟩ := ih later (reach.imp_right Nat.le_of_succ_le_succ)
      rw [past_past] at more left
      refine ⟨stream, ?_, left⟩
      unfold RecordReader.readRecords
      rw [first]
      simp only [more, List.take_succ_cons, List.singleton_append]

/-- **What is read at a time.** As long as there are records, the next item holds as many of them as
are read at a time. A reader that wants more than there are looks at what is behind them. -/
theorem Faces.read (h : r.Faces records rest) (hne : records ≠ []) (running : r.finished = false)
    (positive : 0 < r.stride) (fits : r.mode = .block → records.flatten.length < UInt32.size)
    (reach : rest = [] ∨ r.stride ≤ records.length) :
    ∃ stream, r.read
        = (.ok ⟨(records.take r.stride).flatten⟩, r.past (records.take r.stride) stream) ∧
      (r.past (records.take r.stride) stream).Faces (records.drop r.stride) rest := by
  obtain ⟨record, more, rfl⟩ := List.exists_cons_of_ne_nil hne
  unfold RecordReader.read
  unfold stride at reach positive ⊢
  rw [running, if_neg Bool.false_ne_true]
  cases hmode : r.mode with
  | single =>
    obtain ⟨stream, first, left⟩ := h.readRecord
    refine ⟨stream, ?_, left⟩
    simp only [first, List.take_succ_cons, List.take_zero, List.flatten_singleton]
  | block =>
    rw [hmode] at reach positive
    have fits := fits hmode
    obtain ⟨stream, block, left⟩ := h.readRecords r.blockRecords reach
    refine ⟨stream, ?_, left⟩
    -- A part of the records fits into a batch, as all of them do.
    have fitting : ((record :: more).take r.blockRecords).flatten.length < UInt32.size := by
      have := congrArg (fun rs => rs.flatten.length)
        (List.take_append_drop r.blockRecords (record :: more))
      simp only [List.flatten_append, List.length_append] at this
      omega
    have packed := Batch.pack_of_lt fitting
    obtain ⟨n, hn⟩ : ∃ n, r.blockRecords = n + 1 :=
      ⟨r.blockRecords - 1, (Nat.succ_pred_eq_of_pos positive).symm⟩
    unfold readBlock
    rw [block]
    rw [hn, List.take_succ_cons] at packed ⊢
    simp only [packed]
    rfl

theorem Holds.faces (h : r.Holds records) : r.Faces records [] :=
  ⟨h.whole, by rw [List.append_nil]; exact h.delivers⟩

theorem Faces.holds (h : r.Faces records []) : r.Holds records :=
  ⟨h.whole, by rw [← List.append_nil records.flatten]; exact h.delivers⟩

/-- A read gives a full stride of the records held, or the last of them. -/
theorem Holds.read (h : r.Holds records) (hne : records ≠ []) (running : r.finished = false)
    (positive : 0 < r.stride) (fits : records.flatten.length < UInt32.size) :
    ∃ stream, r.read
        = (.ok ⟨(records.take r.stride).flatten⟩, r.past (records.take r.stride) stream) ∧
      (r.past (records.take r.stride) stream).Holds (records.drop r.stride) := by
  obtain ⟨stream, item, left⟩ := h.faces.read hne running positive (fun _ => fits) (Or.inl rfl)
  exact ⟨stream, item, left.holds⟩

/-- Without records the end is found. -/
theorem Holds.read_nil (h : r.Holds []) (running : r.finished = false) :
    ∃ stream, r.read = (.ok .endOfData, { r.past [] stream with finished := true }) := by
  unfold RecordReader.read
  rw [running, if_neg Bool.false_ne_true]
  cases r.mode with
  | single =>
    obtain ⟨stream, nothing, _⟩ := readRecord_of_nil h.delivers
    exact ⟨stream, by simp only [nothing]⟩
  | block =>
    obtain ⟨stream, nothing, _⟩ := h.faces.readRecords r.blockRecords (Or.inl rfl)
    refine ⟨stream, ?_⟩
    simp only [readBlock, nothing, List.take_nil]

/-- The end is the end for ever. -/
theorem read_of_finished (h : r.finished = true) : r.read = (.ok .endOfData, r) := by
  unfold read
  rw [if_pos h]

end RecordReader

end RecordFarm
