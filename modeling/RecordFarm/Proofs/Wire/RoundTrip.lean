import Mathlib.Algebra.Group.Nat.Defs
import RecordFarm.Proofs.Wire.Hop

/-!
# The whole way of a message over a hop

`hop_process` starts from frames that are there. Here the sender's side is decided as well: which
messages have frames at all, and what the receiver makes of them, down to the header of the batch.
A message that has arrived is a fixed point: sent on, it travels in the same frames
(`toFramesBatched_packed`), so a relay does not change what it passes on.
-/

namespace RecordFarm

namespace Record

/-- A record around a body is whole if its length fits the header. -/
theorem isWhole_ofBody {body : Bytes} (h : body.length + 4 < UInt32.size) :
    isWhole (ofBody body) = true := by
  have hheader : size? (Bytes.word 4 (body.length + 4))
      = some (Bytes.ofWord (Bytes.word 4 (body.length + 4))) := rfl
  have hvalue : Bytes.ofWord (Bytes.word 4 (body.length + 4)) = body.length + 4 :=
    Bytes.ofWord_word_of_lt h
  have hlength : (ofBody body).length = body.length + 4 := by
    rw [ofBody, List.length_append, Bytes.length_word]
    omega
  rw [isWhole_iff, hlength, ofBody, size?_append (Nat.le_of_eq (Bytes.length_word 4 _).symm),
    hheader, hvalue]

end Record

namespace Message

/-- The frames in which a batch travels. -/
theorem toFrames_ofBatch (batch : Batch) :
    (ofBatch batch).toFrames
      = .ok [Bytes.ofUInt32 Kind.process.code, batch.countBytes, batch.data] := rfl

/-- A `process` message travels as one batch of its records. -/
theorem toFramesBatched_of_records {m : Message} {records : List Bytes} (hkind : m.kind = .process)
    (h : m.records = .ok records) :
    m.toFramesBatched = ((Batch.pack records).map ofBatch >>= toFrames) := by
  unfold toFramesBatched
  rw [if_pos hkind, h]
  rfl

/-- Sent on as it is, a batch travels in the frames in which it has come. -/
theorem toFramesBatched_packed {records : List Bytes}
    (whole : ∀ r ∈ records, Record.isWhole r = true)
    (hsize : records.flatten.length < UInt32.size) :
    (ofBatch (Batch.packed records)).toFramesBatched
      = (ofBatch (Batch.packed records)).toFrames := by
  have hrecords := records_packed whole hsize
  rw [toFramesBatched_of_records rfl hrecords, Batch.pack_of_lt hsize]
  rfl

/-- What a receiver makes of frames that were sent for the given records. -/
structure Received (records : List Bytes) (frames : Frames) (arrived : Message) (batch : Batch) :
    Prop where
  read : ofFrames frames = .ok arrived
  kind : arrived.kind = .process
  parts : arrived.parts = [batch.countBytes, batch.data]
  unpacked : arrived.toBatch = .ok batch
  itemCount : batch.itemCount.toNat = records.length
  byteCount : batch.byteCount.toNat = records.flatten.length
  records : arrived.records = .ok records
  plainly : arrived.toFrames = .ok frames
  again : arrived.toFramesBatched = .ok frames

/-- **The records survive the hop, or there is no hop.** A `process` message whose records can be
read and fit a header is sent, and exactly its records arrive, in a batch with the right counts;
the message that has arrived has the same frames. With more bytes than fit, or with records that
cannot be read, nothing is sent. The frames of other messages are not touched. -/
theorem sent_records_arrive (m : Message) :
    (m.kind = .process →
      (∀ records, m.records = .ok records →
        (records.flatten.length < UInt32.size →
          ∃ frames arrived batch, m.toFramesBatched = .ok frames ∧
            Received records frames arrived batch) ∧
        (UInt32.size ≤ records.flatten.length →
          m.toFramesBatched = .error (.blockTooLarge records.flatten.length))) ∧
      (∀ cause, m.records = .error cause → m.toFramesBatched = .error cause)) ∧
    (m.kind ≠ .process → m.toFramesBatched = m.toFrames) := by
  refine ⟨fun hkind => ⟨fun records hrecords => ⟨fun hsize => ?_, fun hsize => ?_⟩,
    fun cause hcause => ?_⟩, fun hkind => ?_⟩
  · have whole := isWhole_of_records hrecords
    have hsent : m.toFramesBatched = .ok [Bytes.ofUInt32 Kind.process.code,
        (Batch.packed records).countBytes, (Batch.packed records).data] := by
      rw [toFramesBatched_of_records hkind hrecords, Batch.pack_of_lt hsize]
      rfl
    have hframes := toFrames_ofBatch (Batch.packed records)
    refine ⟨_, ofBatch (Batch.packed records), Batch.packed records, hsent, ?_⟩
    exact
      { read := ofFrames_toFrames rfl hframes
        kind := rfl
        parts := rfl
        unpacked := toBatch_packed whole hsize
        itemCount := Batch.toNat_itemCount_packed whole hsize
        byteCount := Batch.toNat_byteCount_packed hsize
        records := records_packed whole hsize
        plainly := hframes
        again := (toFramesBatched_packed whole hsize).trans hframes }
  · rw [toFramesBatched_of_records hkind hrecords, Batch.pack_of_le hsize]
    rfl
  · unfold toFramesBatched
    rw [if_pos hkind, hcause]
    rfl
  · unfold toFramesBatched
    rw [if_neg hkind]

/-- Four empty records, whose count frame is a record as well; two records that are too long
together; a part that is no record; a barrier. -/
theorem sent_records_arrive_fours :
    (∃ frames arrived batch,
      (process (List.replicate 4 [4, 0, 0, 0])).toFramesBatched = .ok frames ∧
        Received (List.replicate 4 [4, 0, 0, 0]) frames arrived batch) ∧
    (process (List.replicate 2 (Record.ofBody (List.replicate (2 ^ 31) 0)))).toFramesBatched
      = .error (.blockTooLarge (2 ^ 32 + 8)) ∧
    (process [[7]]).toFramesBatched = .error (.batchParts 1) ∧
    (barrier [[7]]).toFramesBatched = (barrier [[7]]).toFrames := by
  refine ⟨((sent_records_arrive _).1 rfl).1 _ rfl |>.1 (by decide), ?_,
    ((sent_records_arrive _).1 rfl).2 _ rfl, (sent_records_arrive _).2 (by decide)⟩
  -- The lengths are found by the laws of the lists; the bytes themselves are too many to look at.
  generalize hlong : Record.ofBody (List.replicate (2 ^ 31) 0) = long
  have hzeros : (List.replicate (2 ^ 31) (0 : UInt8)).length = 2 ^ 31 := List.length_replicate
  have hlength : long.length = 2 ^ 31 + 4 := by
    rw [← hlong, Record.ofBody, List.length_append, Bytes.length_word, hzeros, Nat.add_comm]
  have hwhole : Record.isWhole long = true := by
    rw [← hlong]
    refine Record.isWhole_ofBody ?_
    rw [hzeros]
    decide
  have htotal : (List.replicate 2 long).flatten.length = 2 ^ 32 + 8 := by
    rw [List.length_flatten, List.map_replicate, hlength]
    decide
  have hrecords : (process (List.replicate 2 long)).records = .ok (List.replicate 2 long) :=
    records_process fun r hr => by rw [List.eq_of_mem_replicate hr]; exact hwhole
  have hrefused := (((sent_records_arrive _).1 rfl).1 _ hrecords).2 (by rw [htotal]; decide)
  rw [hrefused, htotal]

end Message

end RecordFarm
