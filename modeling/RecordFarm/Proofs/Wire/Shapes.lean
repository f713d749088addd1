import RecordFarm.Proofs.Wire.Framing

/-!
# The two shapes of a message with records

A `process` message holds its records one in each part (`Message.Singly`), or all in one block
behind their number (`Message.Batched`). A message of the second shape may look like one of the
first: its count frame is a whole record if it says `4`. But then the block is not, so no message
has both shapes (`not_singly_and_batched`), and what is read of a message does not hang on which
shape is tried first (`records_read_unambiguously`).
-/

namespace RecordFarm

namespace Batch

/-- The batch of a block is that block, whose length fits its word. -/
theorem of_ofBlock {count : UInt32} {block : Bytes} {batch : Batch}
    (h : ofBlock count block = .ok batch) :
    block.length < UInt32.size ∧ batch = ⟨count, UInt32.ofNat block.length, block⟩ := by
  unfold ofBlock at h
  cases hsplit : Record.split block count with
  | error cause => rw [hsplit] at h; cases h
  | ok records =>
    rw [hsplit] at h
    replace h : sized count block = .ok batch := h
    unfold sized at h
    simp only at h
    split at h
    · next hfits => exact ⟨hfits, (Except.ok.inj h).symm⟩
    · cases h

end Batch

namespace Message

/-- The records of the message stand one in each part. -/
structure Singly (m : Message) (records : List Bytes) : Prop where
  whole : ∀ part ∈ m.parts, Record.isWhole part = true
  parts : records = m.parts

/-- The message has two parts: the number of the records in four bytes, lowest first, and the
records end to end, whose length fits a word. Their number does as well, for each of them has four
bytes. -/
structure Batched (m : Message) (records : List Bytes) : Prop where
  parts : m.parts = [Bytes.word 4 records.length, records.flatten]
  whole : ∀ r ∈ records, Record.isWhole r = true
  fits : records.flatten.length < UInt32.size

variable {m : Message} {records records' : List Bytes}

/-- There are no more records in a batch than four bytes can count. -/
theorem Batched.length_lt (h : m.Batched records) : records.length < UInt32.size := by
  have := Record.four_mul_length_le records h.whole
  have := h.fits
  omega

/-- The count frame as the word that it is. -/
theorem Batched.countFrame (h : m.Batched records) :
    Bytes.word 4 records.length = Bytes.ofUInt32 (UInt32.ofNat records.length) := by
  rw [Bytes.ofUInt32, UInt32.toNat_ofNat_of_lt' h.length_lt]

/-- **No message has both shapes.** -/
theorem not_singly_and_batched (single : m.Singly records) (batch : m.Batched records') :
    False := by
  have shape := batch_not_all_whole batch.whole (UInt32.toNat_ofNat_of_lt' batch.length_lt)
  rw [← batch.countFrame, ← batch.parts, Bool.eq_false_iff] at shape
  exact shape (List.all_eq_true.2 single.whole)

theorem records_of_singly (single : m.Singly records) : m.records = .ok records := by
  unfold Message.records
  rw [if_pos (List.all_eq_true.2 single.whole), single.parts]

theorem records_of_batched (hkind : m.kind = .process) (batch : m.Batched records) :
    m.records = .ok records := by
  have hm : m = ofBatch (Batch.packed records) := by
    obtain ⟨kind, parts⟩ := m
    obtain rfl : kind = .process := hkind
    have hparts : parts = _ := batch.parts
    rw [hparts, batch.countFrame]
    rfl
  rw [hm]
  exact records_packed batch.whole batch.fits

/-- A batch is made of a message with two parts, a word and a block that fits its header. -/
theorem exists_parts_of_toBatch {batch : Batch} (h : m.toBatch = .ok batch) :
    m.kind = .process ∧ ∃ count block, m.parts = [count, block] ∧
      Bytes.toUInt32? count = some batch.itemCount ∧ batch.data = block ∧
      block.length < UInt32.size := by
  unfold toBatch at h
  split at h
  · next hkind =>
    split at h
    · next count block hparts =>
      split at h
      · next n hword =>
        obtain ⟨hfits, rfl⟩ := Batch.of_ofBlock h
        exact ⟨hkind, count, block, hparts, hword, rfl, hfits⟩
      · cases h
    · cases h
  · cases h

/-- Whatever is read as a batch has the shape of one. -/
theorem batched_of_toBatch {batch : Batch} (h : m.toBatch = .ok batch)
    (hrecords : batch.records = .ok records) : m.kind = .process ∧ m.Batched records := by
  obtain ⟨hkind, count, block, hparts, hword, rfl, hfits⟩ := exists_parts_of_toBatch h
  obtain ⟨hlength, whole, hblock⟩ := Record.split_eq_ok_iff.1 hrecords
  refine ⟨hkind, ⟨?_, whole, by rwa [hblock]⟩⟩
  rw [hparts, hlength, hblock, ← Bytes.ofUInt32_of_toUInt32? hword]
  rfl

/-- **What is read of a message.** -/
theorem records_eq_ok_iff :
    m.records = .ok records ↔ m.Singly records ∨ (m.kind = .process ∧ m.Batched records) := by
  constructor
  · intro h
    unfold Message.records at h
    split at h
    · next hall =>
      exact .inl ⟨List.all_eq_true.1 hall, (Except.ok.inj h).symm⟩
    · cases hbatch : m.toBatch with
      | error cause => rw [hbatch] at h; cases h
      | ok batch =>
        rw [hbatch] at h
        exact .inr (batched_of_toBatch hbatch h)
  · rintro (single | ⟨hkind, batch⟩)
    · exact records_of_singly single
    · exact records_of_batched hkind batch

/-- What is not read is refused. -/
theorem exists_refusal (h : ∀ records, m.records ≠ .ok records) :
    ∃ cause : Violation, m.records = .error cause := by
  cases hrecords : m.records with
  | error cause => exact ⟨cause, rfl⟩
  | ok records => exact absurd hrecords (h records)

/-- A message that is neither of records nor in single parts is refused for its kind. -/
theorem records_of_other (hkind : m.kind ≠ .process) (h : ¬ m.Singly m.parts) :
    m.records = .error (.notProcess m.kind) := by
  have hall : ¬ m.parts.all Record.isWhole = true := fun hall => h ⟨List.all_eq_true.1 hall, rfl⟩
  unfold Message.records toBatch
  rw [if_neg hall, if_neg hkind]
  rfl

/-- **The records of a message are read unambiguously.** A `process` message is read if and only if
its records stand one in each part or in a batch; no message has both shapes; in all other cases a
rule was broken. A message of another kind is read only in single parts. -/
theorem records_read_unambiguously (m : Message) :
    (m.kind = .process →
      (∀ records, m.records = .ok records ↔ m.Singly records ∨ m.Batched records) ∧
      (∀ records records', ¬ (m.Singly records ∧ m.Batched records')) ∧
      ((∀ records, ¬ (m.Singly records ∨ m.Batched records)) →
        ∃ cause : Violation, m.records = .error cause)) ∧
    (m.kind ≠ .process →
      (∀ records, m.records = .ok records ↔ m.Singly records) ∧
      (¬ m.Singly m.parts → m.records = .error (.notProcess m.kind))) := by
  refine ⟨fun hkind => ⟨fun records => ?_, fun _ _ both => not_singly_and_batched both.1 both.2,
    fun neither => exists_refusal fun records h => neither records ?_⟩,
    fun hkind => ⟨fun records => ?_, records_of_other hkind⟩⟩
  · rw [records_eq_ok_iff]
    exact or_congr_right (and_iff_right hkind)
  · exact (records_eq_ok_iff.1 h).imp_right And.right
  · rw [records_eq_ok_iff]
    exact or_iff_left fun batch => hkind batch.1

/-- A count frame that is a record as well, before a block of four records and before a block that
is one; no parts at all; a count that is one too high; a barrier. -/
theorem records_read_unambiguously_fours :
    let four : Bytes := [4, 0, 0, 0]
    let long : Bytes := [8, 0, 0, 0, 4, 0, 0, 0]
    ((process [four, (List.replicate 4 four).flatten]).records = .ok (List.replicate 4 four) ∧
      ∀ records, ¬ (process [four, (List.replicate 4 four).flatten]).Singly records) ∧
    ((process [four, long]).records = .ok [four, long] ∧
      ∀ records, ¬ (process [four, long]).Batched records) ∧
    (process []).records = .ok [] ∧
    (∃ cause, (process [[2, 0, 0, 0], four]).records = .error cause) ∧
    (barrier [[1, 0, 0, 0], four]).records = .error (.notProcess .barrier) := by
  intro four long
  have block : (process [four, (List.replicate 4 four).flatten]).Batched (List.replicate 4 four) :=
    ⟨by decide, by decide, by decide⟩
  have row : (process [four, long]).Singly [four, long] := ⟨by decide, rfl⟩
  have short : ∀ records, ¬ ((process [[2, 0, 0, 0], four]).Singly records ∨
      (process [[2, 0, 0, 0], four]).Batched records) := by
    intro records shape
    have refused : (process [[2, 0, 0, 0], four]).records ≠ .ok records := by
      rw [show (process [[2, 0, 0, 0], four]).records = .error (.badRecord 1 2 (.short 0)) by rfl]
      nofun
    exact refused ((((records_read_unambiguously _).1 rfl).1 records).2 shape)
  refine ⟨⟨?_, fun records single => ?_⟩, ⟨?_, fun records batch => ?_⟩, ?_, ?_, ?_⟩
  · exact (((records_read_unambiguously _).1 rfl).1 _).2 (.inr block)
  · exact ((records_read_unambiguously _).1 rfl).2.1 _ _ ⟨single, block⟩
  · exact (((records_read_unambiguously _).1 rfl).1 _).2 (.inl row)
  · exact ((records_read_unambiguously _).1 rfl).2.1 _ _ ⟨row, batch⟩
  · exact (((records_read_unambiguously _).1 rfl).1 _).2 (.inl ⟨nofun, rfl⟩)
  · exact ((records_read_unambiguously _).1 rfl).2.2 short
  · exact ((records_read_unambiguously (barrier [[1, 0, 0, 0], four])).2 (by decide)).2
      fun single => absurd (single.whole [1, 0, 0, 0] (by decide)) (by decide)

end Message

end RecordFarm
