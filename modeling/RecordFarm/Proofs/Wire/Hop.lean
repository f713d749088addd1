import RecordFarm.Wire

/-!
# A hop preserves the records

Before a hop the records of a message are gathered into one batch. What arrives has the shape of
a batch and the same records (`hop_process`). The one thing that could go wrong is that a batch
reads as a row of single records: its count frame is four bytes long, and four bytes are a whole
record if they say `4`. Then the block would have to be a whole record too, but it holds four of
them.
-/

namespace RecordFarm

namespace Record

theorem four_le_of_size? {bytes : Bytes} {n : Nat} (h : size? bytes = some n) :
    4 ≤ bytes.length := by
  unfold size? at h
  split at h
  · simp
  · cases h

/-- Bytes that follow do not change the size that is told. -/
theorem size?_append {bytes : Bytes} (h : 4 ≤ bytes.length) (more : Bytes) :
    size? (bytes ++ more) = size? bytes := by
  match bytes, h with
  | _ :: _ :: _ :: _ :: _, _ => rfl

/-- The size is told by the first four bytes. -/
theorem size?_take {bytes : Bytes} {n : Nat} (h : 4 ≤ bytes.length) (room : 4 ≤ n) :
    size? (bytes.take n) = size? bytes := by
  have there : 4 ≤ (bytes.take n).length := by
    rw [List.length_take]
    omega
  rw [← size?_append there (bytes.drop n), List.take_append_drop]

/-- A record is whole if its size is its length. -/
theorem isWhole_iff {bytes : Bytes} : isWhole bytes = true ↔ size? bytes = some bytes.length := by
  unfold isWhole
  rw [beq_iff_eq]

theorem four_le_of_isWhole {bytes : Bytes} (h : isWhole bytes = true) : 4 ≤ bytes.length :=
  four_le_of_size? (isWhole_iff.1 h)

/-- A block that starts with a whole record gives that record first. -/
theorem next_append {record : Bytes} (h : isWhole record = true) (rest : Bytes) :
    next (record ++ rest) = .ok (record, rest) := by
  have hfour := four_le_of_isWhole h
  have hsize : size? (record ++ rest) = some record.length := by
    rw [size?_append hfour, isWhole_iff.1 h]
  have hlarge : ¬ record.length < headerSize := by
    unfold headerSize
    omega
  unfold next
  rw [hsize]
  simp only
  rw [if_neg hlarge, List.take_left, List.drop_left, if_neg (Nat.lt_irrefl _)]

/-- What is cut off is a whole record. -/
theorem isWhole_of_next {block record rest : Bytes} (h : next block = .ok (record, rest)) :
    isWhole record = true := by
  obtain ⟨hcat, hsize, hfour⟩ := next_ok h
  rw [hcat, size?_append hfour] at hsize
  exact isWhole_iff.2 hsize

/-- Cutting a row of whole records gives them back. Induction on the records. -/
theorem splitFrom_flatten (total : Nat) (records : List Bytes)
    (whole : ∀ r ∈ records, isWhole r = true) (index : Nat) (found : List Bytes) :
    splitFrom total index records.length found records.flatten
      = .ok (found.reverse ++ records) := by
  induction records generalizing index found with
  | nil => simp [splitFrom]
  | cons r rs ih =>
    have hr : next (r ++ rs.flatten) = .ok (r, rs.flatten) :=
      next_append (whole r List.mem_cons_self) _
    have hrs := ih (fun x hx => whole x (List.mem_cons_of_mem _ hx)) (index + 1) (r :: found)
    rw [List.length_cons, List.flatten_cons, splitFrom, hr]
    simpa using hrs

/-- Cutting a block gives whole records, as many as were announced, and all of the block. Induction
on the number of records that are left to be found. -/
theorem exists_of_splitFrom {total left index : Nat} {block : Bytes} {found records : List Bytes}
    (h : splitFrom total index left found block = .ok records) :
    ∃ more, records = found.reverse ++ more ∧ more.length = left ∧
      (∀ r ∈ more, isWhole r = true) ∧ more.flatten = block := by
  induction left generalizing block index found with
  | zero =>
    cases block with
    | nil =>
      simp only [splitFrom, Except.ok.injEq] at h
      exact ⟨[], by rw [List.append_nil, h], rfl, nofun, rfl⟩
    | cons b bs => simp [splitFrom] at h
  | succ left ih =>
    rw [splitFrom] at h
    split at h
    · cases h
    · next record rest hnext =>
      obtain ⟨more, hrecords, hlength, whole, hrest⟩ := ih h
      refine ⟨record :: more, ?_, congrArg Nat.succ hlength,
        List.forall_mem_cons.2 ⟨isWhole_of_next hnext, whole⟩, ?_⟩
      · rw [hrecords, List.reverse_cons, List.append_assoc]
        rfl
      · rw [List.flatten_cons, hrest, (next_ok hnext).1]

/-- **The grammar of blocks.** A block is cut into just the announced number of whole records that
make it up. -/
theorem split_eq_ok_iff {block : Bytes} {total : UInt32} {records : List Bytes} :
    split block total = .ok records ↔
      records.length = total.toNat ∧ (∀ r ∈ records, isWhole r = true) ∧
        records.flatten = block := by
  constructor
  · intro h
    obtain ⟨more, rfl, hlength, whole, hblock⟩ := exists_of_splitFrom h
    exact ⟨hlength, whole, hblock⟩
  · rintro ⟨hlength, whole, rfl⟩
    unfold split
    rw [← hlength, splitFrom_flatten _ _ whole]
    rfl

theorem flatten_ne_nil {records : List Bytes} (whole : ∀ r ∈ records, isWhole r = true)
    (there : records ≠ []) : records.flatten ≠ [] := by
  obtain ⟨r, rs, rfl⟩ := List.exists_cons_of_ne_nil there
  have four := four_le_of_isWhole (whole r List.mem_cons_self)
  rw [List.flatten_cons, ne_eq, List.append_eq_nil_iff]
  rintro ⟨rfl, -⟩
  cases four

/-- A row of whole records is counted as it is. Induction on the records. -/
theorem countFrom_flatten (records : List Bytes) (whole : ∀ r ∈ records, isWhole r = true)
    (index : Nat) : countFrom index records.flatten = .ok (index + records.length) := by
  induction records generalizing index with
  | nil =>
    unfold countFrom
    rfl
  | cons r rs ih =>
    have hne := List.isEmpty_eq_false_iff.2 (flatten_ne_nil whole (List.cons_ne_nil r rs))
    rw [List.flatten_cons] at hne
    have first := next_append (whole r List.mem_cons_self) rs.flatten
    have later := ih (fun x hx => whole x (List.mem_cons_of_mem _ hx)) (index + 1)
    rw [List.flatten_cons, countFrom, hne, if_neg Bool.false_ne_true]
    split
    · next fault refused =>
      rw [first] at refused
      cases refused
    · next record rest taken =>
      rw [first, Except.ok.injEq, Prod.mk.injEq] at taken
      rw [← taken.2, later, List.length_cons]
      exact congrArg Except.ok (by omega)

theorem count_flatten (records : List Bytes) (whole : ∀ r ∈ records, isWhole r = true) :
    count records.flatten = .ok records.length := by
  rw [count, countFrom_flatten records whole, Nat.zero_add]

/-- Every record takes four bytes at least. -/
theorem four_mul_length_le (records : List Bytes) (whole : ∀ r ∈ records, isWhole r = true) :
    4 * records.length ≤ records.flatten.length := by
  induction records with
  | nil => simp
  | cons r rs ih =>
    have hr := four_le_of_isWhole (whole r List.mem_cons_self)
    have := ih fun x hx => whole x (List.mem_cons_of_mem _ hx)
    rw [List.flatten_cons, List.length_append, List.length_cons]
    omega

end Record

namespace Batch

def packed (records : List Bytes) : Batch :=
  ⟨UInt32.ofNat records.length, UInt32.ofNat records.flatten.length, records.flatten⟩

/-- Records with fewer bytes than four bytes can count are packed. -/
theorem pack_of_lt {records : List Bytes} (hsize : records.flatten.length < UInt32.size) :
    pack records = .ok (packed records) := by
  unfold pack sized
  rw [if_pos hsize]
  rfl

/-- With as many bytes, or more, they are refused. -/
theorem pack_of_le {records : List Bytes} (hsize : UInt32.size ≤ records.flatten.length) :
    pack records = .error (.blockTooLarge records.flatten.length) := by
  unfold pack sized
  rw [if_neg (Nat.not_lt.2 hsize)]

/-- The count of whole records is not cut off if their bytes are not: each has four. -/
theorem toNat_itemCount_packed {records : List Bytes}
    (whole : ∀ r ∈ records, Record.isWhole r = true)
    (hsize : records.flatten.length < UInt32.size) :
    (packed records).itemCount.toNat = records.length := by
  have hlength := Record.four_mul_length_le records whole
  exact UInt32.toNat_ofNat_of_lt' (by omega)

theorem toNat_byteCount_packed {records : List Bytes}
    (hsize : records.flatten.length < UInt32.size) :
    (packed records).byteCount.toNat = records.flatten.length :=
  UInt32.toNat_ofNat_of_lt' hsize

/-- The records of a batch are those that were packed. -/
theorem records_packed {records : List Bytes} (whole : ∀ r ∈ records, Record.isWhole r = true)
    (hsize : records.flatten.length < UInt32.size) :
    (packed records).records = .ok records :=
  Record.split_eq_ok_iff.2 ⟨(toNat_itemCount_packed whole hsize).symm, whole, rfl⟩

/-- A block of whole records with their number is their batch. -/
theorem ofBlock_flatten {records : List Bytes} (whole : ∀ r ∈ records, Record.isWhole r = true)
    (hsize : records.flatten.length < UInt32.size) :
    ofBlock (UInt32.ofNat records.length) records.flatten = .ok (packed records) := by
  have hsplit : Record.split records.flatten (UInt32.ofNat records.length) = .ok records :=
    records_packed whole hsize
  unfold ofBlock sized
  rw [hsplit]
  simp only
  rw [if_pos hsize]
  rfl

end Batch

namespace Message

theorem registration_inj {id id' : ClientId} (h : registration id = registration id') :
    id = id' := by
  have := congrArg identity h
  simpa using this

theorem unregistration_inj {id id' : ClientId} (h : unregistration id = unregistration id') :
    id = id' := by
  have := congrArg identity h
  simpa using this

theorem dataRequest_inj {id id' : ClientId} (h : dataRequest id = dataRequest id') : id = id' := by
  have := congrArg identity h
  simpa using this

/-- The records of a message are whole, whatever its shape. -/
theorem isWhole_of_records {m : Message} {records : List Bytes} (h : m.records = .ok records) :
    ∀ r ∈ records, Record.isWhole r = true := by
  unfold Message.records at h
  split at h
  · next hall =>
    simp only [Except.ok.injEq] at h
    rw [← h]
    exact fun r hr => List.all_eq_true.1 hall r hr
  · cases hbatch : m.toBatch with
    | error cause => rw [hbatch] at h; cases h
    | ok batch =>
      rw [hbatch] at h
      have hsplit : Record.split batch.data batch.itemCount = .ok records := h
      exact (Record.split_eq_ok_iff.1 hsplit).2.1

/-- Whole records, one in each part, are read as they are. -/
theorem records_process {records : List Bytes} (whole : ∀ r ∈ records, Record.isWhole r = true) :
    (process records).records = .ok records := by
  have hall : (process records).parts.all Record.isWhole = true := List.all_eq_true.2 whole
  unfold Message.records
  rw [if_pos hall]
  rfl

/-- The frames of a message of a kind with a code of its own are read back. -/
theorem ofFrames_toFrames {m : Message} {frames : Frames} (hkind : Kind.ofCode m.kind.code = m.kind)
    (h : m.toFrames = .ok frames) : ofFrames frames = .ok m := by
  unfold toFrames at h
  split at h
  · simp only [Except.ok.injEq] at h
    rw [← h, ofFrames, Bytes.toUInt32?_ofUInt32]
    simp only [hkind]
  · cases h

/-- A batch is not read as a row of single records. -/
theorem batch_not_all_whole {records : List Bytes} {count : UInt32}
    (whole : ∀ r ∈ records, Record.isWhole r = true) (hcount : count.toNat = records.length) :
    [Bytes.ofUInt32 count, records.flatten].all Record.isWhole = false := by
  rw [Bool.eq_false_iff]
  intro hall
  rw [List.all_cons, List.all_cons, List.all_nil, Bool.and_true, Bool.and_eq_true] at hall
  obtain ⟨hhead, hblock⟩ := hall
  -- The count frame can only be a record of its own four bytes, so it announces four records.
  have hfour : count.toNat = 4 := by
    have hword : Bytes.ofWord (Bytes.ofUInt32 count) = count.toNat :=
      Bytes.ofWord_word_of_lt count.toNat_lt
    rw [Record.isWhole_iff, Bytes.length_ofUInt32] at hhead
    have hsize : Record.size? (Bytes.ofUInt32 count)
        = some (Bytes.ofWord (Bytes.ofUInt32 count)) := rfl
    rw [hsize, hword] at hhead
    exact Option.some.inj hhead
  match records, whole, hcount with
  | [], _, hcount => simp [hfour] at hcount
  | r :: rs, whole, hcount =>
    -- The block would have the size of its first record, and three more do not fit.
    have hr := whole r List.mem_cons_self
    have hrest := Record.four_mul_length_le rs fun x hx => whole x (List.mem_cons_of_mem _ hx)
    have hsize : Record.size? (r :: rs).flatten = some r.length := by
      rw [List.flatten_cons, Record.size?_append (Record.four_le_of_isWhole hr),
        Record.isWhole_iff.1 hr]
    rw [Record.isWhole_iff, hsize, List.flatten_cons, List.length_append] at hblock
    have := Option.some.inj hblock
    rw [List.length_cons] at hcount
    omega

/-- What arrives of a batch that fits its header is read as that batch. -/
theorem toBatch_packed {records : List Bytes} (whole : ∀ r ∈ records, Record.isWhole r = true)
    (hsize : records.flatten.length < UInt32.size) :
    (ofBatch (Batch.packed records)).toBatch = .ok (Batch.packed records) := by
  have hcount : Bytes.toUInt32? (Batch.packed records).countBytes
      = some (UInt32.ofNat records.length) := Bytes.toUInt32?_ofUInt32 _
  simp only [toBatch, ofBatch, process, if_true, hcount]
  exact Batch.ofBlock_flatten whole hsize

/-- The records of a batch that fits its header are read from the message that carries it. -/
theorem records_packed {records : List Bytes} (whole : ∀ r ∈ records, Record.isWhole r = true)
    (hsize : records.flatten.length < UInt32.size) :
    (ofBatch (Batch.packed records)).records = .ok records := by
  have hshape := batch_not_all_whole whole (Batch.toNat_itemCount_packed whole hsize)
  unfold Message.records
  rw [toBatch_packed whole hsize, if_neg (by rw [Bool.eq_false_iff] at hshape; exact hshape)]
  exact Batch.records_packed whole hsize

/-- The message carries records that can be read. -/
def Carries (m : Message) : Prop := m.kind = .process ∧ ∃ records, m.records = .ok records

/-- The records of a `process` message, as far as it has any. -/
def content (m : Message) : List Bytes :=
  if m.kind = .process then
    match m.records with
    | .ok records => records
    | .error _ => []
  else []

theorem content_of_records {m : Message} {records : List Bytes} (hkind : m.kind = .process)
    (h : m.records = .ok records) : m.content = records := by
  unfold content
  rw [if_pos hkind, h]

theorem content_of_isEnd {m : Message} (h : m.isEnd = true) : m.content = [] := by
  unfold content
  rw [if_neg]
  intro hkind
  rw [isEnd, hkind] at h
  cases h

/-- **A hop preserves the records.** The frames of a `process` message with its records in one
batch are read as a `process` message with the same records. -/
theorem hop_process {m : Message} {frames : Frames} (hkind : m.kind = .process)
    (h : m.toFramesBatched = .ok frames) :
    ∃ records arrived, m.records = .ok records ∧ ofFrames frames = .ok arrived ∧
      arrived.kind = .process ∧ arrived.records = .ok records := by
  unfold toFramesBatched at h
  rw [if_pos hkind] at h
  cases hrecords : m.records with
  | error cause => rw [hrecords] at h; cases h
  | ok records =>
    rw [hrecords] at h
    replace h : ((Batch.pack records).map ofBatch >>= toFrames) = .ok frames := h
    rcases Nat.lt_or_ge records.flatten.length UInt32.size with hsize | hsize
    · rw [Batch.pack_of_lt hsize] at h
      have hframes : (ofBatch (Batch.packed records)).toFrames = .ok frames := h
      exact ⟨records, _, rfl, ofFrames_toFrames rfl hframes, rfl,
        records_packed (isWhole_of_records hrecords) hsize⟩
    · rw [Batch.pack_of_le hsize] at h
      cases h

/-- A message of any other kind travels as it is. -/
theorem hop_other {m : Message} {frames : Frames} (hkind : m.kind ≠ .process)
    (hcode : Kind.ofCode m.kind.code = m.kind) (h : m.toFramesBatched = .ok frames) :
    ofFrames frames = .ok m := by
  unfold toFramesBatched at h
  rw [if_neg hkind] at h
  exact ofFrames_toFrames hcode h

/-- A message of a kind with a code of its own can be sent, and is read as it is. -/
theorem exists_frames {m : Message} (visible : m.kind.isWireVisible = true)
    (hcode : Kind.ofCode m.kind.code = m.kind) :
    ∃ frames, m.toFrames = .ok frames ∧ ofFrames frames = .ok m := by
  have hframes : m.toFrames = .ok (Bytes.ofUInt32 m.kind.code :: m.parts) := by
    unfold toFrames
    rw [if_pos visible]
  exact ⟨_, hframes, ofFrames_toFrames hcode hframes⟩

/-- The message that frames are read as. -/
def arrived (frames : Frames) : Message :=
  match ofFrames frames with
  | .ok m => m
  | .error _ => .ignore

theorem arrived_of_framed {frames : Frames} {m : Message} (h : ofFrames frames = .ok m) :
    arrived frames = m := by
  unfold arrived
  rw [h]

theorem map_arrived_of_framed {rows : List Frames} {messages : List Message}
    (h : rows.map ofFrames = messages.map .ok) : rows.map arrived = messages := by
  induction rows generalizing messages with
  | nil => exact (List.map_eq_nil_iff.1 h.symm).symm
  | cons frames rows ih =>
    cases messages with
    | nil => cases h
    | cons m messages =>
      obtain ⟨first, rest⟩ := List.cons.inj h
      rw [List.map_cons, arrived_of_framed first, ih rest]

/-- The frames are a letter to a client: they are read as records or as the end. -/
def Letter (frames : Frames) : Prop :=
  ∃ m, ofFrames frames = .ok m ∧
    (m.kind = .endOfStream ∨ m.Carries)

end Message

end RecordFarm
