import RecordFarm.Proofs.Wire.Hop

/-!
# Blocks in place

`Record.split` and `Record.count` go on with what is left of a block. Whoever keeps the block in one
buffer goes on from place to place instead: every record is cut out of the buffer, and the records
are counted in a word of 32 bits. Such a walk breaks down where a cut does not lie inside of the
buffer, or where the word has no room (`Walk`). Neither happens, and both ways come to the same
(`splitInPlace_eq`, `countInPlace_cases`). So cutting, counting and packing agree on which bytes are
a block, and of which records (`blocks_agree`).
-/

namespace RecordFarm

namespace Record

/-! ## Walking over a buffer -/

inductive Walk (α : Type) where
  | finished (result : Except Violation α)
  /-- A cut did not lie inside of the buffer. -/
  | outside
  /-- The counter had no room for one more. -/
  | overflow

/-- The bytes from one place of a buffer up to another, if these are places of it in this order. -/
def cut? (buffer : Bytes) (start stop : Nat) : Option Bytes :=
  if start ≤ stop ∧ stop ≤ buffer.length then some ((buffer.drop start).take (stop - start))
  else none

def sizeOfNext (rest : Bytes) : Except SizeFault Nat :=
  match size? rest with
  | none => .error (.short rest.length)
  | some size =>
    if size < headerSize then .error (.tooSmall size)
    else if rest.length < size then .error (.tooLarge size rest.length)
    else .ok size

theorem sizeOfNext_bounds {rest : Bytes} {size : Nat} (h : sizeOfNext rest = .ok size) :
    4 ≤ size ∧ size ≤ rest.length := by
  unfold sizeOfNext at h
  split at h
  · cases h
  · split at h
    · cases h
    · next large =>
      split at h
      · cases h
      · next fits =>
        cases h
        exact ⟨Nat.not_lt.1 large, Nat.not_lt.1 fits⟩

/-- Cuts `left` more records out of a buffer, from a place on, behind those already found. -/
def splitInPlace (buffer : Bytes) (total : Nat) :
    Nat → Nat → Nat → List Bytes → Walk (List Bytes)
  | _, 0, offset, found =>
    if offset = buffer.length then .finished (.ok found.reverse)
    else if offset < buffer.length then
      .finished (.error (.trailingBytes (buffer.length - offset) total))
    else .outside
  | index, left + 1, offset, found =>
    match cut? buffer offset buffer.length with
    | none => .outside
    | some rest =>
      match sizeOfNext rest with
      | .error fault => .finished (.error (.badRecord index total fault))
      | .ok size =>
        match cut? buffer offset (offset + size) with
        | none => .outside
        | some record =>
          splitInPlace buffer total (index + 1) left (offset + size) (record :: found)

-- Only `decreasing_by` uses `h`, which the linter does not see.
set_option linter.unusedVariables false in
/-- Counts the records of a buffer, from a place on, behind those already counted. -/
def countInPlace (buffer : Bytes) (counted : UInt32) (offset : Nat) : Walk UInt32 :=
  if offset < buffer.length then
    match cut? buffer offset buffer.length with
    | none => .outside
    | some rest =>
      match h : sizeOfNext rest with
      | .error fault => .finished (.error (.badBlock counted.toNat fault))
      | .ok size =>
        if counted.toNat + 1 < UInt32.size then countInPlace buffer (counted + 1) (offset + size)
        else .overflow
  else .finished (.ok counted)
termination_by buffer.length - offset
decreasing_by
  have := (sizeOfNext_bounds h).1
  omega

/-! ## Both ways come to the same -/

theorem cut?_rest {buffer : Bytes} {offset : Nat} (inside : offset ≤ buffer.length) :
    cut? buffer offset buffer.length = some (buffer.drop offset) := by
  unfold cut?
  rw [if_pos ⟨inside, Nat.le_refl _⟩, ← List.length_drop, List.take_length]

theorem cut?_first {buffer : Bytes} {offset size : Nat} (inside : offset ≤ buffer.length)
    (fits : size ≤ (buffer.drop offset).length) :
    cut? buffer offset (offset + size) = some ((buffer.drop offset).take size) := by
  rw [List.length_drop] at fits
  unfold cut?
  rw [if_pos ⟨Nat.le_add_right .., by omega⟩, Nat.add_sub_cancel_left]

/-- Taking the first record off is finding out its size and cutting there. -/
theorem next_eq (block : Bytes) :
    next block = (sizeOfNext block).map fun size => (block.take size, block.drop size) := by
  unfold next sizeOfNext
  cases size? block with
  | none => rfl
  | some size =>
    have short : (block.take size).length < size ↔ block.length < size := by
      rw [List.length_take]
      omega
    simp only [short]
    split
    · rfl
    · split <;> rfl

/-- The next record is cut at its size. -/
theorem next_of_sizeOfNext {block : Bytes} {size : Nat} (h : sizeOfNext block = .ok size) :
    next block = .ok (block.take size, block.drop size) := by
  rw [next_eq, h]
  rfl

theorem next_of_sizeOfNext_error {block : Bytes} {fault : SizeFault}
    (h : sizeOfNext block = .error fault) : next block = .error fault := by
  rw [next_eq, h]
  rfl

/-- **No cut lies outside while a block is split.** The walk comes to what splitting the rest of the
block comes to. Induction on the number of records that are left to be found. -/
theorem splitInPlace_eq (buffer : Bytes) (total left : Nat) {index offset : Nat}
    {found : List Bytes} (inside : offset ≤ buffer.length) :
    splitInPlace buffer total index left offset found
      = .finished (splitFrom total index left found (buffer.drop offset)) := by
  induction left generalizing index offset found with
  | zero =>
    unfold splitInPlace
    split
    · next atEnd => rw [atEnd, List.drop_length, splitFrom]
    · next notAtEnd =>
      have before : offset < buffer.length := by omega
      rw [if_pos before, List.drop_eq_getElem_cons before, splitFrom, List.length_cons,
        List.length_drop]
      · congr 4
        omega
      · exact List.cons_ne_nil _ _
  | succ left ih =>
    unfold splitInPlace splitFrom
    rw [cut?_rest inside]
    cases hsize : sizeOfNext (buffer.drop offset) with
    | error fault => simp only [next_of_sizeOfNext_error hsize, hsize]
    | ok size =>
      have fits := (sizeOfNext_bounds hsize).2
      simp only [next_of_sizeOfNext hsize, hsize, cut?_first inside fits]
      rw [List.length_drop] at fits
      rw [ih (by omega), List.drop_drop]

/-- **No cut lies outside while a block is counted.** The walk comes to what counting the rest of
the block comes to, unless the counter overflows, and then the buffer is so large that a word could
not tell its length either: each record that was counted has four bytes of it. -/
theorem countInPlace_cases (buffer : Bytes) {counted : UInt32} {offset : Nat}
    (inside : offset ≤ buffer.length) (behind : 4 * counted.toNat ≤ offset) :
    (∃ result, countInPlace buffer counted offset = .finished result ∧
      countFrom counted.toNat (buffer.drop offset) = result.map UInt32.toNat) ∨
    countInPlace buffer counted offset = .overflow ∧ 4 * UInt32.size ≤ buffer.length := by
  induction h : buffer.length - offset using Nat.strongRecOn generalizing counted offset with
  | ind todo ih =>
  subst h
  unfold countInPlace countFrom
  split
  · next before =>
    have some : (buffer.drop offset).isEmpty = false := by
      rw [List.drop_eq_getElem_cons before]
      rfl
    rw [cut?_rest inside, some, if_neg Bool.false_ne_true]
    simp only
    split
    · next fault hsize =>
      refine .inl ⟨_, rfl, ?_⟩
      split
      · next fault' refused =>
        rw [next_of_sizeOfNext_error hsize, Except.error.injEq] at refused
        rw [refused]
        rfl
      · next taken =>
        rw [next_of_sizeOfNext_error hsize] at taken
        cases taken
    · next size hsize =>
      obtain ⟨four, fits⟩ := sizeOfNext_bounds hsize
      rw [List.length_drop] at fits
      split
      · -- The word has room, so it counts as a number does.
        next room =>
        have one : (counted + 1).toNat = counted.toNat + 1 := by
          rw [UInt32.toNat_add]
          exact Nat.mod_eq_of_lt room
        split
        · next refused =>
          rw [next_of_sizeOfNext hsize] at refused
          cases refused
        · next record rest taken =>
          rw [next_of_sizeOfNext hsize, Except.ok.injEq, Prod.mk.injEq] at taken
          rw [← taken.2, List.drop_drop, ← one]
          exact ih _ (by omega) (by omega) (by omega) rfl
      · -- So many records lie before this place, with four bytes each.
        next full => exact .inr ⟨rfl, by omega⟩
  · next atEnd =>
    refine .inl ⟨_, rfl, ?_⟩
    rw [List.drop_eq_nil_of_le (Nat.not_lt.1 atEnd)]
    rfl

/-! ## One grammar -/

/-- One whole record: four bytes that say how long it is, themselves included, and as many more as
that takes. -/
structure Sized (record : Bytes) : Prop where
  header : 4 ≤ record.length
  tells : Bytes.ofWord (record.take 4) = record.length

theorem isWhole_iff_sized {record : Bytes} : isWhole record = true ↔ Sized record := by
  rw [isWhole_iff]
  constructor
  · intro h
    have four := four_le_of_size? h
    refine ⟨four, ?_⟩
    match record, four with
    | a :: b :: c :: d :: _, _ => exact Option.some.inj h
  · rintro ⟨four, tells⟩
    match record, four with
    | a :: b :: c :: d :: _, _ => exact congrArg some tells

/-- The block is a row of so many whole records. -/
structure Row (block : Bytes) (n : Nat) (records : List Bytes) : Prop where
  count : records.length = n
  sized : ∀ r ∈ records, Sized r
  block : records.flatten = block

variable {block : Bytes} {n : Nat} {records : List Bytes}

theorem Row.whole (row : Row block n records) : ∀ r ∈ records, isWhole r = true :=
  fun r hr => isWhole_iff_sized.2 (row.sized r hr)

/-- A block splits into so many records if and only if it is a row of them. -/
theorem split_eq_ok_iff_row {n : UInt32} :
    split block n = .ok records ↔ Row block n.toNat records := by
  rw [split_eq_ok_iff]
  constructor
  · rintro ⟨count, whole, flat⟩
    exact ⟨count, fun r hr => isWhole_iff_sized.1 (whole r hr), flat⟩
  · intro row
    exact ⟨row.count, row.whole, row.block⟩

theorem Row.counted (row : Row block n records) : Record.count block = .ok n := by
  rw [← row.block, count_flatten records row.whole, row.count]

/-- There is only one way to read a block. -/
theorem Row.unique {n' : Nat} {records' : List Bytes} (row : Row block n records)
    (row' : Row block n' records') : n = n' ∧ records = records' := by
  have same : n = n' := Except.ok.inj (row.counted.symm.trans row'.counted)
  have cuts := splitFrom_flatten 0 records row.whole 0 []
  have cuts' := splitFrom_flatten 0 records' row'.whole 0 []
  rw [row.block, row.count, same] at cuts
  rw [row'.block, row'.count] at cuts'
  exact ⟨same, Except.ok.inj (cuts.symm.trans cuts')⟩

/-- What is counted is a row. Induction on the block, record by record. -/
theorem exists_row_of_countFrom {index total : Nat} (h : countFrom index block = .ok total) :
    ∃ records, Row block records.length records ∧ total = index + records.length := by
  induction hlength : block.length using Nat.strongRecOn generalizing index block with
  | ind length ih =>
  subst hlength
  unfold countFrom at h
  split at h
  · next nothing =>
    cases h
    exact ⟨[], ⟨rfl, nofun, (List.isEmpty_iff.1 nothing).symm⟩, rfl⟩
  · split at h
    · cases h
    · next record rest taken =>
      obtain ⟨records, row, htotal⟩ := ih _ (length_of_next taken) h rfl
      refine ⟨record :: records, ⟨rfl, List.forall_mem_cons.2 ⟨?_, row.sized⟩, ?_⟩, ?_⟩
      · exact isWhole_iff_sized.1 (isWhole_of_next taken)
      · rw [List.flatten_cons, row.block, (next_ok taken).1]
      · rw [htotal, List.length_cons]
        omega

/-- A block can be counted if and only if it is a row of records. -/
theorem count_eq_ok_iff_row : Record.count block = .ok n ↔ ∃ records, Row block n records := by
  constructor
  · intro h
    obtain ⟨records, row, hn⟩ := exists_row_of_countFrom h
    rw [Nat.zero_add] at hn
    exact ⟨records, hn ▸ row⟩
  · rintro ⟨records, row⟩
    exact row.counted

end Record

namespace Batch

/-- The batch was packed from the given records, and they can be told from it. -/
structure MadeOf (records : List Bytes) (batch : Batch) : Prop where
  packed : pack records = .ok batch
  itemCount : batch.itemCount.toNat = records.length
  byteCount : batch.byteCount.toNat = records.flatten.length
  data : batch.data = records.flatten
  records : batch.records = .ok records
  accepted : ofBlock batch.itemCount batch.data = .ok batch

/-- Whole records whose bytes fit a word are packed. -/
theorem exists_madeOf {records : List Bytes} (sized : ∀ r ∈ records, Record.Sized r)
    (fits : records.flatten.length < UInt32.size) : ∃ batch, MadeOf records batch := by
  have whole : ∀ r ∈ records, Record.isWhole r = true :=
    fun r hr => Record.isWhole_iff_sized.2 (sized r hr)
  exact ⟨packed records,
    { packed := pack_of_lt fits
      itemCount := toNat_itemCount_packed whole fits
      byteCount := toNat_byteCount_packed fits
      data := rfl
      records := records_packed whole fits
      accepted := ofBlock_flatten whole fits }⟩

end Batch

namespace Record

/-- **Cutting, counting and packing agree on one grammar of blocks.** A block is cut into the
announced number of records exactly if it is a row of that many, and there is only one way to read
it. A block whose length fits a word is counted as the number with which it is cut, and the counter
has room for it. Whole records that fit a batch are packed into one from which they can be told
again. In place, no cut ever lies outside of the block, whatever its bytes are. -/
theorem blocks_agree (block : Bytes) (n : UInt32) :
    (∀ records, split block n = .ok records ↔ Row block n.toNat records) ∧
    (∀ k k' records records', Row block k records → Row block k' records' →
      k = k' ∧ records = records') ∧
    (block.length < UInt32.size →
      (Record.count block = .ok n.toNat ↔ ∃ records, split block n = .ok records) ∧
      ∃ result, countInPlace block 0 0 = .finished result ∧
        Record.count block = result.map UInt32.toNat) ∧
    (∀ records, (∀ r ∈ records, Sized r) → records.flatten.length < UInt32.size →
      ∃ batch, Batch.MadeOf records batch) ∧
    splitInPlace block n.toNat 0 n.toNat 0 [] = .finished (split block n) ∧
    countInPlace block 0 0 ≠ .outside := by
  have walk := @countInPlace_cases block 0 0 (Nat.zero_le _) (Nat.zero_le _)
  refine ⟨fun records => split_eq_ok_iff_row, fun _ _ _ _ row row' => row.unique row',
    fun fits => ⟨?_, ?_⟩, fun _ => Batch.exists_madeOf,
    splitInPlace_eq block _ _ (Nat.zero_le _), ?_⟩
  · rw [count_eq_ok_iff_row]
    exact exists_congr fun records => split_eq_ok_iff_row.symm
  · -- A block that fits a word is too small for the counter to overflow.
    rcases walk with counts | ⟨-, large⟩
    · exact counts
    · omega
  · intro outside
    rw [outside] at walk
    rcases walk with ⟨_, finished, -⟩ | ⟨overflow, -⟩
    · cases finished
    · cases overflow

/-- Three records in a row are cut, counted and packed; with a size that reaches one byte too far
they are neither cut nor counted, and still no cut lies outside. -/
theorem blocks_agree_three :
    let records : List Bytes := [[5, 0, 0, 0, 9], [4, 0, 0, 0], [6, 0, 0, 0, 7, 8]]
    let torn : Bytes := [5, 0, 0, 0, 9, 4, 0, 0, 0, 7, 0, 0, 0, 7, 8]
    split records.flatten 3 = .ok records ∧ Record.count records.flatten = .ok 3 ∧
      (∃ batch, Batch.MadeOf records batch) ∧
      (∀ n, (∀ rows, split torn n ≠ .ok rows) ∧ Record.count torn ≠ .ok n.toNat) ∧
      splitInPlace torn 3 0 3 0 [] = .finished (.error (.badRecord 2 3 (.tooLarge 7 6))) := by
  intro records torn
  have sized : ∀ r ∈ records, Sized r := by
    intro r hr
    exact isWhole_iff_sized.1 (List.all_eq_true.1 (by decide : records.all isWhole = true) r hr)
  have row : Row records.flatten 3 records := ⟨rfl, sized, rfl⟩
  obtain ⟨cuts, -, agree, packs, -, -⟩ := blocks_agree records.flatten 3
  have cut : split records.flatten 3 = .ok records := (cuts records).2 row
  refine ⟨cut, (agree (by decide)).1.2 ⟨records, cut⟩, packs records sized (by decide),
    fun n => ?_, ?_⟩
  · have refused : Record.count torn ≠ .ok n.toNat := by
      have : Record.count torn = .error (.badBlock 2 (.tooLarge 7 6)) := by cbv
      rw [this]
      intro h
      cases h
    refine ⟨fun rows hrows => refused ?_, refused⟩
    exact ((blocks_agree torn n).2.2.1 (by decide)).1.2 ⟨rows, hrows⟩
  · exact (blocks_agree torn 3).2.2.2.2.1.trans (by rfl)

end Record

end RecordFarm
