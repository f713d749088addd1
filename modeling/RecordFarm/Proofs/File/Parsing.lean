import RecordFarm.Proofs.File.Reading

/-!
# What a file holds is told by its bytes

A byte string begins with whole records, as many as there are, and then comes something that no
record begins, or nothing (`Record.Parsed`). A reader gives just these records, then the end if
nothing is left, and otherwise says what is wrong with the rest (`Record.Damage`). How the stream
hands the bytes over makes no difference (`reads_parsed`).

A reader that reads blocks is told by the same account: `Underway` says where a reader stands that
has met no damage yet, `Underway.after` where it stands after some calls, whatever it reads at a
time, and `Underway.stops` what it comes to. -/

namespace RecordFarm

/-! ## Parsing -/

namespace Record

/-- What is wrong with bytes that begin with no record, where the record `index` should begin. -/
inductive Damage (index : Nat) (bytes : Bytes) : Violation → Prop where
  /-- The bytes end inside the header. -/
  | header (there : bytes ≠ []) (short : bytes.length < headerSize) :
      Damage index bytes (.truncatedHeader index bytes.length)
  /-- The header says a size that does not even cover the header. -/
  | size {size : Nat} (said : size? bytes = some size) (small : size < headerSize) :
      Damage index bytes (.sizeBelowHeader index size)
  /-- The bytes end inside the body. -/
  | body {size : Nat} (said : size? bytes = some size) (large : headerSize ≤ size)
      (short : bytes.length < size) :
      Damage index bytes (.truncatedBody index (bytes.length - headerSize) (size - headerSize))

variable {bytes record behind : Bytes} {index : Nat} {cause : Violation}

/-- A size is told by a header that is there. -/
theorem headerSize_le_of_size? {n : Nat} (said : size? bytes = some n) :
    headerSize ≤ bytes.length := four_le_of_size? said

theorem size?_of_short (short : bytes.length < headerSize) : size? bytes = none := by
  cases said : size? bytes with
  | none => rfl
  | some size => exact absurd (headerSize_le_of_size? said) (Nat.not_le.2 short)

/-- Bytes are over, or begin with a whole record, or are damaged. -/
theorem beginning (bytes : Bytes) (index : Nat) :
    bytes = [] ∨ (∃ record behind, isWhole record = true ∧ bytes = record ++ behind) ∨
      ∃ cause, Damage index bytes cause := by
  by_cases nothing : bytes = []
  · exact Or.inl nothing
  · refine Or.inr ?_
    cases said : size? bytes with
    | none =>
      have short : bytes.length < headerSize := by
        refine Nat.lt_of_not_le fun long => ?_
        match bytes, long with
        | _ :: _ :: _ :: _ :: _, _ => cases said
      exact Or.inr ⟨_, .header nothing short⟩
    | some size =>
      rcases Nat.lt_or_ge size headerSize with small | large
      · exact Or.inr ⟨_, .size said small⟩
      rcases Nat.lt_or_ge bytes.length size with short | long
      · exact Or.inr ⟨_, .body said large short⟩
      · refine Or.inl
          ⟨bytes.take size, bytes.drop size, ?_, (List.take_append_drop size bytes).symm⟩
        rw [isWhole_iff, size?_take (headerSize_le_of_size? said) large, said, List.length_take,
          Nat.min_eq_left long]

theorem Damage.ne_nil (h : Damage index bytes cause) : bytes ≠ [] := by
  cases h with
  | header there short => exact there
  | size said small =>
    rintro rfl
    cases said
  | body said large short =>
    rintro rfl
    cases said

/-- Damaged bytes begin with no record. One case for each sort of damage. -/
theorem Damage.not_whole (h : Damage index bytes cause) (whole : isWhole record = true) :
    bytes ≠ record ++ behind := by
  rintro rfl
  have four : headerSize ≤ record.length := four_le_of_isWhole whole
  have said : size? (record ++ behind) = some record.length :=
    (size?_append four behind).trans (isWhole_iff.1 whole)
  have length : (record ++ behind).length = record.length + behind.length := List.length_append
  cases h with
  | header there short => omega
  | size said' small =>
    cases said.symm.trans said'
    omega
  | body said' large short =>
    cases said.symm.trans said'
    omega

/-- The bytes begin with these records, which are whole, and with no longer row of whole records;
the rest is left. -/
structure Parsed (bytes : Bytes) (records : List Bytes) (rest : Bytes) : Prop where
  whole : ∀ record ∈ records, isWhole record = true
  split : bytes = records.flatten ++ rest
  longest : ∀ more : List Bytes, (∀ record ∈ more, isWhole record = true) →
    more.flatten <+: bytes → more <+: records

/-- The first of these records is the one with which the bytes begin. -/
theorem eq_of_prefix {records : List Bytes} {first : Bytes} (whole : isWhole record = true)
    (whole' : isWhole first = true) (h : (first :: records).flatten <+: record ++ behind) :
    first = record ∧ records.flatten <+: behind := by
  obtain ⟨rest, h⟩ := h
  rw [List.flatten_cons, List.append_assoc] at h
  have one := next_append whole behind
  rw [← h, next_append whole', Except.ok.injEq, Prod.mk.injEq] at one
  exact ⟨one.1, rest, one.2⟩

theorem parsed_nil : Parsed [] [] [] where
  whole := nofun
  split := rfl
  longest := by
    intro more whole h
    cases more with
    | nil => exact List.prefix_rfl
    | cons first more =>
      have four := four_le_of_isWhole (whole first List.mem_cons_self)
      have hnil := List.prefix_nil.1 h
      rw [List.flatten_cons, List.append_eq_nil_iff] at hnil
      rw [hnil.1] at four
      cases four

/-- Damage at the beginning leaves no record to read. -/
theorem Damage.parsed (h : Damage index bytes cause) : Parsed bytes [] bytes where
  whole := nofun
  split := rfl
  longest := by
    intro more whole hmore
    cases more with
    | nil => exact List.prefix_rfl
    | cons first more =>
      obtain ⟨behind, hbehind⟩ := hmore
      rw [List.flatten_cons, List.append_assoc] at hbehind
      exact absurd hbehind.symm (h.not_whole (whole first List.mem_cons_self))

/-- A whole record in front of others is parsed first. -/
theorem Parsed.cons {records : List Bytes} {rest : Bytes} (whole : isWhole record = true)
    (h : Parsed behind records rest) : Parsed (record ++ behind) (record :: records) rest where
  whole := List.forall_mem_cons.2 ⟨whole, h.whole⟩
  split := by rw [List.flatten_cons, List.append_assoc, ← h.split]
  longest := by
    intro more hmore within
    cases more with
    | nil => exact List.nil_prefix
    | cons first more =>
      obtain ⟨hfirst, hmore⟩ := List.forall_mem_cons.1 hmore
      obtain ⟨rfl, behind⟩ := eq_of_prefix whole hfirst within
      exact (List.prefix_cons_inj first).2 (h.longest more hmore behind)

/-- All bytes can be parsed. Induction on their number. -/
theorem exists_parsed (bytes : Bytes) : ∃ records rest, Parsed bytes records rest := by
  induction hlength : bytes.length using Nat.strongRecOn generalizing bytes with
  | _ n ih =>
    rcases beginning bytes 0 with rfl | ⟨record, behind, whole, rfl⟩ | ⟨cause, damage⟩
    · exact ⟨[], [], parsed_nil⟩
    · have four := four_le_of_isWhole whole
      rw [List.length_append] at hlength
      obtain ⟨records, rest, h⟩ := ih behind.length (by omega) behind rfl
      exact ⟨record :: records, rest, h.cons whole⟩
    · exact ⟨[], bytes, damage.parsed⟩

/-- There is one way to parse: each of two rows is no longer than the other. -/
theorem Parsed.unique {records records' : List Bytes} {rest rest' : Bytes}
    (h : Parsed bytes records rest) (h' : Parsed bytes records' rest') :
    records = records' ∧ rest = rest' := by
  have there := h'.longest records h.whole ⟨rest, h.split.symm⟩
  have back := h.longest records' h'.whole ⟨rest', h'.split.symm⟩
  obtain rfl := there.eq_of_length (Nat.le_antisymm there.length_le back.length_le)
  exact ⟨rfl, List.append_cancel_left (h.split.symm.trans h'.split)⟩

/-- If something is left it is damaged: a record at its beginning would be one more. -/
theorem Parsed.damage {records : List Bytes} {rest : Bytes} (h : Parsed bytes records rest)
    (index : Nat) (left : rest ≠ []) : ∃ cause, Damage index rest cause := by
  rcases beginning rest index with nothing | ⟨record, behind, whole, rfl⟩ | damage
  · exact absurd nothing left
  · have more := h.longest (records ++ [record]) (by
        intro x hx
        rcases List.mem_append.1 hx with old | new
        · exact h.whole x old
        · rwa [List.mem_singleton.1 new]) (by
        refine ⟨behind, ?_⟩
        rw [List.flatten_append, List.flatten_singleton, List.append_assoc, h.split])
    have := more.length_le
    rw [List.length_append, List.length_singleton] at this
    omega
  · exact damage

end Record

/-! ## Successive calls -/

namespace RecordReader

def after (r : RecordReader) : Nat → RecordReader
  | 0 => r
  | k + 1 => (r.after k).read.2

/-- What is read when `k` items have been asked for before. -/
def answer (r : RecordReader) (k : Nat) : Except Error Item := (r.after k).read.1

def brought : Except Error Item → Bytes
  | .ok item => item.bytes
  | .error _ => []

/-- The bytes of the items that so many calls have returned. -/
def handedOut (r : RecordReader) : Nat → Bytes
  | 0 => []
  | k + 1 => r.handedOut k ++ brought (r.answer k)

/-- Only items come of the first `count` calls; the next call finds the end or fails. -/
structure Stops (r : RecordReader) (count : Nat) (outcome : Except Error Item) : Prop where
  items : ∀ k < count, ∃ item, r.answer k = .ok item ∧ item.isEnd = false
  answer : r.answer count = outcome
  last : outcome = .ok .endOfData ∨ ∃ cause, outcome = .error cause

variable {r : RecordReader} {records : List Bytes} {bytes rest : Bytes} {cause : Violation}

/-- A reader that has finished does not change any more. -/
theorem after_of_finished {k : Nat} (h : (r.after k).finished = true) (more : Nat) :
    r.after (k + more) = r.after k := by
  induction more with
  | zero => rfl
  | succ more ih =>
    show (r.after (k + more)).read.2 = _
    rw [ih, read_of_finished h]

/-! ### Damage -/

/-- A reader says what is wrong with the bytes. One case for each sort of damage. -/
theorem readRecord_of_damage (damage : Record.Damage r.recordsRead bytes cause)
    (delivers : r.stream.Delivers bytes) :
    ∃ stream left, r.readRecord = (.error cause, r.past [] stream) ∧ stream.Delivers left := by
  obtain ⟨atBody, hheader, delivers⟩ := delivers.fill Record.headerSize
  have there : bytes.take Record.headerSize ≠ [] := by
    rw [ne_eq, List.take_eq_nil_iff]
    rintro (h | h)
    · cases h
    · exact damage.ne_nil h
  cases damage with
  | header _ short =>
    refine ⟨atBody, _, ?_, delivers⟩
    rw [readRecord_of_header hheader there, List.take_of_length_le (Nat.le_of_lt short),
      Record.size?_of_short short]
    rfl
  | size said small =>
    refine ⟨atBody, _, ?_, delivers⟩
    rw [readRecord_of_header hheader there,
      Record.size?_take (Record.headerSize_le_of_size? said) (Nat.le_refl Record.headerSize), said]
    simp only [if_pos small]
    rfl
  | @body size said large short =>
    obtain ⟨atEnd, hbody, delivers⟩ := delivers.fill (size - Record.headerSize)
    have enough := Record.headerSize_le_of_size? said
    have got : (bytes.drop Record.headerSize).length = bytes.length - Record.headerSize :=
      List.length_drop
    rw [List.take_of_length_le (by omega)] at hbody
    refine ⟨atEnd, _, ?_, delivers⟩
    rw [readRecord_of_header hheader there,
      Record.size?_take enough (Nat.le_refl Record.headerSize), said]
    simp only [if_neg (Nat.not_lt.2 large), hbody, got]
    rw [if_pos (by omega)]
    rfl

/-- A reader that wants more records than there are meets the damage behind them. Induction on the
records. -/
theorem Faces.readRecords_of_damage (h : r.Faces records rest) {n : Nat}
    (beyond : records.length < n)
    (damage : Record.Damage (r.recordsRead + records.length) rest cause) :
    ∃ stream, RecordReader.readRecords n r = (.error cause, r.past records stream) := by
  induction records generalizing r n with
  | nil =>
    obtain ⟨n, rfl⟩ := Nat.exists_eq_succ_of_ne_zero (Nat.ne_of_gt beyond)
    obtain ⟨stream, left, failed, -⟩ := readRecord_of_damage damage h.delivers
    refine ⟨stream, ?_⟩
    unfold RecordReader.readRecords
    rw [failed]
  | cons record records ih =>
    rw [List.length_cons] at beyond damage
    obtain ⟨n, rfl⟩ := Nat.exists_eq_succ_of_ne_zero (Nat.ne_of_gt (Nat.zero_lt_of_lt beyond))
    obtain ⟨after, first, later⟩ := h.readRecord
    have place : r.recordsRead + (records.length + 1)
        = (r.past [record] after).recordsRead + records.length := by
      show _ = r.recordsRead + 1 + records.length
      omega
    rw [place] at damage
    obtain ⟨stream, failed⟩ := ih later (Nat.lt_of_succ_lt_succ beyond) damage
    rw [past_past] at failed
    refine ⟨stream, ?_⟩
    unfold RecordReader.readRecords
    rw [first]
    simp only [failed, List.singleton_append]

/-- A call that meets the damage gives nothing of the records before it, but counts them. -/
theorem Faces.read_of_damage (h : r.Faces records rest) (running : r.finished = false)
    (beyond : records.length < r.stride)
    (damage : Record.Damage (r.recordsRead + records.length) rest cause) :
    ∃ stream, r.read = (.error cause, r.past records stream) := by
  unfold RecordReader.read
  unfold stride at beyond
  rw [running, if_neg Bool.false_ne_true]
  cases hmode : r.mode with
  | single =>
    rw [hmode] at beyond
    obtain rfl : records = [] := List.length_eq_zero_iff.1 (Nat.lt_one_iff.1 beyond)
    obtain ⟨stream, left, failed, -⟩ := readRecord_of_damage damage h.delivers
    exact ⟨stream, by simp only [failed]⟩
  | block =>
    rw [hmode] at beyond
    obtain ⟨stream, failed⟩ := h.readRecords_of_damage beyond damage
    exact ⟨stream, by simp only [readBlock, failed]⟩

/-! ### A reader on its way -/

/-- A reader that has met neither the end nor damage, and has these records before it. -/
structure Underway (r : RecordReader) (records : List Bytes) (rest : Bytes) : Prop
    extends r.Faces records rest where
  running : r.finished = false
  positive : 0 < r.stride
  fits : r.mode = .block → records.flatten.length < UInt32.size

/-- So many calls give an item each: there are records for all of them, or the bytes end with the
last record, and the last call gets what there is. -/
def Within (r : RecordReader) (records : List Bytes) (rest : Bytes) (k : Nat) : Prop :=
  k * r.stride ≤ records.length ∨ (rest = [] ∧ k * r.stride < records.length + r.stride)

/-- Before the last of these calls there were records left for it. -/
theorem Within.of_succ {k : Nat} (positive : 0 < r.stride) (h : r.Within records rest (k + 1)) :
    r.Within records rest k ∧ k * r.stride < records.length ∧
      (rest = [] ∨ r.stride ≤ records.length - k * r.stride) := by
  unfold Within at h ⊢
  rw [Nat.succ_mul] at h
  rcases h with many | ⟨nothing, last⟩
  · exact ⟨Or.inl (by omega), by omega, Or.inr (by omega)⟩
  · exact ⟨Or.inl (by omega), by omega, Or.inl nothing⟩

theorem Within.mono {k j : Nat} (h : r.Within records rest k) (le : j ≤ k) :
    r.Within records rest j := by
  have less : j * r.stride ≤ k * r.stride := Nat.mul_le_mul_right _ le
  exact h.imp (fun many => Nat.le_trans less many) fun ⟨nothing, last⟩ =>
    ⟨nothing, Nat.lt_of_le_of_lt less last⟩

/-- A call that is not to meet the damage gives a stride of records, or those that are left. -/
theorem Underway.read (h : r.Underway records rest) (there : records ≠ [])
    (reach : rest = [] ∨ r.stride ≤ records.length) :
    ∃ stream, r.read
        = (.ok ⟨(records.take r.stride).flatten⟩, r.past (records.take r.stride) stream) ∧
      (r.past (records.take r.stride) stream).Underway (records.drop r.stride) rest := by
  obtain ⟨stream, item, left⟩ := h.toFaces.read there h.running h.positive h.fits reach
  refine ⟨stream, item, left, h.running, h.positive, fun block => ?_⟩
  have fits := h.fits block
  have split := congrArg (fun rs => rs.flatten.length) (List.take_append_drop r.stride records)
  simp only [List.flatten_append, List.length_append] at split
  omega

/-- One more call gives the next records and moves the reader past them. -/
theorem Underway.next (h : r.Underway records rest) {k : Nat} {before : InStream}
    (stands : r.after k = r.past (records.take (k * r.stride)) before)
    (left : (r.after k).Underway (records.drop (k * r.stride)) rest)
    (within : r.Within records rest (k + 1)) :
    ∃ stream, (r.after k).read
        = (.ok ⟨((records.drop (k * r.stride)).take r.stride).flatten⟩,
          r.past (records.take ((k + 1) * r.stride)) stream) ∧
      (r.past (records.take ((k + 1) * r.stride)) stream).Underway
        (records.drop ((k + 1) * r.stride)) rest := by
  obtain ⟨-, there, reach⟩ := within.of_succ h.positive
  have stride : (r.after k).stride = r.stride := by
    rw [stands]
    rfl
  obtain ⟨stream, item, later⟩ := left.read
    (by rw [ne_eq, List.drop_eq_nil_iff]; omega) (by rwa [stride, List.length_drop])
  have split : records.take ((k + 1) * r.stride)
      = records.take (k * r.stride) ++ (records.drop (k * r.stride)).take r.stride := by
    rw [Nat.succ_mul, List.take_add]
  rw [stride, stands, past_past, ← split] at item later
  rw [List.drop_drop, ← Nat.succ_mul] at later
  exact ⟨stream, by rw [stands]; exact item, later⟩

/-- **Where the reader stands after some calls** that gave an item each: it has read as many records
as these items hold. Induction on the calls. -/
theorem Underway.after (h : r.Underway records rest) {k : Nat} (within : r.Within records rest k) :
    ∃ stream, r.after k = r.past (records.take (k * r.stride)) stream ∧
      (r.after k).Underway (records.drop (k * r.stride)) rest ∧
      r.handedOut k = (records.take (k * r.stride)).flatten := by
  induction k with
  | zero =>
    rw [Nat.zero_mul]
    exact ⟨r.stream, rfl, h, rfl⟩
  | succ k ih =>
    obtain ⟨before, stands, left, handed⟩ := ih (within.of_succ h.positive).1
    obtain ⟨stream, item, later⟩ := h.next stands left within
    have now : r.after (k + 1) = r.past (records.take ((k + 1) * r.stride)) stream :=
      congrArg Prod.snd item
    have answer : r.answer k = .ok ⟨((records.drop (k * r.stride)).take r.stride).flatten⟩ :=
      congrArg Prod.fst item
    refine ⟨stream, now, now ▸ later, ?_⟩
    rw [handedOut, answer, handed, Nat.succ_mul, List.take_add, List.flatten_append]
    rfl

/-- The call number `k` gives the next records. -/
theorem Underway.answer (h : r.Underway records rest) {k : Nat}
    (within : r.Within records rest (k + 1)) :
    r.answer k = .ok ⟨((records.drop (k * r.stride)).take r.stride).flatten⟩ := by
  obtain ⟨before, stands, left, -⟩ := h.after (within.of_succ h.positive).1
  obtain ⟨stream, item, -⟩ := h.next stands left within
  exact congrArg Prod.fst item

/-- How the calls come to a stop after `count` items. -/
inductive Comes (r : RecordReader) (records : List Bytes) (rest : Bytes) (count : Nat) :
    Except Error Item → Prop where
  /-- All records are in the items, and nothing is left. -/
  | complete (nothing : rest = []) (all : records.length ≤ count * r.stride)
      (counted : ∃ stream, r.after (count + 1) = { r.past records stream with finished := true }) :
      Comes r records rest count (.ok .endOfData)
  /-- So many records are in full items; the next item would have to hold what is damaged. -/
  | damaged {cause : Violation} (damage : Record.Damage (r.recordsRead + records.length) rest cause)
      (full : count * r.stride ≤ records.length)
      (last : records.length < count * r.stride + r.stride)
      (counted : ∃ stream, r.after (count + 1) = r.past records stream) :
      Comes r records rest count (.error cause)

/-- **What the reader comes to.** It gives as many items as the records fill, the last one in part
if nothing is left behind them. Then it finds the end, or the damage behind the last record. -/
theorem Underway.stops (h : r.Underway records rest)
    (damaged : rest ≠ [] → ∃ cause, Record.Damage (r.recordsRead + records.length) rest cause) :
    ∃ count outcome, r.Stops count outcome ∧ r.Within records rest count ∧
      Comes r records rest count outcome := by
  have positive := h.positive
  -- Each call before the stop gives an item that is not empty.
  have items : ∀ {count}, r.Within records rest count →
      ∀ k < count, ∃ item, r.answer k = .ok item ∧ item.isEnd = false := by
    intro count within k hk
    have one := within.mono hk
    refine ⟨_, h.answer one, ?_⟩
    obtain ⟨-, there, -⟩ := one.of_succ positive
    refine List.isEmpty_eq_false_iff.2 (Record.flatten_ne_nil ?_ ?_)
    · exact fun record hrecord =>
        h.whole record (List.mem_of_mem_drop (List.mem_of_mem_take hrecord))
    · rw [ne_eq, List.take_eq_nil_iff, List.drop_eq_nil_iff]
      omega
  by_cases nothing : rest = []
  · subst nothing
    have below := Nat.div_mul_le_self (records.length + r.stride - 1) r.stride
    have above := Nat.lt_div_mul_add (a := records.length + r.stride - 1) positive
    have within : r.Within records [] ((records.length + r.stride - 1) / r.stride) :=
      Or.inr ⟨rfl, by omega⟩
    have all : records.length ≤ (records.length + r.stride - 1) / r.stride * r.stride := by omega
    obtain ⟨before, stands, left, -⟩ := h.after within
    rw [List.drop_eq_nil_of_le all] at left
    rw [List.take_of_length_le all] at stands
    obtain ⟨stream, ended⟩ := left.toFaces.holds.read_nil left.running
    refine ⟨_, _, ⟨items within, congrArg Prod.fst ended, Or.inl rfl⟩, within, .complete rfl all ?_⟩
    exact ⟨stream, (congrArg Prod.snd ended).trans (by rw [stands]; rfl)⟩
  · obtain ⟨cause, damage⟩ := damaged nothing
    have below := Nat.div_mul_le_self records.length r.stride
    have above := Nat.lt_div_mul_add (a := records.length) positive
    have within : r.Within records rest (records.length / r.stride) := Or.inl below
    obtain ⟨before, stands, left, -⟩ := h.after within
    have stride : (r.after (records.length / r.stride)).stride = r.stride := by
      rw [stands]
      rfl
    have counted : (r.after (records.length / r.stride)).recordsRead
        + (records.drop (records.length / r.stride * r.stride)).length
        = r.recordsRead + records.length := by
      rw [stands, List.length_drop]
      show r.recordsRead + (records.take _).length + _ = _
      rw [List.length_take]
      omega
    obtain ⟨stream, failed⟩ := left.toFaces.read_of_damage left.running
      (by rw [stride, List.length_drop]; omega) (by rw [counted]; exact damage)
    refine ⟨_, _, ⟨items within, congrArg Prod.fst failed, Or.inr ⟨_, rfl⟩⟩, within,
      .damaged damage below above ?_⟩
    refine ⟨stream, (congrArg Prod.snd failed).trans ?_⟩
    rw [stands, past_past, List.take_append_drop]

/-- A reader at the beginning of these bytes. -/
theorem underway_new {stream : InStream} {mode : ReadMode}
    (parsed : Record.Parsed bytes records rest)
    (delivers : stream.Delivers bytes) (n : Nat)
    (fits : mode = .block → bytes.length < UInt32.size) :
    (new stream mode n).Underway records rest where
  whole := parsed.whole
  delivers := parsed.split ▸ delivers
  running := rfl
  positive := by
    cases mode with
    | single => exact Nat.one_pos
    | block => exact Nat.lt_of_lt_of_le Nat.one_pos (Nat.le_max_right n 1)
  fits := fun block => by
    have fits := fits block
    rw [parsed.split, List.length_append] at fits
    omega

/-- **What is read depends on the bytes alone.** Let a stream deliver some bytes, in chunks of any
sizes and with interruptions, and then find the end for ever. Read one at a time, these are the
records that are read: the longest row of whole records with which the bytes begin. If nothing is
left, then comes the end, for ever; otherwise what is left is damaged, and the next call says how.
After each call the reader has counted what it has read. -/
theorem reads_parsed {bytes : Bytes} {stream : InStream} (delivers : stream.Delivers bytes)
    (n : Nat) :
    let r := new stream .single n
    ∃ records rest, Record.Parsed bytes records rest ∧
      (∀ k record, records[k]? = some record → record ≠ [] ∧ r.answer k = .ok ⟨record⟩) ∧
      (∀ k ≤ records.length, (r.after k).recordsRead = k ∧
        (r.after k).bytesRead = (records.take k).flatten.length) ∧
      (rest = [] → ∀ k, records.length ≤ k → r.answer k = .ok .endOfData ∧
        (r.after k).recordsRead = records.length ∧
        (r.after k).bytesRead = records.flatten.length) ∧
      (rest ≠ [] → ∃ cause, Record.Damage records.length rest cause ∧
        r.answer records.length = .error (.violation cause) ∧
        (r.after (records.length + 1)).recordsRead = records.length ∧
        (r.after (records.length + 1)).bytesRead = records.flatten.length) := by
  intro r
  obtain ⟨records, rest, parsed⟩ := Record.exists_parsed bytes
  have underway : r.Underway records rest := underway_new parsed delivers n nofun
  have stride : r.stride = 1 := rfl
  -- One record is read with each call, so the reader stops right behind the records.
  have within : ∀ k ≤ records.length, r.Within records rest k := fun k hk =>
    Or.inl (by rwa [stride, Nat.mul_one])
  have counted : ∀ k ≤ records.length, (r.after k).recordsRead = k ∧
      (r.after k).bytesRead = (records.take k).flatten.length := by
    intro k hk
    obtain ⟨stream, stands, -⟩ := underway.after (within k hk)
    rw [stands, stride, Nat.mul_one]
    refine ⟨?_, Nat.zero_add _⟩
    show 0 + (records.take k).length = k
    rw [List.length_take, Nat.zero_add, Nat.min_eq_left hk]
  obtain ⟨count, outcome, stops, reach, comes⟩ := underway.stops fun left => parsed.damage _ left
  rw [Within, stride, Nat.mul_one] at reach
  refine ⟨records, rest, parsed, ?_, counted, ?_, ?_⟩
  · intro k record hrecord
    obtain ⟨hk, rfl⟩ := List.getElem?_eq_some_iff.1 hrecord
    have whole := parsed.whole records[k] (List.getElem_mem hk)
    refine ⟨fun nothing => ?_, ?_⟩
    · rw [nothing] at whole
      cases whole
    · rw [underway.answer (within (k + 1) hk), stride, Nat.mul_one, List.drop_eq_getElem_cons hk,
        List.take_succ_cons, List.take_zero, List.flatten_singleton]
  · intro nothing k hk
    cases comes with
    | damaged damage => exact absurd nothing damage.ne_nil
    | complete _ all ended =>
      rw [stride, Nat.mul_one] at all
      obtain rfl : count = records.length := by omega
      obtain ⟨stream, ended⟩ := ended
      rcases Nat.eq_or_lt_of_le hk with rfl | later
      · obtain ⟨hcount, bytes⟩ := counted records.length (Nat.le_refl _)
        rw [List.take_length] at bytes
        exact ⟨stops.answer, hcount, bytes⟩
      · -- The end was found before.
        obtain ⟨more, rfl⟩ := Nat.exists_eq_add_of_le later
        have finished : (r.after (records.length + 1)).finished = true := by rw [ended]
        have same := after_of_finished finished more
        unfold RecordReader.answer
        rw [same, read_of_finished finished, ended]
        exact ⟨rfl, Nat.zero_add _, Nat.zero_add _⟩
  · intro left
    cases comes with
    | complete nothing => exact absurd nothing left
    | @damaged cause damage full last failed =>
      rw [stride, Nat.mul_one] at full last
      obtain rfl : count = records.length := by omega
      obtain ⟨stream, failed⟩ := failed
      rw [show r.recordsRead + records.length = records.length from Nat.zero_add _] at damage
      refine ⟨cause, damage, stops.answer, ?_⟩
      rw [failed]
      exact ⟨Nat.zero_add _, Nat.zero_add _⟩

/-- Two records arrive in chunks that end inside a header and inside a body, and then a part of a
third one. -/
theorem reads_parsed_torn :
    let stream : InStream := [.interrupted, .bytes [5, 0], .bytes [0, 0, 7, 4], .interrupted,
      .interrupted, .bytes [0, 0, 0], .bytes [9, 0, 0, 0, 1]]
    let r := new stream .single 1
    stream.Delivers ([5, 0, 0, 0, 7] ++ ([4, 0, 0, 0] ++ [9, 0, 0, 0, 1])) ∧
      r.answer 0 = .ok ⟨[5, 0, 0, 0, 7]⟩ ∧ r.answer 1 = .ok ⟨[4, 0, 0, 0]⟩ ∧
      (∃ cause, Record.Damage 2 [9, 0, 0, 0, 1] cause ∧ r.answer 2 = .error (.violation cause)) ∧
      (r.after 3).recordsRead = 2 ∧ (r.after 3).bytesRead = 9 := by
  intro stream r
  have delivers : stream.Delivers ([5, 0, 0, 0, 7] ++ ([4, 0, 0, 0] ++ [9, 0, 0, 0, 1])) :=
    .interrupted (.bytes [5, 0] (by decide) (.bytes [0, 0, 7, 4] (by decide)
      (.interrupted (.interrupted (.bytes [0, 0, 0] (by decide)
        (.bytes [9, 0, 0, 0, 1] (by decide) .done))))))
  have damage : Record.Damage 2 [9, 0, 0, 0, 1] (.truncatedBody 2 1 5) :=
    .body (show Record.size? _ = some 9 from rfl) (by decide) (by decide)
  obtain ⟨records, rest, parsed, reads, -, -, fails⟩ := reads_parsed delivers 1
  obtain ⟨rfl, rfl⟩ := parsed.unique ((damage.parsed.cons (by decide)).cons (by decide))
  obtain ⟨cause, damaged, failed, counted⟩ := fails (List.cons_ne_nil _ _)
  exact ⟨delivers, (reads 0 _ rfl).2, (reads 1 _ rfl).2, ⟨cause, damaged, failed⟩, counted⟩

end RecordReader

end RecordFarm
