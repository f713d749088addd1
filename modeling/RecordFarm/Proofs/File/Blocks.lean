import RecordFarm.Proofs.File.Parsing

/-!
# Reading in blocks

A reader that reads blocks and one that reads single records stop for the same reason, whatever is
wrong with the file (`Damage.unique`). They also give the same bytes, as long as the damage is not
inside a block: the call that meets the damage gives nothing of the records that it has read before
in the same block, although it has counted them (`blocks_lose_nothing_iff`). The smallest file in
which a record is lost so is that of `block_loses_record`.
-/

namespace RecordFarm

namespace Record

variable {bytes : Bytes} {index : Nat} {cause cause' : Violation}

/-- What is wrong with the bytes is wrong in one way. -/
theorem Damage.unique (h : Damage index bytes cause) (h' : Damage index bytes cause') :
    cause = cause' := by
  cases h with
  | header there short =>
    have hnone := size?_of_short short
    cases h' with
    | header there' short' => rfl
    | size said small => cases hnone.symm.trans said
    | body said large short' => cases hnone.symm.trans said
  | size said small =>
    cases h' with
    | header there short => cases (size?_of_short short).symm.trans said
    | size said' small' =>
      cases said.symm.trans said'
      rfl
    | body said' large short =>
      cases said.symm.trans said'
      exact absurd small (Nat.not_lt.2 large)
  | body said large short =>
    cases h' with
    | header there short' => cases (size?_of_short short').symm.trans said
    | size said' small =>
      cases said.symm.trans said'
      exact absurd small (Nat.not_lt.2 large)
    | body said' large' short' =>
      cases said.symm.trans said'
      rfl

/-- A part of a row of whole records has all the bytes only if it has all the records. -/
theorem flatten_take_eq_iff {records : List Bytes} (whole : ∀ r ∈ records, isWhole r = true)
    (n : Nat) : (records.take n).flatten = records.flatten ↔ records.length ≤ n := by
  constructor
  · intro same
    have split := congrArg List.flatten (List.take_append_drop n records)
    rw [List.flatten_append, same] at split
    have nothing : (records.drop n).flatten = [] := List.append_right_eq_self.1 split
    refine Nat.le_of_not_lt fun more => flatten_ne_nil (fun r hr => ?_) ?_ nothing
    · exact whole r (List.mem_of_mem_drop hr)
    · rw [ne_eq, List.drop_eq_nil_iff]
      exact Nat.not_le.2 more
  · intro all
    rw [List.take_of_length_le all]

end Record

namespace RecordReader

variable {r : RecordReader} {records : List Bytes} {bytes rest : Bytes} {stream : InStream}

/-! ## Counting -/

/-- The reader has counted the records and the bytes that it has handed out. -/
def Tallies (r : RecordReader) (handed : Bytes) : Prop :=
  Record.count handed = .ok r.recordsRead ∧ r.bytesRead = handed.length

/-- A reader that was new when it read these records has counted no more than the first ones of them
if these are all. -/
theorem tallies_past_iff {mode : ReadMode} {size : Nat} {later : InStream}
    (whole : ∀ record ∈ records, Record.isWhole record = true) (n : Nat) :
    ((new stream mode size).past records later).Tallies (records.take n).flatten ↔
      records.length ≤ n := by
  have wholes : ∀ record ∈ records.take n, Record.isWhole record = true :=
    fun record hrecord => whole record (List.mem_of_mem_take hrecord)
  rw [Tallies, Record.count_flatten _ wholes, Except.ok.injEq, List.length_take]
  show _ = 0 + records.length ∧ 0 + records.flatten.length = _ ↔ _
  rw [Nat.zero_add, Nat.zero_add]
  constructor
  · rintro ⟨hcount, -⟩
    omega
  · intro all
    rw [List.take_of_length_le all]
    exact ⟨Nat.min_eq_right all, rfl⟩

/-- A reader that was new when it read these records has counted these records. -/
theorem tallies_past {mode : ReadMode} {size : Nat} {later : InStream}
    (whole : ∀ record ∈ records, Record.isWhole record = true) :
    ((new stream mode size).past records later).Tallies records.flatten := by
  conv => arg 2; rw [← List.take_length (l := records)]
  exact (tallies_past_iff whole _).2 (Nat.le_refl _)

/-- Where a reader stands that has handed out all that it has counted, and has not lost track of
what its stream delivers. -/
structure Level (r : RecordReader) (handed : Bytes) : Prop where
  single : r.mode = .single
  delivers : ∃ left, r.stream.Delivers left
  counted : ∃ records : List Bytes, (∀ record ∈ records, Record.isWhole record = true) ∧
    handed = records.flatten ∧ r.recordsRead = records.length ∧ r.bytesRead = handed.length

/-- Reading one record at a time loses nothing, also behind damage: each call gives what it counts,
or counts nothing. One case for each way in which the bytes can begin. -/
theorem Level.read {handed : Bytes} (h : r.Level handed) :
    r.read.2.Level (handed ++ brought r.read.1) := by
  obtain ⟨left, delivers⟩ := h.delivers
  cases finished : r.finished with
  | true =>
    rw [read_of_finished finished]
    show r.Level (handed ++ [])
    rwa [List.append_nil]
  | false =>
    unfold RecordReader.read
    rw [finished, if_neg Bool.false_ne_true, h.single]
    rcases Record.beginning left r.recordsRead with rfl | ⟨record, behind, whole, rfl⟩ |
      ⟨cause, damage⟩
    · obtain ⟨stream, nothing, delivers⟩ := readRecord_of_nil delivers
      simp only [nothing]
      show Level _ (handed ++ [])
      rw [List.append_nil]
      exact ⟨h.single, ⟨_, delivers⟩, h.counted⟩
    · obtain ⟨stream, first, delivers⟩ := readRecord_of_whole whole delivers
      obtain ⟨records, wholes, rfl, hcount, size⟩ := h.counted
      simp only [first]
      refine ⟨h.single, ⟨_, delivers⟩, records ++ [record], ?_, ?_, ?_, ?_⟩
      · intro x hx
        rcases List.mem_append.1 hx with old | new
        · exact wholes x old
        · rwa [List.mem_singleton.1 new]
      · rw [List.flatten_append, List.flatten_singleton]
        rfl
      · rw [List.length_append]
        exact congrArg (· + 1) hcount
      · rw [List.length_append]
        show r.bytesRead + [record].flatten.length = _
        rw [size, List.flatten_singleton]
        rfl
    · obtain ⟨stream, later, failed, delivers⟩ := readRecord_of_damage damage delivers
      simp only [failed]
      show Level _ (handed ++ [])
      rw [List.append_nil]
      exact ⟨h.single, ⟨_, delivers⟩, h.counted⟩

/-- **One at a time, all that is counted is handed out**, call after call. -/
theorem tallies_single (delivers : stream.Delivers bytes) (n k : Nat) :
    ((new stream .single n).after k).Tallies ((new stream .single n).handedOut k) := by
  have level : ((new stream .single n).after k).Level ((new stream .single n).handedOut k) := by
    induction k with
    | zero => exact ⟨rfl, ⟨_, delivers⟩, [], nofun, rfl, rfl, rfl⟩
    | succ k ih => exact ih.read
  obtain ⟨records, whole, handed, hcount, size⟩ := level.counted
  rw [Tallies, handed, Record.count_flatten records whole, hcount, size, handed]
  exact ⟨rfl, rfl⟩

/-! ## What comes of the calls -/

/-- Nothing comes of the call that finds the end or fails. -/
theorem Stops.brought {count : Nat} {outcome : Except Error Item} (h : r.Stops count outcome) :
    r.handedOut (count + 1) = r.handedOut count := by
  rw [handedOut, h.answer]
  rcases h.last with rfl | ⟨cause, rfl⟩ <;> exact List.append_nil _

/-- A reader hands out everything if nothing is damaged, and otherwise what full items hold. -/
theorem Underway.handedOut_stop (h : r.Underway records rest) {count : Nat}
    {outcome : Except Error Item} (within : r.Within records rest count)
    (comes : Comes r records rest count outcome) :
    r.handedOut count = (records.take
      (if rest = [] then records.length else records.length / r.stride * r.stride)).flatten := by
  obtain ⟨-, -, -, handed⟩ := h.after within
  rw [handed]
  cases comes with
  | complete nothing all counted =>
    rw [if_pos nothing, List.take_of_length_le all, List.take_length]
  | damaged damage full last counted =>
    have exactly : records.length / r.stride = count :=
      (Nat.div_eq_iff h.positive).2 ⟨by omega, by omega⟩
    rw [if_neg damage.ne_nil, exactly]

/-- What full items hold is everything if nothing is left over. -/
theorem kept_iff (n : Nat) (rest : Bytes) (count : Nat) :
    count ≤ (if rest = [] then count else count / n * n) ↔ rest = [] ∨ n ∣ count := by
  split
  · next nothing => exact ⟨fun _ => Or.inl nothing, fun _ => Nat.le_refl _⟩
  · next left =>
    rw [or_iff_right left, Nat.dvd_iff_div_mul_eq]
    have := Nat.div_mul_le_self count n
    omega

/-- Two readers of the same bytes stop for the same reason. -/
theorem Comes.same {r₁ r₂ : RecordReader} {count₁ count₂ : Nat} {o₁ o₂ : Except Error Item}
    (h₁ : Comes r₁ records rest count₁ o₁) (h₂ : Comes r₂ records rest count₂ o₂)
    (level : r₁.recordsRead = r₂.recordsRead) : o₁ = o₂ := by
  cases h₁ with
  | complete nothing =>
    cases h₂ with
    | complete => rfl
    | damaged damage => exact absurd nothing damage.ne_nil
  | damaged damage =>
    cases h₂ with
    | complete nothing => exact absurd nothing damage.ne_nil
    | damaged damage' =>
      rw [level] at damage
      rw [damage.unique damage']

/-- Behind the end nothing more is handed out. -/
theorem handedOut_of_finished {k : Nat} (h : (r.after k).finished = true) (more : Nat) :
    r.handedOut (k + more) = r.handedOut k := by
  induction more with
  | zero => rfl
  | succ more ih =>
    have nothing : r.answer (k + more) = .ok .endOfData := by
      unfold RecordReader.answer
      rw [after_of_finished h, read_of_finished h]
    rw [← Nat.add_assoc, handedOut, nothing, ih]
    exact List.append_nil _

/-- A reader that was new and has stopped has counted all records, and handed out those that full
items hold. -/
theorem tallies_stop_iff {mode : ReadMode} {n count : Nat} {outcome : Except Error Item}
    (parsed : Record.Parsed bytes records rest) (stops : (new stream mode n).Stops count outcome)
    (comes : Comes (new stream mode n) records rest count outcome)
    (handed : (new stream mode n).handedOut count = (records.take
      (if rest = [] then records.length else records.length / n * n)).flatten) :
    ((new stream mode n).after (count + 1)).Tallies ((new stream mode n).handedOut (count + 1)) ↔
      rest = [] ∨ n ∣ records.length := by
  have counted : ∀ later, ((new stream mode n).past records later).Tallies
      ((new stream mode n).handedOut (count + 1)) ↔ rest = [] ∨ n ∣ records.length := by
    intro later
    rw [stops.brought, handed, ← kept_iff]
    exact tallies_past_iff parsed.whole _
  cases comes with
  | complete nothing all ended =>
    obtain ⟨stream, ended⟩ := ended
    rw [ended]
    exact counted stream
  | damaged damage full last failed =>
    obtain ⟨stream, failed⟩ := failed
    rw [failed]
    exact counted stream

/-- **When blocks lose nothing.** Let two streams deliver the same bytes, fewer than 2³² of them,
and let the one be read record by record and the other in blocks of `n`. Both stop for the same
reason: at the end, or at the damage of the same record. They have handed out the same bytes by then
exactly if nothing is damaged or the records before the damage fill their blocks; otherwise those of
the last block are lost. What is counted is what is handed out, but for the records that are lost.
-/
theorem blocks_lose_nothing_iff {bytes : Bytes} {s₁ s₂ : InStream}
    (fits : bytes.length < UInt32.size) (d₁ : s₁.Delivers bytes) (d₂ : s₂.Delivers bytes)
    (m : Nat) {n : Nat} (positive : 1 ≤ n) :
    let single := new s₁ .single m
    let block := new s₂ .block n
    ∃ records rest, Record.Parsed bytes records rest ∧
    ∃ i j outcome, single.Stops i outcome ∧ block.Stops j outcome ∧
      (rest = [] → outcome = .ok .endOfData) ∧
      (rest ≠ [] → ∃ cause, Record.Damage records.length rest cause ∧
        outcome = .error (.violation cause)) ∧
      single.handedOut i = records.flatten ∧
      block.handedOut j = (records.take
        (if rest = [] then records.length else records.length / n * n)).flatten ∧
      (block.handedOut j = single.handedOut i ↔ rest = [] ∨ n ∣ records.length) ∧
      (∀ k, (single.after k).Tallies (single.handedOut k)) ∧
      (∀ k ≤ j, (block.after k).Tallies (block.handedOut k)) ∧
      ((block.after (j + 1)).Tallies (block.handedOut (j + 1)) ↔ rest = [] ∨ n ∣ records.length) ∧
      (rest = [] → ∀ k, (block.after k).Tallies (block.handedOut k)) := by
  intro single block
  obtain ⟨records, rest, parsed⟩ := Record.exists_parsed bytes
  have one : single.Underway records rest := underway_new parsed d₁ m nofun
  have many : block.Underway records rest := underway_new parsed d₂ n fun _ => fits
  have stride : block.stride = n := Nat.max_eq_left positive
  -- Both readers stop, and what stops them is told by the bytes.
  obtain ⟨i, outcome, stops₁, within₁, comes₁⟩ := one.stops fun left => parsed.damage _ left
  obtain ⟨j, outcome', stops₂, within₂, comes₂⟩ := many.stops fun left => parsed.damage _ left
  obtain rfl := comes₁.same comes₂ rfl
  have handed₁ := one.handedOut_stop within₁ comes₁
  have handed₂ := many.handedOut_stop within₂ comes₂
  rw [show single.stride = 1 from rfl, Nat.div_one, Nat.mul_one, ite_self, List.take_length]
    at handed₁
  rw [stride] at handed₂
  have wholes : ∀ count, ∀ record ∈ records.take count, Record.isWhole record = true :=
    fun count record hrecord => parsed.whole record (List.mem_of_mem_take hrecord)
  have same : block.handedOut j = single.handedOut i ↔ rest = [] ∨ n ∣ records.length := by
    rw [handed₁, handed₂, Record.flatten_take_eq_iff parsed.whole, kept_iff]
  have before : ∀ k ≤ j, (block.after k).Tallies (block.handedOut k) := by
    intro k hk
    obtain ⟨stream, stands, -, handed⟩ := many.after (within₂.mono hk)
    rw [stands, handed]
    exact tallies_past (wholes _)
  have stopped : (block.after (j + 1)).Tallies (block.handedOut (j + 1)) ↔
      rest = [] ∨ n ∣ records.length := tallies_stop_iff parsed stops₂ comes₂ handed₂
  refine ⟨records, rest, parsed, i, j, outcome, stops₁, stops₂, ?_, ?_, handed₁, handed₂, same,
    tallies_single d₁ m, before, stopped, ?_⟩
  · intro nothing
    cases comes₁ with
    | complete => rfl
    | damaged damage => exact absurd nothing damage.ne_nil
  · intro left
    cases comes₁ with
    | complete nothing => exact absurd nothing left
    | damaged damage =>
      rw [show single.recordsRead + records.length = records.length from Nat.zero_add _] at damage
      exact ⟨_, damage, rfl⟩
  · intro nothing k
    rcases Nat.lt_or_ge j k with later | earlier
    · cases comes₂ with
      | damaged damage => exact absurd nothing damage.ne_nil
      | complete _ _ ended =>
        obtain ⟨stream, ended⟩ := ended
        -- Behind the end nothing is counted any more, nor handed out.
        obtain ⟨more, rfl⟩ := Nat.exists_eq_add_of_le later
        have finished : (block.after (j + 1)).finished = true := by rw [ended]
        have tallies := stopped.2 (Or.inl nothing)
        rwa [← after_of_finished finished more, ← handedOut_of_finished finished more] at tallies
    · exact before k earlier

/-- A file of three records and a part of a header. In blocks of two the third record is lost, in
blocks of three nothing is. -/
theorem blocks_lose_nothing_iff_torn :
    let records : List Bytes := [[5, 0, 0, 0, 7], [4, 0, 0, 0], [4, 0, 0, 0]]
    let bytes := records.flatten ++ [9, 0]
    let pieces : InStream := [.interrupted, .bytes [5, 0, 0, 0, 7, 4, 0], .interrupted,
      .bytes [0, 0, 4, 0, 0, 0, 9, 0]]
    let whole : InStream := [.bytes bytes]
    bytes.length < UInt32.size ∧ pieces.Delivers bytes ∧ whole.Delivers bytes ∧
      (∃ i j outcome,
        (new pieces .single 1).Stops i outcome ∧ (new whole .block 2).Stops j outcome ∧
        (new whole .block 2).handedOut j = [5, 0, 0, 0, 7, 4, 0, 0, 0] ∧
        (new whole .block 2).handedOut j ≠ (new pieces .single 1).handedOut i) ∧
      ∃ i j outcome, (new pieces .single 1).Stops i outcome ∧ (new whole .block 3).Stops j outcome ∧
        (new whole .block 3).handedOut j = (new pieces .single 1).handedOut i := by
  intro records bytes pieces whole
  have fits : bytes.length < UInt32.size := by decide
  have d₁ : pieces.Delivers bytes :=
    .interrupted (.bytes [5, 0, 0, 0, 7, 4, 0] (by decide)
      (.interrupted (.bytes [0, 0, 4, 0, 0, 0, 9, 0] (by decide) .done)))
  have d₂ : whole.Delivers bytes := .bytes bytes (by decide) .done
  have damage : Record.Damage 3 [9, 0] (.truncatedHeader 3 2) := .header (by decide) (by decide)
  have four : Record.isWhole [4, 0, 0, 0] = true := by decide
  have parsed : Record.Parsed bytes records [9, 0] :=
    ((damage.parsed.cons four).cons four).cons
      (show Record.isWhole [5, 0, 0, 0, 7] = true by decide)
  refine ⟨fits, d₁, d₂, ?_, ?_⟩
  · obtain ⟨records', rest, parsed', i, j, outcome, one, two, -, -, -, handed, same, -⟩ :=
      blocks_lose_nothing_iff fits d₁ d₂ 1 (show 1 ≤ 2 by decide)
    obtain ⟨rfl, rfl⟩ := parsed.unique parsed'
    refine ⟨i, j, outcome, one, two, handed.trans (by decide), fun h => ?_⟩
    rcases same.1 h with h | h
    · cases h
    · exact absurd h (by decide)
  · obtain ⟨records', rest, parsed', i, j, outcome, one, three, -, -, -, -, same, -⟩ :=
      blocks_lose_nothing_iff fits d₁ d₂ 1 (show 1 ≤ 3 by decide)
    obtain ⟨rfl, rfl⟩ := parsed.unique parsed'
    exact ⟨i, j, outcome, one, three, same.2 (Or.inr (by decide))⟩

/-- **A block loses a record.** One whole record and a part of a header: read one at a time the
record is given, in blocks of two it is not, though it is counted. -/
theorem block_loses_record :
    let bytes : Bytes := [4, 0, 0, 0] ++ [9, 0]
    let single := new (.ofBytes bytes) .single 1
    let block := new (.ofBytes bytes) .block 2
    (InStream.ofBytes bytes).Delivers bytes ∧ bytes.length < UInt32.size ∧
      single.Stops 1 (.error (.violation (.truncatedHeader 1 2))) ∧
      single.handedOut 1 = [4, 0, 0, 0] ∧
      block.Stops 0 (.error (.violation (.truncatedHeader 1 2))) ∧
      block.handedOut 0 ≠ single.handedOut 1 ∧
      block.handedOut 1 = [] ∧ (block.after 1).recordsRead = 1 ∧ (block.after 1).bytesRead = 4 := by
  intro bytes single block
  refine ⟨.bytes bytes (by decide) .done, by decide, ⟨fun k hk => ?_, rfl, Or.inr ⟨_, rfl⟩⟩,
    by decide, ⟨nofun, rfl, Or.inr ⟨_, rfl⟩⟩, by decide, by decide, by decide, by decide⟩
  obtain rfl : k = 0 := Nat.lt_one_iff.1 hk
  exact ⟨⟨[4, 0, 0, 0]⟩, rfl, rfl⟩

end RecordReader

end RecordFarm
