import RecordFarm.RecordWriter

/-!
# Writing records to a file

A stream accepts so many bytes and then fails, or it accepts all there are (`OutStream.limit?`); in
how many pieces it takes them makes no difference. So what becomes of a row of records that a
writer is to put on it is told by its length: all of them are written (`writeRecords_of_fits`), or
those that fit, and of the next one the beginning that fits (`writeRecords_of_short`). A stream
that is `Willing` has no limit.
-/

namespace RecordFarm

namespace OutStream

/-- Writes may be cut short and interrupted, but none of them fails. -/
structure Willing (out : OutStream) : Prop where
  accepts : ∀ a ∈ out.ahead, a = .interrupted ∨ ∃ size, a = .room size
  flushes : out.flushFailure = none

/-- How many bytes are accepted before a write fails, and how it fails then, if one does. -/
def limit? : List Acceptance → Option (Nat × String)
  | [] => none
  | .room size :: ahead => (limit? ahead).map fun (left, text) => (size + left, text)
  | .interrupted :: ahead => limit? ahead
  | .full :: _ => some (0, "failed to write whole buffer")
  | .failure text :: _ => some (0, text)

/-- So many bytes are accepted, and no write fails. -/
def Fits (ahead : List Acceptance) (count : Nat) : Prop :=
  ∀ left text, limit? ahead = some (left, text) → count ≤ left

/-- What is ahead of a stream after so many bytes: as much less is accepted. -/
def Spent (ahead : List Acceptance) (count : Nat) (later : List Acceptance) : Prop :=
  limit? later = (limit? ahead).map fun (left, text) => (left - count, text)

variable {ahead later : List Acceptance} {bytes : Bytes} {count left : Nat} {text : String}

theorem Spent.zero (ahead : List Acceptance) : Spent ahead 0 ahead := by
  unfold Spent
  cases limit? ahead <;> rfl

/-- To write twice spends what to write it all spends. -/
theorem Spent.trans {more : Nat} {last : List Acceptance} (first : Spent ahead count later)
    (second : Spent later more last) : Spent ahead (count + more) last := by
  unfold Spent at *
  rw [second, first]
  cases limit? ahead with
  | none => rfl
  | some limit => simp only [Option.map_some, Nat.sub_sub]

/-- Bytes fit behind others if they fit together. -/
theorem Spent.fits_iff {more : Nat} (spent : Spent ahead count later) (fits : Fits ahead count) :
    Fits later more ↔ Fits ahead (count + more) := by
  unfold Fits at *
  unfold Spent at spent
  rw [spent]
  cases hlimit : limit? ahead with
  | none => simp
  | some limit =>
    have := fits limit.1 limit.2 hlimit
    simp only [Option.map_some, Option.some.injEq, Prod.mk.injEq]
    constructor
    · rintro h left text rfl
      have := h _ text ⟨rfl, rfl⟩
      omega
    · rintro h left text ⟨rfl, rfl⟩
      have := h limit.1 limit.2 rfl
      omega

theorem fits_zero (ahead : List Acceptance) : Fits ahead 0 := fun _ _ _ => Nat.zero_le _

/-- What does not fit is more than the limit. -/
theorem not_fits_iff :
    ¬ Fits ahead count ↔ ∃ left text, limit? ahead = some (left, text) ∧ left < count := by
  constructor
  · intro short
    cases hlimit : limit? ahead with
    | none => exact absurd (fun left text h => by rw [hlimit] at h; cases h) short
    | some limit =>
      refine ⟨limit.1, limit.2, rfl, Nat.lt_of_not_le fun enough => short ?_⟩
      intro left text h
      cases hlimit.symm.trans h
      exact enough
  · rintro ⟨left, text, hlimit, short⟩ fits
    exact absurd (fits left text hlimit) (Nat.not_le.2 short)

/-- A stream has no limit if and only if nothing worse than an interruption is ahead. -/
theorem limit?_eq_none_iff :
    limit? ahead = none ↔ ∀ a ∈ ahead, a = .interrupted ∨ ∃ size, a = .room size := by
  induction ahead with
  | nil => exact iff_of_true rfl nofun
  | cons a ahead ih => cases a <;> simp [limit?, ih]

/-- Bytes that fit are accepted. The recursion is that of `accept`: either room is left over, or the
room is used up and what follows takes the rest. -/
theorem accept_of_fits (ahead : List Acceptance) (bytes : Bytes) (fits : Fits ahead bytes.length) :
    ∃ later, accept ahead bytes = (.ok (), bytes, later) ∧ Spent ahead bytes.length later := by
  fun_induction accept ahead bytes with
  | case1 ahead => exact ⟨ahead, rfl, .zero ahead⟩
  | case2 bytes hne => exact ⟨[], rfl, rfl⟩
  | case3 ahead bytes hne ih => exact ih fits
  | case4 ahead bytes hne =>
    -- The stream fails at once, so only nothing at all fits.
    have := fits 0 _ rfl
    exact absurd (List.length_eq_zero_iff.1 (Nat.le_zero.1 this)) hne
  | case5 text ahead bytes hne =>
    have := fits 0 _ rfl
    exact absurd (List.length_eq_zero_iff.1 (Nat.le_zero.1 this)) hne
  | case6 size ahead bytes hne head short =>
    have hhead : head.length = bytes.length := by
      have : head.length = min size bytes.length := List.length_take
      omega
    refine ⟨_, rfl, ?_⟩
    unfold Spent limit?
    cases limit? ahead with
    | none => rfl
    | some limit =>
      simp only [Option.map_some, Option.some.injEq, Prod.mk.injEq, and_true]
      omega
  | case7 size ahead bytes hne head enough result tail left accepted ih =>
    have hhead : size ≤ bytes.length := by
      have : head.length = min size bytes.length := List.length_take
      omega
    have hrest : (bytes.drop size).length = bytes.length - size := List.length_drop
    obtain ⟨later, all, spent⟩ := ih (by
      intro left text hlimit
      have := fits (size + left) text (by unfold limit?; rw [hlimit]; rfl)
      omega)
    rw [accepted, Prod.mk.injEq, Prod.mk.injEq] at all
    obtain ⟨rfl, rfl, rfl⟩ := all
    refine ⟨left, by rw [List.take_append_drop], ?_⟩
    unfold Spent at spent ⊢
    rw [spent, limit?]
    cases limit? ahead with
    | none => rfl
    | some limit =>
      simp only [Option.map_some, Option.some.injEq, Prod.mk.injEq, and_true]
      omega

/-- Of bytes that do not fit those are accepted that do. The recursion is that of `accept`. -/
theorem accept_of_short (ahead : List Acceptance) (bytes : Bytes) : ∀ {left : Nat},
    limit? ahead = some (left, text) → left < bytes.length →
    ∃ later, accept ahead bytes = (.error text, bytes.take left, later) := by
  fun_induction accept ahead bytes with
  | case1 ahead => exact fun _ short => absurd short (Nat.not_lt_zero _)
  | case2 bytes hne => exact fun hlimit _ => by cases hlimit
  | case3 ahead bytes hne ih => exact ih
  | case4 ahead bytes hne =>
    rintro left ⟨⟩ short
    exact ⟨_, rfl⟩
  | case5 text ahead bytes hne =>
    rintro left ⟨⟩ short
    exact ⟨_, rfl⟩
  | case6 size ahead bytes hne head =>
    -- There is room for all of them before anything fails.
    intro left hlimit short
    have : head.length = min size bytes.length := List.length_take
    obtain ⟨limit, hahead, hboth⟩ := Option.map_eq_some_iff.1 hlimit
    have : size + limit.1 = left := congrArg Prod.fst hboth
    omega
  | case7 size ahead bytes hne head enough result tail after accepted =>
    rename_i ih
    intro left hlimit short
    have hhead : size ≤ bytes.length := by
      have : head.length = min size bytes.length := List.length_take
      omega
    obtain ⟨limit, hahead, hboth⟩ := Option.map_eq_some_iff.1 hlimit
    obtain ⟨rfl, rfl⟩ : size + limit.1 = left ∧ limit.2 = text := Prod.mk.inj hboth
    obtain ⟨later, part⟩ := ih hahead (by rw [List.length_drop]; omega)
    rw [accepted, Prod.mk.injEq, Prod.mk.injEq] at part
    obtain ⟨rfl, rfl, rfl⟩ := part
    exact ⟨after, by rw [← List.take_add]⟩

/-- What fits is written, and spends as much of what the stream accepts. -/
theorem writeAll_of_fits {out : OutStream} (fits : Fits out.ahead bytes.length) :
    ∃ after, out.writeAll bytes = (.ok (), after) ∧ after.written = out.written ++ bytes ∧
      Spent out.ahead bytes.length after.ahead ∧ after.flushFailure = out.flushFailure := by
  obtain ⟨later, all, spent⟩ := accept_of_fits out.ahead bytes fits
  refine ⟨{ out.push bytes with ahead := later }, ?_, written_push out bytes, spent, ?_⟩
  · unfold OutStream.writeAll
    rw [all]
  · show (out.push bytes).flushFailure = out.flushFailure
    unfold push
    split <;> rfl

/-- Of what does not fit as much is written as does, and then the writing fails. -/
theorem writeAll_of_short {out : OutStream} (hlimit : limit? out.ahead = some (left, text))
    (short : left < bytes.length) :
    ∃ after, out.writeAll bytes = (.error text, after) ∧
      after.written = out.written ++ bytes.take left := by
  obtain ⟨later, part⟩ := accept_of_short out.ahead bytes hlimit short
  refine ⟨{ out.push (bytes.take left) with ahead := later }, ?_, written_push out _⟩
  unfold OutStream.writeAll
  rw [part]

/-- Everything fits into a stream without a limit. -/
theorem Willing.fits {out : OutStream} (willing : out.Willing) (count : Nat) :
    Fits out.ahead count := by
  intro left text hlimit
  rw [limit?_eq_none_iff.2 willing.accepts] at hlimit
  cases hlimit

/-- A stream without a limit stays without one. -/
theorem Willing.goesOn {out after : OutStream} (willing : out.Willing)
    (spent : Spent out.ahead count after.ahead) (flushes : after.flushFailure = out.flushFailure) :
    after.Willing where
  accepts := by
    rw [← limit?_eq_none_iff, spent, limit?_eq_none_iff.2 willing.accepts]
    rfl
  flushes := flushes.trans willing.flushes

end OutStream

namespace RecordWriter

open OutStream (Fits Spent limit?)

def past (w : RecordWriter) (records : List Bytes) (out : OutStream) : RecordWriter where
  out
  recordsWritten := w.recordsWritten + records.length
  bytesWritten := w.bytesWritten + records.flatten.length

variable {w : RecordWriter} {m : Message} {records : List Bytes}

theorem past_past (first second : List Bytes) (out out' : OutStream) :
    (w.past first out).past second out' = w.past (first ++ second) out' := by
  simp only [past, List.length_append, List.flatten_append, Nat.add_assoc]

/-- Records that fit are written. Induction on the records. -/
theorem writeRecords_of_fits (records : List Bytes)
    (fits : Fits w.out.ahead records.flatten.length) :
    ∃ out, writeRecords records w = (.ok (), w.past records out) ∧
      out.written = w.out.written ++ records.flatten ∧
      Spent w.out.ahead records.flatten.length out.ahead ∧
      out.flushFailure = w.out.flushFailure := by
  induction records generalizing w with
  | nil =>
    exact ⟨w.out, rfl, by rw [List.flatten_nil, List.append_nil], .zero _, rfl⟩
  | cons record rest ih =>
    rw [List.flatten_cons, List.length_append] at fits
    have here : Fits w.out.ahead record.length := fun left text hlimit =>
      Nat.le_of_add_right_le (fits left text hlimit)
    obtain ⟨after, first, written, spent, flushes⟩ := OutStream.writeAll_of_fits here
    obtain ⟨out, more, writtenMore, spentMore, flushesMore⟩ :=
      @ih (w.past [record] after) ((spent.fits_iff here).2 fits)
    refine ⟨out, ?_, ?_, ?_, flushesMore.trans flushes⟩
    · rw [past_past] at more
      simp only [past, List.length_singleton, List.flatten_singleton] at more
      unfold writeRecords
      simp only [first, more]
      rfl
    · rw [writtenMore, List.flatten_cons, ← List.append_assoc]
      exact congrArg (· ++ rest.flatten) written
    · rw [List.flatten_cons, List.length_append]
      exact spent.trans spentMore

/-- Of records that do not fit those are written that do, and the beginning of the next one.
Induction on the records. -/
theorem writeRecords_of_short (records : List Bytes) {left : Nat} {text : String}
    (hlimit : limit? w.out.ahead = some (left, text)) (short : left < records.flatten.length) :
    ∃ done next rest out, records = done ++ next :: rest ∧ done.flatten.length ≤ left ∧
      left < done.flatten.length + next.length ∧
      writeRecords records w = (.error (.stream text), w.past done out) ∧
      out.written = w.out.written ++ done.flatten ++ next.take (left - done.flatten.length) := by
  induction records generalizing w left with
  | nil => exact absurd short (Nat.not_lt_zero _)
  | cons record rest ih =>
    rw [List.flatten_cons, List.length_append] at short
    rcases Nat.lt_or_ge left record.length with here | later
    · obtain ⟨after, part, written⟩ := OutStream.writeAll_of_short hlimit here
      refine ⟨[], record, rest, after, rfl, Nat.zero_le _, by simpa using here, ?_, ?_⟩
      · unfold writeRecords
        simp only [part]
        rfl
      · rw [written, List.flatten_nil, List.append_nil, List.length_nil, Nat.sub_zero]
    · -- The record still fits, and what is left for the others is smaller by its length.
      have fits : Fits w.out.ahead record.length := by
        intro left' text' hlimit'
        cases hlimit.symm.trans hlimit'
        exact later
      obtain ⟨after, first, written, spent, -⟩ := OutStream.writeAll_of_fits fits
      have hspent : limit? (w.past [record] after).out.ahead
          = some (left - record.length, text) := by
        show limit? after.ahead = _
        rw [spent, hlimit]
        rfl
      obtain ⟨done, next, rest', out, hrest, enough, short', failed, written'⟩ :=
        ih hspent (by omega)
      refine ⟨record :: done, next, rest', out, by rw [hrest]; rfl, ?_, ?_, ?_, ?_⟩
      · rw [List.flatten_cons, List.length_append]
        omega
      · rw [List.flatten_cons, List.length_append]
        omega
      · rw [past_past] at failed
        simp only [past, List.length_singleton, List.flatten_singleton] at failed
        unfold writeRecords
        simp only [first, failed]
        rfl
      · rw [written', List.flatten_cons, List.length_append, Nat.sub_sub]
        show after.written ++ _ ++ _ = _
        rw [written]
        simp only [List.append_assoc]

/-- All records are written. -/
theorem writeRecords_of_willing (records : List Bytes) (willing : w.out.Willing) :
    ∃ out, writeRecords records w = (.ok (), w.past records out) ∧ out.Willing ∧
      out.written = w.out.written ++ records.flatten := by
  obtain ⟨out, all, written, spent, flushes⟩ :=
    writeRecords_of_fits (w := w) records (willing.fits _)
  exact ⟨out, all, willing.goesOn spent flushes, written⟩

/-- The records of a message are written. -/
theorem send_process (willing : w.out.Willing) (kind : m.kind = .process)
    (h : m.records = .ok records) :
    ∃ out, w.send m = (.ok (), w.past records out) ∧ out.Willing ∧
      out.written = w.out.written ++ records.flatten := by
  unfold send
  rw [kind]
  simp only [h]
  exact writeRecords_of_willing records willing

theorem send_endOfStream (willing : w.out.Willing) : w.send .endOfStream = (.ok (), w) := by
  show (w.flush, w) = _
  unfold flush OutStream.flush
  rw [willing.flushes]
  rfl

end RecordWriter

end RecordFarm
