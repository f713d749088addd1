import RecordFarm.ByteStream.Pieces
import RecordFarm.Proofs.File.Parsing

/-!
# Readers do not notice pieces

Bytes that come a few at a time, or after interruptions, are delivered all the same
(`InStream.delivers_inPieces`, `InStream.Delivers.interrupting`). Two readers that differ only in
how their streams deliver the same bytes stay so, whatever is read (`RecordReader.Alike.read`), and
give the same answers, be these items, the end or errors (`RecordReader.answer_eq_of_delivers`).

An end in between is noticed. No read goes past it (`InStream.fill_pausing`), and a reader that
meets it before a record takes it for the end of all (`RecordReader.answer_of_pause`). -/

namespace RecordFarm

namespace InStream

theorem delivers_ofBytes (data : Bytes) : (ofBytes data).Delivers data := by
  cases data with
  | nil => exact .done
  | cons b bs =>
    have whole := Delivers.bytes (b :: bs) (List.cons_ne_nil b bs) .done
    rwa [List.append_nil] at whole

/-- A stream that delivers in pieces delivers every byte, whatever the size of the pieces. -/
theorem delivers_inPieces (size : Nat) (data : Bytes) : (inPieces size data).Delivers data := by
  fun_induction inPieces size data with
  | case1 data => exact delivers_ofBytes data
  | case2 data => exact delivers_ofBytes data
  | case3 data positive first rest hrest ih =>
    have there : data.take size ≠ [] := by
      rw [ne_eq, List.take_eq_nil_iff, not_or]
      refine ⟨positive, fun nothing => ?_⟩
      rw [nothing, List.drop_nil] at hrest
      cases hrest
    have whole := Delivers.bytes (data.take size) there ih
    rwa [show data.take size ++ first :: rest = data by rw [← hrest, List.take_append_drop]]
      at whole

/-- Interruptions keep nothing back. -/
theorem Delivers.interrupting {stream : InStream} {bytes : Bytes} (h : stream.Delivers bytes) :
    stream.interrupting.Delivers bytes := by
  induction h with
  | done => exact .done
  | interrupted later ih => exact .interrupted (.interrupted ih)
  | bytes chunk there later ih => exact .interrupted (.bytes chunk there ih)

/-- What is read of some bytes at once is their beginning, and the others are left. -/
theorem fill_ofBytes_append {data : Bytes} {wanted : Nat} (short : wanted ≤ data.length)
    (stream : InStream) :
    fill wanted (ofBytes data ++ stream)
      = (.ok (data.take wanted), ofBytes (data.drop wanted) ++ stream) := by
  have all : ∀ stream, fill 0 stream = (.ok [], stream) := fun stream => by cases stream <;> rfl
  cases wanted with
  | zero => rw [all, List.take_zero, List.drop_zero]
  | succ n =>
    have there : data ≠ [] := fun nothing => by
      rw [nothing] at short
      exact absurd short (Nat.not_succ_le_zero n)
    have whole : ofBytes data = [.bytes data] := if_neg (by simpa using there)
    rw [whole, List.singleton_append]
    rcases Nat.lt_or_eq_of_le short with long | same
    · have kept : data.drop (n + 1) ≠ [] := by
        rw [ne_eq, List.drop_eq_nil_iff]
        omega
      rw [fill_of_long (Nat.succ_pos n) long, ofBytes, if_neg (by simpa using kept)]
      rfl
    · have rest : fill (n + 1 - data.length) stream = (.ok [], stream) := by
        rw [← same, Nat.sub_self]
        exact all stream
      rw [fill_of_short there (Nat.le_of_eq same.symm) rest, same, List.take_length,
        List.drop_length, List.append_nil]
      rfl

/-- A read that asks for more than there is before a pause gets what is there. -/
theorem fill_ofBytes_pause {data : Bytes} {wanted : Nat} (long : data.length < wanted)
    (stream : InStream) :
    fill wanted (ofBytes data ++ .bytes [] :: stream) = (.ok data, stream) := by
  obtain ⟨n, rfl⟩ := Nat.exists_eq_add_of_lt long
  have pause : ∀ n, fill (n + 1) (.bytes [] :: stream) = (.ok [], stream) := fun _ => rfl
  cases data with
  | nil => exact pause _
  | cons b bs =>
    have rest : fill ((b :: bs).length + n + 1 - (b :: bs).length) (.bytes [] :: stream)
        = (.ok [], stream) := by
      rw [Nat.add_assoc, Nat.add_sub_cancel_left]
      exact pause n
    refine (fill_of_short (List.cons_ne_nil b bs) (Nat.le_of_lt long) rest).trans ?_
    rw [List.append_nil]

/-- **A read goes to the next pause at most.** If it asks for less, the pause is still to come, and
otherwise it is over, and what lies behind it is left. -/
theorem fill_pausing {position stop : Nat} {data : Bytes} (within : stop - position ≤ data.length)
    (wanted : Nat) (stops : List Nat) :
    fill wanted (pausing position data (stop :: stops)) =
      if wanted ≤ stop - position then
        (.ok (data.take wanted), pausing (position + wanted) (data.drop wanted) (stop :: stops))
      else
        (.ok (data.take (stop - position)),
          pausing (max position stop) (data.drop (stop - position)) stops) := by
  have ahead : (data.take (stop - position)).length = stop - position := by
    rw [List.length_take, Nat.min_eq_left within]
  rw [pausing, if_neg (Nat.not_lt.2 within)]
  split
  · next short =>
    have within' : ¬ (data.drop wanted).length < stop - (position + wanted) := by
      rw [List.length_drop]
      omega
    have left : stop - position - wanted = stop - (position + wanted) := Nat.sub_sub ..
    rw [fill_ofBytes_append (by rwa [ahead]), List.take_take, Nat.min_eq_left short, pausing,
      if_neg within', List.drop_take, List.drop_drop, left,
      show wanted + (stop - (position + wanted)) = stop - position by omega,
      show max (position + wanted) stop = max position stop by omega]
  · next long => exact fill_ofBytes_pause (by rw [ahead]; exact Nat.not_le.1 long) _

end InStream

namespace RecordReader

/-- Two readers differ at most in how the bytes reach them that are still to come. -/
structure Alike (r₁ r₂ : RecordReader) : Prop where
  streams : ∃ bytes, r₁.stream.Delivers bytes ∧ r₂.stream.Delivers bytes
  same : r₁ = { r₂ with stream := r₁.stream }

/-- Two readings agree: their results are the same, and the readers are alike afterwards. -/
def Agree {α : Type} (x y : α × RecordReader) : Prop := x.1 = y.1 ∧ x.2.Alike y.2

/-- What was taken becomes an item, and nothing becomes the end. -/
theorem Agree.item (x₁ x₂ : Except Error (Option Bytes) × RecordReader) : Agree x₁ x₂ → Agree
      (match x₁ with
        | (.error cause, r) => (.error cause, r)
        | (.ok (some bytes), r) => (.ok ⟨bytes⟩, r)
        | (.ok none, r) => ((.ok .endOfData : Except Error Item), { r with finished := true }))
      (match x₂ with
        | (.error cause, r) => (.error cause, r)
        | (.ok (some bytes), r) => (.ok ⟨bytes⟩, r)
        | (.ok none, r) => (.ok .endOfData, { r with finished := true })) := by
  obtain ⟨taken, r₁⟩ := x₁
  obtain ⟨_, r₂⟩ := x₂
  rintro ⟨same, alike⟩
  obtain rfl : taken = _ := same
  cases taken with
  | error cause => exact ⟨rfl, alike⟩
  | ok bytes? =>
    cases bytes? with
    | some bytes => exact ⟨rfl, alike⟩
    | none =>
      refine ⟨rfl, alike.streams, ?_⟩
      rw [show r₁ = _ from alike.same]

namespace Alike

variable {r₁ r₂ : RecordReader}

/-- Filling a buffer from both streams gives the same bytes and leaves the same bytes. -/
theorem fill (alike : r₁.Alike r₂) (wanted : Nat) :
    ∃ bytes s₁ s₂, r₁.stream.fill wanted = (.ok bytes, s₁) ∧
      r₂.stream.fill wanted = (.ok bytes, s₂) ∧
      Alike { r₁ with stream := s₁ } { r₂ with stream := s₂ } := by
  obtain ⟨bytes, d₁, d₂⟩ := alike.streams
  obtain ⟨s₁, filled₁, left₁⟩ := d₁.fill wanted
  obtain ⟨s₂, filled₂, left₂⟩ := d₂.fill wanted
  refine ⟨bytes.take wanted, s₁, s₂, filled₁, filled₂, ⟨_, left₁, left₂⟩, ?_⟩
  rw [alike.same]

theorem recordsRead (alike : r₁.Alike r₂) : r₁.recordsRead = r₂.recordsRead := by
  rw [alike.same]

/-- What is read behind a header hangs on the header and on the bytes that follow. -/
theorem readRecord (alike : r₁.Alike r₂) : Agree r₁.readRecord r₂.readRecord := by
  obtain ⟨header, s₁, s₂, filled₁, filled₂, alike⟩ := alike.fill Record.headerSize
  cases header with
  | nil =>
    simp only [RecordReader.readRecord, filled₁, filled₂]
    exact ⟨rfl, alike⟩
  | cons b bs =>
    have there : b :: bs ≠ [] := List.cons_ne_nil b bs
    rw [readRecord_of_header filled₁ there, readRecord_of_header filled₂ there]
    have count := alike.recordsRead
    cases Record.size? (b :: bs) with
    | none => exact ⟨by rw [show r₁.recordsRead = r₂.recordsRead from count], alike⟩
    | some size =>
      simp only
      split
      · exact ⟨by rw [show r₁.recordsRead = r₂.recordsRead from count], alike⟩
      · obtain ⟨body, t₁, t₂, filled₁, filled₂, alike⟩ := alike.fill (size - Record.headerSize)
        simp only [show s₁.fill (size - Record.headerSize) = _ from filled₁,
          show s₂.fill (size - Record.headerSize) = _ from filled₂]
        split
        · exact ⟨by rw [show r₁.recordsRead = r₂.recordsRead from count], alike⟩
        · refine ⟨rfl, alike.streams, ?_⟩
          have same := alike.same
          simp only [RecordReader.mk.injEq, true_and] at same ⊢
          obtain ⟨mode, blockRecords, records, bytes, finished⟩ := same
          exact ⟨mode, blockRecords, by rw [records], by rw [bytes], finished⟩

/-- Induction on how many records are to be read. -/
theorem readRecords (n : Nat) (alike : r₁.Alike r₂) :
    Agree (RecordReader.readRecords n r₁) (RecordReader.readRecords n r₂) := by
  induction n generalizing r₁ r₂ with
  | zero => exact ⟨rfl, alike⟩
  | succ n ih =>
    obtain ⟨result, left⟩ := alike.readRecord
    simp only [RecordReader.readRecords]
    generalize r₁.readRecord = x₁ at result left
    generalize r₂.readRecord = x₂ at result left
    obtain ⟨first, r₁⟩ := x₁
    obtain ⟨_, r₂⟩ := x₂
    obtain rfl : first = _ := result
    cases first with
    | error cause => exact ⟨rfl, left⟩
    | ok record =>
      cases record with
      | none => exact ⟨rfl, left⟩
      | some record =>
        obtain ⟨result, left⟩ := ih left
        simp only
        generalize RecordReader.readRecords n r₁ = x₁ at result left
        generalize RecordReader.readRecords n r₂ = x₂ at result left
        obtain ⟨more, r₁⟩ := x₁
        obtain ⟨_, r₂⟩ := x₂
        obtain rfl : more = _ := result
        cases more <;> exact ⟨rfl, left⟩

/-- Readers that are alike read the same, and are alike afterwards. -/
theorem readBlock (alike : r₁.Alike r₂) : Agree r₁.readBlock r₂.readBlock := by
  have block : r₁.blockRecords = r₂.blockRecords := by rw [alike.same]
  obtain ⟨result, left⟩ := alike.readRecords r₂.blockRecords
  simp only [RecordReader.readBlock, block]
  generalize RecordReader.readRecords r₂.blockRecords r₁ = x₁ at result left
  generalize RecordReader.readRecords r₂.blockRecords r₂ = x₂ at result left
  obtain ⟨records, r₁⟩ := x₁
  obtain ⟨_, r₂⟩ := x₂
  obtain rfl : records = _ := result
  cases records with
  | error cause => exact ⟨rfl, left⟩
  | ok records =>
    cases records with
    | nil => exact ⟨rfl, left⟩
    | cons record more =>
      simp only
      cases Batch.pack (record :: more) <;> exact ⟨rfl, left⟩

/-- **Readers that are alike read the same, and stay alike.** -/
theorem read (alike : r₁.Alike r₂) : Agree r₁.read r₂.read := by
  have finished : r₁.finished = r₂.finished := by rw [alike.same]
  have mode : r₁.mode = r₂.mode := by rw [alike.same]
  simp only [RecordReader.read, finished, mode]
  cases r₂.finished with
  | true => exact ⟨rfl, alike⟩
  | false =>
    cases r₂.mode with
    | single => exact .item _ _ alike.readRecord
    | block => exact .item _ _ alike.readBlock

/-- Readers that are alike stay alike, however many calls are made. -/
theorem after (alike : r₁.Alike r₂) (k : Nat) : (r₁.after k).Alike (r₂.after k) := by
  induction k with
  | zero => exact alike
  | succ k ih => exact ih.read.2

end Alike

/-- **What a reader answers depends on the bytes alone**, and so does what it has counted: not on
the pieces in which they come, nor on interruptions. This holds for all calls, those after an error
included. -/
theorem answer_eq_of_delivers {bytes : Bytes} {s₁ s₂ : InStream} (d₁ : s₁.Delivers bytes)
    (d₂ : s₂.Delivers bytes) (mode : ReadMode) (n k : Nat) :
    (new s₁ mode n).answer k = (new s₂ mode n).answer k ∧
      ((new s₁ mode n).after k).recordsRead = ((new s₂ mode n).after k).recordsRead ∧
      ((new s₁ mode n).after k).bytesRead = ((new s₂ mode n).after k).bytesRead := by
  have alike : (new s₁ mode n).Alike (new s₂ mode n) := ⟨⟨bytes, d₁, d₂⟩, rfl⟩
  have later := alike.after k
  exact ⟨later.read.1, later.recordsRead, by rw [later.same]⟩

/-- In particular pieces of any size, each after an interruption, are as good as all bytes at once.
-/
theorem answer_inPieces (size : Nat) (data : Bytes) (mode : ReadMode) (n k : Nat) :
    (new (InStream.inPieces size data).interrupting mode n).answer k
      = (new (.ofBytes data) mode n).answer k :=
  (answer_eq_of_delivers (InStream.delivers_inPieces size data).interrupting
    (InStream.delivers_ofBytes data) mode n k).1

/-- **The end is final.** A reader that finds a pause before a record has read all, although the
stream has more. -/
theorem answer_of_pause {r : RecordReader} {position : Nat} {data : Bytes} {stops : List Nat}
    (pauses : r.stream = .pausing position data (position :: stops)) (running : r.finished = false)
    (positive : 0 < r.blockRecords) (k : Nat) : r.answer k = .ok .endOfData := by
  have pause : r.stream.fill Record.headerSize = (.ok [], .pausing position data stops) := by
    rw [pauses, InStream.fill_pausing (by omega), Nat.sub_self, if_neg (by decide), List.take_zero,
      List.drop_zero, Nat.max_self]
  have nothing : r.readRecord = (.ok none, { r with stream := .pausing position data stops }) := by
    simp only [readRecord, pause]
  obtain ⟨n, several⟩ := Nat.exists_eq_add_of_lt positive
  have ends : r.read
      = (.ok .endOfData, { r with stream := .pausing position data stops, finished := true }) := by
    rw [Nat.zero_add] at several
    cases hmode : r.mode <;>
      simp [read, running, hmode, nothing, readBlock, several, readRecords]
  cases k with
  | zero =>
    show r.read.1 = _
    rw [ends]
  | succ k =>
    have finished : (r.after 1).finished = true := by
      show r.read.2.finished = true
      rw [ends]
    have same := after_of_finished finished k
    unfold RecordReader.answer
    rw [Nat.add_comm, same, read_of_finished finished]

end RecordReader

end RecordFarm
