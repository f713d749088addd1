import RecordFarm.Proofs.Fanout.Shares
import RecordFarm.Proofs.Farm.Distributor
import RecordFarm.Proofs.Wire.RoundTrip
import RecordFarm.Proofs.Wire.Unpacking

/-!
# What a dispenser gives out

A dispenser answers its clients with records, barriers and ends. Records that fit into a batch and
barriers `Fits` into frames, and what arrives of them is an answer again, which is handed out
alike (`IsAnswer.arrives`). When everything that a source yields fits, so does everything that its
element sends on (`Yielded.kinds`), and no end is followed by anything (`Yielded.endLast`).
-/

namespace RecordFarm

open Farm (passed Yielded)

namespace Message

/-- What a dispenser gives out: records, barriers and ends. -/
def IsAnswer (m : Message) : Prop := m.isEnd = true ∨ m.Carries ∨ m.kind = .barrier

/-- Records that fit into a batch, or a barrier. -/
def Fits (m : Message) : Prop :=
  m.Carries ∧ m.content.flatten.length < UInt32.size ∨ m.kind = .barrier

theorem Fits.notEnd {m : Message} (fits : m.Fits) : m.isEnd = false := by
  unfold isEnd
  rcases fits with ⟨⟨kind, -⟩, -⟩ | kind <;> rw [kind] <;> rfl

theorem Fits.isAnswer {m : Message} (fits : m.Fits) : m.IsAnswer := by
  rcases fits with ⟨carries, -⟩ | kind
  · exact Or.inr (Or.inl carries)
  · exact Or.inr (Or.inr kind)

/-- Such a message has frames. -/
theorem Fits.exists_frames {m : Message} (kind : m.isEnd = true ∨ m.Fits) :
    ∃ frames, m.toFramesBatched = .ok frames := by
  rcases kind with isEnd | ⟨⟨process, records, hrecords⟩, size⟩ | barrier
  · have last : m.kind = .endOfStream := eq_of_beq isEnd
    obtain ⟨frames, hframes, -⟩ := Message.exists_frames (m := m) (by rw [last]; rfl)
      (by rw [last]; rfl)
    refine ⟨frames, ?_⟩
    rw [toFramesBatched, if_neg (by rw [last]; decide)]
    exact hframes
  · rw [content_of_records process hrecords] at size
    rw [toFramesBatched_of_records process hrecords, Batch.pack_of_lt size]
    exact ⟨_, rfl⟩
  · obtain ⟨frames, hframes, -⟩ := Message.exists_frames (m := m) (by rw [barrier]; rfl)
      (by rw [barrier]; rfl)
    refine ⟨frames, ?_⟩
    rw [toFramesBatched, if_neg (by rw [barrier]; decide)]
    exact hframes

def Readable (frames : Frames) : Prop := ∃ m, ofFrames frames = .ok m ∧ m.IsAnswer

/-- **What arrives of an answer is an answer**, and it is handed out alike. -/
theorem IsAnswer.arrives {m : Message} {frames : Frames} (answer : m.IsAnswer)
    (h : m.toFramesBatched = .ok frames) :
    Readable frames ∧ (arrived frames).isEnd = m.isEnd ∧
      (arrived frames).unpacked = m.unpacked := by
  have hcode : Kind.ofCode m.kind.code = m.kind := by
    rcases answer with isEnd | ⟨kind, -⟩ | kind
    · rw [show m.kind = .endOfStream from eq_of_beq isEnd]
      rfl
    · rw [kind]
      rfl
    · rw [kind]
      rfl
  obtain ⟨m', framed, kind, unpacked, readable⟩ := Message.arrives hcode h
  rw [arrived_of_framed framed]
  refine ⟨⟨m', framed, ?_⟩, by rw [isEnd, isEnd, kind], unpacked⟩
  rcases answer with isEnd | ⟨process, -⟩ | barrier
  · exact Or.inl (by rw [Message.isEnd, kind]; exact isEnd)
  · exact Or.inr (Or.inl ⟨kind.trans process, readable (kind.trans process)⟩)
  · exact Or.inr (Or.inr (kind.trans barrier))

/-- What is passed on of a message that fits, fits. -/
theorem Fits.passed {m next : Message} (fits : m.Fits) (h : next ∈ passed m) : next.Fits := by
  unfold Farm.passed at h
  split at h
  · next kind =>
    split at h
    · cases h
    · rw [List.mem_singleton.1 h]
      rcases fits with ⟨⟨-, records, hrecords⟩, size⟩ | barrier
      · have content := content_of_records kind hrecords
        have same : (process m.content).records = .ok m.content := by
          rw [content]
          exact records_process (isWhole_of_records hrecords)
        refine Or.inl ⟨⟨rfl, _, same⟩, ?_⟩
        rw [content_of_records rfl same]
        exact size
      · rw [barrier] at kind
        cases kind
  · rw [List.mem_singleton.1 h]
    exact fits

end Message

theorem Farm.passed_of_isEnd {m : Message} (h : m.isEnd = true) : passed m = [m] :=
  passed_of_other (by rw [show m.kind = .endOfStream from eq_of_beq h]; decide)

namespace Farm.Yielded

variable {log : List Message} {ended : Bool}

/-- What is passed on of what was yielded: what fits, and perhaps an end behind it. -/
theorem passed_eq (yielded : Yielded Message.Fits log ended) :
    ∃ items, (∀ m ∈ items, m.Fits) ∧
      (log.flatMap passed = items ∨ ∃ m, m.isEnd = true ∧ log.flatMap passed = items ++ [m]) := by
  have fit : ∀ items : List Message, (∀ m ∈ items, m.Fits) →
      ∀ m ∈ items.flatMap passed, m.Fits := by
    intro items fits m hm
    obtain ⟨item, hitem, h⟩ := List.mem_flatMap.1 hm
    exact (fits item hitem).passed h
  cases hended : ended with
  | false => exact ⟨_, fit log (yielded.running hended), Or.inl rfl⟩
  | true =>
    obtain ⟨items, m, rfl, isEnd, fits⟩ := yielded.last hended
    refine ⟨_, fit items fits, Or.inr ⟨m, isEnd, ?_⟩⟩
    rw [List.flatMap_append, List.flatMap_singleton, passed_of_isEnd isEnd]

/-- Whatever a source yielded is passed on as an end, or fits its row. -/
theorem kinds (yielded : Yielded Message.Fits log ended) :
    ∀ m ∈ log.flatMap passed, m.isEnd = true ∨ m.Fits := by
  obtain ⟨items, fits, heq | ⟨last, isEnd, heq⟩⟩ := yielded.passed_eq
  · rw [heq]
    exact fun m hm => Or.inr (fits m hm)
  · rw [heq]
    intro m hm
    rcases List.mem_append.1 hm with hm | hm
    · exact Or.inr (fits m hm)
    · rw [List.mem_singleton.1 hm]
      exact Or.inl isEnd

/-- Nothing is passed on behind an end. -/
theorem endLast (yielded : Yielded Message.Fits log ended) {sent rest : List Message}
    (h : sent ++ rest = log.flatMap passed) : Fanout.EndLast sent := by
  rintro before m later rfl isEnd
  obtain ⟨items, fits, heq | ⟨last, -, heq⟩⟩ := yielded.passed_eq
  · have hmem : m ∈ items := by
      rw [← heq, ← h]
      simp
    have notEnd := (fits m hmem).notEnd
    rw [isEnd] at notEnd
    cases notEnd
  · rw [heq, List.append_assoc, List.cons_append] at h
    -- If anything stood behind the end, the end would stand among what fits.
    by_contra behind
    rcases List.eq_nil_or_concat (later ++ rest) with empty | ⟨front, x, concat⟩
    · exact behind (List.append_eq_nil_iff.1 empty).1
    · rw [concat, List.concat_eq_append, ← List.cons_append, ← List.append_assoc] at h
      obtain ⟨hitems, -⟩ := List.append_inj' h rfl
      have notEnd := (fits m (by rw [← hitems]; simp)).notEnd
      rw [isEnd] at notEnd
      cases notEnd

end Farm.Yielded

end RecordFarm
