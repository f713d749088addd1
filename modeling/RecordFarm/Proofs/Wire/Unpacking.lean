import RecordFarm.Proofs.Wire.Hop

/-!
# Messages as they are handed out

A source that receives messages hands out their records one by one. The end of a stream and the
words by which peers come and go are not handed out, and every other message is handed out as it is.
Because a hop keeps the records, it makes no difference whether a message is looked at before it or
behind it (`arrives`).
-/

namespace RecordFarm

namespace Message

/-- What a message is handed out as. -/
def unpacked (m : Message) : List Message :=
  match m.kind with
  | .process => m.content.map fun record => process [record]
  | .registration => []
  | .unregistration => []
  | .endOfStream => []
  | _ => [m]

/-- A message is unpacked into its records, one message for each. -/
theorem unpacked_of_records {m : Message} {records : List Bytes} (hkind : m.kind = .process)
    (h : m.records = .ok records) : m.unpacked = records.map fun record => process [record] := by
  unfold unpacked
  rw [hkind, content_of_records hkind h]

@[simp] theorem unpacked_registration (id : ClientId) : (registration id).unpacked = [] := rfl

@[simp] theorem unpacked_unregistration (id : ClientId) : (unregistration id).unpacked = [] := rfl

theorem unpacked_of_isEnd {m : Message} (h : m.isEnd = true) : m.unpacked = [] := by
  have hkind : m.kind = .endOfStream := eq_of_beq h
  unfold unpacked
  rw [hkind]

theorem isEnd_of_mem_unpacked {m x : Message} (h : x ∈ m.unpacked) : x.isEnd = false := by
  unfold unpacked at h
  split at h
  · obtain ⟨record, -, rfl⟩ := List.mem_map.1 h
    rfl
  · cases h
  · cases h
  · cases h
  · next notEnd =>
    rw [List.mem_singleton.1 h, Bool.eq_false_iff]
    intro isEnd
    exact notEnd (eq_of_beq isEnd)

/-- What arrives of a message has the same kind, and is handed out alike. -/
theorem arrives {m : Message} {frames : Frames} (hcode : Kind.ofCode m.kind.code = m.kind)
    (h : m.toFramesBatched = .ok frames) :
    ∃ m', ofFrames frames = .ok m' ∧ m'.kind = m.kind ∧ m'.unpacked = m.unpacked ∧
      (m'.kind = .process → ∃ records, m'.records = .ok records) := by
  by_cases hkind : m.kind = .process
  · obtain ⟨records, m', hrecords, framed, hkind', hrecords'⟩ := hop_process hkind h
    refine ⟨m', framed, hkind'.trans hkind.symm, ?_, fun _ => ⟨records, hrecords'⟩⟩
    rw [unpacked_of_records hkind' hrecords', unpacked_of_records hkind hrecords]
  · exact ⟨m, hop_other hkind hcode h, rfl, rfl, fun h' => absurd h' hkind⟩

end Message

end RecordFarm
