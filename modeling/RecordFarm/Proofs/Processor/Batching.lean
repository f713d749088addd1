import RecordFarm.Processor
import RecordFarm.Proofs.Wire.RoundTrip

/-!
# Batching is invisible to a processor

The records of a stream may be cut into groups in any way, and each group may travel with its
records in single parts or in one batch (`Parcel`). A processor that is run over the messages, one
after the other, makes the same records of them as of the uncut stream, and ends in the same state
(`batching_invisible`). What it makes of one message is a message again, which says that there is
nothing to forward if nothing was made, and otherwise brings what was made over a hop.
-/

namespace RecordFarm

namespace Message

/-- The message carries just these records, one in each part or all in one batch. -/
inductive Packs (group : List Bytes) : Message → Prop where
  | singly : Packs group (.process group)
  | batched {m : Message} (packed : ofRecords group = .ok m) : Packs group m

variable {group : List Bytes} {m : Message}

/-- Records that are made into a batch fit its header. -/
theorem packed_of_ofRecords (h : ofRecords group = .ok m) :
    group.flatten.length < UInt32.size ∧ m = ofBatch (Batch.packed group) := by
  unfold ofRecords at h
  rcases Nat.lt_or_ge group.flatten.length UInt32.size with hsize | hsize
  · rw [Batch.pack_of_lt hsize] at h
    exact ⟨hsize, (Except.ok.inj h).symm⟩
  · rw [Batch.pack_of_le hsize] at h
    cases h

/-- A message that packs a group is read as that group. -/
theorem Packs.records (packs : Packs group m) (whole : ∀ r ∈ group, Record.isWhole r = true) :
    m.records = .ok group := by
  cases packs with
  | singly => exact records_process whole
  | batched packed =>
    obtain ⟨hsize, rfl⟩ := packed_of_ofRecords packed
    exact records_packed whole hsize

/-- The message that forwards what was made, or says that there is nothing to forward. -/
def forwarding (made : List Bytes) : Message := if made.isEmpty then .ignore else .process made

@[simp] theorem parts_forwarding (made : List Bytes) : (forwarding made).parts = made := by
  cases made <;> rfl

@[simp] theorem forwarding_eq_ignore_iff {made : List Bytes} :
    forwarding made = .ignore ↔ made = [] := by
  cases made with
  | nil => exact iff_of_true rfl rfl
  | cons r rs => exact iff_of_false nofun nofun

/-- Whole records that are forwarded arrive, if they fit a header. -/
theorem forwarding_arrives {made : List Bytes} (hne : forwarding made ≠ .ignore)
    (whole : ∀ r ∈ made, Record.isWhole r = true) (fits : made.flatten.length < UInt32.size) :
    ∃ frames arrived, (forwarding made).toFramesBatched = .ok frames ∧
      ofFrames frames = .ok arrived ∧ arrived.records = .ok made := by
  have there : made ≠ [] := fun nothing => hne (forwarding_eq_ignore_iff.2 nothing)
  have hm : forwarding made = .process made := by
    obtain ⟨r, rs, rfl⟩ := List.exists_cons_of_ne_nil there
    rfl
  have hrecords : (process made).records = .ok made := records_process whole
  have hframes := toFrames_ofBatch (Batch.packed made)
  refine ⟨_, ofBatch (Batch.packed made), ?_, ofFrames_toFrames rfl hframes,
    records_packed whole fits⟩
  rw [hm, toFramesBatched_of_records rfl hrecords, Batch.pack_of_lt fits]
  exact hframes

end Message

structure Parcel where
  records : List Bytes
  message : Message
  packs : message.Packs records

/-- The records of some parcels, end to end. A parcel may be empty. -/
def Parcel.contents (parcels : List Parcel) : List Bytes := parcels.flatMap Parcel.records

namespace Processor

variable {σ : Type}

/-- The messages that a processor makes of others, one after the other, up to the first fault. -/
def applyAll (p : Processor σ) : List Message → σ → Except Fault (List Message) × σ
  | [], s => (.ok [], s)
  | m :: rest, s =>
    match p.apply m s with
    | (.error fault, s) => (.error fault, s)
    | (.ok result, s) =>
      match applyAll p rest s with
      | (.ok results, s) => (.ok (result :: results), s)
      | (.error fault, s) => (.error fault, s)

/-- What a message becomes that carries a group of records, when these came before: `made` is what
the processor makes of the group. -/
structure Becomes (p : Processor σ) (start : σ) (earlier group : List Bytes) (result : Message)
    (made : List Bytes) : Prop where
  processed : ∃ before mid after, p.run earlier start = (.ok before, mid) ∧
    p.run group mid = (.ok made, after)
  parts : result.parts = made
  ignored : result = .ignore ↔ made = []
  sent : result ≠ .ignore → (∀ r ∈ made, Record.isWhole r = true) →
    made.flatten.length < UInt32.size →
    ∃ frames arrived, result.toFramesBatched = .ok frames ∧
      Message.ofFrames frames = .ok arrived ∧ arrived.records = .ok made

/-- A processor that was run over the messages of these parcels ended in this state, and the
messages became these results, which hold these records. -/
structure Handles (p : Processor σ) (start last : σ) (outputs : List Bytes) (parcels : List Parcel)
    (results : List Message) : Prop where
  applied : p.applyAll (parcels.map Parcel.message) start = (.ok results, last)
  outputs : results.flatMap Message.parts = outputs
  /-- Each message has become what its group was made into. -/
  each : ∀ i parcel, parcels[i]? = some parcel →
    ∃ result made, results[i]? = some result ∧
      p.Becomes start (Parcel.contents (parcels.take i)) parcel.records result made

variable {p : Processor σ} {start mid last : σ} {earlier group made outputs : List Bytes}
  {m result : Message}

/-- A run over two rows of records is a run over the first and then one over the second. -/
theorem run_append_eq_ok_iff {records more : List Bytes} :
    p.run (records ++ more) start = (.ok outputs, last) ↔
      ∃ first mid second, p.run records start = (.ok first, mid) ∧
        p.run more mid = (.ok second, last) ∧ outputs = first ++ second := by
  rw [run_append]
  constructor
  · intro h
    split at h
    · cases h
    · next first mid hfirst =>
      split at h
      · next second last' hsecond =>
        cases h
        exact ⟨first, mid, second, hfirst, hsecond, rfl⟩
      · cases h
  · rintro ⟨first, mid, second, hfirst, hsecond, rfl⟩
    simp only [hfirst, hsecond]

/-- What a processor makes of a group is forwarded in one message. -/
theorem apply_of_run (hrecords : m.records = .ok group)
    (h : p.run group start = (.ok made, last)) :
    p.apply m start = (.ok (.forwarding made), last) := by
  unfold apply
  simp only [hrecords, h]
  cases made <;> rfl

/-- What is made of the first group. -/
theorem becomes_first (h : p.run group start = (.ok made, last)) :
    p.Becomes start [] group (.forwarding made) made where
  processed := ⟨[], start, last, rfl, h⟩
  parts := Message.parts_forwarding made
  ignored := Message.forwarding_eq_ignore_iff
  sent := Message.forwarding_arrives

/-- Other records may have come still earlier. -/
theorem Becomes.behind {first before : List Bytes} (h : p.run first start = (.ok before, mid))
    (becomes : p.Becomes mid earlier group result made) :
    p.Becomes start (first ++ earlier) group result made where
  processed := by
    obtain ⟨between, behind, after, hearlier, hgroup⟩ := becomes.processed
    exact ⟨before ++ between, behind, after,
      run_append_eq_ok_iff.2 ⟨before, mid, between, h, hearlier, rfl⟩, hgroup⟩
  parts := becomes.parts
  ignored := becomes.ignored
  sent := becomes.sent

/-- **A processor handles messages as it does the records in them.** Induction on the parcels: those
that are left begin in the state that the first one leaves. -/
theorem exists_handles (parcels : List Parcel)
    (whole : ∀ r ∈ Parcel.contents parcels, Record.isWhole r = true)
    (h : p.run (Parcel.contents parcels) start = (.ok outputs, last)) :
    ∃ results, p.Handles start last outputs parcels results := by
  induction parcels generalizing start outputs with
  | nil =>
    cases h
    exact ⟨[], rfl, rfl, nofun⟩
  | cons parcel parcels ih =>
    have contents : Parcel.contents (parcel :: parcels)
        = parcel.records ++ Parcel.contents parcels := List.flatMap_cons
    rw [contents] at whole h
    obtain ⟨made, mid, more, hgroup, hmore, rfl⟩ := run_append_eq_ok_iff.1 h
    obtain ⟨results, handles⟩ := ih (fun r hr => whole r (List.mem_append_right _ hr)) hmore
    have hrecords := parcel.packs.records fun r hr => whole r (List.mem_append_left _ hr)
    refine ⟨.forwarding made :: results, ?_, ?_, fun i other hother => ?_⟩
    · rw [List.map_cons, applyAll, apply_of_run hrecords hgroup]
      simp only [handles.applied]
    · rw [List.flatMap_cons, Message.parts_forwarding, handles.outputs]
    · cases i with
      | zero =>
        cases hother
        exact ⟨_, made, rfl, becomes_first hgroup⟩
      | succ i =>
        obtain ⟨result, made', hresult, becomes⟩ := handles.each i other hother
        exact ⟨result, made', hresult, becomes.behind hgroup⟩

/-- **Batching is invisible.** Whole records on which a processor does not fail may be cut and
packed in any two ways: the messages leave it in the same state, and bring the same records, as the
uncut row does. Each message becomes what its group is made into: it is to be ignored if and only
if that is nothing, and whole records that are made arrive behind a hop. -/
theorem batching_invisible (p : Processor σ) {records outputs : List Bytes} {start last : σ}
    (whole : ∀ r ∈ records, Record.isWhole r = true)
    (h : p.run records start = (.ok outputs, last)) {cut cut' : List Parcel}
    (hcut : Parcel.contents cut = records) (hcut' : Parcel.contents cut' = records) :
    ∃ results results', p.Handles start last outputs cut results ∧
      p.Handles start last outputs cut' results' := by
  have handled : ∀ parcels : List Parcel, Parcel.contents parcels = records →
      ∃ results, p.Handles start last outputs parcels results := by
    rintro parcels rfl
    exact exists_handles parcels whole h
  obtain ⟨results, handles⟩ := handled cut hcut
  obtain ⟨results', handles'⟩ := handled cut' hcut'
  exact ⟨results, results', handles, handles'⟩

def twins : Processor Bool where
  process record pick := (.ok (if pick then [record, record] else []), !pick)

def fourRecords : List Bytes := [[4, 0, 0, 0], [5, 0, 0, 0, 7], [4, 0, 0, 0], [5, 0, 0, 0, 8]]

/-- The four records in a part, a batch of two and a part, with an empty batch between them. -/
def piecemeal : List Parcel :=
  [⟨[[4, 0, 0, 0]], .process [[4, 0, 0, 0]], .singly⟩,
    ⟨[], .process [[0, 0, 0, 0], []], .batched rfl⟩,
    ⟨[[5, 0, 0, 0, 7], [4, 0, 0, 0]],
      .process [[2, 0, 0, 0], [5, 0, 0, 0, 7, 4, 0, 0, 0]], .batched rfl⟩,
    ⟨[[5, 0, 0, 0, 8]], .process [[5, 0, 0, 0, 8]], .singly⟩]

/-- The four records in one batch. Its count is a whole record as well. -/
def allAtOnce : List Parcel :=
  [⟨fourRecords,
    .process [[4, 0, 0, 0], [4, 0, 0, 0, 5, 0, 0, 0, 7, 4, 0, 0, 0, 5, 0, 0, 0, 8]], .batched rfl⟩]

/-- Two of the messages that come piecemeal leave nothing to forward. -/
theorem batching_invisible_twins :
    let outputs : List Bytes := [[4, 0, 0, 0], [4, 0, 0, 0], [4, 0, 0, 0], [4, 0, 0, 0]]
    twins.run fourRecords true = (.ok outputs, true) ∧
    (∃ results results', twins.Handles true true outputs piecemeal results ∧
      twins.Handles true true outputs allAtOnce results') ∧
    twins.applyAll (piecemeal.map Parcel.message) true
      = (.ok [.process [[4, 0, 0, 0], [4, 0, 0, 0]], .ignore,
          .process [[4, 0, 0, 0], [4, 0, 0, 0]], .ignore], true) ∧
    twins.applyAll (allAtOnce.map Parcel.message) true = (.ok [.process outputs], true) := by
  intro outputs
  have run : twins.run fourRecords true = (.ok outputs, true) := rfl
  exact ⟨run, batching_invisible twins (by decide) run rfl rfl, rfl, rfl⟩

end Processor

end RecordFarm
