import RecordFarm.Proofs.Wire.Hop

/-!
# Framing is a bijection on its image

Every list of frames that starts with a word is read, and what is read has these frames and no
others. The other way round, a message comes back as it is if its kind is the meaning of its own
code (`Kind.ofCode_code_iff`). Two sorts of kinds are not: `ignore`, whose code reads as an unknown
one and which has no frames for that reason, and an unknown code that is none, because a kind of
its own stands for it.
-/

namespace RecordFarm

namespace Bytes

/-- A word that was read is written back to the bytes it was read from. -/
theorem ofUInt32_of_toUInt32? {bytes : Bytes} {n : UInt32} (h : toUInt32? bytes = some n) :
    ofUInt32 n = bytes := by
  unfold toUInt32? at h
  split at h
  · next hlength =>
    have hlt : ofWord bytes < UInt32.size := by
      have := ofWord_lt bytes
      rwa [hlength] at this
    rw [← Option.some.inj h, ofUInt32, UInt32.toNat_ofNat_of_lt' hlt, ← hlength, word_ofWord]
  · cases h

theorem exists_toUInt32?_iff {bytes : Bytes} :
    (∃ n, toUInt32? bytes = some n) ↔ bytes.length = 4 := by
  unfold toUInt32?
  split <;> simp_all

end Bytes

namespace Kind

/-- The kinds that a code from a peer can mean. -/
def known : List Kind :=
  [process, registration, unregistration, exitRequest, dataRequest, barrier, endOfStream]

/-- The codes that mean something. -/
def knownCodes : List UInt32 := known.map code

theorem ofCode_code_of_mem_known : ∀ kind ∈ known, ofCode kind.code = kind := by decide

theorem ofCode_mem_known {c : UInt32} (h : c ∈ knownCodes) : ofCode c ∈ known := by
  obtain ⟨kind, hkind, rfl⟩ := List.mem_map.1 h
  rwa [ofCode_code_of_mem_known kind hkind]

/-- Every code that is not known is a kind of its own. -/
theorem ofCode_of_notMem_knownCodes {c : UInt32} (h : c ∉ knownCodes) : ofCode c = other c := by
  simp only [knownCodes, known, List.map_cons, List.map_nil, List.mem_cons, List.not_mem_nil,
    or_false, not_or, code] at h
  obtain ⟨h₂, h₄, h₅, h₆, h₇, h₈, hlast⟩ := h
  unfold ofCode
  rw [if_neg h₂, if_neg h₄, if_neg h₅, if_neg h₆, if_neg h₇, if_neg h₈, if_neg hlast]

/-- A kind is read back from its code, except `ignore` and a known code that is taken for an
unknown one. -/
theorem ofCode_code_iff {kind : Kind} (hkind : kind ≠ ignore) :
    ofCode kind.code = kind ↔ ∀ c ∈ knownCodes, kind ≠ other c := by
  cases kind with
  | ignore => exact absurd rfl hkind
  | other c =>
    constructor
    · -- A known kind is not `other`, so the code that reads as `other` is not known.
      intro hread c' hc' hother
      cases hother
      have hmem := ofCode_mem_known hc'
      rw [show ofCode c = other c from hread] at hmem
      simp [known] at hmem
    · intro hunknown
      exact ofCode_of_notMem_knownCodes fun hc => hunknown c hc rfl
  | _ => exact ⟨fun _ _ _ => Kind.noConfusion, fun _ => rfl⟩

end Kind

namespace Message

/-- Frames are read if and only if they start with a word. -/
theorem ofFrames_isOk_iff {frames : Frames} :
    (∃ m, ofFrames frames = .ok m) ↔
      ∃ header parts, frames = header :: parts ∧ header.length = 4 := by
  cases frames with
  | nil => simp [ofFrames]
  | cons header parts =>
    constructor
    · rintro ⟨m, hread⟩
      refine ⟨header, parts, rfl, Bytes.exists_toUInt32?_iff.1 ?_⟩
      rw [ofFrames] at hread
      split at hread
      · next c hword => exact ⟨c, hword⟩
      · cases hread
    · rintro ⟨_, _, hcons, hlength⟩
      obtain ⟨rfl, rfl⟩ := List.cons.inj hcons
      obtain ⟨c, hword⟩ := Bytes.exists_toUInt32?_iff.2 hlength
      exact ⟨⟨.ofCode c, parts⟩, by rw [ofFrames, hword]⟩

theorem toFrames_of_ne_ignore {m : Message} (h : m.kind ≠ .ignore) :
    m.toFrames = .ok (Bytes.ofUInt32 m.kind.code :: m.parts) := by
  have visible : m.kind.isWireVisible = true := by simpa [Kind.isWireVisible] using h
  unfold toFrames
  rw [if_pos visible]

/-- Only `ignore` cannot travel. -/
theorem toFrames_isError_iff {m : Message} :
    (∃ cause, m.toFrames = .error cause) ↔ m.kind = .ignore := by
  constructor
  · rintro ⟨cause, hcause⟩
    refine Decidable.byContradiction fun hkind => ?_
    rw [toFrames_of_ne_ignore hkind] at hcause
    cases hcause
  · intro hkind
    refine ⟨.notOnWire .ignore, ?_⟩
    unfold toFrames
    rw [hkind]
    rfl

/-- What has been read has the frames that it was read from. -/
theorem toFrames_of_ofFrames {m : Message} {frames : Frames} (h : ofFrames frames = .ok m) :
    m.kind ≠ .ignore ∧ m.toFrames = .ok frames := by
  cases frames with
  | nil => cases h
  | cons header parts =>
    rw [ofFrames] at h
    split at h
    · next c hword =>
      simp only [Except.ok.injEq] at h
      subst h
      have hvisible := Kind.ofCode_ne_ignore c
      refine ⟨hvisible, ?_⟩
      rw [toFrames_of_ne_ignore hvisible, Kind.code_ofCode, Bytes.ofUInt32_of_toUInt32? hword]
    · cases h

/-- What is read from the frames of a message: its kind by way of the code, its parts as they
are. -/
theorem ofFrames_code_cons (code : UInt32) (parts : List Bytes) :
    ofFrames (Bytes.ofUInt32 code :: parts) = .ok ⟨.ofCode code, parts⟩ := by
  rw [ofFrames, Bytes.toUInt32?_ofUInt32]

/-- **Framing is a bijection on its image.** Frames are read if and only if they start with a word;
what is read is never `ignore` and has exactly these frames. A message has frames unless it is of
kind `ignore`. It is read back as it is if and only if its kind is not a known code taken for an
unknown one, and in that case its parts come back under the kind that the code means. -/
theorem framing_bijective (frames : Frames) (m : Message) :
    ((∃ read, ofFrames frames = .ok read) ↔
      ∃ header parts, frames = header :: parts ∧ header.length = 4) ∧
    (∀ read, ofFrames frames = .ok read → read.kind ≠ .ignore ∧ read.toFrames = .ok frames) ∧
    ((∃ cause, m.toFrames = .error cause) ↔ m.kind = .ignore) ∧
    (m.kind ≠ .ignore → ∃ sent, m.toFrames = .ok sent ∧
      sent = Bytes.ofUInt32 m.kind.code :: m.parts ∧
      (ofFrames sent = .ok m ↔ ∀ c ∈ Kind.knownCodes, m.kind ≠ .other c) ∧
      (∀ kind ∈ Kind.known, m.kind = .other kind.code → ofFrames sent = .ok ⟨kind, m.parts⟩)) := by
  refine ⟨ofFrames_isOk_iff, fun read hread => toFrames_of_ofFrames hread, toFrames_isError_iff,
    fun hkind => ⟨_, toFrames_of_ne_ignore hkind, rfl, ?_, fun kind hknown hother => ?_⟩⟩
  · rw [ofFrames_code_cons, ← Kind.ofCode_code_iff hkind]
    constructor
    · intro hread
      exact congrArg Message.kind (Except.ok.inj hread)
    · intro hread
      rw [hread]
  · rw [ofFrames_code_cons, hother]
    show Except.ok (Message.mk (.ofCode kind.code) m.parts) = _
    rw [Kind.ofCode_code_of_mem_known kind hknown]

/-- The code of `ignore` comes in from a peer with two parts; an unknown code that is the code of
`process` goes out. -/
theorem framing_bijective_strangers :
    let frames : Frames := [[0xFE, 0xFF, 0xFF, 0xFF], [1, 2], []]
    let m : Message := ⟨.other 2, [[7], []]⟩
    ofFrames frames = .ok ⟨.other 0xFFFFFFFE, [[1, 2], []]⟩ ∧
    (Message.mk (.other 0xFFFFFFFE) [[1, 2], []]).toFrames = .ok frames ∧
    m.toFrames = .ok [[2, 0, 0, 0], [7], []] ∧
    ofFrames [[2, 0, 0, 0], [7], []] = .ok (process [[7], []]) := by
  intro frames m
  have hread : ofFrames frames = .ok ⟨.other 0xFFFFFFFE, [[1, 2], []]⟩ := by rfl
  obtain ⟨-, hback, -, hsent⟩ := framing_bijective frames m
  obtain ⟨sent, hframes, hsent, -, hmeant⟩ := hsent (by decide)
  rw [show Bytes.ofUInt32 m.kind.code :: m.parts = [[2, 0, 0, 0], [7], []] by decide] at hsent
  subst hsent
  exact ⟨hread, (hback _ hread).2, hframes, hmeant .process (by decide) rfl⟩

end Message

end RecordFarm
