import Handover.Proofs.Transfer.Delimited

namespace Handover

open Parcel (BlobFits)

namespace Framing

theorem exists_frame {config settings : Bytes} (hc : BlobFits (some config))
    (hs : BlobFits (some settings)) : ∃ file, frame config settings = .ok file :=
  ⟨_, frame_eq_ok_iff.2 ⟨⟨hc, hs⟩, rfl⟩⟩

theorem payloads_of_no_frame {file : Bytes} (h : ∀ c s, frame c s ≠ .ok file) :
    ∃ e, payloads file = .error e := by
  cases hp : payloads file with
  | ok r => exact absurd (payloads_eq_ok_iff.1 hp) (h r.1 r.2)
  | error e => exact ⟨e, rfl⟩

end Framing

namespace TransferFile

variable {t : FileTree} {cwd : Location} {p : Path} {file : Bytes}

theorem readPayloads_eq_ok_iff (stored : t.read cwd p = .ok file) {config settings : Bytes} :
    readPayloads t cwd p = .ok (config, settings) ↔
      Framing.frame config settings = .ok file := by
  rw [readPayloads_of_content stored, ← Framing.payloads_eq_ok_iff]
  cases Framing.payloads file with
  | ok r => simp [refused]
  | error e => simp [refused]

theorem ofBytes_of_readPayloads (stored : t.read cwd p = .ok file) {f : Fault}
    (h : readPayloads t cwd p = .error f) : f.OfBytes := by
  rw [readPayloads_of_content stored] at h
  obtain ⟨e, he, rfl⟩ := refused_eq_error_iff.1 h
  exact Payload.malformed_of_decoded Framing.acceptsAll_payloads he

theorem payload_pairs_bijective (stored : t.read cwd p = .ok file) :
    (∀ config settings, BlobFits (some config) → BlobFits (some settings) →
      (∃ bytes, Framing.frame config settings = .ok bytes) ∧
        (readPayloads t cwd p = .ok (config, settings) ↔
          Framing.frame config settings = .ok file)) ∧
      ((∀ config settings, Framing.frame config settings ≠ .ok file) →
        ∃ f, readPayloads t cwd p = .error f ∧ f.OfBytes) := by
  constructor
  · intro config settings hc hs
    exact ⟨Framing.exists_frame hc hs, readPayloads_eq_ok_iff stored⟩
  · intro h
    obtain ⟨e, he⟩ := Framing.payloads_of_no_frame h
    have hr : readPayloads t cwd p = .error (.malformed e) := by
      rw [readPayloads_of_content stored]
      exact refused_eq_error_iff.2 ⟨e, he, rfl⟩
    exact ⟨_, hr, ofBytes_of_readPayloads stored hr⟩

theorem frame_ne_short {file : Bytes} (h : file.length < 8) (config settings : Bytes) :
    Framing.frame config settings ≠ .ok file := by
  intro framed
  obtain ⟨-, rfl⟩ := Framing.frame_eq_ok_iff.1 framed
  simp only [Parcel.blobBytes, List.length_append, Parcel.length_int32Bytes] at h
  omega

theorem payload_pairs_bijective_junk :
    (treeHolding [0, 0, 0, 0, 1, 0, 0, 0, 255]).read ["w"] ⟨.relative, ["t"]⟩ =
        .ok [0, 0, 0, 0, 1, 0, 0, 0, 255] ∧
      BlobFits (some []) ∧ BlobFits (some [255]) ∧
      readPayloads (treeHolding [0, 0, 0, 0, 1, 0, 0, 0, 255]) ["w"] ⟨.relative, ["t"]⟩ =
        .ok ([], [255]) ∧
      ∃ f, readPayloads (treeHolding [0, 0, 0]) ["w"] ⟨.relative, ["t"]⟩ = .error f ∧
        f.OfBytes := by
  have stored : (treeHolding [0, 0, 0, 0, 1, 0, 0, 0, 255]).read ["w"] ⟨.relative, ["t"]⟩ =
      .ok [0, 0, 0, 0, 1, 0, 0, 0, 255] := by rfl
  have broken : (treeHolding [0, 0, 0]).read ["w"] ⟨.relative, ["t"]⟩ = .ok [0, 0, 0] := by rfl
  have empty : BlobFits (some []) := by decide
  have one : BlobFits (some [255]) := by decide
  have framed : Framing.frame [] [255] = .ok [0, 0, 0, 0, 1, 0, 0, 0, 255] := by rfl
  have pair := ((payload_pairs_bijective stored).1 [] [255] empty one).2.2 framed
  have refused := (payload_pairs_bijective broken).2 (frame_ne_short (by decide))
  exact ⟨stored, empty, one, pair, refused⟩

end TransferFile

end Handover
