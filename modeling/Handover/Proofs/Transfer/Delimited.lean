import Handover.Proofs.Transfer.Framing
import Handover.Proofs.Transfer.Placing

namespace Handover

/-- Bytes that a reader accepts are refused as malformed when more follow, and when some are missing
at the end. -/
structure Delimited {ε α : Type} (malformed : ε → Prop) (read : Bytes → Except ε α) : Prop where
  longer : ∀ d rest a, read d = .ok a → rest ≠ [] →
    ∃ e, read (d ++ rest) = .error e ∧ malformed e
  shorter : ∀ d rest a, read (d ++ rest) = .ok a → rest ≠ [] →
    ∃ e, read d = .error e ∧ malformed e

theorem Payload.AcceptsAll.delimited {α : Type} {x : Payload.Decode α} {L : Bytes → α → Prop}
    (hx : Payload.AcceptsAll x L) : Delimited Malformed.OfBytes (Payload.decoded x) where
  longer d rest a h more := by
    have accepted := (Payload.decoded_eq_ok_iff hx).1 h
    refine Payload.decoded_eq_error hx fun b hb => more ?_
    exact hx.prefixFree d rest a b accepted hb
  shorter d rest a h more := by
    have accepted := (Payload.decoded_eq_ok_iff hx).1 h
    refine Payload.decoded_eq_error hx fun b hb => more ?_
    exact hx.prefixFree d rest b a hb accepted

theorem Delimited.refused {α : Type} {read : Bytes → Except Malformed α}
    (h : Delimited Malformed.OfBytes read) :
    Delimited Fault.OfBytes fun d => TransferFile.refused (read d) := by
  have accepted {d a} (hd : TransferFile.refused (read d) = .ok a) : read d = .ok a := by
    cases hr : read d with
    | error e => simp [TransferFile.refused, hr] at hd
    | ok b => simpa [TransferFile.refused, hr] using hd
  have fault {d} (hd : ∃ e, read d = .error e ∧ e.OfBytes) :
      ∃ f, TransferFile.refused (read d) = .error f ∧ f.OfBytes := by
    obtain ⟨e, he, ofBytes⟩ := hd
    exact ⟨.malformed e, TransferFile.refused_eq_error_iff.2 ⟨e, he, rfl⟩, ofBytes⟩
  constructor
  · intro d rest a hd more
    exact fault (h.longer d rest a (accepted hd) more)
  · intro d rest a hd more
    exact fault (h.shorter d rest a (accepted hd) more)

theorem readers_delimited :
    Delimited Malformed.OfBytes Payload.decodeConfig ∧
      Delimited Malformed.OfBytes Payload.decodeSettings ∧
      Delimited Malformed.OfBytes Framing.payloads ∧
      ∀ (cwd : Location) (p : Path) (holding : Bytes → FileTree),
        (∀ d, (holding d).read cwd p = .ok d) →
          Delimited Fault.OfBytes fun d => TransferFile.readPayloads (holding d) cwd p := by
  have payloads := Framing.acceptsAll_payloads.delimited
  refine ⟨Payload.acceptsAll_config.delimited, Payload.acceptsAll_settings.delimited, payloads, ?_⟩
  intro cwd p holding stored
  have same : (fun d => TransferFile.readPayloads (holding d) cwd p) =
      fun d => TransferFile.refused (Framing.payloads d) := by
    funext d
    exact TransferFile.readPayloads_of_content (stored d)
  rw [same]
  exact payloads.refused

def treeHolding (content : Bytes) : FileTree :=
  ⟨[(["w"], .directory), (["w", "t"], .file content)]⟩

theorem readers_delimited_treeHolding :
    (∀ d, (treeHolding d).read ["w"] ⟨.relative, ["t"]⟩ = .ok d) ∧
      Delimited Fault.OfBytes fun d =>
        TransferFile.readPayloads (treeHolding d) ["w"] ⟨.relative, ["t"]⟩ := by
  have stored : ∀ d, (treeHolding d).read ["w"] ⟨.relative, ["t"]⟩ = .ok d := by
    intro d
    rfl
  exact ⟨stored, readers_delimited.2.2.2 ["w"] ⟨.relative, ["t"]⟩ treeHolding stored⟩

end Handover
