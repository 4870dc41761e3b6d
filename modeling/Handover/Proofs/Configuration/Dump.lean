import Handover.Proofs.Configuration.Document
import Handover.Proofs.Yaml.Printed

namespace Handover

/-- Text, truth values and null, and mappings of such values under text. -/
inductive Value.Simple : Value → Prop
  | null : Simple .null
  | bool (b : Bool) : Simple (.bool b)
  | text (t : Text) : Simple (.text t)
  | map {es : List (Value × Value)} (distinct : Value.Distinct es)
      (keys : ∀ e ∈ es, ∃ t, e.1 = .text t) (values : ∀ e ∈ es, Simple e.2) : Simple (.map es)

namespace Yaml

def printed (es : List (Value × Value)) : Bytes :=
  Text.Utf8.encode (String.ofList (Printer.document es))

def Inverted (es : List (Value × Value)) : Prop :=
  ofBytes (printed es) = .ok (.map es)

end Yaml

namespace Configuration

variable {c : Configuration}

def entries (c : Configuration) : List (Value × Value) :=
  c.sections.map fun e => (.text e.1, e.2)

/-- What is printed of a configuration is read, and stands for it. -/
def ComesBack (c : Configuration) : Prop :=
  ∃ v journal, Yaml.ofBytes (Yaml.printed c.entries) = .ok v ∧ Taken v c journal

theorem toValue_eq (c : Configuration) : c.toValue = .map c.entries :=
  rfl

theorem simple_fields {es : List (String × Value)} (distinct : (es.map Prod.fst).Nodup)
    (values : ∀ e ∈ es, e.2.Simple) : (fields es).Simple := by
  have keyed : Value.Distinct (es.map fun e => (Value.text e.1, e.2)) := by
    refine List.pairwise_map.2 ((List.pairwise_map.1 distinct).imp fun apart => ?_)
    rw [Bool.eq_false_iff, Ne, Value.sameKey_text_iff, Text.proper.injEq]
    exact apart
  refine .map keyed ?_ ?_
  · exact List.forall_mem_map.2 fun e _ => ⟨e.1, rfl⟩
  · exact List.forall_mem_map.2 values

theorem simple_toValue (simple : ∀ slot, (c.get slot).Simple) : c.toValue.Simple := by
  have device : (fields (deviceEntries c.device)).Simple :=
    simple_fields (by simp [deviceEntries]) (List.forall_mem_singleton.2 (simple .serial))
  have legacyStore : (fields (legacyStoreEntries c.legacyStore)).Simple :=
    simple_fields (by simp [legacyStoreEntries]) (List.forall_mem_singleton.2 (simple .storePath))
  have transfer : (fields (transferEntries c.transfer)).Simple :=
    simple_fields (by simp [transferEntries]) (List.forall_mem_cons.2
      ⟨simple .outputDirectory, List.forall_mem_singleton.2 (simple .fileName)⟩)
  have logging : (fields (loggingEntries c.logging)).Simple :=
    simple_fields (by simp [loggingEntries]) (List.forall_mem_cons.2
      ⟨simple .debug, List.forall_mem_singleton.2 (simple .richText)⟩)
  refine simple_fields (by simp [sections]) ?_
  simp only [sections, List.forall_mem_cons, List.not_mem_nil, false_implies, implies_true, and_true]
  exact ⟨device, legacyStore, transfer, logging⟩

end Configuration

namespace ConfigurationFile

open Handover.Configuration (ComesBack)

theorem bytes_eq (c : Configuration) : bytes c = Yaml.printed c.entries :=
  rfl

theorem ofDocument_toValue (path : String) (c : Configuration) :
    ofDocument path c.toValue = (c, []) := by
  have nonempty : c.toValue.truthy = true := rfl
  rw [ofDocument, if_pos nonempty, Configuration.ofValue_toValue]

theorem comesBack_of_inverted {c : Configuration} (inverted : Yaml.Inverted c.entries) :
    ComesBack c := by
  have taken := Configuration.taken_of_parsed inverted ""
  rw [← Configuration.toValue_eq, ofDocument_toValue] at taken
  exact ⟨_, _, inverted, taken⟩

def graphWith (serial debug : Yaml.Node) : Yaml.Graph where
  nodes := #[.scalar .text "device", .scalar .text "serial", serial, .mapping .mapping [(1, 2)],
    .scalar .text "legacy_store", .scalar .text "path", .scalar .text "legacy_store.yaml",
    .mapping .mapping [(5, 6)], .scalar .text "transfer", .scalar .text "output_dir",
    .scalar .text "transfer", .scalar .text "file_name", .scalar .text "migration.bin",
    .mapping .mapping [(9, 10), (11, 12)], .scalar .text "logging", .scalar .text "debug", debug,
    .scalar .text "rich_text", .scalar .bool "true", .mapping .mapping [(15, 16), (17, 18)],
    .mapping .mapping [(0, 3), (4, 7), (8, 13), (14, 19)]]
  root := 20

theorem inverted_defaults : Yaml.Inverted ({} : Configuration).entries := by
  have written : (graphWith (.scalar .null "null") (.scalar .bool "false")).isWrittenAs
      (Yaml.Printer.document ({} : Configuration).entries) = true := by
    decide +kernel
  rw [Yaml.Inverted, Yaml.printed, Yaml.ofBytes_of_isWrittenAs written]
  rfl

/-- A serial number that is written in quotes, with an escape. -/
def labelled : Configuration :=
  { device := { serial := .text "Büro: 1" }, logging := { debug := .bool true } }

theorem inverted_labelled : Yaml.Inverted labelled.entries := by
  have written : (graphWith (.scalar .text "Büro: 1") (.scalar .bool "true")).isWrittenAs
      (Yaml.Printer.document labelled.entries) = true := by
    decide +kernel
  rw [Yaml.Inverted, Yaml.printed, Yaml.ofBytes_of_isWrittenAs written]
  rfl

/-- A serial number that is a list with a pair, as ordered maps are read. -/
def paired : Configuration :=
  { device := { serial := .list [.tuple [.text "a", .text "b"]] } }

/-- The pair is written with a tag of no known type. -/
theorem not_comesBack_paired : ¬ ComesBack paired := by
  obtain ⟨⟨printed, short⟩, refused⟩ : ((Yaml.Printer.document paired.entries).all Yaml.isPrinted ∧
      (Yaml.Printer.document paired.entries).length < Yaml.Input.size) ∧
      (Yaml.ofInput { text := Yaml.Printer.document paired.entries }).toOption.isNone = true := by
    decide +kernel
  rintro ⟨v, journal, parsed, -⟩
  rw [Yaml.printed, Yaml.ofBytes_chars printed short] at parsed
  rw [parsed] at refused
  cases refused

end ConfigurationFile

end Handover
