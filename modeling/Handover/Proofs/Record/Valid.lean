import Handover.LegacyStore

namespace Handover

namespace Field

theorem get_eq_ok {entries : List (String × Value)} {name : String} {read : Value → Reading α}
    {absent : Reading α} {a : α} (h : get entries name read absent = .ok a) :
    (∃ v, last? name entries = some v ∧ read v = .ok a) ∨
      (last? name entries = none ∧ absent = .ok a) := by
  rw [get] at h
  cases hv : last? name entries with
  | none =>
      rw [hv] at h
      exact .inr ⟨rfl, h⟩
  | some v =>
      rw [hv] at h
      exact .inl ⟨v, rfl, h⟩

theorem sized_eq_ok {least most : Nat} {v : Value} {s : String} (h : sized least most v = .ok s) :
    string v = .ok s ∧ least ≤ s.length ∧ s.length ≤ most := by
  rw [sized] at h
  split at h
  · cases h
  · next read =>
      split at h
      · cases h
      · split at h
        · cases h
        · cases h
          exact ⟨read, by omega⟩

theorem optional_eq_ok {read : Value → Reading α} {v : Value} {a : α}
    (h : optional read v = .ok (some a)) : read v = .ok a := by
  unfold optional at h
  split at h
  · cases h
  · split at h
    · next ha =>
        cases h
        exact ha
    · cases h

theorem count_eq_ok {most : Option Nat} {n : Nat} {v : Value} (h : count most v = .ok n) :
    integer v = .ok (n : Int) ∧ ∀ m, most = some m → n ≤ m := by
  rw [count] at h
  split at h
  · cases h
  · next i read =>
      split at h
      · cases h
      · next positive =>
          split at h
          · cases h
          · next small =>
              cases h
              rw [read, Int.toNat_of_nonneg (by omega)]
              refine ⟨rfl, ?_⟩
              rintro m rfl
              simp at small
              omega

def entries (fields : List (String × Value)) : List (Text × Value) :=
  fields.map fun f => (.proper f.1, f.2)

theorem named?_eq_some_iff {es : List (Text × Value)} {fields : List (String × Value)} :
    named? es = some fields ↔ es = entries fields := by
  fun_induction named? es generalizing fields with
  | case1 => cases fields <;> simp [entries]
  | case2 name v rest ih =>
      rw [Option.map_eq_some_iff]
      constructor
      · rintro ⟨fields, named, rfl⟩
        rw [ih.1 named]
        rfl
      · intro h
        cases fields with
        | nil => cases h
        | cons f fields =>
            cases h
            exact ⟨fields, ih.2 rfl, rfl⟩
  | case3 codes surrogate v rest =>
      cases fields <;> simp [entries]

theorem byName_eq_ok {kind : RecordKind} {read : List (String × Value) → Except RecordFault α}
    {es : List (Text × Value)} {r : α} (h : byName kind read es = .ok r) :
    ∃ fields, es = entries fields ∧ read fields = .ok r := by
  rw [byName] at h
  split at h
  · next fields named => exact ⟨fields, named?_eq_some_iff.1 named, h⟩
  · cases h

theorem byName_entries (kind : RecordKind) (read : List (String × Value) → Except RecordFault α)
    (fields : List (String × Value)) : byName kind read (entries fields) = read fields := by
  rw [byName, named?_eq_some_iff.2 rfl]

theorem unknown_eq_nil_iff {names : List String} {entries : List (String × Value)} :
    unknown names entries = [] ↔ ∀ e ∈ entries, e.1 ∈ names := by
  simp [unknown]

/-- A number is the integer that the value under a name stands for, or zero where there is none. -/
def Counts (entries : List (String × Value)) (name : String) (n : Nat) : Prop :=
  match last? name entries with
  | some v => integer v = .ok (n : Int)
  | none => n = 0

theorem counts_of_get {entries : List (String × Value)} {name : String} {most : Option Nat}
    {n : Nat} (h : get entries name (count most) (.ok 0) = .ok n) :
    Counts entries name n ∧ ∀ m, most = some m → n ≤ m := by
  obtain ⟨v, found, read⟩ | ⟨none, zero⟩ := get_eq_ok h
  · obtain ⟨converted, small⟩ := count_eq_ok read
    refine ⟨?_, small⟩
    rw [Counts, found]
    exact converted
  · cases zero
    refine ⟨?_, fun m _ => Nat.zero_le m⟩
    rw [Counts, none]

end Field

structure NetworkRecord.KeepsRules (fields : List (String × Value)) (r : NetworkRecord) : Prop where
  declared : ∀ f ∈ fields, f.1 ∈ fieldNames
  named : ∃ v, Field.last? "ssid" fields = some v ∧ Field.string v = .ok r.ssid
  length : 1 ≤ r.ssid.length ∧ r.ssid.length ≤ 32

structure AccessPointRecord.KeepsRules (fields : List (String × Value)) (r : AccessPointRecord) :
    Prop where
  declared : ∀ f ∈ fields, f.1 ∈ fieldNames
  named : ∀ s, r.ssid = some s →
    ∃ v, Field.last? "ssid" fields = some v ∧ Field.string v = .ok s ∧ s.length ≤ 32
  channel : Field.Counts fields "channel" r.channel ∧ r.channel ≤ 233
  maxClients : Field.Counts fields "max_clients" r.maxClients

theorem NetworkRecord.keepsRules {fields : List (String × Value)} {r : NetworkRecord}
    (h : ofNamed fields = .ok r) : r.KeepsRules fields := by
  unfold ofNamed at h
  simp only at h
  split at h
  · next hssid _ _ _ _ _ _ known =>
      cases h
      obtain ⟨v, found, sized⟩ | ⟨_, no⟩ := Field.get_eq_ok hssid
      · obtain ⟨read, length⟩ := Field.sized_eq_ok sized
        exact ⟨Field.unknown_eq_nil_iff.1 known, ⟨v, found, read⟩, length⟩
      · cases no
  · cases h

theorem AccessPointRecord.keepsRules {fields : List (String × Value)} {r : AccessPointRecord}
    (h : ofNamed fields = .ok r) : r.KeepsRules fields := by
  unfold ofNamed at h
  simp only at h
  split at h
  · next hssid _ _ _ _ _ hchannel hclients _ known =>
      cases h
      obtain ⟨channel, most⟩ := Field.counts_of_get hchannel
      refine ⟨Field.unknown_eq_nil_iff.1 known, ?_, ⟨channel, most 233 rfl⟩,
        (Field.counts_of_get hclients).1⟩
      rintro s rfl
      obtain ⟨v, found, sized⟩ | ⟨_, no⟩ := Field.get_eq_ok hssid
      · obtain ⟨read, -, short⟩ := Field.sized_eq_ok (Field.optional_eq_ok sized)
        exact ⟨v, found, read, short⟩
      · cases no
  · cases h

theorem AccessPointRecord.KeepsRules.valid {fields : List (String × Value)}
    {r : AccessPointRecord} (h : r.KeepsRules fields) : r.Valid := by
  refine ⟨fun s named => ?_, h.channel.2⟩
  obtain ⟨_, _, _, short⟩ := h.named s named
  exact short

theorem NetworkRecord.valid_of_ofEntries {es : List (Text × Value)} {r : NetworkRecord}
    (h : ofEntries es = .ok r) : r.Valid := by
  obtain ⟨_, -, read⟩ := Field.byName_eq_ok h
  exact (keepsRules read).length

theorem AccessPointRecord.valid_of_ofEntries {es : List (Text × Value)} {r : AccessPointRecord}
    (h : ofEntries es = .ok r) : r.Valid := by
  obtain ⟨_, -, read⟩ := Field.byName_eq_ok h
  exact (keepsRules read).valid

structure ConfigSnapshot.Valid (s : ConfigSnapshot) : Prop where
  networks : ∀ rs, s.savedNetworks = some rs → ∀ r ∈ rs, r.Valid
  accessPoint : ∀ r, s.accessPoint = some r → r.Valid

end Handover
