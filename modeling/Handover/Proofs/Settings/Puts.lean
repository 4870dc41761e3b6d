import Handover.Proofs.Number.Numeral
import Handover.Proofs.Settings.KeyValueStore

namespace Handover.KeyValueStore

def putsUnder (key : String) (puts : List (String × Value)) : List Value :=
  puts.filterMap fun e => if e.1 = key then some e.2 else none

def lastPut? (key : String) (puts : List (String × Value)) : Option Value :=
  (putsUnder key puts).getLast?

theorem lastPut?_cons (key : String) (e : String × Value) (rest : List (String × Value)) :
    lastPut? key (e :: rest) =
      (lastPut? key rest).or (if e.1 = key then some e.2 else none) := by
  by_cases h : e.1 = key
  · simp only [lastPut?, putsUnder, List.filterMap_cons, h, if_true, List.getLast?_cons]
    cases (List.filterMap _ rest).getLast? <;> rfl
  · simp [lastPut?, putsUnder, h]

theorem get?_putAll (key : String) (puts : List (String × Value)) (s : KeyValueStore) :
    (s.putAll puts).get? key = (lastPut? key puts).elim (s.get? key) stored? := by
  induction puts generalizing s with
  | nil => rfl
  | cons e rest ih =>
      rw [putAll, ih, get?_put, lastPut?_cons]
      cases lastPut? key rest with
      | some v => rfl
      | none =>
          by_cases h : e.1 = key
          · simp [h]
          · simp [h, Ne.symm h]

theorem putAll_append (s : KeyValueStore) (puts later : List (String × Value)) :
    s.putAll (puts ++ later) = (s.putAll puts).putAll later := by
  induction puts generalizing s with
  | nil => rfl
  | cons e rest ih => exact ih _

def filled (initial puts : List (String × Value)) : KeyValueStore :=
  (ofMapping (initial.map fun e => (.text (.proper e.1), e.2))).putAll puts

theorem textEntries_map (initial : List (String × Value)) :
    textEntries (initial.map fun e => (.text (.proper e.1), e.2)) = initial := by
  induction initial with
  | nil => rfl
  | cons e rest ih => rw [List.map_cons, textEntries, ih]

theorem get?_filled (initial puts : List (String × Value)) (key : String) :
    (filled initial puts).get? key = (lastPut? key (initial ++ puts)).bind stored? := by
  rw [filled, ofMapping, textEntries_map, ← putAll_append, get?_putAll]
  cases lastPut? key (initial ++ puts) <;> rfl

inductive Storable : Value → Prop where
  | null : Storable .null
  | bool (b : Bool) : Storable (.bool b)
  | int {n : Int} (short : (Nat.toDigits 10 n.natAbs).length ≤ Number.digitLimit) : Storable (.int n)
  | text (t : Text) : Storable (.text t)

/-- The integer that a text without its blanks denotes. Ill text denotes none. -/
def DenotedBy (t : Text) (n : Int) : Prop :=
  ∃ s : String, t = s ∧ Number.Denotes s n

inductive Answers (key : String) (default : Int) :
    Option Value → Option Text → Int → List Event → Prop where
  | unset : Answers key default none none default []
  | removed : Answers key default (some .null) none default []
  | flag (b : Bool) :
      Answers key default (some (.bool b)) (some (.proper (if b then "1" else "0")))
        (if b then 1 else 0) []
  | int {n : Int} (short : (Nat.toDigits 10 n.natAbs).length ≤ Number.digitLimit) :
      Answers key default (some (.int n)) (some (.proper (toString n))) n []
  | numeral {t n} (denotes : DenotedBy t n) :
      Answers key default (some (.text t)) (some t) n []
  | words {t} (none : ∀ n, ¬ DenotedBy t n) :
      Answers key default (some (.text t)) (some t) default
        [.logged .warning (Provider.notInteger key t default)]

variable {s : KeyValueStore} {key : String}

theorem getInt_unset (h : s.get? key = none) (default : Int) :
    provider.getInt key default s = ⟨.ok default, s, []⟩ := by
  rw [Provider.getInt, Action.bind_of_eq (getString_apply key s), h]
  rfl

theorem denotedBy_iff {t : Text} {n : Int} :
    DenotedBy t n ↔ t.proper?.bind Number.ofText? = some n := by
  cases t with
  | proper s => simp [DenotedBy, Text.proper?, Number.ofText?_eq_some_iff]
  | ill codes surrogate => simp [DenotedBy, Text.proper?]

theorem getInt_numeral {t : Text} {n : Int} (h : s.get? key = some t)
    (denotes : DenotedBy t n) (default : Int) :
    provider.getInt key default s = ⟨.ok n, s, []⟩ := by
  rw [Provider.getInt, Action.bind_of_eq (getString_apply key s), h]
  simp only [denotedBy_iff.1 denotes]
  rfl

theorem getInt_words {t : Text} (h : s.get? key = some t) (none : ∀ n, ¬ DenotedBy t n)
    (default : Int) :
    provider.getInt key default s =
      ⟨.ok default, s, [.logged .warning (Provider.notInteger key t default)]⟩ := by
  have refused : t.proper?.bind Number.ofText? = Option.none := by
    rw [Option.eq_none_iff_forall_ne_some]
    exact fun n read => none n (denotedBy_iff.2 read)
  rw [Provider.getInt, Action.bind_of_eq (getString_apply key s), h]
  simp only [refused]
  rfl

theorem exists_answers (key : String) (default : Int) {last : Option Value}
    (storable : ∀ v ∈ last, Storable v) :
    ∃ text n journal, Answers key default last text n journal := by
  cases last with
  | none => exact ⟨_, _, _, .unset⟩
  | some v =>
      cases storable v rfl with
      | null => exact ⟨_, _, _, .removed⟩
      | bool b => exact ⟨_, _, _, .flag b⟩
      | int short => exact ⟨_, _, _, .int short⟩
      | text t =>
          by_cases denotes : ∃ n, DenotedBy t n
          · obtain ⟨n, denotes⟩ := denotes
            exact ⟨_, _, _, .numeral denotes⟩
          · exact ⟨_, _, _, .words fun n h => denotes ⟨n, h⟩⟩

theorem Answers.read {default n : Int} {last : Option Value} {text : Option Text}
    {journal : List Event} (h : Answers key default last text n journal)
    (found : s.get? key = last.bind stored?) :
    provider.getString key s = ⟨.ok text, s, []⟩ ∧
      provider.getInt key default s = ⟨.ok n, s, journal⟩ := by
  rw [getString_apply, found]
  cases h with
  | unset => exact ⟨rfl, getInt_unset found default⟩
  | removed => exact ⟨rfl, getInt_unset found default⟩
  | flag b =>
      refine ⟨rfl, getInt_numeral found ?_ default⟩
      rw [denotedBy_iff]
      cases b <;> rfl
  | int short =>
      exact ⟨rfl, getInt_numeral found ⟨_, rfl, Number.denotes_toString short⟩ default⟩
  | numeral denotes => exact ⟨rfl, getInt_numeral found denotes default⟩
  | words none => exact ⟨rfl, getInt_words found none default⟩

theorem lastPut_wins (key : String) (default : Int) {last : Option Value}
    (storable : ∀ v ∈ last, Storable v) :
    (∃ text n journal, Answers key default last text n journal) ∧
      ∀ {text n journal}, Answers key default last text n journal →
        ∀ initial puts, lastPut? key (initial ++ puts) = last →
          provider.getString key (filled initial puts) = ⟨.ok text, filled initial puts, []⟩ ∧
            provider.getInt key default (filled initial puts) =
              ⟨.ok n, filled initial puts, journal⟩ := by
  refine ⟨exists_answers key default storable, ?_⟩
  intro text n journal answers initial puts wins
  apply answers.read
  rw [get?_filled, wins]

theorem lastPut_wins_overwritten :
    Storable (.text " -\u0663_0\n") ∧
      provider.getInt "k" 7 (filled [("k", .int 5)] [("k", .bool true), ("k", .text " -\u0663_0\n")]) =
        ⟨.ok (-30), filled [("k", .int 5)] [("k", .bool true), ("k", .text " -\u0663_0\n")], []⟩ := by
  have storable : Storable (.text " -\u0663_0\n") := .text _
  have denotes : DenotedBy " -\u0663_0\n" (-30) :=
    ⟨_, rfl, Number.ofText?_eq_some_iff.1 (by decide)⟩
  have last : ∀ v ∈ some (Value.text " -\u0663_0\n"), Storable v := by simpa using storable
  have wins := lastPut_wins "k" 7 last
  exact ⟨storable, (wins.2 (.numeral denotes) _ _ rfl).2⟩

end Handover.KeyValueStore
