import Handover.Lookup
import Handover.Proofs.Except
import Handover.Proofs.Value.Keys
import Handover.Yaml.Document

namespace Handover

def Value.IsScalar : Value → Prop
  | .null => True
  | .bool _ => True
  | .int _ => True
  | .float _ => True
  | .text _ => True
  | .bytes _ => True
  | .date _ => True
  | .dateTime _ => True
  | _ => False

namespace Yaml

open Value (Distinct IsScalar distinct_insertEntry)

theorem isScalar_timestamp {t : Text} {v : Value} (h : Scalar.timestamp t = .ok v) : v.IsScalar := by
  unfold Scalar.timestamp at h
  split at h
  · cases h
  · dsimp only at h
    split at h
    · split at h
      · cases h
        trivial
      · cases h
    · split at h
      · cases h
        trivial
      · cases h

theorem isScalar_scalarValue {tag : Tag} {t : Text} {v : Value}
    (h : Building.scalarValue tag t = .ok v) : v.IsScalar := by
  unfold Building.scalarValue at h
  split at h
  · cases h
    trivial
  · obtain ⟨b, -, rfl⟩ := Except.map_eq_ok_iff.1 h
    trivial
  · obtain ⟨n, -, rfl⟩ := Except.map_eq_ok_iff.1 h
    trivial
  · obtain ⟨x, -, rfl⟩ := Except.map_eq_ok_iff.1 h
    trivial
  · obtain ⟨bs, -, rfl⟩ := Except.map_eq_ok_iff.1 h
    trivial
  · exact isScalar_timestamp h
  · cases h
    trivial
  · cases h

/-- A value is that of a scalar, and the keys of a mapping are distinct. -/
def Object.Sound : Object → Prop
  | .value v => v.IsScalar
  | .map entries => Distinct entries
  | _ => True

def Builder.Sound (b : Builder) : Prop :=
  ∀ n o, (n, o) ∈ b.objects → o.Sound

namespace Building

variable {α β : Type} {P R : α → Prop} {Q : β → Prop}

def Keeps (x : Building α) (P : α → Prop) : Prop :=
  ∀ b a c, x b = .ok (a, c) → b.Sound → c.Sound ∧ P a

abbrev KeepsSound (x : Building α) : Prop :=
  Keeps x fun _ => True

theorem Keeps.mono {x : Building α} (hx : Keeps x P) (h : ∀ a, P a → R a) : Keeps x R := by
  intro b a c ran sound
  obtain ⟨sound, holds⟩ := hx b a c ran sound
  exact ⟨sound, h a holds⟩

theorem Keeps.sound {x : Building α} (hx : Keeps x P) : KeepsSound x :=
  hx.mono fun _ _ => trivial

theorem keeps_pure {a : α} (h : P a) : Keeps (pure a) P := by
  rintro b _ _ ⟨⟩ sound
  exact ⟨sound, h⟩

theorem keeps_throw (e : Fault) : Keeps (throw e : Building α) P := by
  rintro b a c ⟨⟩

theorem keeps_get : Keeps get Builder.Sound := by
  rintro b _ _ ⟨⟩ sound
  exact ⟨sound, sound⟩

theorem keeps_modify {f : Builder → Builder} (h : ∀ b, b.Sound → (f b).Sound) :
    KeepsSound (modify f : Building PUnit) := by
  rintro b _ _ ⟨⟩ sound
  exact ⟨h b sound, trivial⟩

theorem keeps_set {b : Builder} (h : b.Sound) : KeepsSound (set b : Building PUnit) := by
  rintro _ _ _ ⟨⟩ _
  exact ⟨h, trivial⟩

theorem Keeps.bind {x : Building α} {f : α → Building β} (hx : Keeps x P)
    (hf : ∀ a, P a → Keeps (f a) Q) : Keeps (x >>= f) Q := by
  intro b a c ran sound
  have split : (x >>= f) b = x b >>= fun r => f r.1 r.2 := rfl
  rw [split] at ran
  cases first : x b with
  | error e =>
      rw [first] at ran
      cases ran
  | ok r =>
      rw [first] at ran
      obtain ⟨sound, holds⟩ := hx b r.1 r.2 first sound
      exact hf r.1 holds r.2 a c ran sound

theorem Keeps.then {x : Building α} {f : α → Building β} (hx : KeepsSound x)
    (hf : ∀ a, Keeps (f a) Q) : Keeps (x >>= f) Q :=
  hx.bind fun a _ => hf a

theorem keeps_mapM {f : α → Building β} (h : ∀ a, KeepsSound (f a)) (l : List α) :
    KeepsSound (l.mapM f) := by
  induction l with
  | nil => exact keeps_pure trivial
  | cons a rest ih =>
      rw [List.mapM_cons]
      exact (h a).then fun _ => ih.then fun _ => keeps_pure trivial

theorem keeps_forM {f : α → Building PUnit} (h : ∀ a, KeepsSound (f a)) (l : List α) :
    KeepsSound (l.forM f) := by
  induction l with
  | nil => exact keeps_pure trivial
  | cons a rest ih => exact (h a).then fun _ => ih

theorem keeps_foldlM {f : β → α → Building β} (h : ∀ b a, Q b → Keeps (f b a) Q) (l : List α)
    {b : β} (holds : Q b) : Keeps (l.foldlM f b) Q := by
  induction l generalizing b with
  | nil => exact keeps_pure holds
  | cons a rest ih => exact (h b a holds).bind fun c => ih

theorem keeps_findM? {f : α → Building Bool} (h : ∀ a, KeepsSound (f a)) (l : List α) :
    KeepsSound (l.findM? f) := by
  induction l with
  | nil => exact keeps_pure trivial
  | cons a rest ih =>
      refine (h a).then fun found => ?_
      cases found with
      | true => exact keeps_pure trivial
      | false => exact ih

theorem keeps_node (n : Nat) : KeepsSound (node n) :=
  keeps_get.sound.then fun _ => keeps_pure trivial

theorem keeps_tag (n : Nat) : KeepsSound (tag n) :=
  (keeps_node n).then fun _ => keeps_pure trivial

theorem keeps_depth : KeepsSound depth :=
  keeps_get.sound.then fun _ => keeps_pure trivial

theorem keeps_items (n : Nat) : KeepsSound (items n) := by
  refine (keeps_node n).then fun m => ?_
  cases m with
  | sequence t items => exact keeps_pure trivial
  | _ => exact keeps_throw _

theorem keeps_entries (n : Nat) : KeepsSound (entries n) := by
  refine (keeps_node n).then fun m => ?_
  cases m with
  | mapping t entries => exact keeps_pure trivial
  | _ => exact keeps_throw _

theorem keeps_setNode (n : Nat) (m : Node) : KeepsSound (setNode n m) :=
  keeps_modify fun _ => id

theorem keeps_put (n : Nat) {o : Object} (h : o.Sound) : KeepsSound (put n o) := by
  refine keeps_modify fun b sound m p mem => ?_
  rcases List.mem_cons.1 mem with new | old
  · rw [(Prod.mk.inj new).2]
    exact h
  · exact sound m p old

theorem keeps_text (fuel n : Nat) : KeepsSound (text fuel n) := by
  induction fuel generalizing n with
  | zero => exact keeps_throw _
  | succ fuel ih =>
      have isDefault (e : Nat × Nat) : KeepsSound (do return decide ((← tag e.1) = .value)) :=
        (keeps_tag e.1).then fun _ => keeps_pure trivial
      unfold text
      refine (keeps_node n).then fun m => ?_
      cases m with
      | scalar t c => exact keeps_pure trivial
      | sequence t items => exact keeps_throw _
      | mapping t es =>
          dsimp only
          refine (keeps_findM? isDefault es).then fun found => ?_
          cases found with
          | none => exact keeps_throw _
          | some e => exact ih e.2

theorem keeps_flattenEntry {taken : Nat → Building (List (Nat × Nat))}
    (h : ∀ n, KeepsSound (taken n)) (e : Nat × Nat) : KeepsSound (flattenEntry taken e) := by
  refine (keeps_tag e.1).then fun t => ?_
  split
  · refine (keeps_node e.2).then fun m => ?_
    split
    · exact (keeps_mapM h _).then fun _ => keeps_pure trivial
    · exact (h e.2).then fun _ => keeps_pure trivial
  · exact (keeps_node e.1).then fun _ => (keeps_setNode _ _).then fun _ => keeps_pure trivial
  · exact keeps_pure trivial

theorem keeps_flatten (fuel n : Nat) : KeepsSound (flatten fuel n) := by
  induction fuel generalizing n with
  | zero => exact keeps_throw _
  | succ fuel ih =>
      have taken (m : Nat) : KeepsSound (do flatten fuel m; entries m) :=
        (ih m).then fun _ => keeps_entries m
      refine (keeps_entries n).then fun es => ?_
      refine (keeps_mapM (keeps_flattenEntry taken) es).then fun parts => ?_
      exact (keeps_tag n).then fun t => keeps_setNode n _

theorem keeps_scalar (n : Nat) : Keeps (scalar n) IsScalar := by
  refine keeps_depth.then fun d => (keeps_text d n).then fun t => (keeps_node n).then fun m => ?_
  split
  · exact keeps_throw _
  · intro b v c ran sound
    cases made : scalarValue m.tag t with
    | error e =>
        rw [made] at ran
        cases ran
    | ok w =>
        rw [made] at ran
        cases ran
        exact ⟨sound, isScalar_scalarValue made⟩

theorem sound_emptyCollection {t : Tag} {o : Object} (h : emptyCollection? t = some o) :
    o.Sound := by
  unfold emptyCollection? at h
  split at h
  all_goals cases h
  all_goals first
    | trivial
    | exact List.Pairwise.nil

theorem keeps_start (n : Nat) : KeepsSound (start n) := by
  refine keeps_get.sound.then fun b => ?_
  split
  · exact keeps_pure trivial
  · refine (keeps_tag n).then fun t => ?_
    cases empty : emptyCollection? t with
    | none => exact (keeps_scalar n).bind fun v scalar => keeps_put n scalar
    | some o =>
        exact (keeps_put n (sound_emptyCollection empty)).then fun _ => keeps_modify fun _ => id

theorem keeps_key (n : Nat) : KeepsSound (key n) := by
  refine (keeps_start n).then fun _ => keeps_get.sound.then fun b => ?_
  split
  · exact keeps_pure trivial
  · exact keeps_throw _

theorem keeps_mapping (n : Nat) : Keeps (mapping n) Distinct := by
  refine keeps_depth.then fun d => (keeps_flatten d n).then fun _ => ?_
  refine (keeps_entries n).then fun es => ?_
  refine keeps_foldlM (fun before e distinct => ?_) es List.Pairwise.nil
  refine (keeps_key e.1).then fun k => (keeps_start e.2).then fun _ => ?_
  exact keeps_pure (distinct_insertEntry distinct k e.2)

theorem keeps_pair (n : Nat) : KeepsSound (pair n) := by
  refine (keeps_entries n).then fun es => ?_
  split
  · exact (keeps_start _).then fun _ => (keeps_start _).then fun _ => keeps_pure trivial
  · exact keeps_throw _

theorem keeps_fill (n : Nat) : KeepsSound (fill n) := by
  refine (keeps_tag n).then fun t => ?_
  split
  · exact (keeps_items n).then fun items => (keeps_forM keeps_start items).then fun _ =>
      keeps_put n trivial
  · exact (keeps_mapping n).sound.then fun _ => keeps_put n trivial
  · exact (keeps_mapping n).bind fun _ distinct => keeps_put n distinct
  · exact (keeps_items n).then fun items => (keeps_mapM keeps_pair items).then fun _ =>
      keeps_put n trivial

theorem keeps_fillAll (fuel : Nat) : KeepsSound (fillAll fuel) := by
  induction fuel with
  | zero => exact keeps_pure trivial
  | succ fuel ih =>
      refine keeps_get.bind fun b sound => ?_
      split
      · exact keeps_pure trivial
      · exact (keeps_set (b := { b with waiting := [] }) sound).then fun _ =>
          (keeps_forM keeps_fill _).then fun _ => ih

end Building

section

variable {objects : List (Nat × Object)} (sound : ∀ n o, (n, o) ∈ objects → o.Sound)

include sound

theorem map_of_toValue {fuel n : Nat} {m : List (Value × Value)}
    (h : Object.toValue objects fuel n = .map m) :
    Distinct m ∧ ∀ e ∈ m, ∃ fuel n, e.2 = Object.toValue objects fuel n := by
  cases fuel with
  | zero => cases h
  | succ fuel =>
      rw [Object.toValue] at h
      split at h
      · next v found =>
          have scalar : v.IsScalar := sound n _ (mem_of_lookup found)
          rw [h] at scalar
          exact scalar.elim
      · cases h
      · cases h
      · cases h
      · next entries found =>
          cases h
          have distinct : Distinct entries := sound n _ (mem_of_lookup found)
          refine ⟨List.pairwise_map.2 distinct, ?_⟩
          rintro _ mem
          obtain ⟨e, -, rfl⟩ := List.mem_map.1 mem
          exact ⟨fuel, e.2, rfl⟩
      · cases h

theorem toValue_ne_derived (fuel n : Nat) (f : Foreign) (t : Text) :
    Object.toValue objects fuel n ≠ .derived f t := by
  intro h
  cases fuel with
  | zero => cases h
  | succ fuel =>
      rw [Object.toValue] at h
      split at h
      · next v found =>
          have scalar : v.IsScalar := sound n _ (mem_of_lookup found)
          rw [h] at scalar
          exact scalar
      all_goals cases h

end

/-- The keys of a document are distinct, and so are those of each mapping under them; no such mapping
holds an object of a class derived from text. -/
structure Keyed (es : List (Value × Value)) : Prop where
  own : Distinct es
  inner : ∀ k m, (k, .map m) ∈ es → Distinct m
  plain : ∀ k m, (k, .map m) ∈ es → ∀ e ∈ m, ∀ f t, e.2 ≠ .derived f t

theorem keyed_nil : Keyed [] :=
  ⟨List.Pairwise.nil, nofun, nofun⟩

theorem keyed_of_toValue {objects : List (Nat × Object)}
    (sound : ∀ n o, (n, o) ∈ objects → o.Sound) {fuel n : Nat} {es : List (Value × Value)}
    (h : Object.toValue objects fuel n = .map es) : Keyed es := by
  obtain ⟨distinct, parts⟩ := map_of_toValue sound h
  have part {k m} (mem : (k, Value.map m) ∈ es) :
      ∃ fuel n, Object.toValue objects fuel n = .map m := by
    obtain ⟨fuel, n, made⟩ := parts _ mem
    exact ⟨fuel, n, made.symm⟩
  refine ⟨distinct, fun k m mem => ?_, fun k m mem e inside f t derived => ?_⟩
  · obtain ⟨fuel, n, made⟩ := part mem
    exact (map_of_toValue sound made).1
  · obtain ⟨fuel, n, made⟩ := part mem
    obtain ⟨fuel, n, value⟩ := (map_of_toValue sound made).2 e inside
    exact toValue_ne_derived sound fuel n f t (value.symm.trans derived)

theorem keyed_of_graph {g : Graph} {es : List (Value × Value)} (h : g.toValue = .ok (.map es)) :
    Keyed es := by
  have keeps : Building.KeepsSound (do
      Building.start g.root
      Building.fillAll (g.nodes.size + 1)) :=
    (Building.keeps_start g.root).then fun _ => Building.keeps_fillAll _
  obtain ⟨r, ran, made⟩ := Except.bind_eq_ok_iff.1 h
  obtain ⟨sound, -⟩ := keeps { nodes := g.nodes } r.1 r.2 ran nofun
  exact keyed_of_toValue sound (Except.ok.inj made)

theorem keyed_of_ofBytes {bs : Bytes} {es : List (Value × Value)} (h : ofBytes bs = .ok (.map es)) :
    Keyed es := by
  obtain ⟨g, -, made⟩ := Except.bind_eq_ok_iff.1 h
  cases g with
  | none => cases made
  | some g => exact keyed_of_graph made

end Yaml

end Handover
