import Handover.Yaml.Document

namespace Handover

namespace Text.Utf8

theorem encode_eq_flatMap (s : String) : encode s = s.toList.flatMap String.utf8EncodeChar := by
  rw [encode, String.toUTF8, ← String.utf8Encode_toList, List.utf8Encode, List.data_toByteArray]

theorem faultFrom_of_ascii (fuel pos : Nat) {bs : Bytes} (ascii : ∀ b ∈ bs, b < 0x80) :
    faultFrom fuel pos bs = none := by
  induction bs generalizing fuel pos with
  | nil => cases fuel <;> rfl
  | cons b rest ih =>
      obtain ⟨here, later⟩ := List.forall_mem_cons.1 ascii
      cases fuel with
      | zero => rfl
      | succ fuel =>
          rw [faultFrom, if_pos here]
          exact ih fuel (pos + 1) later

end Text.Utf8

namespace Yaml

def isPrinted (c : Char) : Bool :=
  c == '\n' || (' ' ≤ c && c ≤ '~')

variable {c : Char} {cs : List Char}

theorem isPrinted_iff : isPrinted c = true ↔ c.toNat = 10 ∨ 32 ≤ c.toNat ∧ c.toNat ≤ 126 := by
  have newline : c = '\n' ↔ c.toNat = 10 := by
    rw [← Char.toNat_inj]
    rfl
  simp only [isPrinted, Bool.or_eq_true, beq_iff_eq, newline, Bool.and_eq_true, decide_eq_true_eq,
    Char.le_def, UInt32.le_iff_toNat_le]
  rfl

theorem isAllowed_of_isPrinted (printed : isPrinted c = true) : isAllowed c = true := by
  rw [isPrinted_iff] at printed
  simp only [isAllowed, Bool.or_eq_true, Bool.and_eq_true, beq_iff_eq, decide_eq_true_eq]
  omega

theorem utf8EncodeChar_of_isPrinted (printed : isPrinted c = true) :
    ∃ b < 0x80, String.utf8EncodeChar c = [b] := by
  rw [isPrinted_iff] at printed
  have small : c.val.toNat ≤ 127 := by
    change c.toNat ≤ 127
    omega
  refine ⟨UInt8.ofNat c.val.toNat, ?_, by simp only [String.utf8EncodeChar, small, if_true]⟩
  rw [UInt8.lt_iff_toNat_lt, UInt8.toNat_ofNat']
  simp only [UInt8.reduceToNat]
  omega

theorem unifyBreaks_of_isPrinted (printed : ∀ c ∈ cs, isPrinted c = true) :
    Text.File.unifyBreaks cs = cs := by
  induction cs with
  | nil => rfl
  | cons c rest ih =>
      obtain ⟨here, later⟩ := List.forall_mem_cons.1 printed
      have other : c ≠ '\r' := by
        rintro rfl
        cases here
      rw [Text.File.unifyBreaks, ih later]
      · rintro _ rfl
        exact absurd rfl other
      · exact other

def drained (cs : List Char) (pieceBytes pieceChars : Nat) : Text.File :=
  { bytes := [], decoded := cs, pieceBytes, pieceChars }

theorem fetch_drained (wanted m n : Nat) :
    (drained [] m n).fetch wanted = .ok (drained [] 0 0) := by
  simp only [drained, Text.File.fetch, List.take_nil]
  rfl

theorem read_drained (fuel : Nat) {wanted : Nat} (short : cs.length < wanted) (m n : Nat) :
    (drained cs m n).read (fuel + 1) wanted = .ok (cs, drained [] 0 0) := by
  have more : ¬ wanted - cs.length = 0 := by omega
  have spent := fetch_drained (wanted - cs.length) m n
  simp only [drained] at spent
  simp only [Text.File.read, drained, List.take_of_length_le (Nat.le_of_lt short), more, if_false,
    List.drop_of_length_le (Nat.le_of_lt short), spent]
  rfl

theorem length_flatMap_utf8EncodeChar (printed : ∀ c ∈ cs, isPrinted c = true) :
    (cs.flatMap String.utf8EncodeChar).length = cs.length := by
  induction cs with
  | nil => rfl
  | cons c rest ih =>
      obtain ⟨here, later⟩ := List.forall_mem_cons.1 printed
      obtain ⟨b, -, byte⟩ := utf8EncodeChar_of_isPrinted here
      rw [List.flatMap_cons, byte, List.length_append, ih later, List.length_cons]
      simp [Nat.add_comm]

section

variable {s : String} (printed : ∀ c ∈ s.toList, isPrinted c = true)

include printed

theorem fetch_encode (short : s.toList.length ≤ Text.File.leastPiece) (wanted : Nat) :
    ∃ m n, ({ bytes := Text.Utf8.encode s } : Text.File).fetch wanted =
      .ok (drained s.toList m n) := by
  have valid : Text.Utf8.fault? (Text.Utf8.encode s) = none := by
    refine Text.Utf8.faultFrom_of_ascii _ _ fun b mem => ?_
    rw [Text.Utf8.encode_eq_flatMap, List.mem_flatMap] at mem
    obtain ⟨c, inside, mem⟩ := mem
    obtain ⟨b', small, byte⟩ := utf8EncodeChar_of_isPrinted (printed c inside)
    rw [byte, List.mem_singleton] at mem
    rw [mem]
    exact small
  have whole (size : Nat) : (Text.Utf8.encode s).take (max Text.File.leastPiece size) =
      Text.Utf8.encode s := by
    refine List.take_of_length_le ?_
    rw [Text.Utf8.encode_eq_flatMap, length_flatMap_utf8EncodeChar printed]
    omega
  have held : (s.toList.getLast? == some '\r') = false := by
    rw [beq_eq_false_iff_ne]
    intro last
    cases printed '\r' (List.mem_of_getLast? last)
  refine ⟨(Text.Utf8.encode s).length, s.toList.length, ?_⟩
  simp only [Text.File.fetch, Text.File.pieceSize, whole, List.nil_append, Text.Utf8.decodePiece,
    valid, Text.Utf8.charsOf, Text.Utf8.decode?_encode]
  simp [bind, Except.bind, pure, Except.pure, held, unifyBreaks_of_isPrinted printed, drained]

theorem request_encode (short : s.toList.length < Input.size) (some : s.toList ≠ []) :
    Input.request { bytes := Text.Utf8.encode s } = .ok (s.toList, drained [] 0 0) := by
  have least : s.toList.length ≤ Text.File.leastPiece := by
    simp only [Input.size, Text.File.leastPiece] at *
    omega
  obtain ⟨m, n, fetched⟩ := fetch_encode printed least Input.size
  have gathered := read_drained (Text.Utf8.encode s).length short m n
  have length := length_flatMap_utf8EncodeChar printed
  rw [← Text.Utf8.encode_eq_flatMap] at length
  have nonempty : (Text.Utf8.encode s).isEmpty = false := by
    rw [List.isEmpty_eq_false_iff, ← List.length_pos_iff, length]
    exact List.length_pos_iff.2 some
  have positive : ¬ Input.size = 0 := by decide
  rw [Input.request, Text.File.read]
  simp only [List.take_nil, List.drop_nil, List.length_nil, Nat.sub_zero, fetched]
  simp only [bind, Except.bind, pure, Except.pure, nonempty, positive, gathered, if_false,
    Bool.false_and, Bool.false_eq_true, List.nil_append]
  rfl

end

theorem later_drained (n : Nat) : Input.later n (drained [] 0 0) = { text := [] } := by
  cases n <;> rfl

theorem request_drained : Input.request (drained [] 0 0) = .ok ([], drained [] 0 0) :=
  rfl

theorem ofBytes_printed {s : String} (printed : s.toList.all isPrinted = true)
    (short : s.toList.length < Input.size) :
    ofBytes (Text.Utf8.encode s) = ofInput { text := s.toList } := by
  rw [List.all_eq_true] at printed
  cases chars : s.toList with
  | nil =>
      rw [Text.Utf8.encode_eq_flatMap, chars]
      rfl
  | cons c cs =>
      have allowed : s.toList.all isAllowed = true :=
        List.all_eq_true.2 fun c inside => isAllowed_of_isPrinted (printed c inside)
      have first := request_encode printed short (by simp [chars])
      rw [chars] at allowed first
      have input : Input.ofBytes (Text.Utf8.encode s) = { text := c :: cs } := by
        unfold Input.ofBytes
        simp only [first, request_drained, List.append_nil, later_drained, Input.joined,
          Input.checked, allowed, if_true]
      rw [ofBytes, input]

theorem ofBytes_chars {cs : List Char} (printed : cs.all isPrinted = true)
    (short : cs.length < Input.size) :
    ofBytes (Text.Utf8.encode (String.ofList cs)) = ofInput { text := cs } := by
  have read := ofBytes_printed (s := String.ofList cs)
  rw [String.toList_ofList] at read
  exact read printed short

/-- The graph is that of a short text of printed characters. -/
def Graph.isWrittenAs (g : Graph) (cs : List Char) : Bool :=
  cs.all isPrinted && cs.length < Input.size &&
    match Graph.ofTokens? (Token.ofInput { text := cs }) with
    | .ok (some h) => h = g
    | _ => false

theorem ofBytes_of_isWrittenAs {g : Graph} {cs : List Char} (h : g.isWrittenAs cs = true) :
    ofBytes (Text.Utf8.encode (String.ofList cs)) = g.toValue := by
  simp only [Graph.isWrittenAs, Bool.and_eq_true, decide_eq_true_eq] at h
  obtain ⟨⟨printed, short⟩, graph⟩ := h
  rw [ofBytes_chars printed short, ofInput]
  split at graph
  · next found =>
      rw [decide_eq_true_eq] at graph
      rw [found, graph]
      rfl
  · cases graph

theorem ofBytes_text {g : Graph} {s : String} (h : g.isWrittenAs s.toList = true) :
    ofBytes (Text.Utf8.encode s) = g.toValue := by
  rw [← ofBytes_of_isWrittenAs h, String.ofList_toList]

end Yaml

end Handover
