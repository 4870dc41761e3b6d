import Handover.Json.Reader
import Handover.Json.Writer

namespace Handover.Json

theorem hexValue?_hexDigit : ∀ n < 16, hexValue? (Text.Quoted.hexDigit n) = some n := by
  decide

theorem hex4?_hexDigits {n : Nat} (h : n < 0x10000) :
    ∃ a b c d, Text.Quoted.hexDigits 4 n = [a, b, c, d] ∧ hex4? a b c d = some n := by
  refine ⟨_, _, _, _, rfl, ?_⟩
  have ha := hexValue?_hexDigit (n / 16 / 16 / 16 % 16) (by omega)
  have hb := hexValue?_hexDigit (n / 16 / 16 % 16) (by omega)
  have hc := hexValue?_hexDigit (n / 16 % 16) (by omega)
  have hd := hexValue?_hexDigit (n % 16) (by omega)
  simp only [hex4?, ha, hb, hc, hd, Option.bind_eq_bind, Option.bind_some, Option.pure_def,
    Option.some.injEq]
  omega

theorem stringBody_letter {e c : Char} (h : escaped? e = some c) (rest : List Char) :
    stringBody ('\\' :: e :: rest) = (stringBody rest).map fun r => (c :: r.1, r.2) := by
  have hu : e ≠ 'u' := by
    rintro rfl
    simp [escaped?] at h
  rw [stringBody]
  · simp [h]
  · intro _ _ _ _ _ he
    simp [hu] at he

theorem stringBody_control {c : Char} (h : c.toNat < 0x20) (rest : List Char) :
    stringBody ('\\' :: 'u' :: Text.Quoted.hexDigits 4 c.toNat ++ rest) =
      (stringBody rest).map fun r => (c :: r.1, r.2) := by
  obtain ⟨w, x, y, z, digits, number⟩ := hex4?_hexDigits (n := c.toNat) (by omega)
  have low : ¬ 0xD800 ≤ c.toNat := by omega
  have high : ¬ 0xDC00 ≤ c.toNat := by omega
  simp [digits, stringBody, number, low, high]

theorem stringBody_plain {c : Char} (quote : c ≠ '"') (backslash : c ≠ '\\')
    (large : ¬ c.toNat < 0x20) (rest : List Char) :
    stringBody (c :: rest) = (stringBody rest).map fun r => (c :: r.1, r.2) := by
  rw [stringBody]
  · simp [backslash, large]
  · exact quote
  · rintro _ _ _ _ _ h
    exact absurd h backslash
  · intro _ _ h
    exact absurd h backslash

theorem stringBody_escapeChar (c : Char) (rest : List Char) :
    stringBody (escapeChar c ++ rest) = (stringBody rest).map fun r => (c :: r.1, r.2) := by
  simp only [escapeChar, beq_iff_eq]
  split
  · subst c; exact stringBody_letter rfl rest
  split
  · subst c; exact stringBody_letter rfl rest
  split
  · subst c; exact stringBody_letter rfl rest
  split
  · subst c; exact stringBody_letter rfl rest
  split
  · subst c; exact stringBody_letter rfl rest
  split
  · subst c; exact stringBody_letter rfl rest
  split
  · subst c; exact stringBody_letter rfl rest
  split
  · next small => exact stringBody_control small rest
  · next quote backslash _ _ _ _ _ large => exact stringBody_plain quote backslash large rest

theorem stringBody_escaped (cs rest : List Char) :
    stringBody (cs.flatMap escapeChar ++ '"' :: rest) = some (cs, rest) := by
  induction cs with
  | nil => simp [stringBody]
  | cons c cs ih =>
      rw [List.flatMap_cons, List.append_assoc, stringBody_escapeChar, ih]
      rfl

/-- A text is read as a value wherever a comma or a closing brace follows it. -/
def Reads (digits : Nat) (text : List Char) (v : Value) : Prop :=
  ∀ fuel depth c rest, c = ',' ∨ c = '\x7d' →
    value digits (fuel + 1) depth (text ++ c :: rest) = some (v, c :: rest)

theorem reads_quote (digits : Nat) (s : String) :
    Reads digits (quote s.toList) (.text s) := by
  intro fuel depth c rest _
  have body := stringBody_escaped s.toList (c :: rest)
  simp [quote, value, skipBlank, isBlank, body]

theorem reads_bool (digits : Nat) (b : Bool) : Reads digits (bool b) (.bool b) := by
  intro fuel depth c rest _
  cases b <;> simp [bool, value, skipBlank, isBlank]

theorem reads_null (digits : Nat) : Reads digits "null".toList .null := by
  intro fuel depth c rest _
  simp [value, skipBlank, isBlank]

theorem reads_optional (digits : Nat) (s : Option String) :
    Reads digits (optional (quote ·.toList) s) (s.elim .null fun s => .text s) := by
  cases s with
  | none => exact reads_null digits
  | some s => exact reads_quote digits s

theorem reads_text? (digits : Nat) {t : Option Text} {cs : List Char} (h : text? t = .ok cs) :
    Reads digits cs (t.elim .null .text) := by
  cases t with
  | none =>
      cases h
      exact reads_null digits
  | some t =>
      cases t with
      | proper s =>
          cases h
          exact reads_quote digits s
      | ill codes surrogate => cases h

theorem isDigit_of_mem_nat {n : Nat} {c : Char} (h : c ∈ nat n) : isDigit c = true := by
  have hc : c.isDigit = true := Nat.isDigit_of_mem_toDigits (by decide) (by decide) h
  simpa [isDigit, Char.isDigit, Char.le_def, UInt32.le_iff_toNat_le] using hc

theorem digitsValue_nat (n : Nat) : digitsValue (nat n) = n := by
  have h := Nat.ofDigitChars_ten_toDigits (n := n)
  rw [Nat.ofDigitChars_eq_foldl] at h
  simpa [digitsValue, nat, Nat.mul_comm] using h

theorem head?_nat {n : Nat} (h : 0 < n) : (nat n).head? ≠ some '0' := by
  induction n using Nat.strongRecOn with
  | ind n ih =>
      by_cases small : n < 10
      · have cases : n = 1 ∨ n = 2 ∨ n = 3 ∨ n = 4 ∨ n = 5 ∨ n = 6 ∨ n = 7 ∨ n = 8 ∨ n = 9 := by
          omega
        rcases cases with h | h | h | h | h | h | h | h | h <;> subst h <;> decide
      · have high := ih (n / 10) (by omega) (by omega)
        obtain ⟨c, cs, hcs⟩ := List.exists_cons_of_ne_nil
          (Nat.toDigits_ne_nil (n := n / 10) (b := 10))
        rw [nat, hcs] at high
        rw [nat, Nat.toDigits_of_base_le (by decide) (by omega), hcs]
        exact high

theorem number?_nat {digits n : Nat} (fits : (nat n).length ≤ digits) {c : Char}
    (hc : c = ',' ∨ c = '\x7d') (rest : List Char) :
    number? digits false (nat n ++ c :: rest) = some (.int n, c :: rest) := by
  have stop : isDigit c = false := by rcases hc with h | h <;> subst h <;> decide
  have whole : (nat n ++ c :: rest).takeWhile isDigit = nat n := by
    rw [List.takeWhile_append_of_pos fun d hd => isDigit_of_mem_nat hd]
    simp [stop]
  have left : (nat n ++ c :: rest).dropWhile isDigit = c :: rest := by
    rw [List.dropWhile_append_of_pos fun d hd => isDigit_of_mem_nat hd]
    simp [stop]
  have nonempty : (nat n).isEmpty = false := by
    simp [nat, Nat.toDigits_ne_nil]
  have unpadded : ((nat n).head? == some '0' && decide (1 < (nat n).length)) = false := by
    rcases Nat.eq_zero_or_pos n with h | h
    · subst h
      rfl
    · simp [head?_nat h]
  have within : ¬ digits < (nat n).length := by omega
  have point : fraction? (c :: rest) = some (none, c :: rest) := by
    rcases hc with h | h <;> subst h <;> rfl
  have power : exponent? (c :: rest) = some (none, c :: rest) := by
    rcases hc with h | h <;> subst h <;> rfl
  simp only [number?, whole, left, nonempty, unpadded, Bool.or_self, Bool.false_eq_true, if_false]
  simp [within, point, power, digitsValue_nat]

theorem value_digit (digits fuel depth : Nat) {c : Char} (h : isDigit c = true)
    (cs : List Char) :
    value digits (fuel + 1) depth (c :: cs) = number? digits false (c :: cs) := by
  have visible : isBlank c = false := by
    cases blank : isBlank c with
    | false => rfl
    | true =>
        simp only [isBlank, Bool.or_eq_true, beq_iff_eq] at blank
        rcases blank with ((hc | hc) | hc) | hc <;> subst hc <;> simp [isDigit] at h
  simp only [value, skipBlank, List.dropWhile_cons, visible]
  simp only [Bool.false_eq_true, if_false]
  split <;> simp_all [isDigit]

theorem reads_nat {digits n : Nat} (fits : (nat n).length ≤ digits) :
    Reads digits (nat n) (.int n) := by
  intro fuel depth c rest hc
  obtain ⟨d, ds, hn⟩ := List.exists_cons_of_ne_nil (Nat.toDigits_ne_nil (n := n) (b := 10))
  have hd : isDigit d = true := isDigit_of_mem_nat (n := n) (by simp [nat, hn])
  have number := number?_nat fits hc rest
  rw [nat, hn, List.cons_append] at number ⊢
  rw [value_digit _ _ _ hd, number]

structure Member where
  name : String
  text : List Char
  value : Value

namespace Member

def written (m : Member) : String × List Char := (m.name, m.text)

def entry (m : Member) : Value × Value := (.text m.name, m.value)

end Member

theorem members_brace {digits : Nat} {m : Member} (h : Reads digits m.text m.value)
    (fuel depth : Nat) (rest : List Char) :
    members digits (fuel + 2) depth (quote m.name.toList ++ ':' :: m.text ++ '\x7d' :: rest) =
      some ([m.entry], rest) := by
  have hv := h fuel depth '\x7d' rest (by simp)
  have body := stringBody_escaped m.name.toList (':' :: (m.text ++ '\x7d' :: rest))
  simp [Member.entry, quote, members, skipBlank, isBlank, body, hv]

theorem members_comma {digits : Nat} {m : Member} (h : Reads digits m.text m.value)
    (fuel depth : Nat) (rest : List Char) :
    members digits (fuel + 2) depth (quote m.name.toList ++ ':' :: m.text ++ ',' :: rest) =
      (members digits (fuel + 1) depth rest).map fun r => (m.entry :: r.1, r.2) := by
  have hv := h fuel depth ',' rest (by simp)
  have body := stringBody_escaped m.name.toList (':' :: (m.text ++ ',' :: rest))
  rw [members]
  simp [Member.entry, quote, skipBlank, isBlank, body, hv]

theorem members_memberList {digits : Nat} (m : Member) (ms : List Member)
    (h : ∀ n ∈ m :: ms, Reads digits n.text n.value) (extra depth : Nat) (rest : List Char) :
    members digits (extra + ms.length + 2) depth
        (memberList ((m :: ms).map Member.written) ++ rest) =
      some ((m :: ms).map Member.entry, rest) := by
  have first : Reads digits m.text m.value := h m (by simp)
  induction ms generalizing m with
  | nil =>
      simpa [memberList, Member.written] using members_brace first extra depth rest
  | cons n ns ih =>
      have later := ih n (fun k hk => h k (List.mem_cons_of_mem _ hk)) (h n (by simp))
      have step := members_comma first (extra + ns.length + 1) depth
        (memberList ((n :: ns).map Member.written) ++ rest)
      simp only [List.map_cons, memberList, Member.written, List.length_cons, List.append_assoc,
        List.cons_append] at step later ⊢
      rw [← Nat.add_assoc extra, step, later]
      rfl

theorem length_le_memberList (ms : List Member) :
    ms.length ≤ (memberList (ms.map Member.written)).length := by
  induction ms with
  | nil => simp
  | cons m ms ih =>
      cases ms with
      | nil => simp [memberList, Member.written, quote]
      | cons n ns =>
          simp only [List.map_cons, memberList, Member.written, List.length_append,
            List.length_cons] at ih ⊢
          omega

theorem value_object (digits fuel depth : Nat) (cs : List Char) :
    value digits (fuel + 1) (depth + 1) ('\x7b' :: '"' :: cs) =
      (members digits fuel depth ('"' :: cs)).map fun r => (.map r.1, r.2) := by
  rw [value]
  simp [skipBlank, isBlank]

theorem read?_object {limits : Limits} (deep : 0 < limits.depth) {ms : List Member}
    (nonempty : ms ≠ []) (h : ∀ m ∈ ms, Reads limits.digits m.text m.value) :
    read? limits (object (ms.map Member.written)) = some (.map (ms.map Member.entry)) := by
  obtain ⟨m, ms, rfl⟩ := List.exists_cons_of_ne_nil nonempty
  obtain ⟨depth, hdepth⟩ : ∃ depth, limits.depth = depth + 1 := ⟨limits.depth - 1, by omega⟩
  obtain ⟨cs, hcs⟩ : ∃ cs, memberList ((m :: ms).map Member.written) = '"' :: cs := by
    cases ms <;> simp [memberList, Member.written, quote]
  -- the fuel is twice the length of the text, and no text has more members than characters
  obtain ⟨extra, hextra⟩ : ∃ extra, 2 * (object ((m :: ms).map Member.written)).length + 2 =
      extra + ms.length + 2 + 1 := by
    have long := length_le_memberList (m :: ms)
    simp only [object, List.length_cons] at long ⊢
    exact ⟨2 * (memberList ((m :: ms).map Member.written)).length - ms.length + 1, by omega⟩
  have body := members_memberList m ms h extra depth []
  rw [List.append_nil, hcs] at body
  rw [read?, hextra, hdepth, object, hcs, value_object, body]
  rfl

def Refused (digits : Nat) (text : List Char) : Prop :=
  ∀ fuel depth c rest, c = ',' ∨ c = '\x7d' →
    value digits fuel depth (text ++ c :: rest) = none

theorem number?_long {digits n : Nat} (long : digits < (nat n).length) {c : Char}
    (hc : c = ',' ∨ c = '\x7d') (rest : List Char) :
    number? digits false (nat n ++ c :: rest) = none := by
  have stop : isDigit c = false := by rcases hc with h | h <;> subst h <;> decide
  have whole : (nat n ++ c :: rest).takeWhile isDigit = nat n := by
    rw [List.takeWhile_append_of_pos fun d hd => isDigit_of_mem_nat hd]
    simp [stop]
  simp [number?, whole, long]

theorem refused_nat {digits n : Nat} (long : digits < (nat n).length) :
    Refused digits (nat n) := by
  intro fuel depth c rest hc
  cases fuel with
  | zero => rw [value]
  | succ fuel =>
      obtain ⟨d, ds, hn⟩ := List.exists_cons_of_ne_nil (Nat.toDigits_ne_nil (n := n) (b := 10))
      have hd : isDigit d = true := isDigit_of_mem_nat (n := n) (by simp [nat, hn])
      have number := number?_long long hc rest
      rw [nat, hn, List.cons_append] at number ⊢
      rw [value_digit _ _ _ hd, number]

theorem members_refused {digits : Nat} {m : Member} (h : Refused digits m.text)
    (fuel depth : Nat) {c : Char} (hc : c = ',' ∨ c = '\x7d') (rest : List Char) :
    members digits fuel depth (quote m.name.toList ++ ':' :: m.text ++ c :: rest) = none := by
  cases fuel with
  | zero => rw [members]
  | succ fuel =>
      have hv := h fuel depth c rest hc
      have body := stringBody_escaped m.name.toList (':' :: (m.text ++ c :: rest))
      simp [quote, members, skipBlank, isBlank, body, hv]

theorem members_one (digits depth : Nat) (cs : List Char) : members digits 1 depth cs = none := by
  rw [members]
  simp only [value]
  split
  · split
    · rfl
    · split <;> rfl
  · rfl

theorem members_memberList_refused {digits : Nat} {m : Member} (h : Refused digits m.text)
    (before after : List Member) (hb : ∀ n ∈ before, Reads digits n.text n.value)
    (fuel depth : Nat) (rest : List Char) :
    members digits fuel depth
      (memberList ((before ++ m :: after).map Member.written) ++ rest) = none := by
  induction before generalizing fuel with
  | nil =>
      cases after with
      | nil =>
          simpa [memberList, Member.written] using
            members_refused h fuel depth (.inr rfl) rest
      | cons n ns =>
          simpa [memberList, Member.written] using
            members_refused h fuel depth (.inl rfl)
              (memberList ((n :: ns).map Member.written) ++ rest)
  | cons n ns ih =>
      -- a written list that goes on has a comma after its first member
      have shape : memberList ((n :: ns ++ m :: after).map Member.written) ++ rest =
          quote n.name.toList ++ ':' :: n.text ++
            ',' :: (memberList ((ns ++ m :: after).map Member.written) ++ rest) := by
        cases ns <;> simp [memberList, Member.written]
      rw [shape]
      match fuel with
      | 0 => rw [members]
      | 1 => exact members_one _ _ _
      | fuel + 2 =>
          rw [members_comma (hb n (by simp)), ih fun k hk => hb k (List.mem_cons_of_mem _ hk)]
          rfl

theorem read?_refused (limits : Limits) {m : Member} (h : Refused limits.digits m.text)
    (before after : List Member) (hb : ∀ n ∈ before, Reads limits.digits n.text n.value) :
    read? limits (object ((before ++ m :: after).map Member.written)) = none := by
  obtain ⟨cs, hcs⟩ : ∃ cs,
      memberList ((before ++ m :: after).map Member.written) = '"' :: cs := by
    rcases before with _ | ⟨n, _ | _⟩ <;> cases after <;>
      simp [memberList, Member.written, quote]
  have body := fun fuel depth => members_memberList_refused h before after hb fuel depth []
  simp only [List.append_nil, hcs] at body
  rw [read?, object, hcs]
  cases limits.depth with
  | zero => simp [value, skipBlank, isBlank]
  | succ depth => rw [value_object, body]; rfl

end Handover.Json
