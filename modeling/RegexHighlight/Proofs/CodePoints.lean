import RegexHighlight.Proofs.UnicodeEscapes

/-!
# The code point of a class token

A range `a-b` in a class compares the code points of its endpoints, and `codePoint` reads them
off the text of a class token in one ordered match. `ClassToken.Denotes` says, shape by shape,
what the ECMAScript grammar makes a class token stand for: a run or a hyphen its first
character, `\cX` the code of `X` mod 32, `\xHH`, `\uHHHH` and `\u{h}` their hex value (the last
only under the Unicode-aware rules, and only when the value is a code point), a legacy octal
escape its octal value, `\0` zero, the control escapes the controls they name, any other escape
of one character that character, and the class escapes, the incomplete escapes and, under the
Unicode-aware rules, `\p…`, `\P…`, `\1`–`\9` and `\0` followed by digits no code point.

The main result, `codePoint_eq_iff_denotes`, is that on every token the class lexer cuts, in
either mode, `codePoint` gives exactly the value the grammar gives.

## Shape of the proof

Each constructor of `Denotes` is read by `codePoint` as it says, on any text of its shape
(`Denotes.codePoint_eq`). The other way round, every token of a class interior has one of these
shapes (`exists_denotes_of_mem_classTokenize`): a run or a hyphen, or an escape as
`Shape.escapeExtent` cuts it. Under the Unicode-aware rules the escapes are those of
`Shape.ClassEscape`; under the legacy rules they are a lone backslash, a backslash and one
character, `\xHH`, `\uHHHH`, `\cX`, and a legacy octal escape of at most three digits and value
at most `0o377` (`exists_denotes_legacy_escape`).
-/

namespace RegexHighlight

namespace ClassToken

/-- The control escapes and the code points they stand for. -/
def controlEscapes : List (Char × Nat) :=
  [('b', 0x08), ('f', 0x0C), ('n', 0x0A), ('r', 0x0D), ('t', 0x09), ('v', 0x0B)]

/-- The letters of the class escapes `\d \D \s \S \w \W`, which stand for sets of characters. -/
def shorthandLetters : List Char := ['d', 'D', 's', 'S', 'w', 'W']

/-- A character that a backslash in a class escapes to itself: no control or class escape
letter, none of `c`, `x`, `u` and `0` that start longer escapes, no legacy octal digit, and under
the Unicode-aware rules neither `p`, `P` nor a digit from 1 to 9. -/
def EscapesToItself (unicode : Bool) (c : Char) : Prop :=
  c ∉ controlEscapes.map Prod.fst ∧ c ∉ shorthandLetters ∧ c ∉ ['c', 'x', 'u', '0'] ∧
    if unicode then c ≠ 'p' ∧ c ≠ 'P' ∧ ¬('1' ≤ c ∧ c ≤ '9') else ¬('1' ≤ c ∧ c ≤ '7')

/-- The code point the ECMAScript grammar gives the text of a class token, or `none` when the
token stands for no single code point. -/
inductive Denotes : Bool → List Char → Option Nat → Prop
  /-- A run of characters or a hyphen stands for its first character. -/
  | char {unicode : Bool} {c : Char} {rest : List Char} : c ≠ '\\' →
      Denotes unicode (c :: rest) (some c.toNat)
  /-- `\cX` stands for the code of `X` mod 32. -/
  | control {unicode : Bool} {x : Char} : Shape.isLetter x = true →
      Denotes unicode ['\\', 'c', x] (some (x.toNat % 32))
  /-- `\xHH` and `\uHHHH` stand for their hex value. -/
  | hex {unicode : Bool} {p : Char} {h : List Char} :
      (p = 'x' ∧ h.length = 2 ∨ p = 'u' ∧ h.length = 4) → (∀ x ∈ h, Shape.isHex x = true) →
      Denotes unicode ('\\' :: p :: h) (some (Shape.hexValue h))
  /-- Under the Unicode-aware rules, `\u{h}` for hex digits `h` of any length stands for their
  value when that is a code point, and for none otherwise. -/
  | braced {h : List Char} : h ≠ [] → (∀ x ∈ h, Shape.isHex x = true) →
      Denotes true ('\\' :: 'u' :: '{' :: (h ++ ['}']))
        (if Shape.hexValue h ≤ 0x10FFFF then some (Shape.hexValue h) else none)
  /-- Under the legacy rules, an octal escape of one to three digits stands for its octal value,
  which is at most `0o377`. -/
  | octal {ds : List Char} : ds ≠ [] → ds.length ≤ 3 → (∀ x ∈ ds, Shape.isOctal x = true) →
      octalValue ds ≤ 0o377 → Denotes false ('\\' :: ds) (some (octalValue ds))
  /-- `\0` stands for 0. -/
  | nul {unicode : Bool} : Denotes unicode ['\\', '0'] (some 0)
  /-- `\b \f \n \r \t \v` stand for the controls they name. -/
  | controlEscape {unicode : Bool} {c : Char} {v : Nat} : (c, v) ∈ controlEscapes →
      Denotes unicode ['\\', c] (some v)
  /-- A class escape stands for a set of characters. -/
  | shorthand {unicode : Bool} {c : Char} : c ∈ shorthandLetters → Denotes unicode ['\\', c] none
  /-- A backslash that ends the interior is incomplete. -/
  | lone {unicode : Bool} : Denotes unicode ['\\'] none
  /-- So are `\c`, `\x` and `\u` without what completes them. -/
  | incomplete {unicode : Bool} {c : Char} : c ∈ ['c', 'x', 'u'] →
      Denotes unicode ['\\', c] none
  /-- Under the Unicode-aware rules, `\p…` and `\P…` stand for properties. -/
  | property {p : Char} {rest : List Char} : (p = 'p' ∨ p = 'P') →
      Denotes true ('\\' :: p :: rest) none
  /-- Under the Unicode-aware rules, `\1` to `\9` are no character in a class. -/
  | decimal {d : Char} : ('1' ≤ d ∧ d ≤ '9') → Denotes true ['\\', d] none
  /-- Under the Unicode-aware rules, `\0` followed by digits is no character. -/
  | zeroDigits {ds : List Char} : ds ≠ [] → (∀ x ∈ ds, Shape.isDigit x = true) →
      Denotes true ('\\' :: '0' :: ds) none
  /-- Any other escape of one character stands for that character. -/
  | identity {unicode : Bool} {c : Char} : EscapesToItself unicode c →
      Denotes unicode ['\\', c] (some c.toNat)

end ClassToken

/-! ## Every shape reads as it denotes -/

/-- An octal digit is `0` or a digit from 1 to 7. -/
theorem Shape.isOctal_iff {c : Char} :
    Shape.isOctal c = true ↔ c = '0' ∨ ('1' ≤ c ∧ c ≤ '7') := by
  simp only [Shape.isOctal, Bool.and_eq_true, decide_eq_true_eq, Char.le_def,
    UInt32.le_iff_toNat_le, ← Char.toNat_inj]
  have : ('0' : Char).val.toNat = 48 := rfl
  have : ('1' : Char).val.toNat = 49 := rfl
  have : ('7' : Char).val.toNat = 55 := rfl
  simp only [Char.toNat] at *
  omega

namespace CodePoint

/-- Hex digits read after `n` stay below where `n + 1` would start. -/
theorem foldl_hex_lt {h : List Char} (hh : ∀ x ∈ h, Shape.isHex x = true) (n : Nat) :
    h.foldl (fun n c => n * 16 + digitValue c) n < (n + 1) * 16 ^ h.length := by
  induction h generalizing n with
  | nil => simp
  | cons c h ih =>
      have hc := digitValue_lt_of_isHex (hh c List.mem_cons_self)
      rw [List.foldl_cons, List.length_cons, Nat.pow_succ', ← Nat.mul_assoc]
      calc _ < (n * 16 + digitValue c + 1) * 16 ^ h.length :=
            ih (fun x hx => hh x (List.mem_cons_of_mem _ hx)) _
        _ ≤ (n + 1) * 16 * 16 ^ h.length := Nat.mul_le_mul_right _ (by omega)

theorem hexValue_lt {h : List Char} (hh : ∀ x ∈ h, Shape.isHex x = true) :
    Shape.hexValue h < 16 ^ h.length := by
  simpa [Shape.hexValue] using foldl_hex_lt hh 0

/-- An octal digit is worth its distance from `0`. -/
theorem digitValue_of_isOctal {c : Char} (h : Shape.isOctal c = true) :
    digitValue c = c.toNat - '0'.toNat := by
  simp only [Shape.isOctal, Bool.and_eq_true, decide_eq_true_eq] at h
  have h9 : c ≤ '9' := Char.le_trans h.2 (by decide)
  simp [digitValue, h.1, h9]

/-- A run of octal digits reads as its octal value, when that fits in a word. -/
theorem numeral?_octal {ds : List Char} (hne : ds ≠ []) (hoct : ∀ x ∈ ds, Shape.isOctal x = true)
    (hw : octalValue ds ≤ wordMax) : numeral? 8 ds = some (octalValue ds) := by
  obtain ⟨c, t, rfl⟩ := List.exists_cons_of_ne_nil hne
  have hc : c ≠ '+' := by
    rintro rfl
    simp [Shape.isOctal] at hoct
  have hdigits : ∀ x ∈ c :: t, digitValue x = x.toNat - '0'.toNat :=
    fun x hx => digitValue_of_isOctal (hoct x hx)
  have hall : (c :: t).all (digitValue · < 8) = true := by
    refine List.all_eq_true.2 fun x hx => decide_eq_true ?_
    have h := hoct x hx
    simp only [Shape.isOctal, Bool.and_eq_true, decide_eq_true_eq, Char.le_def,
      UInt32.le_iff_toNat_le] at h
    rw [hdigits x hx]
    have : ('0' : Char).val.toNat = 48 := rfl
    have : ('7' : Char).val.toNat = 55 := rfl
    simp only [Char.toNat]
    omega
  -- each digit adds the same whether read by `digitValue` or as its distance from `0`
  have hvalue : (c :: t).foldl (fun n x => n * 8 + digitValue x) 0 = octalValue (c :: t) :=
    List.foldl_ext _ _ _ fun n x hx => by rw [hdigits x hx]
  simp [numeral?, hc, hall, hvalue, hw]

/-- A letter's upper case lies as far past `A`, less one, as the letter's code mod 32. -/
theorem toUpper_sub_A {x : Char} (hx : Shape.isLetter x = true) :
    x.toUpper.toNat - 'A'.toNat + 1 = x.toNat % 32 := by
  simp only [Shape.isLetter, Bool.or_eq_true, Bool.and_eq_true, decide_eq_true_eq, Char.le_def,
    UInt32.le_iff_toNat_le] at hx
  have ha : ('a' : Char).val.toNat = 97 := rfl
  have hz : ('z' : Char).val.toNat = 122 := rfl
  have hA : ('A' : Char).val.toNat = 65 := rfl
  have hZ : ('Z' : Char).val.toNat = 90 := rfl
  unfold Char.toUpper
  split
  · next hl =>
      -- a lower-case letter moves down by 32
      have hv : 97 ≤ x.val.toNat ∧ x.val.toNat ≤ 122 := hl
      show (x.val + ('A'.val - 'a'.val)).toNat - ('A' : Char).val.toNat + 1 = x.val.toNat % 32
      rw [UInt32.toNat_add, UInt32.toNat_sub, hA, ha]
      omega
  · next hl =>
      have hv : ¬(97 ≤ x.val.toNat ∧ x.val.toNat ≤ 122) := hl
      show x.val.toNat - ('A' : Char).val.toNat + 1 = x.val.toNat % 32
      omega

end CodePoint

namespace ClassToken

/-- What `codePoint` makes of a backslash and one character, in the order it tries the rules. -/
theorem codePoint_single (unicode : Bool) (c : Char) :
    codePoint unicode ['\\', c] =
      if c = '0' then some 0
      else if Shape.isOctal c = true ∧ unicode = false then CodePoint.numeral? 8 [c]
      else if c = 'd' ∨ c = 'D' ∨ c = 's' ∨ c = 'S' ∨ c = 'w' ∨ c = 'W' ∨ c = 'c' ∨ c = 'x' ∨
        c = 'u' then none
      else if (c = 'p' ∨ c = 'P') ∧ unicode = true then none
      else if ('1' ≤ c ∧ c ≤ '9') ∧ unicode = true then none
      else some (CodePoint.simpleEscape c) := by
  simp [codePoint, CodePoint.ofEscape]

theorem codePoint_control (unicode : Bool) {x : Char} (hx : Shape.isLetter x = true) :
    codePoint unicode ['\\', 'c', x] = some (x.toNat % 32) := by
  simp [codePoint, CodePoint.ofEscape, hx]
  exact CodePoint.toUpper_sub_A hx

theorem codePoint_hex (unicode : Bool) {p : Char} {h : List Char}
    (hp : p = 'x' ∧ h.length = 2 ∨ p = 'u' ∧ h.length = 4) (hh : ∀ x ∈ h, Shape.isHex x = true) :
    codePoint unicode ('\\' :: p :: h) = some (Shape.hexValue h) := by
  obtain ⟨c, t, rfl⟩ : ∃ c t, h = c :: t := by
    rcases h with _ | ⟨c, t⟩
    · rcases hp with ⟨-, hl⟩ | ⟨-, hl⟩ <;> simp at hl
    · exact ⟨c, t, rfl⟩
  -- at most four hex digits stay below `0x10000`, a code point that fits in a word
  have hv : Shape.hexValue (c :: t) < 0x10000 := by
    have hlt := CodePoint.hexValue_lt hh
    have hpow : 16 ^ (c :: t).length ≤ 0x10000 := by
      rcases hp with ⟨-, hl⟩ | ⟨-, hl⟩ <;> rw [hl] <;> decide
    omega
  have hw : Shape.hexValue (c :: t) ≤ CodePoint.wordMax := by
    unfold CodePoint.wordMax
    omega
  -- a hex digit is no brace, so the digits are read as they stand
  have hc : c ≠ '{' := by
    rintro rfl
    simp [Shape.isHex, Shape.isDigit] at hh
  have hpc : p ≠ 'c' := by rcases hp with ⟨rfl, -⟩ | ⟨rfl, -⟩ <;> decide
  have hpxu : (p = 'x' ∨ p = 'u') := by rcases hp with ⟨rfl, -⟩ | ⟨rfl, -⟩ <;> simp
  simp [codePoint, CodePoint.ofEscape, hpc, hpxu, CodePoint.unbrace, hc,
    CodePoint.numeral?_hex (List.cons_ne_nil c t) hh, hw]
  omega

theorem codePoint_octal {ds : List Char} (hne : ds ≠ []) (hoct : ∀ x ∈ ds, Shape.isOctal x = true)
    (hv : octalValue ds ≤ 0o377) : codePoint false ('\\' :: ds) = some (octalValue ds) := by
  obtain ⟨d, r, rfl⟩ := List.exists_cons_of_ne_nil hne
  have hd := hoct d List.mem_cons_self
  have hcxu : d ≠ 'c' ∧ d ≠ 'x' ∧ d ≠ 'u' := by
    refine ⟨?_, ?_, ?_⟩ <;> rintro rfl <;> simp [Shape.isOctal] at hd
  have hnum := CodePoint.numeral?_octal hne hoct (le_trans hv (by decide))
  by_cases h0 : d = '0' ∧ r = []
  · obtain ⟨rfl, rfl⟩ := h0
    rfl
  · simp only [codePoint, CodePoint.ofEscape]
    simp [hcxu, hd, hnum]
    intro h0' hr
    exact absurd ⟨h0', hr⟩ h0

theorem codePoint_decimal {d : Char} (hd : '1' ≤ d ∧ d ≤ '9') :
    codePoint true ['\\', d] = none := by
  have h0 : d ≠ '0' := by
    rintro rfl
    simp at hd
  rw [codePoint_single]
  simp [h0, hd.1, hd.2]

theorem codePoint_identity {unicode : Bool} {c : Char} (hc : EscapesToItself unicode c) :
    codePoint unicode ['\\', c] = some c.toNat := by
  simp only [EscapesToItself, controlEscapes, shorthandLetters, List.map, List.mem_cons,
    List.not_mem_nil, or_false, not_or] at hc
  obtain ⟨⟨hb, hf, hn, hr, ht, hv⟩, ⟨hd, hD, hs, hS, hw, hW⟩, ⟨hcc, hx, hu, h0⟩, hmode⟩ := hc
  have hself : CodePoint.simpleEscape c = c.toNat := by
    simp [CodePoint.simpleEscape, hb, hf, hn, hr, ht, hv]
  rw [codePoint_single]
  cases unicode with
  | false =>
      -- no legacy octal digit is left
      simp only [Bool.false_eq_true, ↓reduceIte] at hmode
      have hoct : Shape.isOctal c = false := by
        rw [Bool.eq_false_iff, ne_eq, Shape.isOctal_iff]
        rintro (h | h)
        · exact h0 h
        · exact hmode h
      simp [hd, hD, hs, hS, hw, hW, hcc, hx, hu, h0, hoct, hself]
  | true =>
      simp only [↓reduceIte] at hmode
      simp [hd, hD, hs, hS, hw, hW, hcc, hx, hu, h0, hmode, hself]

/-- Every shape is read by `codePoint` as the grammar reads it. -/
theorem Denotes.codePoint_eq {unicode : Bool} {text : List Char} {v : Option Nat}
    (h : Denotes unicode text v) : codePoint unicode text = v := by
  cases h with
  | char hc => exact codePoint_cons hc _ _
  | control hx => exact codePoint_control _ hx
  | hex hp hh => exact codePoint_hex _ hp hh
  | braced hne hh => exact codePoint_braced true hne hh
  | octal hne _ hoct hv => exact codePoint_octal hne hoct hv
  | nul => rfl
  | controlEscape hc =>
      simp only [controlEscapes, List.mem_cons, Prod.mk.injEq, List.not_mem_nil, or_false] at hc
      rcases hc with ⟨rfl, rfl⟩ | ⟨rfl, rfl⟩ | ⟨rfl, rfl⟩ | ⟨rfl, rfl⟩ | ⟨rfl, rfl⟩ | ⟨rfl, rfl⟩ <;>
        rfl
  | shorthand hc =>
      simp only [shorthandLetters, List.mem_cons, List.not_mem_nil, or_false] at hc
      rcases hc with rfl | rfl | rfl | rfl | rfl | rfl <;> rfl
  | lone => rfl
  | incomplete hc =>
      simp only [List.mem_cons, List.not_mem_nil, or_false] at hc
      rcases hc with rfl | rfl | rfl <;> rfl
  | property hp =>
      -- longer or not, a property escape stands for no character
      rename_i rest
      rcases hp with rfl | rfl <;> cases rest <;> rfl
  | decimal hd => exact codePoint_decimal hd
  | zeroDigits hne _ =>
      obtain ⟨d, ds, rfl⟩ := List.exists_cons_of_ne_nil hne
      rfl
  | identity hc => exact codePoint_identity hc

end ClassToken

/-! ## The shapes the class lexer cuts -/

/-- One octal digit is a legacy octal escape. -/
theorem octalValue_digit_le {c : Char} (hc : Shape.isOctal c = true) : octalValue [c] ≤ 0o377 := by
  simp only [Shape.isOctal, Bool.and_eq_true, decide_eq_true_eq] at hc
  have h7 : c.toNat ≤ 55 := hc.2
  simp [octalValue]
  omega

theorem Shape.octalExtent_le_three (cs : List Char) : Shape.octalExtent cs ≤ 3 := by
  unfold Shape.octalExtent
  split
  · simp
  · dsimp only
    refine le_trans (List.takeWhile_prefix _).length_le (le_trans (List.length_take_le _ _) ?_)
    split_ifs <;> omega

/-- A legacy octal escape is one to three octal digits, of value at most `0o377`. -/
theorem octalEscape_take {c : Char} (hc : Shape.isOctal c = true) (after : List Char) :
    (c :: after).take (Shape.octalExtent (c :: after)) ≠ [] ∧
      ((c :: after).take (Shape.octalExtent (c :: after))).length ≤ 3 ∧
      (∀ x ∈ (c :: after).take (Shape.octalExtent (c :: after)), Shape.isOctal x = true) ∧
      octalValue ((c :: after).take (Shape.octalExtent (c :: after))) ≤ 0o377 := by
  have hlen : ((c :: after).take (Shape.octalExtent (c :: after))).length ≤ 3 :=
    le_trans (List.length_take_le _ _) (Shape.octalExtent_le_three _)
  rcases Shape.isOctal_iff.1 hc with rfl | h17
  · -- after `0` come at most two more octal digits
    have hext : Shape.octalExtent ('0' :: after) =
        ((after.take 2).takeWhile Shape.isOctal).length + 1 := by
      simp [Shape.octalExtent, hc]
    have hpre : (after.take 2).takeWhile Shape.isOctal <+: after :=
      (List.takeWhile_prefix _).trans (List.take_prefix 2 after)
    rw [hext, List.take_succ_cons, ← List.prefix_iff_eq_take.1 hpre] at hlen ⊢
    set r := (after.take 2).takeWhile Shape.isOctal
    have hall : ∀ x ∈ r, Shape.isOctal x = true := fun x hx => List.mem_takeWhile_imp hx
    have hrlen : r.length ≤ 2 := by simp at hlen; omega
    refine ⟨List.cons_ne_nil _ _, hlen, ?_, ?_⟩
    · rintro x (_ | ⟨_, hx⟩)
      · exact hc
      · exact hall x hx
    · have hlt := foldl_octal_lt hall 0
      have hpow : 8 ^ r.length ≤ 64 := by
        calc 8 ^ r.length ≤ 8 ^ 2 := Nat.pow_le_pow_right (by decide) hrlen
          _ = 64 := rfl
      rw [octalValue_cons, Nat.sub_self]
      simp only [zero_add, one_mul] at hlt
      omega
  · obtain ⟨⟨hpre, hall, hv⟩, hmax⟩ := longestOctalPrefix_octalExtent after h17
    -- the digit alone is a legacy octal escape, so the longest one is not empty
    have hone : OctalPrefix (c :: after) [c] :=
      ⟨List.cons_prefix_cons.2 ⟨rfl, List.nil_prefix⟩, by simp [hc], octalValue_digit_le hc⟩
    refine ⟨List.ne_nil_of_length_pos (lt_of_lt_of_le (by simp) (hmax _ hone)), hlen, hall, hv⟩

namespace ClassToken

/-- A backslash and any one character stands for something. -/
theorem exists_denotes_single (unicode : Bool) (c : Char) : ∃ v, Denotes unicode ['\\', c] v := by
  by_cases hctl : c ∈ controlEscapes.map Prod.fst
  · obtain ⟨⟨c', v⟩, hmem, rfl⟩ := List.mem_map.1 hctl
    exact ⟨_, .controlEscape hmem⟩
  by_cases hsh : c ∈ shorthandLetters
  · exact ⟨_, .shorthand hsh⟩
  by_cases hcxu : c ∈ ['c', 'x', 'u']
  · exact ⟨_, .incomplete hcxu⟩
  by_cases h0 : c = '0'
  · subst h0
    exact ⟨_, .nul⟩
  have hstart : c ∉ ['c', 'x', 'u', '0'] := by
    simp only [List.mem_cons, List.not_mem_nil, or_false, not_or] at hcxu ⊢
    exact ⟨hcxu.1, hcxu.2.1, hcxu.2.2, h0⟩
  cases unicode with
  | true =>
      by_cases hp : c = 'p' ∨ c = 'P'
      · exact ⟨_, .property hp⟩
      by_cases hd : '1' ≤ c ∧ c ≤ '9'
      · exact ⟨_, .decimal hd⟩
      · exact ⟨_, .identity ⟨hctl, hsh, hstart, fun h => hp (.inl h), fun h => hp (.inr h), hd⟩⟩
  | false =>
      by_cases hd : '1' ≤ c ∧ c ≤ '7'
      · -- a legacy octal escape of one digit
        have hoct : Shape.isOctal c = true := Shape.isOctal_iff.2 (.inr hd)
        exact ⟨_, .octal (List.cons_ne_nil _ _) (by simp) (by simpa using hoct)
          (octalValue_digit_le hoct)⟩
      · exact ⟨_, .identity ⟨hctl, hsh, hstart, by simpa using hd⟩⟩

/-- Under the legacy rules, what the class lexer cuts after a backslash stands for something. -/
theorem exists_denotes_legacy_escape (R : List Char) :
    ∃ v, Denotes false ('\\' :: R.take (Shape.escapeExtent false .inClass R)) v := by
  cases R with
  | nil => exact ⟨_, .lone⟩
  | cons c after =>
      by_cases hoct : Shape.isOctal c = true
      · -- `0` to `7` start a legacy octal escape
        have hext : Shape.escapeExtent false .inClass (c :: after) =
            Shape.octalExtent (c :: after) := by
          rcases Shape.isOctal_iff.1 hoct with rfl | h17
          · simp [Shape.escapeExtent]
          · simp [Shape.escapeExtent, h17.1, h17.2]
        obtain ⟨hne, hlen, hall, hv⟩ := octalEscape_take hoct after
        rw [hext]
        exact ⟨_, .octal hne hlen hall hv⟩
      by_cases hx : c = 'x' ∧ Shape.hasHex after 2 = true
      · obtain ⟨rfl, hh⟩ := hx
        have hext : Shape.escapeExtent false .inClass ('x' :: after) = 3 := by
          simp [Shape.escapeExtent, hh]
        rw [hext, List.take_succ_cons]
        exact ⟨_, .hex (.inl ⟨rfl, (Shape.hasHex_eq_true hh).1⟩) (Shape.hasHex_eq_true hh).2⟩
      by_cases hu : c = 'u' ∧ Shape.hasHex after 4 = true
      · obtain ⟨rfl, hh⟩ := hu
        have hext : Shape.escapeExtent false .inClass ('u' :: after) = 5 := by
          simp [Shape.escapeExtent, hh]
        rw [hext, List.take_succ_cons]
        exact ⟨_, .hex (.inr ⟨rfl, (Shape.hasHex_eq_true hh).1⟩) (Shape.hasHex_eq_true hh).2⟩
      by_cases hc : c = 'c' ∧ (after.head?.map Shape.isLetter).getD false = true
      · obtain ⟨rfl, hl⟩ := hc
        obtain ⟨l, rest, rfl⟩ : ∃ l rest, after = l :: rest := by
          cases after with
          | nil => simp at hl
          | cons l rest => exact ⟨l, rest, rfl⟩
        have hl' : Shape.isLetter l = true := hl
        have hext : Shape.escapeExtent false .inClass ('c' :: l :: rest) = 2 := by
          simp [Shape.escapeExtent, hl']
        rw [hext]
        exact ⟨_, .control hl'⟩
      · -- any other character is escaped alone
        have h0 : c ≠ '0' := fun h => hoct (Shape.isOctal_iff.2 (.inl h))
        have h17 : ¬('1' ≤ c ∧ c ≤ '7') := fun h => hoct (Shape.isOctal_iff.2 (.inr h))
        have hext : Shape.escapeExtent false .inClass (c :: after) = 1 := by
          simp only [Shape.escapeExtent]
          simp [h0]
          rw [if_neg h17, if_neg hx, if_neg hu, if_neg hc]
        rw [hext]
        exact exists_denotes_single false c

/-- Under the Unicode-aware rules, every escape the class lexer cuts stands for something. -/
theorem exists_denotes_unicode_escape {text : List Char} (h : Shape.ClassEscape text) :
    ∃ v, Denotes true text v := by
  cases h with
  | lone => exact ⟨_, .lone⟩
  | single c => exact exists_denotes_single true c
  | zero hne hds => exact ⟨_, .zeroDigits hne hds⟩
  | hex2 hl hh => exact ⟨_, .hex (.inl ⟨rfl, hl⟩) hh⟩
  | hex4 hl hh => exact ⟨_, .hex (.inr ⟨rfl, hl⟩) hh⟩
  | braced hne hh => exact ⟨_, .braced hne hh⟩
  | control hl => exact ⟨_, .control hl⟩
  | property hp _ _ => exact ⟨_, .property hp⟩

/-- Every token of a class interior stands for something, in either mode. -/
theorem exists_denotes_of_mem_classTokenize {unicode : Bool} {cs : List Char} {t : ClassToken}
    (ht : t ∈ classTokenize unicode cs) : ∃ v, Denotes unicode t.text v := by
  obtain ⟨c, rest, rfl⟩ := exists_shape_of_mem_classTokenize ht
  by_cases hc : c = '\\'
  · subst hc
    rw [ClassToken.shape_backslash]
    cases unicode with
    | false => exact exists_denotes_legacy_escape rest
    | true => exact exists_denotes_unicode_escape (Shape.classEscape_extent rest)
  · exact ⟨_, .char hc⟩

/-! ## Code points of class tokens -/

/-- On every token of a class interior, in either mode, `codePoint` gives exactly the code point
the grammar gives the token: it returns `v` just when the token stands for `v`. -/
theorem codePoint_eq_iff_denotes (unicode : Bool) (cs : List Char) {t : ClassToken}
    (ht : t ∈ classTokenize unicode cs) (v : Option Nat) :
    codePoint unicode t.text = v ↔ Denotes unicode t.text v := by
  obtain ⟨w, hw⟩ := exists_denotes_of_mem_classTokenize ht
  refine ⟨?_, Denotes.codePoint_eq⟩
  rintro rfl
  rwa [hw.codePoint_eq]

theorem codePoint_eq_iff_denotes_sample :
    (⟨.escape, ['\\', 'u', '{', '0', '1', 'F', '6', '0', '0', '}']⟩ : ClassToken) ∈
        classTokenize true ['\\', 'u', '{', '0', '1', 'F', '6', '0', '0', '}', '-', '\\', 'd'] ∧
      (codePoint true ['\\', 'u', '{', '0', '1', 'F', '6', '0', '0', '}'] = some 0x1F600 ↔
        Denotes true ['\\', 'u', '{', '0', '1', 'F', '6', '0', '0', '}'] (some 0x1F600)) :=
  have hmem : (⟨.escape, ['\\', 'u', '{', '0', '1', 'F', '6', '0', '0', '}']⟩ : ClassToken) ∈
      classTokenize true ['\\', 'u', '{', '0', '1', 'F', '6', '0', '0', '}', '-', '\\', 'd'] := by
    decide +kernel
  ⟨hmem, codePoint_eq_iff_denotes true _ hmem _⟩

end ClassToken

end RegexHighlight
