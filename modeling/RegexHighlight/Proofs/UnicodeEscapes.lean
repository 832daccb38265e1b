import RegexHighlight.Proofs.EscapeFallbacks
import RegexHighlight.Proofs.ClassRanges

/-!
# Escapes under the Unicode-aware rules

Under the `u` flag the classifier accepts none of the syntax that only the legacy rules allow.

* An escaped literal is a backslash and a syntax character or `/`, and nothing else.
* No literal holds `{`, `}` or `]`; outside classes, escapes and quantifiers (of which only an
  interval holds a brace) each of them is an error of its own that asks for an escape.
* No escape is cut in two: a decimal escape `\N…` is one backreference or one invalid
  backreference, and `\k…` one backreference, invalid backreference or incomplete token.
* `\0` followed by digits takes all of them and is one invalid escape, in a class as outside.
* `\u{h}` is one metasequence when the hex value of `h` is a code point, and one invalid escape
  otherwise, in a class as outside.
* In a class, an escape that is no error is a class escape, a control escape, `\cX`, `\xHH`,
  `\uHHHH`, `\u{h}` of a code point, `\0`, `\-`, `\/` or an escaped syntax character
  (`AllowedClassEscape`).

## Shape of the proof

The lexer facts come first: what `Shape.escapeExtent` takes after `\0`, `\u{`, a decimal digit
and a syntax character, how the class lexer cuts any escape (`Shape.ClassEscape`), and that a
bracket outside classes, escapes and quantifiers is a token of its own (`shape_bracket`). Then
what the two classifiers make of each shape: `CharClass.allowed_of_classEscape` in a class, and at
the top level `Classifier.escape_unicode` and `Classifier.step_unicode`, by which every token but
a class gives exactly one piece with the token's text. `BlockReading` gathers what the
classification makes of one token, and `classify_block_readings` gives it for every block. A
piece that starts with a backslash is then found either as a top-level escape or as a class
escape, with what the pattern holds after it (`escape_site`, through `class_block_site` for
classes), and the results follow one shape at a time (`classify_unicode_escapes`).
-/

namespace RegexHighlight

/-! ## Lexing escapes -/

namespace Shape

/-- The numeric value of a run of hex digits. -/
def hexValue (h : List Char) : Nat := h.foldl (fun n c => n * 16 + CodePoint.digitValue c) 0

/-- `takeWhile` stops where a text is cut when what follows the cut starts with a character that
fails. -/
theorem takeWhile_append_of_stop {p : Char → Bool} {l rest : List Char}
    (hstop : ∀ c, rest.head? = some c → p c = false) :
    (l ++ rest).takeWhile p = l.takeWhile p := by
  rw [List.takeWhile_append]
  split
  · next hall =>
      rw [(List.takeWhile_prefix p).eq_of_length hall]
      cases rest with
      | nil => simp
      | cons c rest => simp [hstop c rfl]
  · rfl

/-- Under the Unicode-aware rules `\0` takes every digit after it, in a class as in the
pattern. -/
theorem escapeExtent_zero (ctx : EscapeContext) (after : List Char) :
    escapeExtent true ctx ('0' :: after) = 1 + digitRun after := by
  simp [escapeExtent]

/-- `\u{h}`, for a run of hex digits `h`, is one escape under the Unicode-aware rules. -/
theorem escapeExtent_braced (ctx : EscapeContext) {h : List Char} (hne : h ≠ [])
    (hhex : ∀ x ∈ h, isHex x = true) (rest : List Char) :
    escapeExtent true ctx ('u' :: '{' :: (h ++ '}' :: rest)) = h.length + 3 := by
  have hfour : hasHex ('{' :: (h ++ '}' :: rest)) 4 = false := by
    simp [hasHex, show isHex '{' = false by decide]
  have hrun : (h ++ '}' :: rest).takeWhile isHex = h := by
    rw [takeWhile_append_of_stop fun c hc => by
      obtain rfl : c = '}' := by simpa using hc.symm
      decide]
    exact List.takeWhile_eq_self_iff.2 hhex
  have hbraced : bracedHexExtent ('{' :: (h ++ '}' :: rest)) = some (h.length + 2) := by
    have hpos : 0 < h.length := List.length_pos_iff.2 hne
    simp [bracedHexExtent, hrun, hpos]
  simp only [escapeExtent, hfour, hbraced]
  simp
  omega

/-- A syntax character or `/` is escaped alone. -/
theorem escapeExtent_syntax (unicode : Bool) (ctx : EscapeContext) {c : Char}
    (hc : isSyntaxChar c = true ∨ c = '/') (after : List Char) :
    escapeExtent unicode ctx (c :: after) = 1 := by
  simp only [isSyntaxChar, Bool.or_eq_true, decide_eq_true_eq] at hc
  rcases hc with (((((((((((((hc | hc) | hc) | hc) | hc) | hc) | hc) | hc) | hc) | hc) | hc) | hc) |
    hc) | hc) | hc <;> subst hc <;> simp [escapeExtent]

/-- The run a `takeWhile` takes, and the rest. -/
theorem eq_takeWhile_append_drop_length (p : Char → Bool) (cs : List Char) :
    cs = cs.takeWhile p ++ cs.drop (cs.takeWhile p).length := by
  conv_lhs => rw [← List.take_append_drop (cs.takeWhile p).length cs]
  rw [← List.prefix_iff_eq_take.1 (List.takeWhile_prefix _)]

/-- A run of characters that pass `p`, at least one, closed by `}`: the shape both braced
escapes measure. -/
theorem braced_eq_some {p : Char → Bool} {body : List Char} {n : Nat}
    (h : (if (body.takeWhile p).length > 0 &&
        (body.drop (body.takeWhile p).length).head? = some '}'
      then some ((body.takeWhile p).length + 2) else none) = some n) :
    ∃ run rest, body = run ++ '}' :: rest ∧ run ≠ [] ∧ (∀ x ∈ run, p x = true) ∧
      n = run.length + 2 := by
  split at h
  · next hcond =>
      simp only [Bool.and_eq_true, decide_eq_true_eq] at hcond
      obtain ⟨rest, hrest⟩ := List.head?_eq_some_iff.1 hcond.2
      refine ⟨body.takeWhile p, rest, ?_, List.ne_nil_of_length_pos hcond.1,
        fun x hx => List.all_eq_true.1 List.all_takeWhile x hx, (Option.some.inj h).symm⟩
      conv_lhs => rw [eq_takeWhile_append_drop_length p body, hrest]
  · cases h

theorem bracedHexExtent_eq_some {cs : List Char} {n : Nat} (h : bracedHexExtent cs = some n) :
    ∃ hd rest, cs = '{' :: (hd ++ '}' :: rest) ∧ hd ≠ [] ∧ (∀ x ∈ hd, isHex x = true) ∧
      n = hd.length + 2 := by
  unfold bracedHexExtent at h
  split at h
  · next body =>
      obtain ⟨hd, rest, rfl, hne, hhex, rfl⟩ := braced_eq_some h
      exact ⟨hd, rest, rfl, hne, hhex, rfl⟩
  · cases h

theorem propertyExtent_eq_some {cs : List Char} {n : Nat} (h : propertyExtent cs = some n) :
    ∃ name rest, cs = '{' :: (name ++ '}' :: rest) ∧ name ≠ [] ∧
      (∀ x ∈ name, isPropertyChar x = true) ∧ n = name.length + 2 := by
  unfold propertyExtent at h
  split at h
  · next body =>
      obtain ⟨name, rest, rfl, hne, hprop, rfl⟩ := braced_eq_some h
      exact ⟨name, rest, rfl, hne, hprop, rfl⟩
  · cases h

theorem hasHex_eq_true {cs : List Char} {n : Nat} (h : hasHex cs n = true) :
    (cs.take n).length = n ∧ ∀ x ∈ cs.take n, isHex x = true := by
  simp only [hasHex, Bool.and_eq_true, decide_eq_true_eq] at h
  exact ⟨h.1, List.all_eq_true.1 h.2⟩

/-- The escapes the class lexer makes under the Unicode-aware rules, by their text. -/
inductive ClassEscape : List Char → Prop
  /-- A backslash that ends the interior. -/
  | lone : ClassEscape ['\\']
  /-- A backslash and one character. -/
  | single (c : Char) : ClassEscape ['\\', c]
  /-- `\0` and every digit after it. -/
  | zero {ds : List Char} : ds ≠ [] → (∀ x ∈ ds, isDigit x = true) →
      ClassEscape ('\\' :: '0' :: ds)
  /-- `\x` and two hex digits. -/
  | hex2 {h : List Char} : h.length = 2 → (∀ x ∈ h, isHex x = true) → ClassEscape ('\\' :: 'x' :: h)
  /-- `\u` and four hex digits. -/
  | hex4 {h : List Char} : h.length = 4 → (∀ x ∈ h, isHex x = true) → ClassEscape ('\\' :: 'u' :: h)
  /-- `\u{…}` around hex digits. -/
  | braced {h : List Char} : h ≠ [] → (∀ x ∈ h, isHex x = true) →
      ClassEscape ('\\' :: 'u' :: '{' :: (h ++ ['}']))
  /-- `\c` and an ASCII letter. -/
  | control {l : Char} : isLetter l = true → ClassEscape ['\\', 'c', l]
  /-- `\p{…}` or `\P{…}` around a property. -/
  | property {p : Char} {name : List Char} : (p = 'p' ∨ p = 'P') → name ≠ [] →
      (∀ x ∈ name, isPropertyChar x = true) → ClassEscape ('\\' :: p :: '{' :: (name ++ ['}']))

/-- Every escape the class lexer cuts under the Unicode-aware rules has one of the shapes of
`ClassEscape`. -/
theorem classEscape_extent (R : List Char) :
    ClassEscape ('\\' :: R.take (escapeExtent true .inClass R)) := by
  cases R with
  | nil => exact .lone
  | cons c after =>
      by_cases h0 : c = '0'
      · -- `\0` and the digits after it
        subst h0
        rw [escapeExtent_zero, Nat.add_comm, List.take_succ_cons, digitRun,
          ← List.prefix_iff_eq_take.1 (List.takeWhile_prefix _)]
        cases hds : after.takeWhile isDigit with
        | nil => exact .single '0'
        | cons d ds =>
            exact .zero (List.cons_ne_nil _ _) fun x hx =>
              List.all_eq_true.1 List.all_takeWhile x (hds ▸ hx)
      by_cases hx : c = 'x' ∧ hasHex after 2 = true
      · obtain ⟨rfl, hh⟩ := hx
        have hext : escapeExtent true .inClass ('x' :: after) = 3 := by simp [escapeExtent, hh]
        rw [hext, List.take_succ_cons]
        exact .hex2 (hasHex_eq_true hh).1 (hasHex_eq_true hh).2
      by_cases hu4 : c = 'u' ∧ hasHex after 4 = true
      · obtain ⟨rfl, hh⟩ := hu4
        have hext : escapeExtent true .inClass ('u' :: after) = 5 := by simp [escapeExtent, hh]
        rw [hext, List.take_succ_cons]
        exact .hex4 (hasHex_eq_true hh).1 (hasHex_eq_true hh).2
      by_cases hu : c = 'u'
      · subst hu
        have hh : hasHex after 4 = false := by simpa using hu4
        cases hb : bracedHexExtent after with
        | none =>
            have hext : escapeExtent true .inClass ('u' :: after) = 1 := by
              simp [escapeExtent, hh, hb]
            rw [hext]
            exact .single 'u'
        | some n =>
            obtain ⟨h, rest, rfl, hne, hhex, rfl⟩ := bracedHexExtent_eq_some hb
            rw [escapeExtent_braced .inClass hne hhex rest]
            have htake : (h ++ '}' :: rest).take (h.length + 1) = h ++ ['}'] := by
              simp [List.take_append]
            simpa [List.take_succ_cons, htake] using ClassEscape.braced hne hhex
      by_cases hc : c = 'c' ∧ (after.head?.map isLetter).getD false = true
      · obtain ⟨rfl, hl⟩ := hc
        obtain ⟨l, rest, rfl⟩ : ∃ l rest, after = l :: rest := by
          cases after with
          | nil => simp at hl
          | cons l rest => exact ⟨l, rest, rfl⟩
        have hl' : isLetter l = true := hl
        have hext : escapeExtent true .inClass ('c' :: l :: rest) = 2 := by
          simp [escapeExtent, hl']
        rw [hext]
        exact .control hl'
      by_cases hp : c = 'p' ∨ c = 'P'
      · cases hprop : propertyExtent after with
        | none =>
            have hext : escapeExtent true .inClass (c :: after) = 1 := by
              rcases hp with rfl | rfl <;> simp [escapeExtent, hprop]
            rw [hext]
            exact .single c
        | some n =>
            have hext : escapeExtent true .inClass (c :: after) = 1 + n := by
              rcases hp with rfl | rfl <;> simp [escapeExtent, hprop]
            obtain ⟨name, rest, rfl, hne, hname, rfl⟩ := propertyExtent_eq_some hprop
            have htake : (name ++ '}' :: rest).take (name.length + 1) = name ++ ['}'] := by
              simp [List.take_append]
            rw [hext, Nat.add_comm, List.take_succ_cons, List.take_succ_cons, htake]
            exact .property hp hne hname
      · -- any other character is escaped alone
        have hext : escapeExtent true .inClass (c :: after) = 1 := by
          simp [escapeExtent, h0, hu, hp]
          rw [if_neg hx, if_neg hc]
        rw [hext]
        exact .single c

/-- A group name runs up to its `>`. -/
theorem nameExtent_take {cs : List Char} {n : Nat} (h : nameExtent cs = some n) :
    ∀ x ∈ cs.take (n + 1), isNameChar x = true ∨ x = '>' := by
  unfold nameExtent at h
  split at h
  · split at h
    · simp only [Option.ite_none_right_eq_some, Option.some.injEq] at h
      obtain ⟨hclose, rfl⟩ := h
      intro x hx
      rw [List.take_add_one, ← List.head?_drop, hclose,
        ← List.prefix_iff_eq_take.1 (List.takeWhile_prefix _)] at hx
      rcases List.mem_append.1 hx with hx | hx
      · exact .inl (List.all_eq_true.1 List.all_takeWhile x hx)
      · exact .inr (by simpa using hx)
    · cases h
  · cases h

/-- A group opening holds no bracket: after its `(` come only `?`, `<`, `=`, `!`, `:`, a name and
its `>`. -/
theorem groupExtent_no_bracket (cs : List Char) :
    ∀ x ∈ cs.take (groupExtent cs), ¬(x = '{' ∨ x = '}' ∨ x = ']') := by
  unfold groupExtent
  split
  · next rest =>
      split
      · simp
      · simp
      · split
        · next name n hn =>
            intro x hx
            rw [show n + 3 = n + 1 + 1 + 1 by omega, List.take_succ_cons, List.take_succ_cons]
              at hx
            rcases List.mem_cons.1 hx with rfl | hx
            · simp
            rcases List.mem_cons.1 hx with rfl | hx
            · simp
            rcases nameExtent_take hn x hx with hname | rfl
            · rintro (rfl | rfl | rfl) <;>
                simp [isNameChar, isNameStart, isLetter, isDigit] at hname
            · simp
        · simp
      · simp
      · simp
      · simp
      · simp
  · simp

/-- What an escape takes after `\0` and a digit under the Unicode-aware rules: every digit. -/
theorem take_zero_escape (ctx : EscapeContext) {d : Char} (hd : isDigit d = true)
    (rest : List Char) :
    ('0' :: d :: rest).take (escapeExtent true ctx ('0' :: d :: rest)) =
      '0' :: d :: rest.takeWhile isDigit := by
  rw [escapeExtent_zero, Nat.add_comm, List.take_succ_cons, digitRun,
    ← List.prefix_iff_eq_take.1 (List.takeWhile_prefix _), List.takeWhile_cons_of_pos hd]

/-- What an escape takes after `\u{h}` under the Unicode-aware rules: through the `}`. -/
theorem take_braced_escape (ctx : EscapeContext) {h : List Char} (hne : h ≠ [])
    (hhex : ∀ x ∈ h, isHex x = true) (rest : List Char) :
    ('u' :: '{' :: (h ++ '}' :: rest)).take
        (escapeExtent true ctx ('u' :: '{' :: (h ++ '}' :: rest))) =
      'u' :: '{' :: (h ++ ['}']) := by
  rw [escapeExtent_braced ctx hne hhex rest]
  simp [List.take_append]

/-- What an escape of the pattern takes after a digit from 1 to 9: every digit. -/
theorem take_decimal_escape {d : Char} (hd : '1' ≤ d ∧ d ≤ '9') (rest : List Char) :
    (d :: rest).take (escapeExtent true .pattern (d :: rest)) = d :: rest.takeWhile isDigit := by
  rw [escapeExtent_decimal true rest hd, Nat.add_comm, List.take_succ_cons, digitRun,
    ← List.prefix_iff_eq_take.1 (List.takeWhile_prefix _)]

/-- An escape `\k` takes the `k`. -/
theorem escapeExtent_named_pos (rest : List Char) :
    0 < escapeExtent true .pattern ('k' :: rest) := by
  simp only [escapeExtent]
  simp
  split
  · split <;> omega
  · omega

end Shape

/-! ## Where escapes and brackets fall among the tokens -/

theorem Token.shape_backslash (unicode : Bool) (rest : List Char) :
    Token.shape unicode '\\' rest = (.escape, Shape.escapeExtent unicode .pattern rest) := by
  simp [Token.shape]

theorem ClassToken.shape_backslash (unicode : Bool) (rest : List Char) :
    ClassToken.shape unicode '\\' rest = (.escape, Shape.escapeExtent unicode .inClass rest) := by
  simp [ClassToken.shape]

theorem exists_shape_of_classTokenize_eq {unicode : Bool} {cs : List Char}
    {pre post : List ClassToken} {t : ClassToken}
    (h : classTokenize unicode cs = pre ++ t :: post) :
    ∃ c rest, t = ⟨(ClassToken.shape unicode c rest).1,
        c :: rest.take (ClassToken.shape unicode c rest).2⟩ ∧
      post = classTokenize unicode (rest.drop (ClassToken.shape unicode c rest).2) := by
  induction cs using classTokenize.induct unicode generalizing pre with
  | case1 => simp [classTokenize] at h
  | case2 c rest kind n hshape ih =>
      rw [classTokenize, hshape] at h
      cases pre with
      | nil =>
          simp only [List.nil_append, List.cons.injEq] at h
          obtain ⟨rfl, rfl⟩ := h
          exact ⟨c, rest, by simp [hshape], by simp [hshape]⟩
      | cons p pre => exact ih (List.cons.inj h).2

/-- An escape of a pattern is a backslash and what `escapeExtent` takes of the rest of the
pattern. -/
theorem tokenize_escape {unicode : Bool} {cs : List Char} {pre post : List Token} {t : Token}
    (h : tokenize unicode cs = pre ++ t :: post) (hk : t.kind = .escape) :
    ∃ R, t.text ++ (post.map Token.text).flatten = '\\' :: R ∧
      t.text = '\\' :: R.take (Shape.escapeExtent unicode .pattern R) := by
  obtain ⟨c, rest, rfl, hpost⟩ := exists_shape_of_tokenize_eq h
  obtain ⟨-, hesc, -⟩ := Token.shape_spec unicode c rest
  obtain ⟨rfl, hn⟩ := hesc hk
  refine ⟨rest, ?_, by rw [hn]⟩
  rw [hpost, flatten_tokenize]
  simp

/-- A token of a pattern that starts with a backslash is an escape. -/
theorem tokenize_kind_of_backslash {unicode : Bool} {cs : List Char} {pre post : List Token}
    {t : Token} (h : tokenize unicode cs = pre ++ t :: post) (hb : t.text.head? = some '\\') :
    t.kind = .escape := by
  obtain ⟨c, rest, rfl, -⟩ := exists_shape_of_tokenize_eq h
  obtain rfl : c = '\\' := by simpa using hb
  rw [Token.shape_backslash]

/-- A token of a class interior that starts with a backslash is an escape: the backslash and what
`escapeExtent` takes of the rest of the interior. -/
theorem classTokenize_backslash {unicode : Bool} {cs : List Char} {pre post : List ClassToken}
    {t : ClassToken} (h : classTokenize unicode cs = pre ++ t :: post)
    (hb : t.text.head? = some '\\') :
    t.kind = .escape ∧ ∃ R, t.text ++ (post.map ClassToken.text).flatten = '\\' :: R ∧
      t.text = '\\' :: R.take (Shape.escapeExtent unicode .inClass R) := by
  obtain ⟨c, rest, rfl, hpost⟩ := exists_shape_of_classTokenize_eq h
  obtain rfl : c = '\\' := by simpa using hb
  rw [ClassToken.shape_backslash] at hpost ⊢
  refine ⟨rfl, rest, ?_, rfl⟩
  rw [hpost, flatten_classTokenize]
  simp

/-- Under the Unicode-aware rules a bracket `{`, `}` or `]` in a token that is no class, escape or
quantifier is a token of its own, of kind `char`. -/
theorem shape_bracket (c : Char) (rest : List Char) {x : Char}
    (hx : x ∈ c :: rest.take (Token.shape true c rest).2) (hb : x = '{' ∨ x = '}' ∨ x = ']')
    (hk1 : (Token.shape true c rest).1 ≠ .charClass) (hk2 : (Token.shape true c rest).1 ≠ .escape)
    (hk3 : (Token.shape true c rest).1 ≠ .quantifier) :
    (Token.shape true c rest).1 = .char ∧ c :: rest.take (Token.shape true c rest).2 = [x] := by
  rcases List.mem_cons.1 hx with rfl | hx
  · -- the bracket starts the token
    rcases hb with rfl | rfl | rfl
    · cases hint : Shape.intervalExtent rest with
      | some n => exact absurd (by simp [Token.shape, hint]) hk3
      | none => simp [Token.shape, hint]
    · simp [Token.shape, Shape.isSpecial]
    · simp [Token.shape, Shape.isSpecial]
  · -- only a group opening and a literal run take more than their first character, and
    -- neither takes a bracket
    exfalso
    unfold Token.shape at hx hk1 hk2 hk3
    by_cases h1 : c = '['
    · rw [if_pos h1] at hk1
      exact hk1 rfl
    rw [if_neg h1] at hx hk2 hk3
    by_cases h2 : c = '\\'
    · rw [if_pos h2] at hk2
      exact hk2 rfl
    rw [if_neg h2] at hx hk3
    by_cases h3 : c = '('
    · rw [if_pos h3] at hx
      exact Shape.groupExtent_no_bracket rest x hx hb
    rw [if_neg h3] at hx hk3
    by_cases h4 : (c = '?' || c = '*' || c = '+') = true
    · rw [if_pos h4] at hk3
      exact hk3 rfl
    rw [if_neg h4] at hx hk3
    by_cases h5 : c = '{'
    · rw [if_pos h5] at hx hk3
      cases hint : Shape.intervalExtent rest with
      | some n => simp [hint] at hk3
      | none => simp [hint] at hx
    rw [if_neg h5] at hx
    by_cases h6 : (!Shape.isSpecial true c) = true
    · rw [if_pos h6, ← List.prefix_iff_eq_take.1 (List.takeWhile_prefix _)] at hx
      have hx' := List.all_eq_true.1 List.all_takeWhile x hx
      rcases hb with rfl | rfl | rfl <;> simp [Shape.isSpecial] at hx'
    rw [if_neg h6] at hx
    split_ifs at hx <;> simp at hx

/-! ## Code points of braced escapes -/

namespace CodePoint

theorem digitValue_lt_of_isHex {c : Char} (h : Shape.isHex c = true) : digitValue c < 16 := by
  simp only [Shape.isHex, Shape.isDigit, Bool.or_eq_true, Bool.and_eq_true, decide_eq_true_eq,
    Char.le_def, UInt32.le_iff_toNat_le] at h
  unfold digitValue
  simp only [Bool.and_eq_true, decide_eq_true_eq, Char.le_def, UInt32.le_iff_toNat_le, Char.toNat]
  split_ifs <;> simp_all <;> omega

theorem unbrace_braced (h : List Char) : unbrace ('{' :: (h ++ ['}'])) = h := by
  simp [unbrace]

/-- A run of hex digits reads as its hex value, when that fits in a word. -/
theorem numeral?_hex {h : List Char} (hne : h ≠ []) (hhex : ∀ x ∈ h, Shape.isHex x = true) :
    numeral? 16 h = if Shape.hexValue h ≤ wordMax then some (Shape.hexValue h) else none := by
  obtain ⟨c, t, rfl⟩ := List.exists_cons_of_ne_nil hne
  -- a hex digit is no `+`, so the digits are the whole run
  have hc : c ≠ '+' := by
    rintro rfl
    simp [Shape.isHex, Shape.isDigit] at hhex
  have hall : (c :: t).all (digitValue · < 16) = true :=
    List.all_eq_true.2 fun x hx => decide_eq_true (digitValue_lt_of_isHex (hhex x hx))
  simp [numeral?, hc, hall, Shape.hexValue]

end CodePoint

/-- `\u{h}` stands for the hex value of `h` when that is a code point, and for none otherwise. -/
theorem codePoint_braced (unicode : Bool) {h : List Char} (hne : h ≠ [])
    (hhex : ∀ x ∈ h, Shape.isHex x = true) :
    codePoint unicode ('\\' :: 'u' :: '{' :: (h ++ ['}'])) =
      if Shape.hexValue h ≤ 0x10FFFF then some (Shape.hexValue h) else none := by
  simp only [codePoint, CodePoint.ofEscape]
  simp only [show ('u' = 'c') = False by decide, decide_false, Bool.false_and, Bool.false_eq_true,
    if_false, decide_true, Bool.or_true, List.isEmpty_cons, Bool.not_false, Bool.and_self, if_true,
    CodePoint.unbrace_braced, CodePoint.numeral?_hex hne hhex]
  by_cases hv : Shape.hexValue h ≤ 0x10FFFF
  · have hw : Shape.hexValue h ≤ CodePoint.wordMax := le_trans hv (by decide)
    simp [hv, hw]
  · have hgt : 0x10FFFF < Shape.hexValue h := Nat.lt_of_not_le hv
    by_cases hw : Shape.hexValue h ≤ CodePoint.wordMax <;> simp [hv, hw, hgt]

/-! ## Escapes in a class -/

/-- The escapes a class holds without error under the Unicode-aware rules, by their text: a
class escape (`\d \D \s \S \w \W`, `\p{…}`, `\P{…}`), a control escape `\b \f \n \r \t \v`,
`\cX`, `\xHH`, `\uHHHH`, `\u{h}` of a code point, `\0` alone, `\-`, `\/` and an escaped
syntax character. -/
inductive AllowedClassEscape : List Char → Prop
  | shorthand {c : Char} : c = 'd' ∨ c = 'D' ∨ c = 's' ∨ c = 'S' ∨ c = 'w' ∨ c = 'W' →
      AllowedClassEscape ['\\', c]
  | property {p : Char} {name : List Char} : (p = 'p' ∨ p = 'P') → name ≠ [] →
      (∀ x ∈ name, Shape.isPropertyChar x = true) →
      AllowedClassEscape ('\\' :: p :: '{' :: (name ++ ['}']))
  | control {c : Char} : c = 'b' ∨ c = 'f' ∨ c = 'n' ∨ c = 'r' ∨ c = 't' ∨ c = 'v' →
      AllowedClassEscape ['\\', c]
  | controlLetter {l : Char} : Shape.isLetter l = true → AllowedClassEscape ['\\', 'c', l]
  | hex2 {h : List Char} : h.length = 2 → (∀ x ∈ h, Shape.isHex x = true) →
      AllowedClassEscape ('\\' :: 'x' :: h)
  | hex4 {h : List Char} : h.length = 4 → (∀ x ∈ h, Shape.isHex x = true) →
      AllowedClassEscape ('\\' :: 'u' :: h)
  | braced {h : List Char} : h ≠ [] → (∀ x ∈ h, Shape.isHex x = true) →
      Shape.hexValue h ≤ 0x10FFFF → AllowedClassEscape ('\\' :: 'u' :: '{' :: (h ++ ['}']))
  | nul : AllowedClassEscape ['\\', '0']
  | identity {c : Char} : (Shape.isSyntaxChar c = true ∨ c = '-' ∨ c = '/') →
      AllowedClassEscape ['\\', c]

namespace CharClass

open ClassToken

/-- Under the Unicode-aware rules an escape in a class that is no error is complete, and is a
class escape or one of the escapes those rules allow. -/
theorem escape_ne_error {ctx : RangeContext} {text : List Char}
    (h : ∀ d, (escape true ctx text).1 ≠ .error d) :
    isIncomplete true text = false ∧
      (isClassEscape true text = true ∨ isUnicodeEscape text = true) := by
  unfold escape at h
  by_cases hi : isIncomplete true text = true
  · exact (h .incompleteToken (by rw [if_pos hi])).elim
  rw [if_neg hi] at h
  refine ⟨by simpa using hi, ?_⟩
  by_cases hc : isClassEscape true text = true
  · exact .inl hc
  rw [if_neg hc] at h
  by_cases hu : isUnicodeEscape text = true
  · exact .inr hu
  · exact (h .invalidEscape (by rw [if_pos (by simpa using hu)])).elim

theorem escape_invalid {ctx : RangeContext} {text : List Char} (hi : isIncomplete true text = false)
    (hc : isClassEscape true text = false) (hu : isUnicodeEscape text = false) :
    (escape true ctx text).1 = .error .invalidEscape := by
  simp [escape, hi, hc, hu]

theorem escape_valid {ctx : RangeContext} {text : List Char} (hi : isIncomplete true text = false)
    (hc : isClassEscape true text = false) (hu : isUnicodeEscape text = true) :
    (escape true ctx text).1 = .metasequence := by
  simp [escape, hi, hc, hu]

/-- In a class, `\0` followed by digits is an invalid escape. -/
theorem escape_zero (ctx : RangeContext) {ds : List Char} (hne : ds ≠ []) :
    (escape true ctx ('\\' :: '0' :: ds)).1 = .error .invalidEscape := by
  obtain ⟨d, ds, rfl⟩ := List.exists_cons_of_ne_nil hne
  apply escape_invalid <;> simp [isIncomplete, isClassEscape, isUnicodeEscape]

/-- In a class, `\u{h}` is a metasequence when the value of `h` is a code point, and an invalid
escape otherwise. -/
theorem escape_braced (ctx : RangeContext) {h : List Char} (hne : h ≠ [])
    (hhex : ∀ x ∈ h, Shape.isHex x = true) :
    (escape true ctx ('\\' :: 'u' :: '{' :: (h ++ ['}']))).1 =
      if Shape.hexValue h ≤ 0x10FFFF then .metasequence else .error .invalidEscape := by
  have hi : isIncomplete true ('\\' :: 'u' :: '{' :: (h ++ ['}'])) = false := by
    simp [isIncomplete]
  have hc : isClassEscape true ('\\' :: 'u' :: '{' :: (h ++ ['}'])) = false := by
    simp [isClassEscape]
  have hu : isUnicodeEscape ('\\' :: 'u' :: '{' :: (h ++ ['}'])) =
      decide (Shape.hexValue h ≤ 0x10FFFF) := by
    simp only [isUnicodeEscape, codePoint_braced true hne hhex]
    by_cases hv : Shape.hexValue h ≤ 0x10FFFF <;> simp [hv]
  by_cases hv : Shape.hexValue h ≤ 0x10FFFF
  · rw [if_pos hv]
    exact escape_valid hi hc (by simp [hu, hv])
  · rw [if_neg hv]
    exact escape_invalid hi hc (by simp [hu, hv])

/-- A backslash and one character, in a class and no error, is an allowed escape. -/
theorem allowed_single {c : Char} (hi : isIncomplete true ['\\', c] = false)
    (hcu : isClassEscape true ['\\', c] = true ∨ isUnicodeEscape ['\\', c] = true) :
    AllowedClassEscape ['\\', c] := by
  rcases hcu with hc | hu
  · -- the shorthands; a property escape is longer
    refine .shorthand ?_
    simpa [isClassEscape, or_assoc] using hc
  · simp only [isUnicodeEscape, List.isEmpty_nil] at hu
    split_ifs at hu with h0 h1 h2 h3 h4
    · subst h0
      exact .nul
    · -- `\c` and `\x` alone are incomplete
      have hcx : c ≠ 'c' ∧ c ≠ 'x' := by
        constructor <;> rintro rfl <;> simp [isIncomplete] at hi
      refine .control ?_
      simp only [List.mem_cons, List.not_mem_nil, or_false] at h2
      rcases h2 with h | h | h | h | h | h | h | h
      all_goals first | exact absurd h hcx.1 | exact absurd h hcx.2 | simp [h]
    · subst h3
      simp [isIncomplete] at hi
    · exact .identity (by simpa [or_assoc] using Or.inr h4)
    · exact .identity (.inl hu)

/-- Under the Unicode-aware rules, an escape the class lexer cuts that is no error is an allowed
escape. -/
theorem allowed_of_classEscape {ctx : RangeContext} {text : List Char}
    (hs : Shape.ClassEscape text) (h : ∀ d, (escape true ctx text).1 ≠ .error d) :
    AllowedClassEscape text := by
  obtain ⟨hi, hcu⟩ := escape_ne_error h
  cases hs with
  | lone => simp [isIncomplete] at hi
  | single c => exact allowed_single hi hcu
  | zero hne _ => exact (h .invalidEscape (escape_zero ctx hne)).elim
  | hex2 hlen hhex => exact .hex2 hlen hhex
  | hex4 hlen hhex => exact .hex4 hlen hhex
  | braced hne hhex =>
      refine .braced hne hhex (Classical.byContradiction fun hv => h .invalidEscape ?_)
      rw [escape_braced ctx hne hhex, if_neg hv]
  | control hl => exact .controlLetter hl
  | property hp hne hname => exact .property hp hne hname

end CharClass

/-! ## Escapes outside classes -/

namespace Classifier

section Unicode

variable {setting : Setting} (s : Classifier) (pos : Nat)

/-- Under the Unicode-aware rules a decimal escape is one backreference or one invalid
backreference. -/
theorem decimalEscape_unicode (hu : setting.unicode = true) (text : List Char) :
    (s.decimalEscape setting pos text).1 = s.emit pos text .backreference ∨
      (s.decimalEscape setting pos text).1 = s.report pos text .invalidBackreference := by
  unfold decimalEscape
  by_cases hn : min (decimalValue (text.drop 1)) wordLimit ≤ setting.captures.total
  · exact .inl (by rw [if_pos hn])
  · exact .inr (by rw [if_neg hn, if_pos hu])

/-- Under the Unicode-aware rules an escape `\k…` is one backreference, one invalid
backreference or one incomplete token. -/
theorem namedBackreference_unicode (hu : setting.unicode = true) (text : List Char) :
    (s.namedBackreference setting pos text).1 = s.emit pos text .backreference ∨
      (s.namedBackreference setting pos text).1 = s.report pos text .invalidBackreference ∨
      (s.namedBackreference setting pos text).1 = s.report pos text .incompleteToken := by
  unfold namedBackreference
  by_cases hn : setting.captures.hasNames = true
  · rw [if_pos hn]
    cases hname : backreferenceName? text with
    | none => exact .inr (.inr rfl)
    | some name =>
        by_cases hc : setting.captures.names.contains name = true
        · exact .inl (by simp only [if_pos hc])
        · exact .inr (.inl (by simp only [if_neg hc]))
  · rw [if_neg hn, if_pos hu]
    exact .inr (.inl rfl)

/-- Under the Unicode-aware rules an escape is one piece with the escape's text, never a literal,
and an escaped literal only when it escapes a syntax character or `/`. -/
theorem escape_unicode (hu : setting.unicode = true) (text : List Char) :
    ∃ c, (s.escape setting pos text).1.pieces = s.pieces.push (piece pos text c) ∧
      c ≠ .literal ∧
      (c = .escapedLiteral →
        ∃ x d r, text = x :: d :: r ∧ (Shape.isSyntaxChar d = true ∨ d = '/')) := by
  rcases text with _ | ⟨x, _ | ⟨d, r⟩⟩
  · exact ⟨_, rfl, by simp, by simp⟩
  · exact ⟨_, rfl, by simp, by simp⟩
  -- the rules in the order `escape` tries them
  simp only [escape]
  by_cases h1 : ('1' ≤ d && d ≤ '9') = true
  · simp only [if_pos h1]
    rcases decimalEscape_unicode s pos hu (x :: d :: r) with h | h <;> rw [h] <;>
      exact ⟨_, rfl, by simp, by simp⟩
  simp only [if_neg h1]
  by_cases hk : d = 'k'
  · simp only [if_pos hk]
    rcases namedBackreference_unicode s pos hu (x :: d :: r) with h | h | h <;> rw [h] <;>
      exact ⟨_, rfl, by simp, by simp⟩
  simp only [if_neg hk]
  by_cases hp : ((d = 'p' || d = 'P') && setting.unicode) = true
  · simp only [if_pos hp]
    split <;> exact ⟨_, rfl, by simp, by simp⟩
  simp only [if_neg hp]
  by_cases hb : (d = 'b' || d = 'B') = true
  · simp only [if_pos hb]
    exact ⟨_, rfl, by simp, by simp⟩
  simp only [if_neg hb]
  by_cases hcxu : ((d = 'c' || d = 'x' || d = 'u') && (x :: d :: r).length = 2) = true
  · simp only [if_pos hcxu]
    exact ⟨_, rfl, by simp, by simp⟩
  simp only [if_neg hcxu]
  by_cases hcode : (d = 'u' && (codePoint setting.unicode (x :: d :: r)).isNone) = true
  · simp only [if_pos hcode]
    exact ⟨_, rfl, by simp, by simp⟩
  simp only [if_neg hcode]
  by_cases h0 : (d = '0' && setting.unicode && (x :: d :: r).length > 2) = true
  · simp only [if_pos h0]
    exact ⟨_, rfl, by simp, by simp⟩
  simp only [if_neg h0]
  by_cases hm : d ∈ ['d', 'D', 's', 'S', 'w', 'W', 'f', 'n', 'r', 't', 'v', '0', 'c', 'x', 'u']
  · simp only [if_pos hm]
    exact ⟨_, rfl, by simp, by simp⟩
  simp only [if_neg hm]
  by_cases hi : (setting.unicode && !Shape.isSyntaxChar d && d ≠ '/') = true
  · simp only [if_pos hi]
    exact ⟨_, rfl, by simp, by simp⟩
  -- what is left is an escaped syntax character or `/`
  simp only [if_neg hi]
  refine ⟨_, rfl, by simp, fun _ => ⟨x, d, r, rfl, ?_⟩⟩
  simp only [hu, Bool.true_and, Bool.and_eq_true, Bool.not_eq_eq_eq_not, Bool.not_true,
    decide_eq_true_eq, not_and, not_not] at hi
  by_cases hs : Shape.isSyntaxChar d = true
  · exact .inl hs
  · exact .inr (hi (by simpa using hs))

/-- Under the Unicode-aware rules `\0` followed by a digit is one invalid escape. -/
theorem escape_zero_unicode (hu : setting.unicode = true) (x d : Char) (ds : List Char) :
    (s.escape setting pos (x :: '0' :: d :: ds)).1 =
      s.report pos (x :: '0' :: d :: ds) .invalidEscape := by
  simp [escape, hu]

/-- Under the Unicode-aware rules `\u{h}` is one metasequence when the value of `h` is a code
point, and one invalid escape otherwise. -/
theorem escape_braced_unicode (hu : setting.unicode = true) {h : List Char} (hne : h ≠ [])
    (hhex : ∀ x ∈ h, Shape.isHex x = true) :
    (s.escape setting pos ('\\' :: 'u' :: '{' :: (h ++ ['}']))).1 =
      if Shape.hexValue h ≤ 0x10FFFF then
        s.emit pos ('\\' :: 'u' :: '{' :: (h ++ ['}'])) .metasequence
      else s.report pos ('\\' :: 'u' :: '{' :: (h ++ ['}'])) .invalidEscape := by
  by_cases hv : Shape.hexValue h ≤ 0x10FFFF
  · simp [escape, hu, codePoint_braced true hne hhex, hv]
  · simp [escape, hu, codePoint_braced true hne hhex, hv]

/-- Under the Unicode-aware rules every token but a class gives one piece, with the token's
text. -/
theorem step_unicode (hu : setting.unicode = true) (ctx : Context) {t : Token}
    (hk : t.kind ≠ .charClass) :
    ∃ c, (s.step setting ctx pos t).1.pieces = s.pieces.push (piece pos t.text c) := by
  obtain ⟨kind, text⟩ := t
  cases kind with
  | charClass => exact absurd rfl hk
  | groupOpen =>
      simp only [step, groupOpen]
      split_ifs
      · exact ⟨_, rfl⟩
      · split
        · split_ifs
          · exact ⟨_, rfl⟩
          · exact ⟨_, rfl⟩
        · exact ⟨_, rfl⟩
  | groupClose =>
      simp only [step, groupClose]
      split
      · split
        · exact ⟨_, rfl⟩
        · exact ⟨_, rfl⟩
      · exact ⟨_, rfl⟩
  | escape =>
      obtain ⟨c, hc, -⟩ := escape_unicode s pos hu text
      exact ⟨c, hc⟩
  | quantifier =>
      simp only [step, quantifier]
      split
      · exact ⟨_, rfl⟩
      · split
        · exact ⟨_, rfl⟩
        · exact ⟨_, rfl⟩
  | anchor => exact ⟨_, rfl⟩
  | alternator =>
      simp only [step, alternator]
      split
      · exact ⟨_, rfl⟩
      · exact ⟨_, rfl⟩
  | dot => exact ⟨_, rfl⟩
  | literal => exact ⟨_, rfl⟩
  | char => exact ⟨.error .requiresEscape, by simp [step, hu]⟩

/-- Under the Unicode-aware rules a character the lexer leaves alone is an error that asks for
an escape. -/
theorem step_char_unicode (hu : setting.unicode = true) (ctx : Context) (text : List Char) :
    (s.step setting ctx pos ⟨.char, text⟩).1 = s.report pos text .requiresEscape := by
  simp [step, hu]

variable {s pos} {ctx : Context} {new ps : List Piece}

/-- Under the Unicode-aware rules the block of a token other than a class is one piece with the
token's text: the piece its step appends, unless `finish` reports it as a group left open. -/
theorem block_unicode (hu : setting.unicode = true) {t : Token} (hk : t.kind ≠ .charClass)
    (hnew : (s.step setting ctx pos t).1.pieces.toList = s.pieces.toList ++ new)
    (hfin : List.Forall₂ Piece.Finished new ps) :
    ∃ c q, (s.step setting ctx pos t).1.pieces = s.pieces.push (piece pos t.text c) ∧ ps = [q] ∧
      q.text.toList = t.text ∧
      (q.category = c ∨ (∃ d, c = .group d) ∧ q.category = .error .unbalancedLeftParen) := by
  obtain ⟨c, hc⟩ := step_unicode s pos hu ctx hk
  rw [hc, Array.toList_push, List.append_cancel_left_eq] at hnew
  subst hnew
  obtain ⟨q, hq, rfl⟩ : ∃ q, (piece pos t.text c).Finished q ∧ ps = [q] := by
    cases hfin with
    | cons hq hrest =>
        cases hrest
        exact ⟨_, hq, rfl⟩
  refine ⟨c, q, hc, rfl, ?_, hq.category_eq⟩
  rcases hq with rfl | ⟨d, -, rfl⟩ <;> simp [piece, Piece.markUnclosed]

end Unicode

end Classifier

/-! ## Escapes in class blocks -/

namespace CharClass

/-- A piece among the interior pieces of a class stands for one interior token: it has the
token's text, the pieces after it have the texts of the tokens after it, and an escape has the
category `escape` gives it in the context the tokens before it leave. -/
theorem interior_site (unicode : Bool) (ts : List ClassToken) (ctx : RangeContext)
    (qa : List Piece) (q : Piece) (qb : List Piece)
    (h : (qa ++ q :: qb).map Piece.reading =
      (ts.map ClassToken.text).zip (categories unicode ctx ts)) :
    ∃ ta e tb ctx', ts = ta ++ e :: tb ∧ q.text.toList = e.text ∧
      qb.map (fun q => q.text.toList) = tb.map ClassToken.text ∧
      (e.kind = .escape → q.category = (escape unicode ctx' e.text).1) := by
  induction ts generalizing ctx qa with
  | nil => simp at h
  | cons t ts ih =>
      simp only [List.map_cons, categories, List.zip_cons_cons] at h
      cases qa with
      | nil =>
          simp only [List.nil_append, List.map_cons, List.cons.injEq] at h
          obtain ⟨hq, hqb⟩ := h
          refine ⟨[], t, ts, ctx, rfl, congrArg Prod.fst hq, ?_, fun hk => ?_⟩
          · have := congrArg (List.map Prod.fst) hqb
            rwa [List.map_map, List.map_fst_zip (by simp [length_categories])] at this
          · have := congrArg Prod.snd hq
            simpa [Piece.reading, hk] using this
      | cons p qa =>
          simp only [List.cons_append, List.map_cons, List.cons.injEq] at h
          obtain ⟨ta, e, tb, ctx', rfl, htext, hqb, hcat⟩ := ih _ qa h.2
          exact ⟨t :: ta, e, tb, ctx', rfl, htext, hqb, hcat⟩

end CharClass

/-- The closing pieces of a class are its `]` alone, and a class with none is the last token of
the pattern. -/
theorem closing_pieces {text : List Char} {post : List Token} (hext : ClassExtent text post)
    {cls : List Piece}
    (hcls : cls.map Piece.reading = if (ClassParts.ofText text).closed then
      [((ClassParts.ofText text).closing, .classBoundary)] else []) :
    (∀ r ∈ cls, r.text.toList = [']']) ∧
      ((cls.map fun q => q.text.toList).flatten = [']'] ∨
        (cls.map fun q => q.text.toList).flatten = [] ∧ post = []) := by
  obtain ⟨-, -, hclose⟩ := hext
  have htexts : cls.map (fun q => q.text.toList) = (cls.map Piece.reading).map Prod.fst := by
    simp [Function.comp_def, Piece.reading]
  rcases hclose with ⟨hc, -⟩ | ⟨hc, -, hpost⟩
  · have hclosed : (ClassParts.ofText text).closed = true := by simp [ClassParts.closed, hc]
    rw [hclosed, if_pos rfl, hc] at hcls
    refine ⟨fun r hr => ?_, .inl (by rw [htexts, hcls]; rfl)⟩
    have hmem : r.reading ∈ cls.map Piece.reading := List.mem_map_of_mem hr
    rw [hcls, List.mem_singleton] at hmem
    exact congrArg Prod.fst hmem
  · have hclosed : (ClassParts.ofText text).closed = false := by simp [ClassParts.closed, hc]
    simp only [hclosed, Bool.false_eq_true, if_false, List.map_eq_nil_iff] at hcls
    subst hcls
    exact ⟨by simp, .inr ⟨rfl, hpost⟩⟩

/-- A piece of a class block that starts with a backslash is an interior escape. Its text is the
backslash and what `escapeExtent` takes of the rest `R` of the interior; after it the block holds
the rest of the interior and then either the closing `]` or, in a class never closed, nothing,
with no token after the class. Its category is what `escape` gives it in some context. -/
theorem class_block_site {text : List Char} {post : List Token} (hext : ClassExtent text post)
    {ps qa qb : List Piece} {q : Piece} (hparts : ps.map Piece.reading = CharClass.parts true text)
    (hsplit : ps = qa ++ q :: qb) (hb : q.text.toList.head? = some '\\') :
    ∃ R T ctx, q.text.toList ++ (qb.map fun q => q.text.toList).flatten = '\\' :: (R ++ T) ∧
      (T = [']'] ∨ T = [] ∧ post = []) ∧
      q.text.toList = '\\' :: R.take (Shape.escapeExtent true .inClass R) ∧
      q.category = (CharClass.escape true ctx q.text.toList).1 := by
  simp only [CharClass.parts] at hparts
  obtain ⟨o, rest, rfl, ho, hrest⟩ := List.map_eq_cons_iff.1 hparts
  obtain ⟨ints, cls, rfl, hints, hcls⟩ := List.map_eq_append_iff.1 hrest
  obtain ⟨hclsText, hT⟩ := closing_pieces hext hcls
  cases qa with
  | nil =>
      -- the opening starts with `[`
      obtain ⟨hqo, -⟩ := List.cons.inj hsplit
      have ho' : q.text.toList = (ClassParts.ofText text).opening := by
        rw [← hqo]
        exact congrArg Prod.fst ho
      rcases hext.2.1 with ⟨h, -⟩ | h <;> simp [ho', h] at hb
  | cons p qa =>
      obtain ⟨-, hsplit⟩ := List.cons.inj hsplit
      rcases List.append_eq_append_iff.1 hsplit with ⟨a', -, hcl⟩ | ⟨c', hint, hq⟩
      · have := hclsText q (by rw [hcl]; exact List.mem_append_right _ List.mem_cons_self)
        simp [this] at hb
      cases c' with
      | nil =>
          rw [List.nil_append] at hq
          have := hclsText q (by rw [← hq]; exact List.mem_cons_self)
          simp [this] at hb
      | cons q' c'' =>
          obtain ⟨rfl, rfl⟩ := List.cons.inj hq
          rw [hint] at hints
          obtain ⟨ta, e, tb, ctx, hts, htext, hqb, hcat⟩ :=
            CharClass.interior_site true _ _ qa q c'' hints
          obtain ⟨hk, R, hR, he⟩ := classTokenize_backslash hts (htext ▸ hb)
          refine ⟨R, (cls.map fun q => q.text.toList).flatten, ctx, ?_, hT, htext ▸ he,
            htext ▸ hcat hk⟩
          rw [htext]
          simp only [List.append_eq, List.map_append, List.flatten_append]
          rw [hqb, ← List.append_assoc, hR]
          rfl

/-! ## Blocks under the Unicode-aware rules -/

/-- What the classification makes of one token under the Unicode-aware rules, as `finish`
leaves it. -/
structure BlockReading (b : Token × List Piece) : Prop where
  /-- A class is its parts. -/
  parts : b.1.kind = .charClass → b.2.map Piece.reading = CharClass.parts true b.1.text
  /-- Any other token is one piece with the token's text. -/
  single : b.1.kind ≠ .charClass → ∃ q, b.2 = [q] ∧ q.text.toList = b.1.text
  /-- Each piece has a category the token's kind allows, or reports a group left open. -/
  allows : ∀ q ∈ b.2,
    b.1.kind.allows q.category = true ∨ q.category = .error .unbalancedLeftParen
  /-- An escape is what `escape` appends under the Unicode-aware rules. -/
  escape : b.1.kind = .escape → ∃ (setting : Setting) (s : Classifier) (pos : Nat),
    setting.unicode = true ∧
      (s.escape setting pos b.1.text).1.pieces.toList = s.pieces.toList ++ b.2
  /-- A character the lexer leaves alone asks for an escape. -/
  char : b.1.kind = .char → b.2.map Piece.category = [.error .requiresEscape]

/-- A step under the Unicode-aware rules, as `finish` leaves its pieces, reads its token as
`BlockReading` says. -/
theorem blockReading_of_step {setting : Setting} (hu : setting.unicode = true) {s : Classifier}
    {ctx : Context} {pos : Nat} {t : Token} {new ps : List Piece} (ht : t.text ≠ [])
    (hnew : (s.step setting ctx pos t).1.pieces.toList = s.pieces.toList ++ new)
    (hfin : List.Forall₂ Piece.Finished new ps) : BlockReading (t, ps) where
  parts hk := by
    obtain ⟨new', hnew', hok⟩ := Classifier.blockOK_step setting s ctx pos ht
    obtain rfl : new' = new := List.append_cancel_left (hnew'.symm.trans hnew)
    rw [hu] at hok
    exact (@blockParts_of_finished true _ (t, ps) hok ⟨rfl, hfin⟩).1 hk
  single hk := by
    obtain ⟨-, q, -, rfl, htext, -⟩ := Classifier.block_unicode hu hk hnew hfin
    exact ⟨q, rfl, htext⟩
  allows q hq := by
    obtain ⟨new', hnew', -, hallow⟩ := Classifier.appends_step setting s pos ctx ht
    obtain rfl : new' = new := List.append_cancel_left (hnew'.symm.trans hnew)
    obtain ⟨p, hp, hpq⟩ := exists_of_mem_of_forall₂ hfin hq
    rcases hpq.category_eq with h | ⟨-, h⟩
    · exact .inl (h ▸ hallow p hp)
    · exact .inr h
  escape hk := by
    obtain ⟨kind, text⟩ := t
    obtain rfl : kind = .escape := hk
    exact ⟨setting, s, pos, hu, Classifier.escape_block setting ht hnew hfin⟩
  char hk := by
    obtain ⟨kind, text⟩ := t
    obtain rfl : kind = .char := hk
    obtain rfl := Classifier.eq_of_finished_of_not_group setting ht rfl hnew hfin
    rw [Classifier.step_char_unicode s pos hu ctx text] at hnew
    simpa [Function.comp_def, Piece.reading] using
      congrArg (List.map Prod.snd) (Classifier.reading_report hnew)

/-- Under the Unicode-aware rules the classification of a pattern falls into one block per token,
each read as `BlockReading` says. -/
theorem classify_block_readings (pattern : String) (mode : Mode) (hu : mode.unicode = true)
    (hv : mode.unicodeSets = false) :
    ∃ blocks : List (Token × List Piece),
      blocks.map Prod.fst = tokenize true pattern.toList ∧
      classify pattern mode = .ok (blocks.map Prod.snd).flatten ∧
      ∀ b ∈ blocks, BlockReading b := by
  have hua : mode.unicodeAware = true := by simp [Mode.unicodeAware, hu]
  obtain ⟨blocks, hfst, hcl, hread⟩ := classify_reads pattern mode hv
  rw [hua] at hfst
  refine ⟨blocks, hfst, hcl, fun b hb => ?_⟩
  obtain ⟨pre, post, hsplit⟩ := List.append_of_mem hb
  obtain ⟨s, pos, new, -, hnew, hfin⟩ := hread pre b post hsplit
  have ht : b.1.text ≠ [] := text_ne_nil_of_mem_tokenize (hfst ▸ List.mem_map_of_mem hb)
  exact blockReading_of_step (by simp [Setting.ofPattern, hua]) ht hnew hfin

/-- The texts of a block's pieces make up its token's text. -/
theorem BlockReading.texts {b : Token × List Piece} (h : BlockReading b) :
    (b.2.map fun q => q.text.toList).flatten = b.1.text := by
  by_cases hk : b.1.kind = .charClass
  · calc (b.2.map fun q => q.text.toList).flatten
        = ((b.2.map Piece.reading).map Prod.fst).flatten := by
          simp [Function.comp_def, Piece.reading]
      _ = ((CharClass.parts true b.1.text).map Prod.fst).flatten := by rw [h.parts hk]
      _ = b.1.text := CharClass.flatten_parts true b.1.text
  · obtain ⟨q, hq, htext⟩ := h.single hk
    simp [hq, htext]

theorem texts_flatten {bs : List (Token × List Piece)} (h : ∀ b ∈ bs, BlockReading b) :
    (((bs.map Prod.snd).flatten).map fun q => q.text.toList).flatten =
      ((bs.map Prod.fst).map Token.text).flatten := by
  induction bs with
  | nil => rfl
  | cons b bs ih =>
      simp only [List.map_cons, List.flatten_cons, List.map_append, List.flatten_append]
      rw [(h b List.mem_cons_self).texts, ih fun b' hb' => h b' (List.mem_cons_of_mem _ hb')]

/-- An element of the flattened blocks lies in one block. -/
theorem exists_block_of_flatten_eq {α β : Type} {bs : List (α × List β)} {pre post : List β}
    {q : β} (h : (bs.map Prod.snd).flatten = pre ++ q :: post) :
    ∃ bpre b bpost qa qb, bs = bpre ++ b :: bpost ∧ b.2 = qa ++ q :: qb ∧
      post = qb ++ (bpost.map Prod.snd).flatten := by
  induction bs generalizing pre with
  | nil => simp at h
  | cons b bs ih =>
      simp only [List.map_cons, List.flatten_cons] at h
      rcases List.append_eq_append_iff.1 h with ⟨a', -, hrest⟩ | ⟨c', hb2, hq⟩
      · obtain ⟨bpre, b', bpost, qa, qb, rfl, hb', hpost⟩ := ih hrest
        exact ⟨b :: bpre, b', bpost, qa, qb, rfl, hb', hpost⟩
      cases c' with
      | nil =>
          obtain ⟨bpre, b', bpost, qa, qb, rfl, hb', hpost⟩ :=
            ih (show (bs.map Prod.snd).flatten = [] ++ q :: post by simpa using hq.symm)
          exact ⟨b :: bpre, b', bpost, qa, qb, rfl, hb', hpost⟩
      | cons x c'' =>
          obtain ⟨rfl, rfl⟩ := List.cons.inj hq
          exact ⟨[], b, bs, pre, c'', rfl, hb2, rfl⟩

/-- A cut of a text before something that starts with `]`, or at its end, falls after any prefix
that holds no `]`. -/
theorem eq_append_of_append_eq {R T P S : List Char} (h : R ++ T = P ++ S)
    (hT : T = [] ∨ T.head? = some ']') (hP : ']' ∉ P) : ∃ R', R = P ++ R' ∧ S = R' ++ T := by
  rcases List.append_eq_append_iff.1 h with ⟨a', hP', hT'⟩ | ⟨c', hR, hS⟩
  · cases a' with
    | nil => exact ⟨[], by simpa using hP'.symm, by simpa using hT'.symm⟩
    | cons x a'' =>
        -- the cut falls inside the prefix, at a `]`
        exfalso
        rcases hT with rfl | hT
        · simp at hT'
        · rw [hT'] at hT
          obtain rfl : x = ']' := by simpa using hT
          exact hP (hP' ▸ List.mem_append_right _ List.mem_cons_self)
  · exact ⟨c', hR, hS⟩

theorem tokenize_split {cs : List Char} {blocks pre post : List (Token × List Piece)}
    {b : Token × List Piece} (hfst : blocks.map Prod.fst = tokenize true cs)
    (h : blocks = pre ++ b :: post) :
    tokenize true cs = pre.map Prod.fst ++ b.1 :: post.map Prod.fst := by
  rw [← hfst, h]
  simp

/-- A bracket in a token that is no class, escape or quantifier is a `char` token of its own. -/
theorem tokenize_bracket {cs : List Char} {pre post : List Token} {t : Token}
    (h : tokenize true cs = pre ++ t :: post) {x : Char} (hx : x ∈ t.text)
    (hb : x = '{' ∨ x = '}' ∨ x = ']') (hk1 : t.kind ≠ .charClass) (hk2 : t.kind ≠ .escape)
    (hk3 : t.kind ≠ .quantifier) : t.kind = .char ∧ t.text = [x] := by
  obtain ⟨c, rest, rfl, -⟩ := exists_shape_of_tokenize_eq h
  exact shape_bracket c rest hx hb hk1 hk2 hk3

namespace Classifier

theorem reading_emit {s : Classifier} {pos : Nat} {text : List Char} {c : Category}
    {new : List Piece} (h : (s.emit pos text c).pieces.toList = s.pieces.toList ++ new) :
    new.map Piece.reading = [(text, c)] := by
  simp only [emit_pieces, Array.toList_push, List.append_cancel_left_eq] at h
  simp [← h, Piece.reading, piece]

end Classifier

theorem Piece.reading_singleton {q : Piece} {text : List Char} {c : Category}
    (h : [q].map Piece.reading = [(text, c)]) : q.text.toList = text ∧ q.category = c := by
  simpa [Piece.reading] using h

namespace BlockReading

variable {b : Token × List Piece} (h : BlockReading b)
include h

/-- The piece of an escape is never a literal, and an escaped literal only when it escapes a
syntax character or `/`. -/
theorem escape_category (hk : b.1.kind = .escape) :
    ∀ q ∈ b.2, q.category ≠ .literal ∧
      (q.category = .escapedLiteral →
        ∃ x d r, b.1.text = x :: d :: r ∧ (Shape.isSyntaxChar d = true ∨ d = '/')) := by
  obtain ⟨setting, s, pos, hu, hesc⟩ := h.escape hk
  obtain ⟨c, hpush, hlit, hesc'⟩ := Classifier.escape_unicode s pos hu b.1.text
  rw [hpush, Array.toList_push, List.append_cancel_left_eq] at hesc
  intro q hq
  rw [← hesc, List.mem_singleton] at hq
  subst hq
  exact ⟨hlit, hesc'⟩

/-- A literal piece comes from a literal token. -/
theorem kind_of_literal {q : Piece} (hq : q ∈ b.2) (hc : q.category = .literal) :
    b.1.kind = .literal := by
  have hkind : b.1.kind = .escape ∨ b.1.kind = .literal ∨ b.1.kind = .char := by
    rcases h.allows q hq with ha | ha
    · rw [hc] at ha
      cases hk : b.1.kind <;> simp [hk, TokenKind.allows] at ha ⊢
    · rw [hc] at ha
      cases ha
  rcases hkind with hk | hk | hk
  · exact absurd hc (h.escape_category hk q hq).1
  · exact hk
  · -- a lone character asks for an escape
    have hcat : q.category ∈ b.2.map Piece.category := List.mem_map_of_mem hq
    rw [h.char hk, hc] at hcat
    simp at hcat

end BlockReading

section Sites

variable {cs : List Char} {blocks : List (Token × List Piece)}
  (hfst : blocks.map Prod.fst = tokenize true cs) (hblocks : ∀ b ∈ blocks, BlockReading b)
include hfst hblocks

theorem text_ne_nil_of_mem_blocks {q : Piece} (hq : q ∈ (blocks.map Prod.snd).flatten) :
    q.text.toList ≠ [] := by
  obtain ⟨_, hps, hq⟩ := List.mem_flatten.1 hq
  obtain ⟨b, hb, rfl⟩ := List.mem_map.1 hps
  have ht : b.1.text ≠ [] := text_ne_nil_of_mem_tokenize (hfst ▸ List.mem_map_of_mem hb)
  by_cases hk : b.1.kind = .charClass
  · have hmem : q.reading ∈ CharClass.parts true b.1.text := by
      rw [← (hblocks b hb).parts hk]
      exact List.mem_map_of_mem hq
    exact CharClass.parts_ne_nil true ht _ hmem
  · obtain ⟨q', hq', htext⟩ := (hblocks b hb).single hk
    rw [hq', List.mem_singleton] at hq
    rw [hq, htext]
    exact ht

/-- A piece that starts with a backslash is an escape, read at the top level or in a class. At the
top level its text is the backslash and what `escapeExtent` takes of the rest `R` of the pattern,
and it is what `escape` appends under the Unicode-aware rules. In a class its text is the
backslash and what `escapeExtent` takes of the rest `R` of the interior, after which the pattern
goes on with the closing `]` or ends, and its category is what `escape` gives it in some
context. -/
theorem escape_site {pre post : List Piece} {q : Piece}
    (hsplit : (blocks.map Prod.snd).flatten = pre ++ q :: post)
    (hb : q.text.toList.head? = some '\\') :
    (∃ R, q.text.toList ++ (post.map fun q => q.text.toList).flatten = '\\' :: R ∧
        q.text.toList = '\\' :: R.take (Shape.escapeExtent true .pattern R) ∧
        ∃ (setting : Setting) (s : Classifier) (pos : Nat), setting.unicode = true ∧
          (s.escape setting pos q.text.toList).1.pieces.toList = s.pieces.toList ++ [q]) ∨
    (∃ R T ctx, q.text.toList ++ (post.map fun q => q.text.toList).flatten = '\\' :: (R ++ T) ∧
        (T = [] ∨ T.head? = some ']') ∧
        q.text.toList = '\\' :: R.take (Shape.escapeExtent true .inClass R) ∧
        q.category = (CharClass.escape true ctx q.text.toList).1) := by
  obtain ⟨bpre, b, bpost, qa, qb, hbs, hb2, rfl⟩ := exists_block_of_flatten_eq hsplit
  have htok := tokenize_split hfst hbs
  have hread := hblocks b (hbs ▸ List.mem_append_right _ List.mem_cons_self)
  -- what follows the piece: the rest of its block, then the tokens after it
  have hlater : ((qb ++ (bpost.map Prod.snd).flatten).map fun q => q.text.toList).flatten =
      (qb.map fun q => q.text.toList).flatten ++ ((bpost.map Prod.fst).map Token.text).flatten := by
    rw [List.map_append, List.flatten_append,
      texts_flatten fun b' hb' => hblocks b' (by rw [hbs]; simp [hb'])]
  rw [hlater]
  by_cases hk : b.1.kind = .charClass
  · right
    obtain ⟨R, T, ctx, heq, hT, htext, hcat⟩ :=
      class_block_site (tokenize_class_extent htok hk) (hread.parts hk) hb2 hb
    refine ⟨R, T ++ ((bpost.map Prod.fst).map Token.text).flatten, ctx, ?_, ?_, htext, hcat⟩
    · rw [← List.append_assoc, heq]
      simp
    · rcases hT with rfl | ⟨rfl, hpost⟩
      · exact .inr rfl
      · exact .inl (by rw [hpost]; rfl)
  · left
    obtain ⟨q', hq', htext⟩ := hread.single hk
    rw [hq'] at hb2
    -- the piece is the whole block
    obtain ⟨rfl, rfl, rfl⟩ : qa = [] ∧ q' = q ∧ qb = [] := by
      cases qa with
      | nil =>
          simp only [List.nil_append, List.cons.injEq] at hb2
          exact ⟨rfl, hb2.1, hb2.2.symm⟩
      | cons x qa => simp at hb2
    have hkind := tokenize_kind_of_backslash htok (htext ▸ hb)
    obtain ⟨R, hR, hRt⟩ := tokenize_escape htok hkind
    obtain ⟨setting, s, pos, hu, hesc⟩ := hread.escape hkind
    refine ⟨R, ?_, htext ▸ hRt, setting, s, pos, hu, ?_⟩
    · simpa [htext] using hR
    · rw [htext, hesc, hq']

/-- An escaped literal outside classes is a backslash and one syntax character or `/`. -/
theorem escapedLiteral_site {b : Token × List Piece} (hb : b ∈ blocks) (hk : b.1.kind ≠ .charClass)
    {q : Piece} (hq : q ∈ b.2) (hc : q.category = .escapedLiteral) :
    ∃ c, q.text.toList = ['\\', c] ∧ (Shape.isSyntaxChar c = true ∨ c = '/') := by
  obtain ⟨pre, post, hsplit⟩ := List.append_of_mem hb
  have hr := hblocks b hb
  obtain ⟨q', hq', htext⟩ := hr.single hk
  rw [hq', List.mem_singleton] at hq
  subst hq
  -- only an escape gives an escaped literal
  have hkind : b.1.kind = .escape := by
    rcases hr.allows q (by simp [hq']) with ha | ha
    · rw [hc] at ha
      cases hk' : b.1.kind <;> simp [hk', TokenKind.allows] at ha ⊢
    · rw [hc] at ha
      cases ha
  obtain ⟨x, d, r, htx, hd⟩ := (hr.escape_category hkind q (by simp [hq'])).2 hc
  obtain ⟨R, -, hR⟩ := tokenize_escape (tokenize_split hfst hsplit) hkind
  rw [htx] at hR
  obtain ⟨rfl, hR'⟩ := List.cons.inj hR
  -- the rest of the pattern starts with the escaped character, which the lexer takes alone
  obtain ⟨u, hu⟩ := List.take_prefix (Shape.escapeExtent true .pattern R) R
  rw [← hR'] at hu
  subst hu
  rw [List.cons_append, Shape.escapeExtent_syntax true .pattern hd] at hR'
  obtain rfl : r = [] := by simpa using hR'.symm
  exact ⟨d, by rw [htext, htx], hd⟩

/-- No literal holds a bracket: a bracket in a literal token would make it a token of its own. -/
theorem literal_site {q : Piece} (hq : q ∈ (blocks.map Prod.snd).flatten)
    (hc : q.category = .literal) :
    '{' ∉ q.text.toList ∧ '}' ∉ q.text.toList ∧ ']' ∉ q.text.toList := by
  obtain ⟨_, hps, hq⟩ := List.mem_flatten.1 hq
  obtain ⟨b, hb, rfl⟩ := List.mem_map.1 hps
  obtain ⟨pre, post, hsplit⟩ := List.append_of_mem hb
  have hr := hblocks b hb
  have hkind := hr.kind_of_literal hq hc
  obtain ⟨q', hq', htext⟩ := hr.single (by simp [hkind])
  rw [hq', List.mem_singleton] at hq
  subst hq
  have hno : ∀ x, (x = '{' ∨ x = '}' ∨ x = ']') → x ∉ q.text.toList := by
    intro x hbx hx
    rw [htext] at hx
    obtain ⟨hchar, -⟩ := tokenize_bracket (tokenize_split hfst hsplit) hx hbx
      (by simp [hkind]) (by simp [hkind]) (by simp [hkind])
    rw [hkind] at hchar
    cases hchar
  exact ⟨hno _ (.inl rfl), hno _ (.inr (.inl rfl)), hno _ (.inr (.inr rfl))⟩

/-- A bracket outside classes, escapes and quantifiers is a piece of its own that asks for an
escape. -/
theorem bracket_site {b : Token × List Piece} (hb : b ∈ blocks) (hk1 : b.1.kind ≠ .charClass)
    (hk2 : b.1.kind ≠ .escape) (hk3 : b.1.kind ≠ .quantifier) {x : Char} (hx : x ∈ b.1.text)
    (hbx : x = '{' ∨ x = '}' ∨ x = ']') :
    b.1.text = [x] ∧ b.2.map Piece.reading = [([x], .error .requiresEscape)] := by
  obtain ⟨pre, post, hsplit⟩ := List.append_of_mem hb
  obtain ⟨hchar, htx⟩ := tokenize_bracket (tokenize_split hfst hsplit) hx hbx hk1 hk2 hk3
  have hr := hblocks b hb
  obtain ⟨q, hq, htext⟩ := hr.single (by simp [hchar])
  have hcat := hr.char hchar
  rw [hq] at hcat ⊢
  simp only [List.map_cons, List.map_nil, List.cons.injEq, and_true] at hcat
  simp [Piece.reading, htext, htx, hcat]

/-- A token that, with the pattern after it, starts with a backslash is an escape: the backslash
and what `escapeExtent` takes of the rest, read as `escape` reads it. -/
theorem escape_block_site {pre post : List (Token × List Piece)} {b : Token × List Piece}
    (hsplit : blocks = pre ++ b :: post) {R : List Char}
    (ht : b.1.text ++ (post.map fun b => b.1.text).flatten = '\\' :: R) :
    b.1.text = '\\' :: R.take (Shape.escapeExtent true .pattern R) ∧
      ∃ (setting : Setting) (s : Classifier) (pos : Nat), setting.unicode = true ∧
        (s.escape setting pos b.1.text).1.pieces.toList = s.pieces.toList ++ b.2 := by
  have htok := tokenize_split hfst hsplit
  have hne : b.1.text ≠ [] := text_ne_nil_of_mem_tokenize (by rw [htok]; simp)
  have hhead : b.1.text.head? = some '\\' := by
    simpa [List.head?_append_of_ne_nil _ hne] using congrArg List.head? ht
  have hkind := tokenize_kind_of_backslash htok hhead
  obtain ⟨R', hR', htext⟩ := tokenize_escape htok hkind
  have hlater : ((post.map Prod.fst).map Token.text).flatten =
      (post.map fun b => b.1.text).flatten := by
    simp [Function.comp_def]
  rw [hlater, ht] at hR'
  obtain rfl := (List.cons.inj hR').2
  exact ⟨htext, (hblocks b (by rw [hsplit]; simp)).escape hkind⟩

/-- Under the Unicode-aware rules a decimal escape takes all its digits and is one backreference or
one invalid backreference. -/
theorem decimal_site {pre post : List (Token × List Piece)} {b : Token × List Piece}
    (hsplit : blocks = pre ++ b :: post) {d : Char} {rest : List Char} (hd : '1' ≤ d ∧ d ≤ '9')
    (ht : b.1.text ++ (post.map fun b => b.1.text).flatten = '\\' :: d :: rest) :
    b.1.text = '\\' :: d :: rest.takeWhile Shape.isDigit ∧
      (b.2.map Piece.reading = [(b.1.text, .backreference)] ∨
        b.2.map Piece.reading = [(b.1.text, .error .invalidBackreference)]) := by
  obtain ⟨htext, setting, s, pos, hu, hesc⟩ := escape_block_site hfst hblocks hsplit ht
  rw [Shape.take_decimal_escape hd] at htext
  refine ⟨htext, ?_⟩
  rw [htext, Classifier.escape_decimal setting s pos _ hd] at hesc
  rcases Classifier.decimalEscape_unicode s pos hu ('\\' :: d :: rest.takeWhile Shape.isDigit)
    with h | h <;> rw [h] at hesc
  · exact .inl (by rw [Classifier.reading_emit hesc, htext])
  · exact .inr (by rw [Classifier.reading_report hesc, htext])

/-- Under the Unicode-aware rules an escape `\k…` is one backreference, one invalid backreference
or one incomplete token. -/
theorem named_site {pre post : List (Token × List Piece)} {b : Token × List Piece}
    (hsplit : blocks = pre ++ b :: post) {rest : List Char}
    (ht : b.1.text ++ (post.map fun b => b.1.text).flatten = '\\' :: 'k' :: rest) :
    b.2.map Piece.reading = [(b.1.text, .backreference)] ∨
      b.2.map Piece.reading = [(b.1.text, .error .invalidBackreference)] ∨
      b.2.map Piece.reading = [(b.1.text, .error .incompleteToken)] := by
  obtain ⟨htext, setting, s, pos, hu, hesc⟩ := escape_block_site hfst hblocks hsplit ht
  obtain ⟨n, hn⟩ := Nat.exists_eq_succ_of_ne_zero (Shape.escapeExtent_named_pos rest).ne'
  rw [hn, List.take_succ_cons] at htext
  rw [htext, Classifier.escape_named] at hesc
  rcases Classifier.namedBackreference_unicode s pos hu ('\\' :: 'k' :: rest.take n)
    with h | h | h <;> rw [h] at hesc
  · exact .inl (by rw [Classifier.reading_emit hesc, htext])
  · exact .inr (.inl (by rw [Classifier.reading_report hesc, htext]))
  · exact .inr (.inr (by rw [Classifier.reading_report hesc, htext]))

/-- A piece that, with the pattern after it, starts with a backslash starts with it. -/
theorem head_of_site {pre post : List Piece} {q : Piece}
    (hsplit : (blocks.map Prod.snd).flatten = pre ++ q :: post) {R : List Char}
    (ht : q.text.toList ++ (post.map fun q => q.text.toList).flatten = '\\' :: R) :
    q.text.toList.head? = some '\\' := by
  have hne := text_ne_nil_of_mem_blocks hfst hblocks
    (hsplit ▸ List.mem_append_right _ List.mem_cons_self)
  simpa [List.head?_append_of_ne_nil _ hne] using congrArg List.head? ht

/-- An escape that, with the pattern after it, reads a backslash and then `P`, where `P` holds no
`]`: at the top level, its text is what `escapeExtent` takes of `P ++ S`, and it is what `escape`
appends; in a class, the interior goes on with `P ++ R'` for some cut `S = R' ++ T` before the
closing `]` or the end, its text is what `escapeExtent` takes of `P ++ R'`, and its category is
what `escape` gives it. -/
theorem escape_site_of_prefix {pre post : List Piece} {q : Piece}
    (hsplit : (blocks.map Prod.snd).flatten = pre ++ q :: post) {P S : List Char} (hP : ']' ∉ P)
    (ht : q.text.toList ++ (post.map fun q => q.text.toList).flatten = '\\' :: (P ++ S)) :
    (q.text.toList = '\\' :: (P ++ S).take (Shape.escapeExtent true .pattern (P ++ S)) ∧
        ∃ (setting : Setting) (s : Classifier) (pos : Nat), setting.unicode = true ∧
          (s.escape setting pos q.text.toList).1.pieces.toList = s.pieces.toList ++ [q]) ∨
    (∃ R' T ctx, S = R' ++ T ∧ (T = [] ∨ T.head? = some ']') ∧
        q.text.toList = '\\' :: (P ++ R').take (Shape.escapeExtent true .inClass (P ++ R')) ∧
        q.category = (CharClass.escape true ctx q.text.toList).1) := by
  rcases escape_site hfst hblocks hsplit (head_of_site hfst hblocks hsplit ht) with
    ⟨R, hR, htext, hesc⟩ | ⟨R, T, ctx, hR, hT, htext, hcat⟩
  · -- at the top level, the rest of the pattern is all the lexer reads
    rw [ht] at hR
    obtain rfl := (List.cons.inj hR).2
    exact .inl ⟨htext, hesc⟩
  · -- in a class, the interior ends at a `]`, so after `P`
    rw [ht] at hR
    obtain ⟨R', rfl, hS⟩ := eq_append_of_append_eq (List.cons.inj hR).2.symm hT hP
    exact .inr ⟨R', T, ctx, hS, hT, htext, hcat⟩

/-- Under the Unicode-aware rules `\0` followed by a digit takes all the digits after it and is
one invalid escape, in a class as outside. -/
theorem zero_site {pre post : List Piece} {q : Piece}
    (hsplit : (blocks.map Prod.snd).flatten = pre ++ q :: post) {d : Char} {rest : List Char}
    (hd : Shape.isDigit d = true)
    (ht : q.text.toList ++ (post.map fun q => q.text.toList).flatten = '\\' :: '0' :: d :: rest) :
    q.text.toList = '\\' :: '0' :: d :: rest.takeWhile Shape.isDigit ∧
      q.category = .error .invalidEscape := by
  have hP : ']' ∉ ['0', d] := by
    simp only [List.mem_cons, List.not_mem_nil, or_false, not_or]
    exact ⟨by decide, fun h => by subst h; exact absurd hd (by decide)⟩
  rcases escape_site_of_prefix hfst hblocks hsplit (P := ['0', d]) (S := rest) hP ht with
    ⟨htext, setting, s, pos, hu, hesc⟩ | ⟨R', T, ctx, rfl, hT, htext, hcat⟩
  · rw [List.cons_append, List.cons_append, List.nil_append,
      Shape.take_zero_escape .pattern hd] at htext
    rw [htext, Classifier.escape_zero_unicode s pos hu] at hesc
    exact ⟨htext, (Piece.reading_singleton (Classifier.reading_report hesc)).2⟩
  · -- the digits end before the closing `]`
    have hstop : ∀ c, T.head? = some c → Shape.isDigit c = false := by
      rcases hT with rfl | hT
      · simp
      · intro c hc
        obtain rfl : c = ']' := by simpa [hT] using hc.symm
        decide
    rw [List.cons_append, List.cons_append, List.nil_append,
      Shape.take_zero_escape .inClass hd] at htext
    refine ⟨by rw [htext, Shape.takeWhile_append_of_stop hstop], ?_⟩
    rw [hcat, htext]
    exact CharClass.escape_zero ctx (List.cons_ne_nil _ _)

/-- Under the Unicode-aware rules `\u{h}` is one metasequence when the value of `h` is a code
point and one invalid escape otherwise, in a class as outside. -/
theorem braced_site {pre post : List Piece} {q : Piece}
    (hsplit : (blocks.map Prod.snd).flatten = pre ++ q :: post) {h rest : List Char}
    (hne : h ≠ []) (hhex : ∀ x ∈ h, Shape.isHex x = true)
    (ht : q.text.toList ++ (post.map fun q => q.text.toList).flatten =
      '\\' :: 'u' :: '{' :: (h ++ '}' :: rest)) :
    q.text.toList = '\\' :: 'u' :: '{' :: (h ++ ['}']) ∧
      q.category =
        if Shape.hexValue h ≤ 0x10FFFF then .metasequence else .error .invalidEscape := by
  -- a hex digit is no `]`
  have hP : ']' ∉ 'u' :: '{' :: (h ++ ['}']) := by
    intro hm
    simp only [List.mem_cons, List.mem_append] at hm
    rcases hm with h1 | h1 | h1 | h1
    · exact absurd h1 (by decide)
    · exact absurd h1 (by decide)
    · exact absurd (hhex _ h1) (by decide)
    · exact absurd h1 (by decide)
  have hcut : ∀ R', ('u' :: '{' :: (h ++ ['}'])) ++ R' = 'u' :: '{' :: (h ++ '}' :: R') := by
    simp
  rcases escape_site_of_prefix hfst hblocks hsplit hP (ht.trans (by rw [hcut])) with
    ⟨htext, setting, s, pos, hu, hesc⟩ | ⟨R', T, ctx, -, -, htext, hcat⟩
  · rw [hcut, Shape.take_braced_escape .pattern hne hhex] at htext
    rw [htext, Classifier.escape_braced_unicode s pos hu hne hhex] at hesc
    refine ⟨htext, ?_⟩
    by_cases hv : Shape.hexValue h ≤ 0x10FFFF
    · rw [if_pos hv] at hesc ⊢
      exact (Piece.reading_singleton (Classifier.reading_emit hesc)).2
    · rw [if_neg hv] at hesc ⊢
      exact (Piece.reading_singleton (Classifier.reading_report hesc)).2
  · rw [hcut, Shape.take_braced_escape .inClass hne hhex] at htext
    refine ⟨htext, ?_⟩
    rw [hcat, htext]
    exact CharClass.escape_braced ctx hne hhex

/-- In a class, under the Unicode-aware rules, an escape that is no error is an allowed one. -/
theorem class_allowed_site {b : Token × List Piece} (hb : b ∈ blocks) (hk : b.1.kind = .charClass)
    {q : Piece} (hq : q ∈ b.2) (hbs : q.text.toList.head? = some '\\')
    (hne : ∀ d, q.category ≠ .error d) : AllowedClassEscape q.text.toList := by
  obtain ⟨pre, post, hsplit⟩ := List.append_of_mem hb
  obtain ⟨qa, qb, hq2⟩ := List.append_of_mem hq
  obtain ⟨R, -, ctx, -, -, htext, hcat⟩ := class_block_site
    (tokenize_class_extent (tokenize_split hfst hsplit) hk) ((hblocks b hb).parts hk) hq2 hbs
  rw [hcat] at hne
  refine CharClass.allowed_of_classEscape ?_ hne
  rw [htext]
  exact Shape.classEscape_extent R

end Sites

/-! ## The whole pattern -/

/-- Under the Unicode-aware rules (`u` set, `v` unset) a classification accepts none of the syntax
only the legacy rules allow. Read over the blocks of pieces of the pattern's tokens:

* an escaped literal outside classes is a backslash and a syntax character or `/`;
* no literal holds `{`, `}` or `]`, and each of them outside a class, an escape and a quantifier
  is a token of its own and one error that asks for an escape;
* a decimal escape `\N…` takes all its digits and is one backreference or one invalid
  backreference, and an escape `\k…` is one backreference, invalid backreference or incomplete
  token;
* `\0` followed by a digit takes all the digits after it and is one invalid escape, and `\u{h}`
  is one metasequence when the value of `h` is a code point and one invalid escape otherwise, in
  a class as outside;
* in a class, an escape that is no error is one of `AllowedClassEscape`. -/
theorem classify_unicode_escapes (pattern : String) (mode : Mode) (hu : mode.unicode = true)
    (hv : mode.unicodeSets = false) :
    ∃ blocks : List (Token × List Piece),
      blocks.map Prod.fst = tokenize true pattern.toList ∧
      classify pattern mode = .ok (blocks.map Prod.snd).flatten ∧
      (∀ b ∈ blocks, b.1.kind ≠ .charClass → ∀ q ∈ b.2, q.category = .escapedLiteral →
        ∃ c, q.text.toList = ['\\', c] ∧ (Shape.isSyntaxChar c = true ∨ c = '/')) ∧
      (∀ q ∈ (blocks.map Prod.snd).flatten, q.category = .literal →
        '{' ∉ q.text.toList ∧ '}' ∉ q.text.toList ∧ ']' ∉ q.text.toList) ∧
      (∀ b ∈ blocks, b.1.kind ≠ .charClass → b.1.kind ≠ .escape → b.1.kind ≠ .quantifier →
        ∀ c ∈ b.1.text, (c = '{' ∨ c = '}' ∨ c = ']') →
          b.1.text = [c] ∧ b.2.map Piece.reading = [([c], .error .requiresEscape)]) ∧
      (∀ pre b post, blocks = pre ++ b :: post → ∀ d rest,
        b.1.text ++ (post.map fun b => b.1.text).flatten = '\\' :: d :: rest →
        ('1' ≤ d ∧ d ≤ '9' → b.1.text = '\\' :: d :: rest.takeWhile Shape.isDigit ∧
            (b.2.map Piece.reading = [(b.1.text, .backreference)] ∨
              b.2.map Piece.reading = [(b.1.text, .error .invalidBackreference)])) ∧
        (d = 'k' → b.2.map Piece.reading = [(b.1.text, .backreference)] ∨
            b.2.map Piece.reading = [(b.1.text, .error .invalidBackreference)] ∨
            b.2.map Piece.reading = [(b.1.text, .error .incompleteToken)])) ∧
      (∀ pre q post, (blocks.map Prod.snd).flatten = pre ++ q :: post → ∀ rest,
        (∀ d, Shape.isDigit d = true →
          q.text.toList ++ (post.map fun q => q.text.toList).flatten = '\\' :: '0' :: d :: rest →
          q.text.toList = '\\' :: '0' :: d :: rest.takeWhile Shape.isDigit ∧
            q.category = .error .invalidEscape) ∧
        (∀ h, h ≠ [] → (∀ x ∈ h, Shape.isHex x = true) →
          q.text.toList ++ (post.map fun q => q.text.toList).flatten =
            '\\' :: 'u' :: '{' :: (h ++ '}' :: rest) →
          q.text.toList = '\\' :: 'u' :: '{' :: (h ++ ['}']) ∧
            q.category =
              if Shape.hexValue h ≤ 0x10FFFF then .metasequence else .error .invalidEscape)) ∧
      (∀ b ∈ blocks, b.1.kind = .charClass → ∀ q ∈ b.2, q.text.toList.head? = some '\\' →
        (∀ d, q.category ≠ .error d) → AllowedClassEscape q.text.toList) := by
  obtain ⟨blocks, hfst, hcl, hblocks⟩ := classify_block_readings pattern mode hu hv
  refine ⟨blocks, hfst, hcl, ?_, ?_, ?_, ?_, ?_, ?_⟩
  · intro b hb hk q hq hc
    exact escapedLiteral_site hfst hblocks hb hk hq hc
  · intro q hq hc
    exact literal_site hfst hblocks hq hc
  · intro b hb hk1 hk2 hk3 c hc hbc
    exact bracket_site hfst hblocks hb hk1 hk2 hk3 hc hbc
  · intro pre b post hsplit d rest ht
    refine ⟨fun hd => decimal_site hfst hblocks hsplit hd ht, fun hk => ?_⟩
    subst hk
    exact named_site hfst hblocks hsplit ht
  · intro pre q post hsplit rest
    exact ⟨fun d hd ht => zero_site hfst hblocks hsplit hd ht,
      fun h hne hhex ht => braced_site hfst hblocks hsplit hne hhex ht⟩
  · intro b hb hk q hq hbs hne
    exact class_allowed_site hfst hblocks hb hk hq hbs hne

/-- An instance on `\0123[\u{110000}\d]\/`, where `\0123` is one invalid escape, `\u{110000}` in
the class one invalid escape, `\d` an allowed class escape and `\/` an escaped literal. -/
theorem classify_unicode_escapes_sample :
    ({ unicode := true } : Mode).unicode = true ∧ ({ unicode := true } : Mode).unicodeSets = false ∧
      ∃ blocks : List (Token × List Piece),
        blocks.map Prod.fst = tokenize true "\\0123[\\u{110000}\\d]\\/".toList ∧
        classify "\\0123[\\u{110000}\\d]\\/" { unicode := true } =
          .ok (blocks.map Prod.snd).flatten ∧
        (∀ b ∈ blocks, b.1.kind ≠ .charClass → ∀ q ∈ b.2, q.category = .escapedLiteral →
          ∃ c, q.text.toList = ['\\', c] ∧ (Shape.isSyntaxChar c = true ∨ c = '/')) ∧
        (∀ q ∈ (blocks.map Prod.snd).flatten, q.category = .literal →
          '{' ∉ q.text.toList ∧ '}' ∉ q.text.toList ∧ ']' ∉ q.text.toList) ∧
        (∀ b ∈ blocks, b.1.kind ≠ .charClass → b.1.kind ≠ .escape → b.1.kind ≠ .quantifier →
          ∀ c ∈ b.1.text, (c = '{' ∨ c = '}' ∨ c = ']') →
            b.1.text = [c] ∧ b.2.map Piece.reading = [([c], .error .requiresEscape)]) ∧
        (∀ pre b post, blocks = pre ++ b :: post → ∀ d rest,
          b.1.text ++ (post.map fun b => b.1.text).flatten = '\\' :: d :: rest →
          ('1' ≤ d ∧ d ≤ '9' → b.1.text = '\\' :: d :: rest.takeWhile Shape.isDigit ∧
              (b.2.map Piece.reading = [(b.1.text, .backreference)] ∨
                b.2.map Piece.reading = [(b.1.text, .error .invalidBackreference)])) ∧
          (d = 'k' → b.2.map Piece.reading = [(b.1.text, .backreference)] ∨
              b.2.map Piece.reading = [(b.1.text, .error .invalidBackreference)] ∨
              b.2.map Piece.reading = [(b.1.text, .error .incompleteToken)])) ∧
        (∀ pre q post, (blocks.map Prod.snd).flatten = pre ++ q :: post → ∀ rest,
          (∀ d, Shape.isDigit d = true →
            q.text.toList ++ (post.map fun q => q.text.toList).flatten = '\\' :: '0' :: d :: rest →
            q.text.toList = '\\' :: '0' :: d :: rest.takeWhile Shape.isDigit ∧
              q.category = .error .invalidEscape) ∧
          (∀ h, h ≠ [] → (∀ x ∈ h, Shape.isHex x = true) →
            q.text.toList ++ (post.map fun q => q.text.toList).flatten =
              '\\' :: 'u' :: '{' :: (h ++ '}' :: rest) →
            q.text.toList = '\\' :: 'u' :: '{' :: (h ++ ['}']) ∧
              q.category =
                if Shape.hexValue h ≤ 0x10FFFF then .metasequence else .error .invalidEscape)) ∧
        (∀ b ∈ blocks, b.1.kind = .charClass → ∀ q ∈ b.2, q.text.toList.head? = some '\\' →
          (∀ d, q.category ≠ .error d) → AllowedClassEscape q.text.toList) :=
  ⟨rfl, rfl, classify_unicode_escapes _ _ rfl rfl⟩

end RegexHighlight
