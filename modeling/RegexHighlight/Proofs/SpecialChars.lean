import RegexHighlight.Proofs.UnicodeEscapes

/-!
# Special characters at the top level

The lexer tries its rules in a fixed order, and each character that is special outside classes
falls to one of them. `[` starts a class, `\` an escape, `(` a group opening, `?`, `*` and `+` a
quantifier, and `.`, `^`, `$`, `)` and `|` a token of their own kind (`kind_of_lead`). The kind
`char` takes what is left: a `{` that begins no interval `{m}`, `{m,}` or `{m,n}`, or, only under
the Unicode-aware rules, a lone `}` or `]` (`char_token_cases`). Under the legacy rules `]` and `}`
are not special, so they lie in literal runs, classes and escapes; `}` lies besides in the interval
quantifier it closes (`legacy_bracket_kinds`, and `interval_brace_in_quantifier` for the smallest
case). `tokenize_special_chars` puts the three together for every pattern and mode.

`Token.shape_cases` lists every outcome of the rule once, with its guard, and each fact above is a
case analysis over it.
-/

namespace RegexHighlight

open Shape

/-- Every outcome of the top-level rule, by the first character of the token. -/
theorem Token.shape_cases (unicode : Bool) (c : Char) (rest : List Char) :
    (c = '[' ∧ shape unicode c rest = (.charClass, classExtent rest)) ∨
    (c = '\\' ∧ shape unicode c rest = (.escape, escapeExtent unicode .pattern rest)) ∨
    (c = '(' ∧ shape unicode c rest = (.groupOpen, groupExtent rest)) ∨
    ((c = '?' ∨ c = '*' ∨ c = '+') ∧ shape unicode c rest = (.quantifier, lazyExtent rest)) ∨
    (c = '{' ∧ ∃ n, intervalExtent rest = some n ∧
      shape unicode c rest = (.quantifier, n + lazyExtent (rest.drop n))) ∨
    (c = '{' ∧ intervalExtent rest = none ∧ shape unicode c rest = (.char, 0)) ∨
    (isSpecial unicode c = false ∧
      shape unicode c rest = (.literal, (rest.takeWhile fun d => !isSpecial unicode d).length)) ∨
    (c = ')' ∧ shape unicode c rest = (.groupClose, 0)) ∨
    (c = '|' ∧ shape unicode c rest = (.alternator, 0)) ∨
    ((c = '^' ∨ c = '$') ∧ shape unicode c rest = (.anchor, 0)) ∨
    (c = '.' ∧ shape unicode c rest = (.dot, 0)) ∨
    (unicode = true ∧ (c = ']' ∨ c = '}') ∧ shape unicode c rest = (.char, 0)) := by
  unfold shape
  by_cases h1 : c = '['
  · exact .inl ⟨h1, by rw [if_pos h1]⟩
  rw [if_neg h1]
  by_cases h2 : c = '\\'
  · exact .inr (.inl ⟨h2, by rw [if_pos h2]⟩)
  rw [if_neg h2]
  by_cases h3 : c = '('
  · exact .inr (.inr (.inl ⟨h3, by rw [if_pos h3]⟩))
  rw [if_neg h3]
  by_cases h4 : (c = '?' || c = '*' || c = '+') = true
  · refine .inr (.inr (.inr (.inl ⟨?_, by rw [if_pos h4]⟩)))
    simpa [or_assoc] using h4
  rw [if_neg h4]
  by_cases h5 : c = '{'
  · rw [if_pos h5]
    cases hI : intervalExtent rest with
    | some n => exact .inr (.inr (.inr (.inr (.inl ⟨h5, n, rfl, rfl⟩))))
    | none => exact .inr (.inr (.inr (.inr (.inr (.inl ⟨h5, rfl, rfl⟩)))))
  rw [if_neg h5]
  by_cases h6 : (!isSpecial unicode c) = true
  · rw [if_pos h6]
    exact .inr (.inr (.inr (.inr (.inr (.inr (.inl ⟨by simpa using h6, rfl⟩))))))
  rw [if_neg h6]
  -- what is left is special and has no rule of its own before these
  refine .inr (.inr (.inr (.inr (.inr (.inr (.inr ?_))))))
  by_cases h7 : c = ')'
  · exact .inl ⟨h7, by rw [if_pos h7]⟩
  rw [if_neg h7]
  by_cases h8 : c = '|'
  · exact .inr (.inl ⟨h8, by rw [if_pos h8]⟩)
  rw [if_neg h8]
  by_cases h9 : (c = '^' || c = '$') = true
  · exact .inr (.inr (.inl ⟨by simpa using h9, by rw [if_pos h9]⟩))
  rw [if_neg h9]
  by_cases h10 : c = '.'
  · exact .inr (.inr (.inr (.inl ⟨h10, by rw [if_pos h10]⟩)))
  rw [if_neg h10]
  -- a special character with none of those rules is a closing bracket under the Unicode-aware rules
  have hbr : unicode = true ∧ (c = ']' ∨ c = '}') := by
    have hsp : isSpecial unicode c = true := by simpa using h6
    simp only [Bool.or_eq_true, decide_eq_true_eq, not_or] at h4 h9
    simp only [isSpecial, Bool.or_eq_true, Bool.and_eq_true, decide_eq_true_eq, h1, h2, h3, h4,
      h5, h7, h8, h9, h10, false_or, or_false] at hsp
    exact ⟨hsp.2, hsp.1⟩
  exact .inr (.inr (.inr (.inr ⟨hbr.1, hbr.2, rfl⟩)))

namespace Shape

/-- What follows a `{` begins the rest of an interval quantifier `{m}`, `{m,}` or `{m,n}`: a run
of digits, maybe a comma and a second run, and the closing `}`. -/
def StartsInterval (R : List Char) : Prop :=
  ∃ low high more, R = low ++ high ++ '}' :: more ∧ low ≠ [] ∧ (∀ x ∈ low, isDigit x = true) ∧
    (high = [] ∨ ∃ hi, high = ',' :: hi ∧ ∀ x ∈ hi, isDigit x = true)

/-- A run of digits followed by a non-digit is the whole digit run. -/
theorem digitRun_append_of_stop {l rest : List Char} (hl : ∀ x ∈ l, isDigit x = true)
    (hstop : ∀ c, rest.head? = some c → isDigit c = false) : digitRun (l ++ rest) = l.length := by
  rw [digitRun, takeWhile_append_of_stop hstop, List.takeWhile_eq_self_iff.2 hl]

/-- `intervalExtent` finds every interval. -/
theorem intervalExtent_of_startsInterval {R : List Char} (h : StartsInterval R) :
    ∃ n, intervalExtent R = some n := by
  obtain ⟨low, high, more, rfl, hne, hlow, hhigh⟩ := h
  have hpos : low.length ≠ 0 := by simpa using hne
  rcases hhigh with rfl | ⟨hi, rfl, hdigits⟩
  · -- `{m}`: the digits stop at the `}`
    have hrun : digitRun (low ++ '}' :: more) = low.length :=
      digitRun_append_of_stop hlow fun c hc => by
        obtain rfl : c = '}' := by simpa using hc.symm
        rfl
    refine ⟨low.length + 1, ?_⟩
    simp only [List.append_nil] at *
    simp [intervalExtent, hrun, hpos]
  · -- `{m,}` and `{m,n}`: the first digits stop at the comma, the second at the `}`
    have hrun : digitRun (low ++ ',' :: (hi ++ '}' :: more)) = low.length :=
      digitRun_append_of_stop hlow fun c hc => by
        obtain rfl : c = ',' := by simpa using hc.symm
        rfl
    have hrun' : digitRun (hi ++ '}' :: more) = hi.length :=
      digitRun_append_of_stop hdigits fun c hc => by
        obtain rfl : c = '}' := by simpa using hc.symm
        rfl
    refine ⟨low.length + hi.length + 2, ?_⟩
    simp only [List.append_assoc, List.cons_append] at *
    simp [intervalExtent, hrun, hrun', hpos]

/-- `intervalExtent` finds no interval exactly where none begins. -/
theorem intervalExtent_eq_none_iff {R : List Char} :
    intervalExtent R = none ↔ ¬StartsInterval R := by
  constructor
  · intro h hs
    obtain ⟨n, hn⟩ := intervalExtent_of_startsInterval hs
    rw [h] at hn
    cases hn
  · intro h
    cases hI : intervalExtent R with
    | none => rfl
    | some n =>
        obtain ⟨low, high, more, hR, -, hne, hlow, hhigh⟩ := intervalExtent_eq_some hI
        exact absurd ⟨low, high, more, hR, hne, hlow, hhigh⟩ h

/-- The lazy marker a quantifier takes is a `?`. -/
theorem mem_take_lazyExtent {cs : List Char} {x : Char} (hx : x ∈ cs.take (lazyExtent cs)) :
    x = '?' := by
  unfold lazyExtent at hx
  split at hx
  · next hq =>
      obtain ⟨tail, rfl⟩ := List.head?_eq_some_iff.1 hq
      simpa using hx
  · simp at hx

/-- An interval holds digits, maybe a comma, and its closing `}`. -/
theorem mem_take_intervalExtent {R : List Char} {n : Nat} (h : intervalExtent R = some n)
    {x : Char} (hx : x ∈ R.take n) : isDigit x = true ∨ x = ',' ∨ x = '}' := by
  obtain ⟨low, high, more, rfl, rfl, -, hlow, hhigh⟩ := intervalExtent_eq_some h
  have htake : (low ++ high ++ '}' :: more).take (low ++ high ++ ['}']).length =
      low ++ high ++ ['}'] := by
    rw [show low ++ high ++ '}' :: more = (low ++ high ++ ['}']) ++ more by simp,
      List.take_left]
  rw [htake] at hx
  simp only [List.mem_append, List.mem_singleton] at hx
  rcases hx with (hx | hx) | rfl
  · exact .inl (hlow x hx)
  · rcases hhigh with rfl | ⟨hi, rfl, hdigits⟩
    · cases hx
    · rcases List.mem_cons.1 hx with rfl | hx
      · exact .inr (.inl rfl)
      · exact .inl (hdigits x hx)
  · exact .inr (.inr rfl)

end Shape

/-- The special characters that have a rule of their own, and the kind of token each starts. -/
def TokenKind.leads : List (Char × TokenKind) :=
  [('[', .charClass), ('\\', .escape), ('(', .groupOpen), ('?', .quantifier), ('*', .quantifier),
    ('+', .quantifier), ('.', .dot), ('^', .anchor), ('$', .anchor), (')', .groupClose),
    ('|', .alternator)]

/-- A token of kind `char` is a `{` that begins no interval, or under the Unicode-aware rules a
lone `}` or `]`. -/
theorem char_token_cases {unicode : Bool} {cs : List Char} {pre post : List Token} {t : Token}
    (h : tokenize unicode cs = pre ++ t :: post) (hk : t.kind = .char) :
    (t.text = ['{'] ∧ ¬StartsInterval (post.map Token.text).flatten) ∨
      (unicode = true ∧ (t.text = ['}'] ∨ t.text = [']'])) := by
  obtain ⟨c, rest, rfl, hpost⟩ := exists_shape_of_tokenize_eq h
  rcases Token.shape_cases unicode c rest with
    ⟨-, hs⟩ | ⟨-, hs⟩ | ⟨-, hs⟩ | ⟨-, hs⟩ | ⟨-, n, -, hs⟩ | ⟨rfl, hI, hs⟩ | ⟨-, hs⟩ | ⟨-, hs⟩ |
      ⟨-, hs⟩ | ⟨-, hs⟩ | ⟨-, hs⟩ | ⟨hu, hc, hs⟩ <;>
    simp only [hs, reduceCtorEq] at hk
  · -- a `{` alone: what follows it is the rest of the pattern, and no interval begins there
    simp only [hs, List.drop_zero] at hpost
    rw [hpost, flatten_tokenize]
    exact .inl ⟨by rw [hs]; rfl, intervalExtent_eq_none_iff.1 hI⟩
  · rw [hs]
    rcases hc with rfl | rfl
    · exact .inr ⟨hu, .inr rfl⟩
    · exact .inr ⟨hu, .inl rfl⟩

/-- A special character with a rule of its own starts a token of that rule's kind. -/
theorem kind_of_lead {unicode : Bool} {cs : List Char} {t : Token} (ht : t ∈ tokenize unicode cs)
    {c : Char} {k : TokenKind} (hck : (c, k) ∈ TokenKind.leads) (hc : t.text.head? = some c) :
    t.kind = k := by
  obtain ⟨c', rest, rfl⟩ := exists_shape_of_mem_tokenize ht
  obtain rfl : c' = c := by simpa using hc
  simp only [TokenKind.leads, List.mem_cons, Prod.mk.injEq, List.not_mem_nil, or_false] at hck
  rcases hck with ⟨rfl, rfl⟩ | ⟨rfl, rfl⟩ | ⟨rfl, rfl⟩ | ⟨rfl, rfl⟩ | ⟨rfl, rfl⟩ | ⟨rfl, rfl⟩ |
      ⟨rfl, rfl⟩ | ⟨rfl, rfl⟩ | ⟨rfl, rfl⟩ | ⟨rfl, rfl⟩ | ⟨rfl, rfl⟩ <;>
    simp [Token.shape, isSpecial]

/-- Under the legacy rules `]` lies only in a literal run, a class or an escape, and `}` also in
the interval quantifier it closes. -/
theorem legacy_bracket_kinds {cs : List Char} {t : Token} (ht : t ∈ tokenize false cs) :
    (']' ∈ t.text → t.kind = .literal ∨ t.kind = .charClass ∨ t.kind = .escape) ∧
    ('}' ∈ t.text → t.kind = .literal ∨ t.kind = .charClass ∨ t.kind = .escape ∨
      (t.kind = .quantifier ∧ t.text.head? = some '{')) := by
  obtain ⟨c, rest, rfl⟩ := exists_shape_of_mem_tokenize ht
  rcases Token.shape_cases false c rest with
    ⟨-, hs⟩ | ⟨-, hs⟩ | ⟨rfl, hs⟩ | ⟨hq, hs⟩ | ⟨rfl, n, hI, hs⟩ | ⟨rfl, -, hs⟩ | ⟨-, hs⟩ |
      ⟨rfl, hs⟩ | ⟨rfl, hs⟩ | ⟨hc, hs⟩ | ⟨rfl, hs⟩ | ⟨hu, -, -⟩
  · simp [hs]
  · simp [hs]
  · -- a group opening holds no bracket
    refine ⟨fun hx => ?_, fun hx => ?_⟩ <;> rw [hs] at hx <;> rcases List.mem_cons.1 hx with h | h
    · simp at h
    · exact absurd (.inr (.inr rfl)) (groupExtent_no_bracket rest _ h)
    · simp at h
    · exact absurd (.inr (.inl rfl)) (groupExtent_no_bracket rest _ h)
  · -- `?`, `*` or `+`, and maybe a lazy `?`
    refine ⟨fun hx => ?_, fun hx => ?_⟩ <;> rw [hs] at hx <;> rcases List.mem_cons.1 hx with h | h
    · rcases hq with rfl | rfl | rfl <;> simp at h
    · simpa using mem_take_lazyExtent h
    · rcases hq with rfl | rfl | rfl <;> simp at h
    · simpa using mem_take_lazyExtent h
  · -- an interval: digits, a comma, the closing `}` and maybe a lazy `?`
    refine ⟨fun hx => ?_, fun _ => .inr (.inr (.inr ⟨by rw [hs], rfl⟩))⟩
    rw [hs, List.take_add] at hx
    rcases List.mem_cons.1 hx with h | h
    · simp at h
    rcases List.mem_append.1 h with h | h
    · rcases mem_take_intervalExtent hI h with h | h | h <;> simp [isDigit] at h
    · simpa using mem_take_lazyExtent h
  · -- a `{` alone
    refine ⟨fun hx => ?_, fun hx => ?_⟩ <;> simp [hs] at hx
  · simp [hs]
  -- `)`, `|`, an anchor and the dot are alone in their tokens
  · refine ⟨fun hx => ?_, fun hx => ?_⟩ <;> simp [hs] at hx
  · refine ⟨fun hx => ?_, fun hx => ?_⟩ <;> simp [hs] at hx
  · refine ⟨fun hx => ?_, fun hx => ?_⟩ <;> rcases hc with rfl | rfl <;> simp [hs] at hx
  · refine ⟨fun hx => ?_, fun hx => ?_⟩ <;> simp [hs] at hx
  · cases hu

/-- At the top level every special character falls to a rule: `[`, `\`, `(`, `?`, `*`, `+`, `.`,
`^`, `$`, `)` and `|` start tokens of their own kinds; a token of kind `char` is a `{` that begins
no interval, or, only under the Unicode-aware rules, a lone `}` or `]`; and under the legacy rules
`]` lies only in literal runs, classes and escapes, and `}` also in the interval quantifier it
closes. -/
theorem tokenize_special_chars (pattern : String) (mode : Mode) :
    (∀ pre t post, tokenize mode.unicodeAware pattern.toList = pre ++ t :: post →
      t.kind = .char →
        (t.text = ['{'] ∧ ¬StartsInterval (post.map Token.text).flatten) ∨
          (mode.unicodeAware = true ∧ (t.text = ['}'] ∨ t.text = [']']))) ∧
    (∀ t ∈ tokenize mode.unicodeAware pattern.toList, ∀ c k, (c, k) ∈ TokenKind.leads →
      t.text.head? = some c → t.kind = k) ∧
    (mode.unicodeAware = false → ∀ t ∈ tokenize mode.unicodeAware pattern.toList,
      (']' ∈ t.text → t.kind = .literal ∨ t.kind = .charClass ∨ t.kind = .escape) ∧
      ('}' ∈ t.text → t.kind = .literal ∨ t.kind = .charClass ∨ t.kind = .escape ∨
        (t.kind = .quantifier ∧ t.text.head? = some '{'))) :=
  ⟨fun _ _ _ h hk => char_token_cases h hk,
    fun _ ht _ _ hck hc => kind_of_lead ht hck hc,
    fun hu _ ht => legacy_bracket_kinds (hu ▸ ht)⟩

/-- Under the legacy rules the `}` that closes an interval lies in a quantifier token, which is no
literal run, class or escape. -/
theorem interval_brace_in_quantifier :
    tokenize ({ unicode := false } : Mode).unicodeAware ['a', '{', '2', '}'] =
        [⟨.literal, ['a']⟩, ⟨.quantifier, ['{', '2', '}']⟩] ∧
      ¬∀ t ∈ tokenize ({ unicode := false } : Mode).unicodeAware ['a', '{', '2', '}'],
        '}' ∈ t.text → t.kind = .literal ∨ t.kind = .charClass ∨ t.kind = .escape := by
  decide +kernel

end RegexHighlight
