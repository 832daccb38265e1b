import RegexHighlight.Proofs.Step

/-!
# Byte cuts of the lexers

The lexers measure most of what a token takes by counting characters of classes that only hold
ASCII characters: digits, hex digits, name and property characters, and the fixed punctuation of
escapes, group openings and quantifiers. Such a count is also a count of bytes, so cutting a text
there cuts it on a character boundary and inside the text (`ByteCut`). The one rule that takes a
character of any kind takes exactly one, whatever its size.

From the extents (`ByteCut.escapeExtent`, `ByteCut.groupExtent`, `ByteCut.intervalExtent`) follow
the facts about the tokens a classification reads: escapes start with a backslash and are ASCII
unless they hold a single escaped character, group openings and quantifiers are ASCII, the digits
of a decimal escape are ASCII digits, and a class token is its bracket, its interior and at most
its closing `]`.
-/

namespace RegexHighlight

/-- Cutting `cs` after `n` characters is cutting it after `n` bytes: the cut lies inside `cs` and
every character before it is ASCII. -/
def ByteCut (cs : List Char) (n : Nat) : Prop :=
  n ≤ cs.length ∧ ∀ c ∈ cs.take n, c.toNat < 128

theorem utf8Size_eq_one_of_lt {c : Char} (h : c.toNat < 128) : c.utf8Size = 1 :=
  Char.utf8Size_eq_one_iff.mpr (by
    rw [UInt32.le_iff_toNat_le]
    exact Nat.le_of_lt_succ h)

theorem utf8Length_eq_length {cs : List Char} (h : ∀ c ∈ cs, c.toNat < 128) :
    utf8Length cs = cs.length := by
  induction cs with
  | nil => rfl
  | cons c cs ih =>
      rw [utf8Length_cons, utf8Size_eq_one_of_lt (h c List.mem_cons_self),
        ih fun d hd => h d (List.mem_cons_of_mem _ hd), List.length_cons, Nat.add_comm]

theorem toNat_lt_of_le {c d : Char} (h : c ≤ d) (hd : d.toNat < 128) : c.toNat < 128 := by
  have : c.toNat ≤ d.toNat := h
  omega

namespace ByteCut

variable {cs : List Char} {n m : Nat}

/-- The bytes before a cut are as many as the characters. -/
theorem utf8Length_take (h : ByteCut cs n) : utf8Length (cs.take n) = n := by
  rw [utf8Length_eq_length h.2, List.length_take, Nat.min_eq_left h.1]

theorem zero (cs : List Char) : ByteCut cs 0 := ⟨Nat.zero_le _, by simp⟩

theorem of_prefix {l : List Char} (hl : l <+: cs) (ha : ∀ c ∈ l, c.toNat < 128) :
    ByteCut cs l.length := by
  obtain ⟨r, rfl⟩ := hl
  refine ⟨by simp, ?_⟩
  rw [List.take_left]
  exact ha

theorem takeWhile {p : Char → Bool} (hp : ∀ c, p c = true → c.toNat < 128) (cs : List Char) :
    ByteCut cs (cs.takeWhile p).length :=
  of_prefix (List.takeWhile_prefix p) fun c hc =>
    hp c (List.all_eq_true.1 List.all_takeWhile c hc)

theorem cons {c : Char} (hc : c.toNat < 128) (h : ByteCut cs n) : ByteCut (c :: cs) (n + 1) := by
  refine ⟨by simp [h.1], ?_⟩
  rw [List.take_succ_cons]
  rintro d (_ | ⟨_, hd⟩)
  · exact hc
  · exact h.2 d hd

/-- Two cuts in a row make one. -/
theorem append (h : ByteCut cs n) (h' : ByteCut (cs.drop n) m) : ByteCut cs (n + m) := by
  have hn := h.1
  have hlen := h'.1
  simp only [List.length_drop] at hlen
  refine ⟨by omega, ?_⟩
  rw [List.take_add]
  intro c hc
  rcases List.mem_append.1 hc with hc | hc
  · exact h.2 c hc
  · exact h'.2 c hc

theorem of_head {c : Char} (hc : cs.head? = some c) (ha : c.toNat < 128) : ByteCut cs 1 := by
  obtain ⟨rest, rfl⟩ : ∃ rest, cs = c :: rest := by
    cases cs with
    | nil => simp at hc
    | cons d rest => exact ⟨rest, by simpa using hc⟩
  exact (zero rest).cons ha

/-- A cut extends past one more ASCII character. -/
theorem extend {c : Char} (h : ByteCut cs n) (hc : (cs.drop n).head? = some c)
    (ha : c.toNat < 128) : ByteCut cs (n + 1) :=
  h.append (of_head hc ha)

theorem all_of_length (h : ByteCut cs cs.length) : ∀ c ∈ cs, c.toNat < 128 := by
  simpa using h.2

end ByteCut

namespace Shape

theorem toNat_lt_of_isDigit {c : Char} (h : isDigit c = true) : c.toNat < 128 := by
  simp only [isDigit, Bool.and_eq_true, decide_eq_true_eq] at h
  exact toNat_lt_of_le h.2 (by decide)

theorem toNat_lt_of_isOctal {c : Char} (h : isOctal c = true) : c.toNat < 128 := by
  simp only [isOctal, Bool.and_eq_true, decide_eq_true_eq] at h
  exact toNat_lt_of_le h.2 (by decide)

theorem toNat_lt_of_isLetter {c : Char} (h : isLetter c = true) : c.toNat < 128 := by
  simp only [isLetter, Bool.or_eq_true, Bool.and_eq_true, decide_eq_true_eq] at h
  rcases h with h | h
  · exact toNat_lt_of_le h.2 (by decide)
  · exact toNat_lt_of_le h.2 (by decide)

theorem toNat_lt_of_isHex {c : Char} (h : isHex c = true) : c.toNat < 128 := by
  simp only [isHex, Bool.or_eq_true, Bool.and_eq_true, decide_eq_true_eq] at h
  rcases h with (h | h) | h
  · exact toNat_lt_of_isDigit h
  · exact toNat_lt_of_le h.2 (by decide)
  · exact toNat_lt_of_le h.2 (by decide)

theorem toNat_lt_of_isNameStart {c : Char} (h : isNameStart c = true) : c.toNat < 128 := by
  simp only [isNameStart, Bool.or_eq_true, decide_eq_true_eq] at h
  rcases h with (h | rfl) | rfl
  · exact toNat_lt_of_isLetter h
  · decide
  · decide

theorem toNat_lt_of_isNameChar {c : Char} (h : isNameChar c = true) : c.toNat < 128 := by
  simp only [isNameChar, Bool.or_eq_true] at h
  rcases h with h | h
  · exact toNat_lt_of_isNameStart h
  · exact toNat_lt_of_isDigit h

theorem toNat_lt_of_isPropertyChar {c : Char} (h : isPropertyChar c = true) : c.toNat < 128 := by
  simp only [isPropertyChar, Bool.or_eq_true, decide_eq_true_eq] at h
  rcases h with ((h | h) | rfl) | rfl
  · exact toNat_lt_of_isLetter h
  · exact toNat_lt_of_isDigit h
  · decide
  · decide

end Shape

/-! ## The extents of the lexical rules -/

namespace ByteCut

theorem digitRun (cs : List Char) : ByteCut cs (Shape.digitRun cs) :=
  takeWhile (fun _ => Shape.toNat_lt_of_isDigit) cs

theorem octalExtent (cs : List Char) : ByteCut cs (Shape.octalExtent cs) := by
  unfold Shape.octalExtent
  split
  · exact zero _
  · exact of_prefix ((List.takeWhile_prefix _).trans (List.take_prefix _ _)) fun d hd =>
      Shape.toNat_lt_of_isOctal (List.all_eq_true.1 List.all_takeWhile d hd)

theorem of_hasHex {cs : List Char} {n : Nat} (h : Shape.hasHex cs n = true) : ByteCut cs n := by
  simp only [Shape.hasHex, Bool.and_eq_true, decide_eq_true_eq, List.length_take] at h
  refine ⟨by omega, fun c hc => Shape.toNat_lt_of_isHex (List.all_eq_true.1 h.2 c hc)⟩

theorem bracedHexExtent {cs : List Char} {n : Nat} (h : Shape.bracedHexExtent cs = some n) :
    ByteCut cs n := by
  unfold Shape.bracedHexExtent at h
  split at h
  · next body =>
      simp only [Option.ite_none_right_eq_some, Option.some.injEq, Bool.and_eq_true,
        decide_eq_true_eq] at h
      obtain ⟨⟨-, hclose⟩, rfl⟩ := h
      -- `{`, the hex digits, then `}`
      exact ((takeWhile (fun _ => Shape.toNat_lt_of_isHex) body).extend hclose (by decide)).cons
        (by decide)
  · simp at h

theorem propertyExtent {cs : List Char} {n : Nat} (h : Shape.propertyExtent cs = some n) :
    ByteCut cs n := by
  unfold Shape.propertyExtent at h
  split at h
  · next body =>
      simp only [Option.ite_none_right_eq_some, Option.some.injEq, Bool.and_eq_true,
        decide_eq_true_eq] at h
      obtain ⟨⟨-, hclose⟩, rfl⟩ := h
      exact ((takeWhile (fun _ => Shape.toNat_lt_of_isPropertyChar) body).extend hclose
        (by decide)).cons (by decide)
  · simp at h

/-- A group name and the `>` after it. -/
theorem nameExtent {cs : List Char} {n : Nat} (h : Shape.nameExtent cs = some n) :
    ByteCut cs (n + 1) := by
  unfold Shape.nameExtent at h
  split at h
  · split at h
    · simp only [Option.ite_none_right_eq_some, Option.some.injEq] at h
      obtain ⟨hclose, rfl⟩ := h
      exact (takeWhile (fun _ => Shape.toNat_lt_of_isNameChar) _).extend hclose (by decide)
    · simp at h
  · simp at h

/-- An escape after its backslash takes ASCII characters only, or one character of any kind. -/
theorem escapeExtent (unicode : Bool) (ctx : EscapeContext) (cs : List Char) :
    ByteCut cs (Shape.escapeExtent unicode ctx cs) ∨
      (Shape.escapeExtent unicode ctx cs = 1 ∧ cs ≠ []) := by
  cases cs with
  | nil => exact .inl (zero [])
  | cons c after =>
      -- a rule that starts with an ASCII character and goes on by a cut of what follows
      have lead : ∀ {k : Nat}, c.toNat < 128 → ByteCut after k → ByteCut (c :: after) (1 + k) :=
        fun hc h => Nat.add_comm _ _ ▸ h.cons hc
      -- one case per rule, in the order the rules are tried
      rw [Shape.escapeExtent.eq_def]
      dsimp only
      by_cases h0 : (c = '0' && unicode) = true
      · rw [if_pos h0]
        simp only [Bool.and_eq_true, decide_eq_true_eq] at h0
        exact .inl (lead (by rw [h0.1]; decide) (digitRun after))
      rw [if_neg h0]
      by_cases h1 : ('1' ≤ c && c ≤ '7' && ctx = .inClass && !unicode) = true
      · rw [if_pos h1]
        exact .inl (octalExtent _)
      rw [if_neg h1]
      by_cases h2 : c = '0'
      · rw [if_pos h2]
        exact .inl (octalExtent _)
      rw [if_neg h2]
      by_cases h3 : ('1' ≤ c && c ≤ '9' && ctx = .pattern) = true
      · rw [if_pos h3]
        simp only [Bool.and_eq_true, decide_eq_true_eq] at h3
        exact .inl (lead (toNat_lt_of_le h3.1.2 (by decide)) (digitRun after))
      rw [if_neg h3]
      by_cases h4 : (c = 'x' && Shape.hasHex after 2) = true
      · rw [if_pos h4]
        simp only [Bool.and_eq_true, decide_eq_true_eq] at h4
        rw [h4.1]
        exact .inl ((of_hasHex h4.2).cons (by decide))
      rw [if_neg h4]
      by_cases h5 : (c = 'u' && Shape.hasHex after 4) = true
      · rw [if_pos h5]
        simp only [Bool.and_eq_true, decide_eq_true_eq] at h5
        rw [h5.1]
        exact .inl ((of_hasHex h5.2).cons (by decide))
      rw [if_neg h5]
      by_cases h6 : (c = 'u' && unicode) = true
      · rw [if_pos h6]
        simp only [Bool.and_eq_true, decide_eq_true_eq] at h6
        split
        · next n hn => exact .inl (lead (by rw [h6.1]; decide) (bracedHexExtent hn))
        · exact .inr ⟨rfl, List.cons_ne_nil _ _⟩
      rw [if_neg h6]
      by_cases h7 : (c = 'c' && (after.head?.map Shape.isLetter).getD false) = true
      · rw [if_pos h7]
        simp only [Bool.and_eq_true, decide_eq_true_eq] at h7
        obtain ⟨letter, hletter⟩ : ∃ letter, after.head? = some letter ∧
            Shape.isLetter letter = true := by
          cases after with
          | nil => simp at h7
          | cons d _ => exact ⟨d, rfl, by simpa using h7.2⟩
        rw [h7.1]
        exact .inl ((of_head hletter.1 (Shape.toNat_lt_of_isLetter hletter.2)).cons (by decide))
      rw [if_neg h7]
      by_cases h8 : (c = 'k' && ctx = .pattern) = true
      · rw [if_pos h8]
        simp only [Bool.and_eq_true, decide_eq_true_eq] at h8
        rw [h8.1]
        split
        · split
          · next name n hn =>
              -- `k`, `<`, the name and `>`
              exact .inl (((nameExtent hn).cons (by decide)).cons (by decide))
          · exact .inr ⟨rfl, List.cons_ne_nil _ _⟩
        · exact .inr ⟨rfl, List.cons_ne_nil _ _⟩
      rw [if_neg h8]
      by_cases h9 : ((c = 'p' || c = 'P') && unicode) = true
      · rw [if_pos h9]
        simp only [Bool.and_eq_true, Bool.or_eq_true, decide_eq_true_eq] at h9
        split
        · next n hn =>
            refine .inl (lead ?_ (propertyExtent hn))
            rcases h9.1 with rfl | rfl <;> decide
        · exact .inr ⟨rfl, List.cons_ne_nil _ _⟩
      rw [if_neg h9]
      exact .inr ⟨rfl, List.cons_ne_nil _ _⟩

/-- A group opening after its `(` takes ASCII characters only. -/
theorem groupExtent (cs : List Char) : ByteCut cs (Shape.groupExtent cs) := by
  have q : ('?' : Char).toNat < 128 := by decide
  have lt : ('<' : Char).toNat < 128 := by decide
  simp only [Shape.groupExtent]
  split
  · next rest =>
      split
      · exact (((zero _).cons (by decide)).cons lt).cons q
      · exact (((zero _).cons (by decide)).cons lt).cons q
      · split
        · next name n hn => exact ((nameExtent hn).cons lt).cons q
        · exact (zero _).cons q
      · exact ((zero _).cons (by decide)).cons q
      · exact ((zero _).cons (by decide)).cons q
      · exact ((zero _).cons (by decide)).cons q
      · exact (zero _).cons q
  · exact zero _

theorem lazyExtent (cs : List Char) : ByteCut cs (Shape.lazyExtent cs) := by
  unfold Shape.lazyExtent
  split
  · next h => exact of_head h (by decide)
  · exact zero _

/-- An interval after its `{` takes ASCII characters only: digits, maybe a comma and more
digits, and the closing brace. -/
theorem intervalExtent {cs : List Char} {n : Nat} (h : Shape.intervalExtent cs = some n) :
    ByteCut cs n := by
  have hlow := digitRun cs
  simp only [Shape.intervalExtent] at h
  split_ifs at h with h0
  split at h
  · next rest hcomma =>
      simp only [Option.ite_none_right_eq_some, Option.some.injEq] at h
      obtain ⟨hclose, rfl⟩ := h
      have hcut := hlow.extend (by rw [hcomma]; rfl) (by decide)
      have hrest : cs.drop (Shape.digitRun cs + 1) = rest := by
        rw [← List.drop_drop, hcomma, List.drop_one, List.tail_cons]
      have hhigh : ByteCut cs (Shape.digitRun cs + 1 + Shape.digitRun rest) :=
        hcut.append (by rw [hrest]; exact digitRun rest)
      have hend := hhigh.extend (by rw [← List.drop_drop, hrest]; exact hclose) (by decide)
      have hsum : Shape.digitRun cs + Shape.digitRun rest + 2 =
          Shape.digitRun cs + 1 + Shape.digitRun rest + 1 := by omega
      rw [hsum]
      exact hend
  · next hbrace =>
      obtain rfl := Option.some.inj h
      exact hlow.extend (by rw [hbrace]; rfl) (by decide)
  · simp at h

theorem all_cons_take {c : Char} {rest : List Char} {n : Nat} (hc : c.toNat < 128)
    (h : ByteCut rest n) : ∀ x ∈ c :: rest.take n, x.toNat < 128 := by
  rintro x (_ | ⟨_, hx⟩)
  · exact hc
  · exact h.2 x hx

/-- An escape is ASCII unless it is a backslash and one character of any kind. -/
theorem escape_text (unicode : Bool) (ctx : EscapeContext) (rest : List Char) :
    ('\\' :: rest.take (Shape.escapeExtent unicode ctx rest)).length ≤ 2 ∨
      ∀ x ∈ '\\' :: rest.take (Shape.escapeExtent unicode ctx rest), x.toNat < 128 := by
  rcases escapeExtent unicode ctx rest with hcut | ⟨hone, -⟩
  · exact .inr (all_cons_take (by decide) hcut)
  · left
    simp only [hone, List.length_cons, List.length_take]
    omega

end ByteCut

/-! ## Tokens -/

theorem exists_shape_of_mem_tokenize {unicode : Bool} {cs : List Char} {t : Token}
    (h : t ∈ tokenize unicode cs) : ∃ c rest,
      t = ⟨(Token.shape unicode c rest).1, c :: rest.take (Token.shape unicode c rest).2⟩ := by
  induction cs using tokenize.induct unicode with
  | case1 => simp [tokenize] at h
  | case2 c rest kind n hshape ih =>
      rw [tokenize, hshape] at h
      rcases List.mem_cons.1 h with rfl | h
      · exact ⟨c, rest, by simp [hshape]⟩
      · exact ih h

theorem exists_shape_of_mem_classTokenize {unicode : Bool} {cs : List Char} {t : ClassToken}
    (h : t ∈ classTokenize unicode cs) : ∃ c rest,
      t = ⟨(ClassToken.shape unicode c rest).1,
        c :: rest.take (ClassToken.shape unicode c rest).2⟩ := by
  induction cs using classTokenize.induct unicode with
  | case1 => simp [classTokenize] at h
  | case2 c rest kind n hshape ih =>
      rw [classTokenize, hshape] at h
      rcases List.mem_cons.1 h with rfl | h
      · exact ⟨c, rest, by simp [hshape]⟩
      · exact ih h

/-- The first character of a token and the extent of its rule, for the kinds whose extent the
classifier cuts by bytes. -/
theorem Token.shape_spec (unicode : Bool) (c : Char) (rest : List Char) :
    ((shape unicode c rest).1 = .charClass →
      c = '[' ∧ (shape unicode c rest).2 = Shape.classExtent rest) ∧
    ((shape unicode c rest).1 = .escape →
      c = '\\' ∧ (shape unicode c rest).2 = Shape.escapeExtent unicode .pattern rest) ∧
    ((shape unicode c rest).1 = .groupOpen →
      c = '(' ∧ (shape unicode c rest).2 = Shape.groupExtent rest) ∧
    ((shape unicode c rest).1 = .quantifier →
      c.toNat < 128 ∧ ByteCut rest (shape unicode c rest).2) := by
  unfold shape
  by_cases h1 : c = '['
  · rw [if_pos h1]
    simp [h1]
  rw [if_neg h1]
  by_cases h2 : c = '\\'
  · rw [if_pos h2]
    simp [h2]
  rw [if_neg h2]
  by_cases h3 : c = '('
  · rw [if_pos h3]
    simp [h3]
  rw [if_neg h3]
  by_cases h4 : (c = '?' || c = '*' || c = '+') = true
  · -- `?`, `*` or `+`, and maybe a lazy `?`
    rw [if_pos h4]
    refine ⟨by simp, by simp, by simp, fun _ => ⟨?_, ByteCut.lazyExtent rest⟩⟩
    simp only [Bool.or_eq_true, decide_eq_true_eq] at h4
    rcases h4 with (rfl | rfl) | rfl <;> decide
  rw [if_neg h4]
  by_cases h5 : c = '{'
  · rw [if_pos h5]
    split
    · next n hn =>
        refine ⟨by simp, by simp, by simp, fun _ => ⟨by rw [h5]; decide, ?_⟩⟩
        exact (ByteCut.intervalExtent hn).append (ByteCut.lazyExtent _)
    · simp
  rw [if_neg h5]
  -- the other kinds take no part in these four
  split_ifs <;> simp

theorem ClassToken.shape_escape {unicode : Bool} {c : Char} {rest : List Char}
    (h : (shape unicode c rest).1 = .escape) :
    c = '\\' ∧ (shape unicode c rest).2 = Shape.escapeExtent unicode .inClass rest := by
  unfold shape at h ⊢
  split_ifs at h ⊢ with h1
  · exact ⟨h1, rfl⟩

theorem Shape.escapeExtent_decimal (unicode : Bool) {d : Char} (after : List Char)
    (hd : '1' ≤ d ∧ d ≤ '9') :
    Shape.escapeExtent unicode .pattern (d :: after) = 1 + Shape.digitRun after := by
  have h0 : d ≠ '0' := by
    rintro rfl
    exact absurd hd.1 (by decide)
  simp [Shape.escapeExtent, h0, hd.1, hd.2]

/-- The escapes `\b` and `\B` take their letter and nothing more. -/
theorem Shape.escapeExtent_wordBoundary (unicode : Bool) {d : Char} (after : List Char)
    (hd : d = 'b' ∨ d = 'B') : Shape.escapeExtent unicode .pattern (d :: after) = 1 := by
  rcases hd with rfl | rfl <;> simp [Shape.escapeExtent]

/-- Group openings and quantifiers are ASCII. -/
theorem ascii_of_mem_tokenize {unicode : Bool} {cs : List Char} {t : Token}
    (h : t ∈ tokenize unicode cs) (hk : t.kind = .groupOpen ∨ t.kind = .quantifier) :
    ∀ x ∈ t.text, x.toNat < 128 := by
  obtain ⟨c, rest, rfl⟩ := exists_shape_of_mem_tokenize h
  obtain ⟨-, -, hopen, hquant⟩ := Token.shape_spec unicode c rest
  rcases hk with hk | hk
  · obtain ⟨rfl, hn⟩ := hopen hk
    exact ByteCut.all_cons_take (by decide) (hn ▸ ByteCut.groupExtent rest)
  · obtain ⟨hc, hcut⟩ := hquant hk
    exact ByteCut.all_cons_take hc hcut

/-- An escape starts with its backslash and is ASCII, unless it is the backslash and one
character of any kind. -/
theorem escape_of_mem_tokenize {unicode : Bool} {cs : List Char} {t : Token}
    (h : t ∈ tokenize unicode cs) (hk : t.kind = .escape) :
    t.text.head? = some '\\' ∧ (t.text.length ≤ 2 ∨ ∀ x ∈ t.text, x.toNat < 128) := by
  obtain ⟨c, rest, rfl⟩ := exists_shape_of_mem_tokenize h
  obtain ⟨-, hesc, -, -⟩ := Token.shape_spec unicode c rest
  obtain ⟨rfl, hn⟩ := hesc hk
  refine ⟨rfl, ?_⟩
  rw [hn]
  exact ByteCut.escape_text unicode .pattern rest

/-- An escape whose second character is `b` or `B` is `\b` or `\B` itself. -/
theorem wordBoundary_of_mem_tokenize {unicode : Bool} {cs : List Char} {t : Token}
    (h : t ∈ tokenize unicode cs) (hk : t.kind = .escape) :
    (t.text.drop 1).head?.any (fun c => c = 'b' || c = 'B') =
      (t.text = ['\\', 'b'] || t.text = ['\\', 'B']) := by
  obtain ⟨c, rest, rfl⟩ := exists_shape_of_mem_tokenize h
  obtain ⟨-, hesc, -, -⟩ := Token.shape_spec unicode c rest
  obtain ⟨rfl, hn⟩ := hesc hk
  simp only [hn]
  cases rest with
  | nil => simp
  | cons d after =>
      by_cases hd : d = 'b' ∨ d = 'B'
      · rw [Shape.escapeExtent_wordBoundary unicode after hd]
        rcases hd with rfl | rfl <;> simp
      · -- the second character is neither letter, so the text is neither escape
        obtain ⟨hb, hB⟩ := not_or.1 hd
        cases Shape.escapeExtent unicode .pattern (d :: after) <;> simp [hb, hB]

/-- The same holds of the escapes inside a class. -/
theorem escape_of_mem_classTokenize {unicode : Bool} {cs : List Char} {t : ClassToken}
    (h : t ∈ classTokenize unicode cs) (hk : t.kind = .escape) :
    t.text.head? = some '\\' ∧ (t.text.length ≤ 2 ∨ ∀ x ∈ t.text, x.toNat < 128) := by
  obtain ⟨c, rest, rfl⟩ := exists_shape_of_mem_classTokenize h
  obtain ⟨rfl, hn⟩ := ClassToken.shape_escape hk
  refine ⟨rfl, ?_⟩
  rw [hn]
  exact ByteCut.escape_text unicode .inClass rest

/-- After its backslash, a decimal escape `\N…` holds ASCII digits only. -/
theorem digits_of_mem_tokenize {unicode : Bool} {cs : List Char} {t : Token}
    (h : t ∈ tokenize unicode cs) (hk : t.kind = .escape) {b d : Char} {ds : List Char}
    (ht : t.text = b :: d :: ds) (hd : '1' ≤ d ∧ d ≤ '9') :
    ∀ x ∈ d :: ds, Shape.isDigit x = true := by
  obtain ⟨c, rest, rfl⟩ := exists_shape_of_mem_tokenize h
  obtain ⟨-, hesc, -, -⟩ := Token.shape_spec unicode c rest
  obtain ⟨-, hn⟩ := hesc hk
  obtain ⟨-, htake⟩ := List.cons.inj ht
  rw [hn] at htake
  cases rest with
  | nil => simp at htake
  | cons d' after =>
      -- the escape takes its first digit, so that digit is `d`
      obtain ⟨k, hkn⟩ : ∃ k, Shape.escapeExtent unicode .pattern (d' :: after) = k + 1 := by
        cases hE : Shape.escapeExtent unicode .pattern (d' :: after) with
        | zero => simp [hE] at htake
        | succ k => exact ⟨k, rfl⟩
      rw [hkn, List.take_succ_cons] at htake
      obtain ⟨rfl, hds⟩ := List.cons.inj htake
      have hrun : k = Shape.digitRun after := by
        have := Shape.escapeExtent_decimal unicode after hd
        omega
      have htw : after.take k = after.takeWhile Shape.isDigit := by
        rw [hrun, Shape.digitRun, ← List.prefix_iff_eq_take.1 (List.takeWhile_prefix _)]
      rintro x (_ | ⟨_, hx⟩)
      · simp only [Shape.isDigit, Bool.and_eq_true, decide_eq_true_eq]
        exact ⟨Char.le_trans (by decide) hd.1, hd.2⟩
      · rw [← hds, htw] at hx
        exact List.all_eq_true.1 List.all_takeWhile x hx

namespace ClassParts

/-- What is left of a class body after its interior is its closing `]`, if it has one. -/
theorem closing_take_classBodyExtent (cs : List Char) :
    (cs.take (Shape.classBodyExtent cs)).drop
        (interiorExtent (cs.take (Shape.classBodyExtent cs))) = [] ∨
      (cs.take (Shape.classBodyExtent cs)).drop
        (interiorExtent (cs.take (Shape.classBodyExtent cs))) = [']'] := by
  induction cs using Shape.classBodyExtent.induct with
  | case1 => simp [Shape.classBodyExtent, interiorExtent]
  | case2 tail => simp [Shape.classBodyExtent, interiorExtent]
  | case3 => simp [Shape.classBodyExtent, interiorExtent]
  | case4 c rest ih =>
      -- an escaped character, `]` included, belongs to the interior
      have htake : ('\\' :: c :: rest).take (Shape.classBodyExtent ('\\' :: c :: rest)) =
          '\\' :: c :: rest.take (Shape.classBodyExtent rest) := by
        simp [Shape.classBodyExtent, Nat.add_comm 2]
      rw [htake]
      simpa [interiorExtent, Nat.add_comm 2] using ih
  | case5 c rest h1 h2 h3 ih =>
      have hc : c ≠ '\\' := by
        rintro rfl
        cases rest with
        | nil => exact h2 rfl rfl
        | cons d ds => exact h3 d ds rfl rfl
      have hbody : Shape.classBodyExtent (c :: rest) = Shape.classBodyExtent rest + 1 := by
        rw [Shape.classBodyExtent.eq_def]
        split <;> simp_all
        omega
      have hint : ∀ body, interiorExtent (c :: body) = interiorExtent body + 1 := by
        intro body
        rw [interiorExtent.eq_def]
        split <;> simp_all
        omega
      rw [hbody, List.take_succ_cons, hint, List.drop_succ_cons]
      exact ih

theorem ofText_negated (body : List Char) :
    ofText ('[' :: '^' :: body) =
      ⟨['[', '^'], body.take (interiorExtent body), body.drop (interiorExtent body)⟩ := by
  simp [ofText]

theorem ofText_plain {body : List Char} (h : body.head? ≠ some '^') :
    ofText ('[' :: body) =
      ⟨['['], body.take (interiorExtent body), body.drop (interiorExtent body)⟩ := by
  cases body with
  | nil => simp [ofText]
  | cons d rest =>
      have hd : d ≠ '^' := fun hd => h (by rw [hd]; rfl)
      simp [ofText, hd]

end ClassParts

/-- A class token is its `[` or `[^`, its interior, and its closing `]` when it has one. -/
theorem classParts_of_mem_tokenize {unicode : Bool} {cs : List Char} {t : Token}
    (h : t ∈ tokenize unicode cs) (hk : t.kind = .charClass) :
    t.text = (ClassParts.ofText t.text).opening ++ (ClassParts.ofText t.text).interior ++
        (ClassParts.ofText t.text).closing ∧
      ((ClassParts.ofText t.text).opening = ['['] ∨
        (ClassParts.ofText t.text).opening = ['[', '^']) ∧
      ((ClassParts.ofText t.text).closing = [] ∨ (ClassParts.ofText t.text).closing = [']']) := by
  refine ⟨(ClassParts.ofText_append _).symm, ?_⟩
  obtain ⟨c, rest, rfl⟩ := exists_shape_of_mem_tokenize h
  obtain ⟨hclass, -, -, -⟩ := Token.shape_spec unicode c rest
  obtain ⟨rfl, hn⟩ := hclass hk
  dsimp only
  rw [hn]
  -- a negated class opens with two characters, any other with one
  by_cases hneg : rest.head? = some '^'
  · obtain ⟨body, rfl⟩ : ∃ body, rest = '^' :: body := by
      cases rest with
      | nil => simp at hneg
      | cons d body => exact ⟨body, by simpa using hneg⟩
    rw [Shape.classExtent, Nat.add_comm, List.take_succ_cons, ClassParts.ofText_negated]
    exact ⟨.inr rfl, ClassParts.closing_take_classBodyExtent body⟩
  · have hext : Shape.classExtent rest = Shape.classBodyExtent rest := by
      unfold Shape.classExtent
      split
      · simp at hneg
      · rfl
    have hhead : (rest.take (Shape.classBodyExtent rest)).head? ≠ some '^' := by
      rw [List.head?_take]
      split
      · simp
      · exact hneg
    rw [hext, ClassParts.ofText_plain hhead]
    exact ⟨.inl rfl, ClassParts.closing_take_classBodyExtent rest⟩

theorem Shape.eq_takeWhile_append_drop (cs : List Char) :
    cs = cs.takeWhile isDigit ++ cs.drop (digitRun cs) := by
  conv_lhs => rw [← List.take_append_drop (digitRun cs) cs]
  rw [digitRun, ← List.prefix_iff_eq_take.1 (List.takeWhile_prefix _)]

theorem Shape.takeWhile_ne_nil {cs : List Char} (h : ¬digitRun cs = 0) :
    cs.takeWhile isDigit ≠ [] :=
  List.ne_nil_of_length_pos (Nat.pos_of_ne_zero h)

/-- An interval after its `{` is a digit run, maybe a comma and another digit run, and `}`. -/
theorem Shape.intervalExtent_eq_some {cs : List Char} {n : Nat} (h : intervalExtent cs = some n) :
    ∃ low high more, cs = low ++ high ++ '}' :: more ∧ n = (low ++ high ++ ['}']).length ∧
      low ≠ [] ∧ (∀ x ∈ low, isDigit x = true) ∧
      (high = [] ∨ ∃ hi, high = ',' :: hi ∧ ∀ x ∈ hi, isDigit x = true) := by
  have hdigits : ∀ l : List Char, ∀ x ∈ l.takeWhile isDigit, isDigit x = true :=
    fun _ => List.all_eq_true.1 List.all_takeWhile
  simp only [intervalExtent] at h
  split_ifs at h with h0
  split at h
  · next rest hcomma =>
      simp only [Option.ite_none_right_eq_some, Option.some.injEq] at h
      obtain ⟨hclose, rfl⟩ := h
      obtain ⟨more, hmore⟩ := List.head?_eq_some_iff.1 hclose
      refine ⟨cs.takeWhile isDigit, ',' :: rest.takeWhile isDigit, more, ?_, ?_,
        takeWhile_ne_nil h0, hdigits cs, .inr ⟨_, rfl, hdigits rest⟩⟩
      · conv_lhs => rw [eq_takeWhile_append_drop cs, hcomma, eq_takeWhile_append_drop rest, hmore]
        simp
      · simp [digitRun]
        omega
  · next more hbrace =>
      obtain rfl := Option.some.inj h
      refine ⟨cs.takeWhile isDigit, [], more, ?_, by simp [digitRun],
        takeWhile_ne_nil h0, hdigits cs, .inl rfl⟩
      conv_lhs => rw [eq_takeWhile_append_drop cs, hbrace]
      simp
  · simp at h

/-- An interval quantifier is `{`, a digit run, maybe a comma and another digit run, `}`, and
maybe a lazy `?`. -/
theorem interval_of_mem_tokenize {unicode : Bool} {cs : List Char} {t : Token}
    (h : t ∈ tokenize unicode cs) (hk : t.kind = .quantifier) (hb : t.text.head? = some '{') :
    ∃ low high lazy, t.text = '{' :: (low ++ high ++ '}' :: lazy) ∧ low ≠ [] ∧
      (∀ x ∈ low, Shape.isDigit x = true) ∧
      (high = [] ∨ ∃ hi, high = ',' :: hi ∧ ∀ x ∈ hi, Shape.isDigit x = true) ∧
      (lazy = [] ∨ lazy = ['?']) := by
  obtain ⟨c, rest, rfl⟩ := exists_shape_of_mem_tokenize h
  obtain rfl : c = '{' := by simpa using hb
  cases hI : Shape.intervalExtent rest with
  | none => simp [Token.shape, hI] at hk
  | some n =>
      obtain ⟨low, high, more, rfl, rfl, hlow, hdigits, hhigh⟩ := Shape.intervalExtent_eq_some hI
      have hshape : Token.shape unicode '{' (low ++ high ++ '}' :: more) =
          (.quantifier, (low ++ high ++ ['}']).length + Shape.lazyExtent more) := by
        simp only [List.append_assoc] at hI
        simp [Token.shape, hI]
      refine ⟨low, high, more.take (Shape.lazyExtent more), ?_, hlow, hdigits, hhigh, ?_⟩
      · have happ : low ++ high ++ '}' :: more = (low ++ high ++ ['}']) ++ more := by simp
        simp only [hshape]
        rw [happ, List.take_length_add_append]
        simp
      · -- the lazy `?` is there exactly when the rest starts with one
        unfold Shape.lazyExtent
        split
        · next hq =>
            obtain ⟨tail, rfl⟩ := List.head?_eq_some_iff.1 hq
            simp
        · simp

end RegexHighlight
