import Mathlib.Data.List.TakeWhile
import RegexHighlight.Proofs.Nesting
import RegexHighlight.Proofs.Backreferences

/-!
# Escapes that refer to no group

A decimal escape `\N…` whose number is beyond the capturing groups, and an escape `\k` in a
pattern with no named group, refer to nothing. Under the Unicode-aware rules each is one invalid
backreference. Under the legacy rules they fall back to older readings: `\8` and `\9` are escaped
digits, `\k` is an escaped letter, and any other number reads as the longest legacy octal escape
at its front (`LongestOctalPrefix`), of value at most `0o377`. What remains of the token is a
literal. With named groups, `\k` without a name is an incomplete token.

The number is compared with the count of capturing groups as the prescan keeps it, which stops
at `wordLimit`: from that many groups on, every decimal escape is a backreference, whatever its
number.
-/

namespace RegexHighlight

/-! ## Legacy octal escapes -/

/-- The value of a run of octal digits. -/
def octalValue (digits : List Char) : Nat :=
  digits.foldl (fun n c => n * 8 + (c.toNat - '0'.toNat)) 0

/-- `o` is a legacy octal escape at the front of `digits`: octal digits of value at most
`0o377`. -/
def OctalPrefix (digits o : List Char) : Prop :=
  o <+: digits ∧ (∀ c ∈ o, Shape.isOctal c = true) ∧ octalValue o ≤ 0o377

/-- `o` is the longest legacy octal escape at the front of `digits`. -/
def LongestOctalPrefix (digits o : List Char) : Prop :=
  OctalPrefix digits o ∧ ∀ o', OctalPrefix digits o' → o'.length ≤ o.length

section Octal

theorem octalValue_cons (c : Char) (cs : List Char) :
    octalValue (c :: cs) =
      cs.foldl (fun n c => n * 8 + (c.toNat - '0'.toNat)) (c.toNat - '0'.toNat) := by
  simp [octalValue]

/-- Each digit multiplies what was read before it by eight. -/
theorem le_foldl_octal (cs : List Char) (n : Nat) :
    n * 8 ^ cs.length ≤ cs.foldl (fun n c => n * 8 + (c.toNat - '0'.toNat)) n := by
  induction cs generalizing n with
  | nil => simp
  | cons c cs ih =>
      rw [List.foldl_cons, List.length_cons, Nat.pow_succ', ← Nat.mul_assoc]
      calc n * 8 * 8 ^ cs.length ≤ (n * 8 + (c.toNat - '0'.toNat)) * 8 ^ cs.length :=
          Nat.mul_le_mul_right _ (Nat.le_add_right _ _)
        _ ≤ _ := ih _

/-- Octal digits read after `n` stay below where `n + 1` would start. -/
theorem foldl_octal_lt {cs : List Char} (hcs : ∀ c ∈ cs, Shape.isOctal c = true) (n : Nat) :
    cs.foldl (fun n c => n * 8 + (c.toNat - '0'.toNat)) n < (n + 1) * 8 ^ cs.length := by
  induction cs generalizing n with
  | nil => simp
  | cons c cs ih =>
      have hc : c.toNat - '0'.toNat ≤ 7 := by
        have h := hcs c List.mem_cons_self
        simp only [Shape.isOctal, Bool.and_eq_true, decide_eq_true_eq] at h
        have h7 : c.toNat ≤ ('7' : Char).toNat := h.2
        have : ('7' : Char).toNat = 55 := rfl
        have : ('0' : Char).toNat = 48 := rfl
        omega
      rw [List.foldl_cons, List.length_cons, Nat.pow_succ', ← Nat.mul_assoc]
      calc _ < (n * 8 + (c.toNat - '0'.toNat) + 1) * 8 ^ cs.length :=
            ih (fun c h => hcs c (List.mem_cons_of_mem _ h)) _
        _ ≤ (n + 1) * 8 * 8 ^ cs.length := Nat.mul_le_mul_right _ (by omega)

/-- A legacy octal escape led by a digit from 1 to 7 stays within `0o377` exactly while it has
at most three digits after 1 to 3, and at most two after 4 to 7. -/
theorem octalValue_le_iff {d : Char} {r : List Char} (hd : '1' ≤ d ∧ d ≤ '7')
    (hr : ∀ c ∈ r, Shape.isOctal c = true) :
    octalValue (d :: r) ≤ 0o377 ↔ r.length < if d ≤ '3' then 3 else 2 := by
  have h0 : ('0' : Char).toNat = 48 := rfl
  have h1 : 49 ≤ d.toNat := hd.1
  have h7 : d.toNat ≤ 55 := hd.2
  have hlo := le_foldl_octal r (d.toNat - '0'.toNat)
  have hhi := foldl_octal_lt hr (d.toNat - '0'.toNat)
  rw [octalValue_cons]
  split_ifs with h3
  · -- after 1 to 3, a fourth digit reaches `0o1000`
    have hv : d.toNat ≤ 51 := h3
    constructor
    · intro hval
      by_contra hlen
      have hP : 8 ^ 3 ≤ 8 ^ r.length := Nat.pow_le_pow_right (by decide) (by omega)
      have hmul : 1 * 8 ^ r.length ≤ (d.toNat - '0'.toNat) * 8 ^ r.length :=
        Nat.mul_le_mul_right _ (by omega)
      simp only [Nat.reducePow] at hP
      omega
    · intro hlen
      have hP : 8 ^ r.length ≤ 8 ^ 2 := Nat.pow_le_pow_right (by decide) (by omega)
      have hmul : (d.toNat - '0'.toNat + 1) * 8 ^ r.length ≤ 4 * 8 ^ r.length :=
        Nat.mul_le_mul_right _ (by omega)
      simp only [Nat.reducePow] at hP
      omega
  · -- after 4 to 7, a third digit reaches `0o400`
    have hv : 52 ≤ d.toNat := Nat.lt_of_not_le fun h => h3 h
    constructor
    · intro hval
      by_contra hlen
      have hP : 8 ^ 2 ≤ 8 ^ r.length := Nat.pow_le_pow_right (by decide) (by omega)
      have hmul : 4 * 8 ^ r.length ≤ (d.toNat - '0'.toNat) * 8 ^ r.length :=
        Nat.mul_le_mul_right _ (by omega)
      simp only [Nat.reducePow] at hP
      omega
    · intro hlen
      have hP : 8 ^ r.length ≤ 8 ^ 1 := Nat.pow_le_pow_right (by decide) (by omega)
      have hmul : (d.toNat - '0'.toNat + 1) * 8 ^ r.length ≤ 8 * 8 ^ r.length :=
        Nat.mul_le_mul_right _ (by omega)
      simp only [Nat.reducePow] at hP
      omega

/-- A prefix all of whose members pass `p` is no longer than the run that passes `p`. -/
theorem length_le_takeWhile {p : Char → Bool} {o l : List Char} (hp : o <+: l)
    (ho : ∀ c ∈ o, p c = true) : o.length ≤ (l.takeWhile p).length := by
  obtain ⟨t, rfl⟩ := hp
  rw [List.takeWhile_append_of_pos ho, List.length_append]
  exact Nat.le_add_right _ _

theorem prefix_take_of_length_le {o l : List Char} {n : Nat} (hp : o <+: l) (hn : o.length ≤ n) :
    o <+: l.take n := by
  rw [List.prefix_iff_eq_take] at hp ⊢
  rw [List.take_take, Nat.min_eq_left hn, ← hp]

/-- After a digit from 1 to 7, `octalExtent` measures the longest legacy octal escape. -/
theorem longestOctalPrefix_octalExtent {d : Char} (ds : List Char) (hd : '1' ≤ d ∧ d ≤ '7') :
    LongestOctalPrefix (d :: ds) ((d :: ds).take (Shape.octalExtent (d :: ds))) := by
  set most := if d ≤ '3' then 3 else 2 with hmost
  have hdigit : Shape.isOctal d = true := by
    simp only [Shape.isOctal, Bool.and_eq_true, decide_eq_true_eq]
    exact ⟨le_trans (by decide) hd.1, hd.2⟩
  -- the extent is the run of octal digits among the first three, or the first two
  have hext : Shape.octalExtent (d :: ds) =
      (((d :: ds).take most).takeWhile Shape.isOctal).length := by
    have h0 : '0' ≤ d := le_trans (by decide) hd.1
    by_cases h3 : d ≤ '3'
    · simp [Shape.octalExtent, hmost, h0, h3]
    · have h4 : '4' ≤ d := Nat.lt_of_not_le fun h => h3 h
      simp [Shape.octalExtent, hmost, h0, h3, h4, hd.2]
  obtain ⟨k, hk⟩ : ∃ k, most = k + 1 := ⟨most - 1, by rw [hmost]; split <;> rfl⟩
  have hw : ((d :: ds).take most).takeWhile Shape.isOctal =
      d :: (ds.take k).takeWhile Shape.isOctal := by
    rw [hk, List.take_succ_cons, List.takeWhile_cons_of_pos hdigit]
  have hpre : ((d :: ds).take most).takeWhile Shape.isOctal <+: d :: ds :=
    (List.takeWhile_prefix _).trans (List.take_prefix _ _)
  rw [hext, ← List.prefix_iff_eq_take.1 hpre]
  refine ⟨⟨hpre, fun c hc => List.mem_takeWhile_imp hc, ?_⟩, fun o ⟨hpo, hoct, hval⟩ => ?_⟩
  · -- what is read has at most `most` digits, so it stays within `0o377`
    rw [hw]
    refine (octalValue_le_iff hd fun c hc => List.mem_takeWhile_imp hc).2 ?_
    have hlen : ((ds.take k).takeWhile Shape.isOctal).length ≤ (ds.take k).length :=
      (List.takeWhile_prefix _).length_le
    simp only [List.length_take] at hlen
    omega
  · -- a longer octal escape would pass `0o377`
    rcases o with _ | ⟨c, r⟩
    · exact Nat.zero_le _
    · obtain ⟨rfl, -⟩ := List.cons_prefix_cons.1 hpo
      have hlen := (octalValue_le_iff hd fun x hx => hoct x (List.mem_cons_of_mem _ hx)).1 hval
      rw [← hmost] at hlen
      exact length_le_takeWhile (prefix_take_of_length_le hpo hlen) hoct

end Octal

/-! ## Readings of escapes that refer to no group -/

/-- A piece as its text and category. -/
def Piece.reading (q : Piece) : List Char × Category := (q.text.toList, q.category)

/-- A token's text cut after `head`: the head with category `c` and, when anything remains, the
rest as one literal. -/
def splitReading (head rest : List Char) (c : Category) : List (List Char × Category) :=
  (head, c) :: if rest = [] then [] else [(rest, .literal)]

/-- The prescan finds names exactly when some capturing group is named. -/
theorem Captures.hasNames_ofTokens (ts : List Token) :
    (Captures.ofTokens ts).hasNames = !(captureNames ts).isEmpty := by
  have hnil : (Captures.ofTokens ts).names = [] ↔ captureNames ts = [] := by
    simp only [List.eq_nil_iff_forall_not_mem, Captures.mem_names_ofTokens]
  cases h : captureNames ts with
  | nil => simp [Captures.hasNames, hnil.2 h]
  | cons n ns =>
      have hne : (Captures.ofTokens ts).names ≠ [] := fun h' => by simp [hnil.1 h'] at h
      simp [Captures.hasNames, hne]

namespace Classifier

section Readings

variable (setting : Setting) (s : Classifier) (pos : Nat)

theorem escape_decimal {x d : Char} (ds : List Char) (hd : '1' ≤ d ∧ d ≤ '9') :
    s.escape setting pos (x :: d :: ds) = s.decimalEscape setting pos (x :: d :: ds) := by
  simp only [escape]
  rw [if_pos (by simp [hd.1, hd.2])]

theorem escape_named (x : Char) (rest : List Char) :
    s.escape setting pos (x :: 'k' :: rest) =
      s.namedBackreference setting pos (x :: 'k' :: rest) := by
  simp only [escape]
  rw [if_neg (by decide)]
  rfl

/-- A decimal escape whose number, read into a word, passes the count of groups refers to
none. -/
theorem decimalEscape_beyond {text : List Char}
    (hn : setting.captures.total < min (decimalValue (text.drop 1)) wordLimit) :
    (s.decimalEscape setting pos text).1 =
      if setting.unicode then s.report pos text .invalidBackreference
      else if (text.drop 1).head? = some '8' ∨ (text.drop 1).head? = some '9' then
        s.emitSplit pos text 2 .escapedLiteral
      else s.emitSplit pos text (1 + Shape.octalExtent (text.drop 1)) .metasequence := by
  simp only [decimalEscape]
  rw [if_neg (Nat.not_le_of_lt hn)]
  by_cases hu : setting.unicode = true
  · rw [if_pos hu, if_pos hu]
  · rw [if_neg hu, if_neg hu]
    by_cases h89 : (text.drop 1).head? = some '8' ∨ (text.drop 1).head? = some '9'
    · rw [if_pos (by simpa using h89), if_pos h89]
    · rw [if_neg (by simpa using h89), if_neg h89]

/-- An escape `\k` in a pattern without named groups refers to none. -/
theorem namedBackreference_unnamed {text : List Char} (hnames : setting.captures.hasNames = false) :
    (s.namedBackreference setting pos text).1 =
      if setting.unicode then s.report pos text .invalidBackreference
      else s.emitSplit pos text 2 .escapedLiteral := by
  simp only [namedBackreference]
  rw [if_neg (by simp [hnames])]
  by_cases hu : setting.unicode = true
  · rw [if_pos hu, if_pos hu]
  · rw [if_neg hu, if_neg hu]

variable {s pos} {new : List Piece}

theorem reading_report {text : List Char} {d : Diagnostic}
    (h : (s.report pos text d).pieces.toList = s.pieces.toList ++ new) :
    new.map Piece.reading = [(text, .error d)] := by
  simp only [report_pieces, Array.toList_push, List.append_cancel_left_eq] at h
  simp [← h, Piece.reading, piece]

theorem reading_emitSplit {text : List Char} {cut : Nat} {c : Category}
    (h : (s.emitSplit pos text cut c).pieces.toList = s.pieces.toList ++ new) :
    new.map Piece.reading = splitReading (text.take cut) (text.drop cut) c := by
  rw [emitSplit_pieces, List.append_cancel_left_eq] at h
  subst h
  by_cases hrest : text.drop cut = [] <;> simp [hrest, splitReading, Piece.reading, piece]

variable {ctx : Context} {ps : List Piece}

/-- The block of an escape is what the escape appends: `finish` leaves it alone. -/
theorem escape_block {text : List Char} (ht : text ≠ [])
    (hnew : (s.step setting ctx pos ⟨.escape, text⟩).1.pieces.toList = s.pieces.toList ++ new)
    (hfin : List.Forall₂ Piece.Finished new ps) :
    (s.escape setting pos text).1.pieces.toList = s.pieces.toList ++ ps := by
  obtain rfl := eq_of_finished_of_not_group setting (t := ⟨.escape, text⟩) ht rfl hnew hfin
  exact hnew

/-- The block of a decimal escape whose number passes the count of groups: one invalid
backreference under the Unicode-aware rules; otherwise `\8` or `\9` escaped and the rest a
literal; otherwise a legacy octal escape as long as `octalExtent` measures, and the rest a
literal. -/
theorem decimal_block {d : Char} {ds : List Char} (hd : '1' ≤ d ∧ d ≤ '9')
    (hn : setting.captures.total < min (decimalValue (d :: ds)) wordLimit)
    (hnew : (s.step setting ctx pos ⟨.escape, '\\' :: d :: ds⟩).1.pieces.toList =
      s.pieces.toList ++ new)
    (hfin : List.Forall₂ Piece.Finished new ps) :
    ps.map Piece.reading =
      if setting.unicode then [('\\' :: d :: ds, .error .invalidBackreference)]
      else if d = '8' ∨ d = '9' then splitReading ['\\', d] ds .escapedLiteral
      else splitReading ('\\' :: (d :: ds).take (Shape.octalExtent (d :: ds)))
        ((d :: ds).drop (Shape.octalExtent (d :: ds))) .metasequence := by
  have hesc := escape_block setting (List.cons_ne_nil _ _) hnew hfin
  rw [escape_decimal setting s pos ds hd, @decimalEscape_beyond setting s pos ('\\' :: d :: ds) hn]
    at hesc
  by_cases hu : setting.unicode = true
  · rw [if_pos hu] at hesc ⊢
    exact reading_report hesc
  rw [if_neg hu] at hesc ⊢
  by_cases h89 : d = '8' ∨ d = '9'
  · rw [if_pos (by simpa using h89)] at hesc
    rw [if_pos h89]
    exact reading_emitSplit hesc
  · -- the backslash and the octal digits are cut off together
    rw [if_neg (by simpa using h89)] at hesc
    rw [if_neg h89]
    simpa [Nat.add_comm 1] using reading_emitSplit hesc

/-- The block of an escape `\k` in a pattern without named groups: one invalid backreference
under the Unicode-aware rules, and otherwise `\k` escaped and the rest a literal. -/
theorem named_block_unnamed {rest : List Char} (hnames : setting.captures.hasNames = false)
    (hnew : (s.step setting ctx pos ⟨.escape, '\\' :: 'k' :: rest⟩).1.pieces.toList =
      s.pieces.toList ++ new)
    (hfin : List.Forall₂ Piece.Finished new ps) :
    ps.map Piece.reading =
      if setting.unicode then [('\\' :: 'k' :: rest, .error .invalidBackreference)]
      else splitReading ['\\', 'k'] rest .escapedLiteral := by
  have hesc := escape_block setting (List.cons_ne_nil _ _) hnew hfin
  rw [escape_named setting s pos, namedBackreference_unnamed setting s pos hnames] at hesc
  by_cases hu : setting.unicode = true
  · rw [if_pos hu] at hesc ⊢
    exact reading_report hesc
  · rw [if_neg hu] at hesc ⊢
    exact reading_emitSplit hesc

/-- With named groups, an escape `\k` with no name is an incomplete token. -/
theorem named_block_incomplete (hnames : setting.captures.hasNames = true)
    (hnew : (s.step setting ctx pos ⟨.escape, ['\\', 'k']⟩).1.pieces.toList =
      s.pieces.toList ++ new)
    (hfin : List.Forall₂ Piece.Finished new ps) :
    ps.map Piece.reading = [(['\\', 'k'], .error .incompleteToken)] := by
  have hesc := escape_block setting (List.cons_ne_nil _ _) hnew hfin
  rw [escape_named setting s pos] at hesc
  simp only [namedBackreference, hnames, if_true] at hesc
  exact reading_report hesc

end Readings

end Classifier

/-! ## Across a whole pattern -/

theorem length_capturing_le (ts : List Token) : (capturing ts).length ≤ ts.length :=
  List.length_filter_le _ _

/-- In a pattern with fewer than `wordLimit` capturing groups, an escape that refers to no group
falls back as follows. A decimal escape whose number passes the count of capturing groups is one
invalid backreference under the Unicode-aware rules; under the legacy rules, `\8…` and `\9…` are
the escaped digit and a literal of the rest, and any other is the longest legacy octal escape at
its front and a literal of the rest. Without named groups, `\k…` is one invalid backreference
under the Unicode-aware rules, and `\k` escaped and a literal of the rest under the legacy rules;
with named groups, `\k` with no name is an incomplete token. -/
theorem classify_unreferenced_escapes (pattern : String) (mode : Mode)
    (hm : mode.unicodeSets = false)
    (hgroups : (capturing (tokenize mode.unicodeAware pattern.toList)).length < wordLimit) :
    ∃ blocks : List (Token × List Piece),
      blocks.map Prod.fst = tokenize mode.unicodeAware pattern.toList ∧
      classify pattern mode = .ok (blocks.map Prod.snd).flatten ∧
      ∀ b ∈ blocks, b.1.kind = .escape →
        (∀ d ds, b.1.text = '\\' :: d :: ds → '1' ≤ d ∧ d ≤ '9' →
          (capturing (tokenize mode.unicodeAware pattern.toList)).length < decimalValue (d :: ds) →
          (mode.unicodeAware = true →
            b.2.map Piece.reading = [(b.1.text, .error .invalidBackreference)]) ∧
          (mode.unicodeAware = false → (d = '8' ∨ d = '9') →
            b.2.map Piece.reading = splitReading ['\\', d] ds .escapedLiteral) ∧
          (mode.unicodeAware = false → d ≤ '7' → ∃ o rest, d :: ds = o ++ rest ∧
            LongestOctalPrefix (d :: ds) o ∧
            b.2.map Piece.reading = splitReading ('\\' :: o) rest .metasequence)) ∧
        ∀ rest, b.1.text = '\\' :: 'k' :: rest →
          (captureNames (tokenize mode.unicodeAware pattern.toList) = [] →
            (mode.unicodeAware = true →
              b.2.map Piece.reading = [(b.1.text, .error .invalidBackreference)]) ∧
            (mode.unicodeAware = false →
              b.2.map Piece.reading = splitReading ['\\', 'k'] rest .escapedLiteral)) ∧
          (captureNames (tokenize mode.unicodeAware pattern.toList) ≠ [] → rest = [] →
            b.2.map Piece.reading = [(b.1.text, .error .incompleteToken)]) := by
  obtain ⟨blocks, hfst, hclassify, hread⟩ := classify_reads pattern mode hm
  refine ⟨blocks, hfst, hclassify, fun b hb hk => ?_⟩
  obtain ⟨pre, post, h⟩ := List.append_of_mem hb
  obtain ⟨s, pos, new, -, hnew, hfin⟩ := hread pre b post h
  obtain ⟨⟨kind, text⟩, ps⟩ := b
  obtain rfl : kind = .escape := hk
  -- below the word, the prescan counts the capturing groups exactly
  have htotal : (Setting.ofPattern mode pattern).captures.total =
      (capturing (tokenize mode.unicodeAware pattern.toList)).length := by
    rw [Setting.ofPattern, Captures.total_ofTokens]
    exact Nat.min_eq_left hgroups.le
  have hunicode : (Setting.ofPattern mode pattern).unicode = mode.unicodeAware := rfl
  have hnames := Captures.hasNames_ofTokens (tokenize mode.unicodeAware pattern.toList)
  refine ⟨fun d ds htext hd hv => ?_, fun rest htext => ?_⟩
  · subst htext
    have hn : (Setting.ofPattern mode pattern).captures.total <
        min (decimalValue (d :: ds)) wordLimit := by
      rw [htotal]
      exact lt_min hv hgroups
    have hblock := Classifier.decimal_block _ hd hn hnew hfin
    rw [hunicode] at hblock
    refine ⟨fun hu => by simpa [hu] using hblock, fun hu h89 => by simpa [hu, h89] using hblock,
      fun hu h7 => ?_⟩
    have h89 : ¬(d = '8' ∨ d = '9') := by
      rintro (rfl | rfl) <;> exact absurd h7 (by decide)
    refine ⟨_, _, (List.take_append_drop _ _).symm, longestOctalPrefix_octalExtent ds ⟨hd.1, h7⟩,
      ?_⟩
    simpa [hu, h89] using hblock
  · subst htext
    refine ⟨fun hnil => ?_, fun hne hrest => ?_⟩
    · have hno : (Setting.ofPattern mode pattern).captures.hasNames = false := by
        simp [Setting.ofPattern, hnames, hnil]
      have hblock := Classifier.named_block_unnamed _ hno hnew hfin
      rw [hunicode] at hblock
      exact ⟨fun hu => by simpa [hu] using hblock, fun hu => by simpa [hu] using hblock⟩
    · subst hrest
      have hyes : (Setting.ofPattern mode pattern).captures.hasNames = true := by
        simp [Setting.ofPattern, hnames, hne]
      exact Classifier.named_block_incomplete _ hyes hnew hfin

theorem classify_unreferenced_escapes_sample :
    ({} : Mode).unicodeSets = false ∧
    (capturing (tokenize false "(a)\\18\\400\\9x\\k<n>".toList)).length < wordLimit ∧
    ∃ blocks : List (Token × List Piece),
      blocks.map Prod.fst = tokenize false "(a)\\18\\400\\9x\\k<n>".toList ∧
      classify "(a)\\18\\400\\9x\\k<n>" {} = .ok (blocks.map Prod.snd).flatten ∧
      ∀ b ∈ blocks, b.1.kind = .escape →
        (∀ d ds, b.1.text = '\\' :: d :: ds → '1' ≤ d ∧ d ≤ '9' →
          (capturing (tokenize false "(a)\\18\\400\\9x\\k<n>".toList)).length <
            decimalValue (d :: ds) →
          (false = true →
            b.2.map Piece.reading = [(b.1.text, .error .invalidBackreference)]) ∧
          (false = false → (d = '8' ∨ d = '9') →
            b.2.map Piece.reading = splitReading ['\\', d] ds .escapedLiteral) ∧
          (false = false → d ≤ '7' → ∃ o rest, d :: ds = o ++ rest ∧
            LongestOctalPrefix (d :: ds) o ∧
            b.2.map Piece.reading = splitReading ('\\' :: o) rest .metasequence)) ∧
        ∀ rest, b.1.text = '\\' :: 'k' :: rest →
          (captureNames (tokenize false "(a)\\18\\400\\9x\\k<n>".toList) = [] →
            (false = true →
              b.2.map Piece.reading = [(b.1.text, .error .invalidBackreference)]) ∧
            (false = false →
              b.2.map Piece.reading = splitReading ['\\', 'k'] rest .escapedLiteral)) ∧
          (captureNames (tokenize false "(a)\\18\\400\\9x\\k<n>".toList) ≠ [] → rest = [] →
            b.2.map Piece.reading = [(b.1.text, .error .incompleteToken)]) :=
  have hgroups : (capturing (tokenize false "(a)\\18\\400\\9x\\k<n>".toList)).length <
      wordLimit :=
    (length_capturing_le _).trans_lt ((length_tokenize_le _ _).trans_lt (by decide))
  ⟨rfl, hgroups, classify_unreferenced_escapes "(a)\\18\\400\\9x\\k<n>" {} rfl hgroups⟩

/-- Once a pattern has `wordLimit` capturing groups, the count stops there, and the escape
`\4294967296`, whose number passes it, is still a backreference: it is not read as the legacy
octal escape `\42` and the literal `94967296`. -/
theorem octal_fallback_lost_past_word :
    (capturing (tokenize false (List.replicate wordLimit '(' ++ pastWordEscape))).length <
        decimalValue (pastWordEscape.drop 1) ∧
      ∃ pieces, classify (String.ofList (List.replicate wordLimit '(' ++ pastWordEscape)) {} =
          .ok pieces ∧
        Classifier.piece wordLimit pastWordEscape .backreference ∈ pieces := by
  have hcount :
      (capturing (tokenize false (List.replicate wordLimit '(' ++ pastWordEscape))).length =
        wordLimit := by
    rw [tokenize_replicate_pastWordEscape, capturing_replicate_pastWordEscape,
      List.length_replicate]
  refine ⟨by rw [hcount]; decide, _, classify_eq rfl, ?_⟩
  have hfilter := filter_backreference_past_word wordLimit le_rfl
  exact List.mem_of_mem_filter (by rw [hfilter]; exact List.mem_singleton_self _)

end RegexHighlight
