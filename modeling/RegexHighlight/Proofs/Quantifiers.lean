import RegexHighlight.Proofs.Nesting
import RegexHighlight.Proofs.Safety

/-!
# Quantifiers and alternators

Whether an alternator opens an empty alternative, and whether a quantifier has anything to
repeat, is read off the one token before it. An alternator is an empty alternative exactly first
in the pattern or right after another alternator, however deep the groups; a quantifier is
unquantifiable exactly first in the pattern or after a token that leaves nothing to repeat
(`StopsRepetition`). A quantifier that may repeat is judged by its interval alone: a written
bound past `maxIntervalBound` overflows, and otherwise an upper bound below the lower one is
reversed (`IntervalForm`), whatever the length of the digit runs.
-/

namespace RegexHighlight

/-! ## What a quantifier may repeat -/

/-- Whether a token leaves nothing for a quantifier right after it to repeat, read with the
nesting `n` of the tokens before it and the categories `cats` it was given: a group opening; a
`)` that does not close a valid group other than a lookaround; an anchor; the escape `\b` or
`\B`, or an escape reported incomplete; a quantifier; an alternator. -/
def StopsRepetition (n : Nesting) (t : Token) (cats : List Category) : Bool :=
  match t.kind with
  | .groupOpen | .anchor | .quantifier | .alternator => true
  | .groupClose => !n.stack.head?.any (fun o => o.valid && !o.lookaround)
  | .escape => t.text = ['\\', 'b'] || t.text = ['\\', 'B'] || cats = [.error .incompleteToken]
  | .charClass | .dot | .literal | .char => false

namespace Context

/-- The token after an alternator is the only one that stands right after an alternator. -/
theorem following_previous (n : Nesting) (t : Token) (cats : List Category) :
    (following n t cats).previous = if t.kind = .alternator then .alternator else .other := by
  obtain ⟨kind, text⟩ := t
  cases kind with
  | groupClose => exact following_groupClose_previous n text cats
  | _ => simp [following, after]

/-- A quantifier may follow a token exactly when the token leaves something to repeat. The
classifier tells `\b` and `\B` by their second character, which for an escape of a pattern is
telling the whole text (`wordBoundary_of_mem_tokenize`). -/
theorem following_quantifiable (n : Nesting) {t : Token} (cats : List Category)
    (hb : t.kind = .escape → (t.text.drop 1).head?.any (fun c => c = 'b' || c = 'B') =
      (t.text = ['\\', 'b'] || t.text = ['\\', 'B'])) :
    (following n t cats).quantifiable = !StopsRepetition n t cats := by
  obtain ⟨kind, text⟩ := t
  cases kind with
  | escape =>
      have hbt : (text.drop 1).head?.any (fun c => c = 'b' || c = 'B') =
          (text = ['\\', 'b'] || text = ['\\', 'B']) := hb rfl
      simp only [following, StopsRepetition, after, hbt, Bool.not_or]
  | groupClose => simp [StopsRepetition]
  | _ => rfl

end Context

/-- `intervalProblem` never reports what only the context decides. -/
theorem intervalProblem_ne_unquantifiable (text : List Char) :
    intervalProblem text ≠ some .unquantifiable := by
  unfold intervalProblem
  split
  · dsimp only
    split_ifs <;> simp
  · simp

namespace Classifier

section Blocks

variable (setting : Setting) {s : Classifier} {ctx : Context} {pos : Nat} {text : List Char}
  {new ps : List Piece}

/-- The block of an alternator is one piece: an empty alternative right after the start or an
alternator, an alternator otherwise. -/
theorem alternator_block (ht : text ≠ [])
    (hnew : (s.step setting ctx pos ⟨.alternator, text⟩).1.pieces.toList = s.pieces.toList ++ new)
    (hfin : List.Forall₂ Piece.Finished new ps) :
    ∃ d, ps.map Piece.category = [if ctx.previous = .start ∨ ctx.previous = .alternator
      then .error .emptyAlternative else .alternator d] := by
  obtain rfl := eq_of_finished_of_not_group setting (t := ⟨.alternator, text⟩) ht rfl hnew hfin
  obtain rfl := List.append_cancel_left ((alternator_pieces s pos text ctx).symm.trans hnew)
  exact ⟨(s.stack.head?.map (·.depth)).getD 0, by simp [piece]⟩

/-- The block of a quantifier is one piece: unquantifiable where the context allows no
quantifier, and otherwise judged by its interval. -/
theorem quantifier_block (ht : text ≠ [])
    (hnew : (s.step setting ctx pos ⟨.quantifier, text⟩).1.pieces.toList = s.pieces.toList ++ new)
    (hfin : List.Forall₂ Piece.Finished new ps) :
    ∃ d, ps.map Piece.category = [if ctx.quantifiable
      then (intervalProblem text).elim (.quantifier d) .error else .error .unquantifiable] := by
  obtain rfl := eq_of_finished_of_not_group setting (t := ⟨.quantifier, text⟩) ht rfl hnew hfin
  obtain rfl := List.append_cancel_left ((quantifier_pieces s pos text ctx).symm.trans hnew)
  exact ⟨ctx.groupDepth.getD 0, by simp [piece]⟩

end Blocks

end Classifier

/-! ## Interval bounds -/

/-- A non-empty run of decimal digits. -/
def DigitRun (cs : List Char) : Prop := cs ≠ [] ∧ ∀ c ∈ cs, Shape.isDigit c = true

/-- The text of an interval quantifier with its bounds written out: `{low}`, `{low,}` or
`{low,high}`, each perhaps made lazy by one `?`. The upper bound is `high` when one is written. -/
inductive IntervalForm : List Char → List Char → Option (List Char) → Prop
  | exactly {low lazy : List Char} : DigitRun low → (lazy = [] ∨ lazy = ['?']) →
      IntervalForm ('{' :: (low ++ '}' :: lazy)) low none
  | atLeast {low lazy : List Char} : DigitRun low → (lazy = [] ∨ lazy = ['?']) →
      IntervalForm ('{' :: (low ++ [','] ++ '}' :: lazy)) low none
  | between {low high lazy : List Char} : DigitRun low → DigitRun high →
      (lazy = [] ∨ lazy = ['?']) →
      IntervalForm ('{' :: (low ++ ',' :: high ++ '}' :: lazy)) low (some high)

/-- `intervalProblem` checks the values of the bounds an interval is written with. -/
theorem IntervalForm.intervalProblem_eq {text low : List Char} {high : Option (List Char)}
    (h : IntervalForm text low high) :
    intervalProblem text = boundsProblem (decimalValue low) (high.map decimalValue) := by
  rw [← boundsProblem_parseBound]
  cases h with
  | exactly hlow hlazy =>
      have hspan : low.span (· ≠ ',') = (low, []) := by
        simpa using @span_digits low [] hlow.2
      simp only [intervalProblem]
      rw [dropWhile_lazy _ _ hlazy, List.getLast?_concat, if_pos rfl, List.dropLast_concat, hspan]
      simp [boundsProblem]
  | atLeast hlow hlazy =>
      simp only [intervalProblem]
      rw [dropWhile_lazy _ _ hlazy, List.getLast?_concat, if_pos rfl, List.dropLast_concat,
        span_digits hlow.2]
      simp [boundsProblem]
  | between hlow hhigh hlazy =>
      -- the upper bound is not empty, so the comma is not the last character of the body
      obtain ⟨c, cs, rfl⟩ := List.exists_cons_of_ne_nil hhigh.1
      simp only [intervalProblem]
      rw [dropWhile_lazy _ _ hlazy, List.getLast?_concat, if_pos rfl, List.dropLast_concat,
        span_digits hlow.2]
      simp [boundsProblem]

section Verdicts

variable {low : Nat} {high : Option Nat}

/-- An interval overflows exactly when one of its bounds exceeds `maxIntervalBound`. -/
theorem boundsProblem_eq_overflow_iff :
    boundsProblem low high = some .intervalOverflow ↔
      maxIntervalBound < low ∨ ∃ h ∈ high, maxIntervalBound < h := by
  unfold boundsProblem
  by_cases hover : maxIntervalBound < low ∨ ∃ h ∈ high, maxIntervalBound < h
  · rw [if_pos (by simpa [Option.any_eq_true] using hover)]
    simpa using hover
  · rw [if_neg (by simpa [Option.any_eq_true] using hover)]
    split <;> simpa [Option.any_eq_true] using hover

/-- Short of an overflow, an interval is reversed exactly when its upper bound is below its
lower one. -/
theorem boundsProblem_eq_reversed_iff (hover : boundsProblem low high ≠ some .intervalOverflow) :
    boundsProblem low high = some .intervalReversed ↔ ∃ h ∈ high, h < low := by
  rw [Ne, boundsProblem_eq_overflow_iff] at hover
  unfold boundsProblem
  rw [if_neg (by simpa [Option.any_eq_true] using hover)]
  by_cases hrev : ∃ h ∈ high, h < low
  · rw [if_pos (by simpa [Option.any_eq_true] using hrev)]
    simpa using hrev
  · rw [if_neg (by simpa [Option.any_eq_true] using hrev)]
    simpa using hrev

/-- An interval that neither overflows nor is reversed has no problem. -/
theorem boundsProblem_eq_none (hover : boundsProblem low high ≠ some .intervalOverflow)
    (hrev : boundsProblem low high ≠ some .intervalReversed) : boundsProblem low high = none := by
  unfold boundsProblem at *
  split_ifs at * <;> simp_all

end Verdicts

/-! ## Across a whole pattern -/

/-- Each alternator and each quantifier of a classification is one piece, judged by the context
the tokens before it leave. -/
theorem classify_reads_repetition (pattern : String) (mode : Mode)
    (hm : mode.unicodeSets = false) :
    ∃ blocks : List (Token × List Piece),
      blocks.map Prod.fst = tokenize mode.unicodeAware pattern.toList ∧
      classify pattern mode = .ok (blocks.map Prod.snd).flatten ∧
      ∀ pre b post, blocks = pre ++ b :: post →
        (b.1.kind = .alternator → ∃ d, b.2.map Piece.category =
          [if (Context.before pre).previous = .start ∨ (Context.before pre).previous = .alternator
            then .error .emptyAlternative else .alternator d]) ∧
        (b.1.kind = .quantifier → ∃ d, b.2.map Piece.category =
          [if (Context.before pre).quantifiable
            then (intervalProblem b.1.text).elim (.quantifier d) .error
            else .error .unquantifiable]) := by
  obtain ⟨blocks, hfst, hclassify, hread⟩ := classify_reads pattern mode hm
  refine ⟨blocks, hfst, hclassify, fun pre b post h => ?_⟩
  obtain ⟨s, pos, new, -, hnew, hfin⟩ := hread pre b post h
  have ht : b.1.text ≠ [] := text_ne_nil_of_mem_tokenize (t := b.1) (by
    rw [← hfst, h]
    simp)
  obtain ⟨⟨kind, text⟩, ps⟩ := b
  refine ⟨fun hk => ?_, fun hk => ?_⟩
  · obtain rfl : kind = .alternator := hk
    exact Classifier.alternator_block _ ht hnew hfin
  · obtain rfl : kind = .quantifier := hk
    exact Classifier.quantifier_block _ ht hnew hfin

/-- Empty alternatives and unquantifiable quantifiers are read off the token before them. First
in a pattern, an alternator is an empty alternative and a quantifier is unquantifiable. After a
token, an alternator is an empty alternative exactly when that token is an alternator, whatever
the nesting, and an alternator otherwise; a quantifier is unquantifiable exactly when that token
leaves nothing to repeat, and otherwise its interval alone decides it. -/
theorem classify_repetition (pattern : String) (mode : Mode) (hm : mode.unicodeSets = false) :
    ∃ blocks : List (Token × List Piece),
      blocks.map Prod.fst = tokenize mode.unicodeAware pattern.toList ∧
      classify pattern mode = .ok (blocks.map Prod.snd).flatten ∧
      (∀ b post, blocks = b :: post →
        (b.1.kind = .alternator → b.2.map Piece.category = [.error .emptyAlternative]) ∧
        (b.1.kind = .quantifier → b.2.map Piece.category = [.error .unquantifiable])) ∧
      ∀ pre p b post, blocks = pre ++ p :: b :: post →
        (b.1.kind = .alternator →
          (b.2.map Piece.category = [.error .emptyAlternative] ↔ p.1.kind = .alternator) ∧
          (p.1.kind ≠ .alternator → ∃ d, b.2.map Piece.category = [.alternator d])) ∧
        (b.1.kind = .quantifier →
          (b.2.map Piece.category = [.error .unquantifiable] ↔
            StopsRepetition (Nesting.ofTokens (pre.map Prod.fst)) p.1 (p.2.map Piece.category)) ∧
          (StopsRepetition (Nesting.ofTokens (pre.map Prod.fst)) p.1 (p.2.map Piece.category) =
              false →
            ∃ d, b.2.map Piece.category = [(intervalProblem b.1.text).elim (.quantifier d) .error])) := by
  obtain ⟨blocks, hfst, hclassify, hblock⟩ := classify_reads_repetition pattern mode hm
  refine ⟨blocks, hfst, hclassify, fun b post h => ?_, fun pre p b post h => ?_⟩
  · -- the first token reads the context of the start
    obtain ⟨halt, hquant⟩ := hblock [] b post h
    refine ⟨fun hk => ?_, fun hk => ?_⟩
    · obtain ⟨d, hd⟩ := halt hk
      simpa [Context.start] using hd
    · obtain ⟨d, hd⟩ := hquant hk
      simpa [Context.start] using hd
  · obtain ⟨halt, hquant⟩ := hblock (pre ++ [p]) b post (by simp [h])
    have hp : p.1 ∈ tokenize mode.unicodeAware pattern.toList := by
      rw [← hfst, h]
      simp
    rw [Context.before_append_singleton] at halt hquant
    refine ⟨fun hk => ?_, fun hk => ?_⟩
    · obtain ⟨d, hd⟩ := halt hk
      rw [Context.following_previous] at hd
      by_cases hpk : p.1.kind = .alternator
      · simp only [hpk, if_true, or_true] at hd
        simp [hd, hpk]
      · simp only [hpk, if_false, reduceCtorEq, or_self] at hd
        exact ⟨by simp [hd, hpk], fun _ => ⟨d, hd⟩⟩
    · obtain ⟨d, hd⟩ := hquant hk
      rw [Context.following_quantifiable _ _ (wordBoundary_of_mem_tokenize hp)] at hd
      cases hstop : StopsRepetition (Nesting.ofTokens (pre.map Prod.fst)) p.1
          (p.2.map Piece.category) with
      | true =>
          simp [hstop] at hd
          simp [hd]
      | false =>
          simp only [hstop, Bool.not_false, if_true] at hd
          refine ⟨?_, fun _ => ⟨d, hd⟩⟩
          -- the interval check never answers what only the context decides
          rw [hd]
          cases hip : intervalProblem b.1.text with
          | none => simp
          | some e => simpa [hip] using intervalProblem_ne_unquantifiable b.1.text

theorem classify_repetition_sample :
    ({} : Mode).unicodeSets = false ∧
    ∃ blocks : List (Token × List Piece),
      blocks.map Prod.fst = tokenize false "*a||(?=b)+(c)*\\b?d{2,1}".toList ∧
      classify "*a||(?=b)+(c)*\\b?d{2,1}" {} = .ok (blocks.map Prod.snd).flatten ∧
      (∀ b post, blocks = b :: post →
        (b.1.kind = .alternator → b.2.map Piece.category = [.error .emptyAlternative]) ∧
        (b.1.kind = .quantifier → b.2.map Piece.category = [.error .unquantifiable])) ∧
      ∀ pre p b post, blocks = pre ++ p :: b :: post →
        (b.1.kind = .alternator →
          (b.2.map Piece.category = [.error .emptyAlternative] ↔ p.1.kind = .alternator) ∧
          (p.1.kind ≠ .alternator → ∃ d, b.2.map Piece.category = [.alternator d])) ∧
        (b.1.kind = .quantifier →
          (b.2.map Piece.category = [.error .unquantifiable] ↔
            StopsRepetition (Nesting.ofTokens (pre.map Prod.fst)) p.1 (p.2.map Piece.category)) ∧
          (StopsRepetition (Nesting.ofTokens (pre.map Prod.fst)) p.1 (p.2.map Piece.category) =
              false →
            ∃ d, b.2.map Piece.category = [(intervalProblem b.1.text).elim (.quantifier d) .error])) :=
  ⟨rfl, classify_repetition "*a||(?=b)+(c)*\\b?d{2,1}" {} rfl⟩

/-- An interval quantifier that may repeat is judged by the values of its written bounds,
however long their digit runs and leading zeros: it overflows exactly when a bound exceeds
`maxIntervalBound`; otherwise it is reversed exactly when its upper bound is below its lower one;
otherwise it is a quantifier. The bounds are read by saturating arithmetic, which gives their
value stopped at `wordLimit`. -/
theorem classify_interval_bounds (pattern : String) (mode : Mode) (hm : mode.unicodeSets = false) :
    (∀ digits, parseBound digits = min (decimalValue digits) wordLimit) ∧
    ∃ blocks : List (Token × List Piece),
      blocks.map Prod.fst = tokenize mode.unicodeAware pattern.toList ∧
      classify pattern mode = .ok (blocks.map Prod.snd).flatten ∧
      ∀ b ∈ blocks, ∀ low high, b.1.kind = .quantifier → IntervalForm b.1.text low high →
        b.2.map Piece.category ≠ [.error .unquantifiable] →
        (b.2.map Piece.category = [.error .intervalOverflow] ↔
          maxIntervalBound < decimalValue low ∨ ∃ h ∈ high, maxIntervalBound < decimalValue h) ∧
        (b.2.map Piece.category ≠ [.error .intervalOverflow] →
          (b.2.map Piece.category = [.error .intervalReversed] ↔
            ∃ h ∈ high, decimalValue h < decimalValue low) ∧
          (b.2.map Piece.category ≠ [.error .intervalReversed] →
            ∃ d, b.2.map Piece.category = [.quantifier d])) := by
  refine ⟨parseBound_eq_min, ?_⟩
  obtain ⟨blocks, hfst, hclassify, hblock⟩ := classify_reads_repetition pattern mode hm
  refine ⟨blocks, hfst, hclassify, fun b hb low high hk hform hunq => ?_⟩
  obtain ⟨pre, post, h⟩ := List.append_of_mem hb
  obtain ⟨d, hd⟩ := (hblock pre b post h).2 hk
  -- a quantifier that is not unquantifiable stands where the context allows one
  have hq : (Context.before pre).quantifiable = true := by
    by_contra hq
    exact hunq (by simpa [hq] using hd)
  rw [if_pos hq, hform.intervalProblem_eq] at hd
  have hcat : ∀ e, b.2.map Piece.category = [.error e] ↔
      boundsProblem (decimalValue low) (high.map decimalValue) = some e := by
    intro e
    rw [hd]
    cases boundsProblem (decimalValue low) (high.map decimalValue) <;> simp
  refine ⟨?_, fun hover => ⟨?_, fun hrev => ?_⟩⟩
  · rw [hcat, boundsProblem_eq_overflow_iff]
    simp
  · rw [hcat, boundsProblem_eq_reversed_iff ((hcat _).not.1 hover)]
    simp
  · rw [hd, boundsProblem_eq_none ((hcat _).not.1 hover) ((hcat _).not.1 hrev)]
    exact ⟨d, rfl⟩

theorem classify_interval_bounds_sample :
    ({} : Mode).unicodeSets = false ∧
    IntervalForm "{70000,}?".toList "70000".toList none ∧
    IntervalForm "{3,02}".toList "3".toList (some "02".toList) ∧
    (∀ digits, parseBound digits = min (decimalValue digits) wordLimit) ∧
    ∃ blocks : List (Token × List Piece),
      blocks.map Prod.fst = tokenize false "a{70000,}?b{3,02}".toList ∧
      classify "a{70000,}?b{3,02}" {} = .ok (blocks.map Prod.snd).flatten ∧
      ∀ b ∈ blocks, ∀ low high, b.1.kind = .quantifier → IntervalForm b.1.text low high →
        b.2.map Piece.category ≠ [.error .unquantifiable] →
        (b.2.map Piece.category = [.error .intervalOverflow] ↔
          maxIntervalBound < decimalValue low ∨ ∃ h ∈ high, maxIntervalBound < decimalValue h) ∧
        (b.2.map Piece.category ≠ [.error .intervalOverflow] →
          (b.2.map Piece.category = [.error .intervalReversed] ↔
            ∃ h ∈ high, decimalValue h < decimalValue low) ∧
          (b.2.map Piece.category ≠ [.error .intervalReversed] →
            ∃ d, b.2.map Piece.category = [.quantifier d])) :=
  ⟨rfl, @IntervalForm.atLeast "70000".toList ['?'] ⟨by simp, by simp [Shape.isDigit]⟩ (.inr rfl),
    @IntervalForm.between "3".toList "02".toList [] ⟨by simp, by simp [Shape.isDigit]⟩
      ⟨by simp, by simp [Shape.isDigit]⟩ (.inl rfl),
    classify_interval_bounds "a{70000,}?b{3,02}" {} rfl⟩

end RegexHighlight
