import Mathlib.Data.List.TakeDrop
import RegexHighlight.Proofs.Lexer
import RegexHighlight.Proofs.Groups

/-!
# Cuts and indices stay in bounds

Everything a classification cuts by a count of bytes lies on ASCII characters
(`TokenCuts`): the backslash of an escape, every character of an escape but a single escaped
one, of a group opening and of a quantifier, the digits of a decimal escape, and the brackets
of a class. The bounds of an interval are digit runs, and `intervalProblem` checks exactly
their values (`boundsProblem`): it reads them by saturating arithmetic (`parseBound`), which
stops far above the largest bound it allows. The letter of a control escape is upper-cased into `A`–`Z`
before `A` is subtracted from it.

Every group still open when the last token is read points at the piece of its opening
(`OpenGroup.PointsAt`), so `finish` only ever marks pieces that exist, and marks openings.
-/

namespace RegexHighlight

/-! ## Interval bounds -/

/-- The diagnostic of an interval with lower bound `low` and upper bound `high`, if any. -/
def boundsProblem (low : Nat) (high : Option Nat) : Option Diagnostic :=
  if low > maxIntervalBound || high.any (fun h => decide (h > maxIntervalBound)) then
    some .intervalOverflow
  else if high.any (fun h => decide (low > h)) then some .intervalReversed
  else none

/-- One saturating step of `parseBound` is the exact step of `decimalValue`, saturated. -/
theorem foldl_parseBound (digits : List Char) (n : Nat) :
    digits.foldl (fun n c => min (min (n * 10) wordLimit + (c.toNat - '0'.toNat)) wordLimit)
        (min n wordLimit) =
      min (digits.foldl (fun n c => n * 10 + (c.toNat - '0'.toNat)) n) wordLimit := by
  induction digits generalizing n with
  | nil => rfl
  | cons c cs ih =>
      have hstep : min (min (min n wordLimit * 10) wordLimit + (c.toNat - '0'.toNat)) wordLimit =
          min (n * 10 + (c.toNat - '0'.toNat)) wordLimit := by
        unfold wordLimit
        omega
      rw [List.foldl_cons, List.foldl_cons, hstep, ih]

/-- Reading digits by saturating arithmetic gives their value, stopped at `wordLimit`. -/
theorem parseBound_eq_min (digits : List Char) :
    parseBound digits = min (decimalValue digits) wordLimit := by
  simpa [parseBound, decimalValue] using foldl_parseBound digits 0

/-- Saturating the bounds at `wordLimit` changes no verdict, since `maxIntervalBound` lies far
below it. -/
theorem boundsProblem_saturate (low : Nat) (high : Option Nat) :
    boundsProblem (min low wordLimit) (high.map (min · wordLimit)) = boundsProblem low high := by
  have hlow : (min low wordLimit > maxIntervalBound) = (low > maxIntervalBound) := by
    unfold wordLimit maxIntervalBound
    apply propext
    omega
  cases high with
  | none => simp [boundsProblem, hlow]
  | some h =>
      have hhigh : (min h wordLimit > maxIntervalBound) = (h > maxIntervalBound) := by
        unfold wordLimit maxIntervalBound
        apply propext
        omega
      -- below the limit both bounds are their own values
      by_cases hover : low > maxIntervalBound ∨ h > maxIntervalBound
      · simp [boundsProblem, hlow, hhigh, hover]
      · have hl : min low wordLimit = low := by unfold wordLimit maxIntervalBound at *; omega
        have hh : min h wordLimit = h := by unfold wordLimit maxIntervalBound at *; omega
        simp [boundsProblem, hl, hh]

/-- Checking the bounds as `intervalProblem` reads them, by saturating arithmetic, is checking
their values. -/
theorem boundsProblem_parseBound (low : List Char) (high : Option (List Char)) :
    boundsProblem (parseBound low) (high.map parseBound) =
      boundsProblem (decimalValue low) (high.map decimalValue) := by
  have hmap : high.map parseBound = (high.map decimalValue).map (min · wordLimit) := by
    rw [Option.map_map]
    exact congrArg (high.map ·) (funext parseBound_eq_min)
  rw [hmap, parseBound_eq_min, boundsProblem_saturate]

theorem dropWhile_lazy (pre lazy : List Char) (hlazy : lazy = [] ∨ lazy = ['?']) :
    ((pre ++ '}' :: lazy).reverse.dropWhile (· = '?')).reverse = pre ++ ['}'] := by
  rcases hlazy with rfl | rfl <;> simp

theorem span_digits {low rest : List Char} (hlow : ∀ x ∈ low, Shape.isDigit x = true) :
    (low ++ rest).span (· ≠ ',') =
      (low ++ rest.takeWhile (· ≠ ','), rest.dropWhile (· ≠ ',')) := by
  have hne : ∀ x ∈ low, decide (x ≠ ',') = true := by
    intro x hx
    have hdigit := hlow x hx
    simp only [decide_eq_true_eq]
    rintro rfl
    exact absurd hdigit (by decide)
  rw [List.span_eq_takeWhile_dropWhile, List.takeWhile_append_of_pos hne,
    List.dropWhile_append_of_pos hne]

/-- On an interval, `intervalProblem` reads the lower bound and the upper bound, when there is
one, and checks their values. -/
theorem intervalProblem_eq_boundsProblem {low high lazy : List Char}
    (hlow : ∀ x ∈ low, Shape.isDigit x = true)
    (hhigh : high = [] ∨ ∃ hi, high = ',' :: hi ∧ ∀ x ∈ hi, Shape.isDigit x = true)
    (hlazy : lazy = [] ∨ lazy = ['?']) :
    ∃ hv : Option (List Char), (∀ hi ∈ hv, hi ≠ [] ∧ ∀ x ∈ hi, Shape.isDigit x = true) ∧
      intervalProblem ('{' :: (low ++ high ++ '}' :: lazy)) =
        boundsProblem (decimalValue low) (hv.map decimalValue) := by
  have hbody := dropWhile_lazy (low ++ high) lazy hlazy
  simp only [intervalProblem]
  rw [hbody, List.getLast?_concat, if_pos rfl, List.dropLast_concat, span_digits hlow]
  rcases hhigh with rfl | ⟨hi, rfl, hdig⟩
  · exact ⟨none, by simp, by rw [← boundsProblem_parseBound]; simp [boundsProblem]⟩
  · -- the comma ends the lower bound; an upper bound follows unless the comma is last
    have htw : (',' :: hi).takeWhile (· ≠ ',') = [] := by simp
    have hdw : (',' :: hi).dropWhile (· ≠ ',') = ',' :: hi := by simp
    rw [htw, hdw, List.append_nil]
    cases hi with
    | nil => exact ⟨none, by simp, by rw [← boundsProblem_parseBound]; simp [boundsProblem]⟩
    | cons h t =>
        exact ⟨some (h :: t), by simpa using hdig,
          by rw [← boundsProblem_parseBound]; simp [boundsProblem]⟩

/-- The bounds of every interval quantifier are digit runs, and are all it is checked by. -/
theorem bounds_of_mem_tokenize {unicode : Bool} {cs : List Char} {t : Token}
    (h : t ∈ tokenize unicode cs) (hk : t.kind = .quantifier) (hb : t.text.head? = some '{') :
    ∃ (low : List Char) (high : Option (List Char)), low ≠ [] ∧
      (∀ x ∈ low, Shape.isDigit x = true) ∧
      (∀ hi ∈ high, hi ≠ [] ∧ ∀ x ∈ hi, Shape.isDigit x = true) ∧
      intervalProblem t.text = boundsProblem (decimalValue low) (high.map decimalValue) := by
  obtain ⟨low, high, lazy, htext, hne, hlow, hhigh, hlazy⟩ := interval_of_mem_tokenize h hk hb
  obtain ⟨hv, hdigits, heq⟩ := intervalProblem_eq_boundsProblem hlow hhigh hlazy
  exact ⟨low, hv, hne, hlow, hdigits, htext ▸ heq⟩

/-! ## Control letters -/

/-- Upper-casing an ASCII letter gives a letter from `A` to `Z`. -/
theorem toUpper_mem_range {c : Char} (h : Shape.isLetter c = true) :
    'A' ≤ c.toUpper ∧ c.toUpper ≤ 'Z' := by
  simp only [Shape.isLetter, Bool.or_eq_true, Bool.and_eq_true, decide_eq_true_eq] at h
  have hA : ('A' : Char).val.toNat = 65 := rfl
  have hZ : ('Z' : Char).val.toNat = 90 := rfl
  unfold Char.toUpper
  split
  · next hl =>
      -- a lower-case letter moves down by 32, past the wrap of word arithmetic
      have hv : 97 ≤ c.val.toNat ∧ c.val.toNat ≤ 122 := hl
      have hup : (c.val + ('A'.val - 'a'.val)).toNat = c.val.toNat - 32 := by
        rw [UInt32.toNat_add, UInt32.toNat_sub, hA]
        have ha : ('a' : Char).val.toNat = 97 := rfl
        rw [ha]
        omega
      constructor
      · show ('A' : Char).val.toNat ≤ (c.val + ('A'.val - 'a'.val)).toNat
        rw [hup, hA]
        omega
      · show (c.val + ('A'.val - 'a'.val)).toNat ≤ ('Z' : Char).val.toNat
        rw [hup, hZ]
        omega
  · next hl =>
      have hlower : ¬('a' ≤ c ∧ c ≤ 'z') := hl
      simpa [hlower] using h

/-! ## Open groups -/

/-- An open group points at the piece of its opening: a piece sits at its index, with the span
and text of a group opening token, and with the category of a group at the group's depth when
the group is valid. -/
def OpenGroup.PointsAt (g : OpenGroup) (pieces : List Piece) (opens : List (Nat × Token)) :
    Prop :=
  ∃ p, pieces[g.index]? = some p ∧
    (∃ x ∈ opens, x.2.kind = .groupOpen ∧ p.span = ⟨x.1, x.1 + utf8Length x.2.text⟩ ∧
      p.text = String.ofList x.2.text) ∧
    (g.valid = true → p.category = .group g.depth)

theorem OpenGroup.PointsAt.append {g : OpenGroup} {pieces : List Piece}
    {opens : List (Nat × Token)} (h : g.PointsAt pieces opens) (new : List Piece)
    (more : List (Nat × Token)) : g.PointsAt (pieces ++ new) (opens ++ more) := by
  obtain ⟨p, hp, ⟨x, hx, hopen⟩, hvalid⟩ := h
  have hlt : g.index < pieces.length := (List.getElem?_eq_some_iff.1 hp).1
  exact ⟨p, by rw [List.getElem?_append_left hlt, hp], ⟨x, List.mem_append_left _ hx, hopen⟩,
    hvalid⟩

theorem Piece.span_text_of_groupView {p : Piece} {pos : Nat} {text : List Char}
    {role : GroupRole} (h : p.groupView = some (GroupReplay.entry pos text role)) :
    p.span = ⟨pos, pos + utf8Length text⟩ ∧ p.text = String.ofList text := by
  simp only [Piece.groupView, Option.map_eq_some_iff, GroupReplay.entry, Prod.mk.injEq] at h
  obtain ⟨-, -, hspan, htext, -⟩ := h
  exact ⟨hspan, htext⟩

namespace Classifier

/-- A step keeps every open group pointing at its opening; an opening pushes a group that points
at the piece it emits. -/
theorem pointsAt_step (setting : Setting) (s : Classifier) (ctx : Context) (pos : Nat)
    {t : Token} (ht : t.text ≠ []) {opens : List (Nat × Token)}
    (hs : ∀ g ∈ s.stack, g.PointsAt s.pieces.toList opens) :
    ∀ g ∈ (s.step setting ctx pos t).1.stack,
      g.PointsAt (s.step setting ctx pos t).1.pieces.toList (opens ++ [(pos, t)]) := by
  obtain ⟨kind, text⟩ := t
  cases kind
  case groupOpen =>
    obtain ⟨⟨p, hp, hview, hcat⟩, hstack, -⟩ := groupOpen_spec s pos text
    show ∀ g ∈ (s.groupOpen pos text).1.stack,
      g.PointsAt (s.groupOpen pos text).1.pieces.toList (opens ++ [(pos, ⟨.groupOpen, text⟩)])
    rw [hstack, hp]
    rintro g (_ | ⟨_, hg⟩)
    · have hget : (s.pieces.toList ++ [p])[s.pieces.size]? = some p := by
        rw [← Array.length_toList]
        simp
      refine ⟨p, hget, ⟨(pos, ⟨.groupOpen, text⟩), by simp, rfl,
        Piece.span_text_of_groupView hview⟩, fun hv => hcat (by simpa using hv)⟩
    · exact (hs g hg).append [p] _
  case groupClose =>
    obtain ⟨⟨p, hp, -⟩, hstack, -⟩ := groupClose_spec s pos text
    show ∀ g ∈ (s.groupClose pos text).1.stack,
      g.PointsAt (s.groupClose pos text).1.pieces.toList (opens ++ [(pos, ⟨.groupClose, text⟩)])
    rw [hstack, hp]
    exact fun g hg => (hs g (List.mem_of_mem_tail hg)).append [p] _
  all_goals
    obtain ⟨new, hpieces, -⟩ := appends_step setting s pos ctx ht
    rw [hpieces, (frame_step setting s pos ctx rfl).1]
    exact fun g hg => (hs g hg).append new _

theorem pointsAt_run (setting : Setting) {ts : List Token} (hts : ∀ t ∈ ts, t.text ≠ []) :
    ∀ (s : Classifier) (ctx : Context) (pos : Nat) (opens : List (Nat × Token)),
      (∀ g ∈ s.stack, g.PointsAt s.pieces.toList opens) →
      ∀ g ∈ (run setting s ctx pos ts).stack,
        g.PointsAt (run setting s ctx pos ts).pieces.toList (opens ++ withOffsets pos ts) := by
  induction ts with
  | nil =>
      intro s ctx pos opens hs
      simpa [run, withOffsets] using hs
  | cons t ts ih =>
      intro s ctx pos opens hs
      have hstep := pointsAt_step setting s ctx pos (hts t List.mem_cons_self) hs
      have hrest := ih (fun t' ht' => hts t' (List.mem_cons_of_mem _ ht'))
        (s.step setting ctx pos t).1 (s.step setting ctx pos t).2 (pos + utf8Length t.text) _ hstep
      simpa [run, withOffsets] using hrest

/-- The groups left open after the last token point at their openings. -/
theorem pointsAt_ofPattern (mode : Mode) (pattern : String) :
    ∀ g ∈ (ofPattern mode pattern).stack, g.PointsAt (ofPattern mode pattern).pieces.toList
      (withOffsets 0 (tokenize mode.unicodeAware pattern.toList)) := by
  have hts : ∀ t ∈ tokenize mode.unicodeAware pattern.toList, t.text ≠ [] :=
    fun _ ht => text_ne_nil_of_mem_tokenize ht
  rw [ofPattern]
  simpa using pointsAt_run (Setting.ofPattern mode pattern) hts
    ⟨[], [], #[], #[.started pattern mode.flags (Setting.ofPattern mode pattern).captures.total]⟩
    .start 0 [] (by simp)

end Classifier

/-! ## The whole classification -/

/-- Every cut a classification takes by a count of bytes in the tokens of `pattern` lies on
ASCII characters inside the token. -/
structure TokenCuts (unicode : Bool) (pattern : List Char) : Prop where
  /-- An escape starts with its backslash and is ASCII, unless it escapes a single character
  of any kind. -/
  escape : ∀ t ∈ tokenize unicode pattern, t.kind = .escape →
    t.text.head? = some '\\' ∧ (t.text.length ≤ 2 ∨ ∀ x ∈ t.text, x.toNat < 128)
  /-- Group openings and quantifiers are ASCII. -/
  ascii : ∀ t ∈ tokenize unicode pattern, t.kind = .groupOpen ∨ t.kind = .quantifier →
    ∀ x ∈ t.text, x.toNat < 128
  /-- After its backslash a decimal escape holds ASCII digits only, and the legacy octal
  reading of it ends inside it. -/
  decimal : ∀ t ∈ tokenize unicode pattern, t.kind = .escape → ∀ b d ds, t.text = b :: d :: ds →
    '1' ≤ d ∧ d ≤ '9' →
      (∀ x ∈ d :: ds, Shape.isDigit x = true) ∧ 1 + Shape.octalExtent (d :: ds) ≤ t.text.length
  /-- A class is its `[` or `[^`, its interior, and its closing `]` when it has one. -/
  classSplit : ∀ t ∈ tokenize unicode pattern, t.kind = .charClass →
    t.text = (ClassParts.ofText t.text).opening ++ (ClassParts.ofText t.text).interior ++
        (ClassParts.ofText t.text).closing ∧
      ((ClassParts.ofText t.text).opening = ['['] ∨
        (ClassParts.ofText t.text).opening = ['[', '^']) ∧
      ((ClassParts.ofText t.text).closing = [] ∨ (ClassParts.ofText t.text).closing = [']'])
  /-- The escapes inside a class are like those outside. -/
  classEscape : ∀ t ∈ tokenize unicode pattern, t.kind = .charClass →
    ∀ x ∈ classTokenize unicode (ClassParts.ofText t.text).interior, x.kind = .escape →
      x.text.head? = some '\\' ∧ (x.text.length ≤ 2 ∨ ∀ y ∈ x.text, y.toNat < 128)
  /-- The bounds of an interval are digit runs, and they are all it is checked by. -/
  interval : ∀ t ∈ tokenize unicode pattern, t.kind = .quantifier → t.text.head? = some '{' →
    ∃ (low : List Char) (high : Option (List Char)), low ≠ [] ∧
      (∀ x ∈ low, Shape.isDigit x = true) ∧
      (∀ hi ∈ high, hi ≠ [] ∧ ∀ x ∈ hi, Shape.isDigit x = true) ∧
      intervalProblem t.text = boundsProblem (decimalValue low) (high.map decimalValue)

theorem TokenCuts.of_tokenize (unicode : Bool) (pattern : List Char) :
    TokenCuts unicode pattern where
  escape _ ht hk := escape_of_mem_tokenize ht hk
  ascii _ ht hk := ascii_of_mem_tokenize ht hk
  decimal t ht hk b d ds htext hd := by
    refine ⟨digits_of_mem_tokenize ht hk htext hd, ?_⟩
    have hoct := (ByteCut.octalExtent (d :: ds)).1
    simp only [htext, List.length_cons] at hoct ⊢
    omega
  classSplit _ ht hk := classParts_of_mem_tokenize ht hk
  classEscape _ _ _ _ hx hk := escape_of_mem_classTokenize hx hk
  interval _ ht hk hb := bounds_of_mem_tokenize ht hk hb

/-- Classification succeeds unless the `v` flag is set, and it never cuts a text off a character
boundary or outside it, nor reads a digit or a letter it has not checked. Every cut it takes by a
count of bytes lies on ASCII characters of the token (`TokenCuts`), and so do the runs the lexer
counts before it knows whether a rule applies; the letter of a control escape upper-cases into
`A`–`Z`; and every group left open points at the piece of its opening, the piece `finish`
reports. -/
theorem classify_cuts_in_bounds (pattern : String) (mode : Mode) (hm : mode.unicodeSets = false) :
    classify pattern mode = .ok (Classifier.ofPattern mode pattern).finish.pieces.toList ∧
    TokenCuts mode.unicodeAware pattern.toList ∧
    (∀ cs : List Char, ByteCut cs (cs.takeWhile Shape.isDigit).length ∧
      ByteCut cs (cs.takeWhile Shape.isHex).length ∧
      ByteCut cs (cs.takeWhile Shape.isPropertyChar).length ∧
      ByteCut cs (cs.takeWhile Shape.isNameChar).length) ∧
    (∀ c : Char, Shape.isLetter c = true → 'A' ≤ c.toUpper ∧ c.toUpper ≤ 'Z') ∧
    ∀ g ∈ (Classifier.ofPattern mode pattern).stack,
      g.PointsAt (Classifier.ofPattern mode pattern).pieces.toList
        (withOffsets 0 (tokenize mode.unicodeAware pattern.toList)) :=
  ⟨classify_eq hm, TokenCuts.of_tokenize _ _,
    fun cs => ⟨ByteCut.takeWhile (fun _ => Shape.toNat_lt_of_isDigit) cs,
      ByteCut.takeWhile (fun _ => Shape.toNat_lt_of_isHex) cs,
      ByteCut.takeWhile (fun _ => Shape.toNat_lt_of_isPropertyChar) cs,
      ByteCut.takeWhile (fun _ => Shape.toNat_lt_of_isNameChar) cs⟩,
    fun _ hc => toUpper_mem_range hc, Classifier.pointsAt_ofPattern mode pattern⟩

theorem classify_cuts_in_bounds_sample :
    ({ unicode := true } : Mode).unicodeSets = false ∧
    (classify "(?<é>[^\\d-]{2,3}?)\\1(" { unicode := true } =
        .ok (Classifier.ofPattern { unicode := true } "(?<é>[^\\d-]{2,3}?)\\1(").finish.pieces.toList ∧
      TokenCuts true "(?<é>[^\\d-]{2,3}?)\\1(".toList ∧
      (∀ cs : List Char, ByteCut cs (cs.takeWhile Shape.isDigit).length ∧
        ByteCut cs (cs.takeWhile Shape.isHex).length ∧
        ByteCut cs (cs.takeWhile Shape.isPropertyChar).length ∧
        ByteCut cs (cs.takeWhile Shape.isNameChar).length) ∧
      (∀ c : Char, Shape.isLetter c = true → 'A' ≤ c.toUpper ∧ c.toUpper ≤ 'Z') ∧
      ∀ g ∈ (Classifier.ofPattern { unicode := true } "(?<é>[^\\d-]{2,3}?)\\1(").stack,
        g.PointsAt (Classifier.ofPattern { unicode := true } "(?<é>[^\\d-]{2,3}?)\\1(").pieces.toList
          (withOffsets 0 (tokenize true "(?<é>[^\\d-]{2,3}?)\\1(".toList))) :=
  ⟨rfl, classify_cuts_in_bounds _ { unicode := true } rfl⟩

end RegexHighlight
