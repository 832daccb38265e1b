import Mathlib.Tactic.SplitIfs
import RegexHighlight.Proofs.Classifier

/-!
# What one step appends

A step of a classification appends pieces after those already emitted and never changes them.
`Classifier.Appends s s' pos text kind` says what the new pieces are like: they lay out the
token's text from its byte offset, and each has a category that a token of that kind can get
(`TokenKind.allows`). `Classifier.appends_step` proves it once for every step, so the proofs
about whole runs never split on the classifier's branches again; `Classifier.emits_run` is the
layout of a whole run.
-/

namespace RegexHighlight

/-- Whether a token kind is a group opening or closing. -/
def TokenKind.isGroup : TokenKind → Bool
  | .groupOpen | .groupClose => true
  | _ => false

/-- The categories a token of a kind can be classified with. A character class gives class
categories only, a group token a group boundary or one of its diagnostics, an escape a
backreference, a metasequence, an escaped literal (with a literal rest when it is cut) or an
escape diagnostic, and so on. -/
def TokenKind.allows : TokenKind → Category → Bool
  | .charClass, .classBoundary | .charClass, .classBody | .charClass, .rangeHyphen
  | .charClass, .metasequence | .charClass, .error .unclosedClass
  | .charClass, .error .invalidRange | .charClass, .error .incompleteToken
  | .charClass, .error .invalidEscape => true
  | .groupOpen, .group _ | .groupOpen, .error .invalidGroupType
  | .groupOpen, .error .duplicateCaptureName => true
  | .groupClose, .group _ | .groupClose, .error .unbalancedRightParen => true
  | .escape, .backreference | .escape, .escapedLiteral | .escape, .metasequence
  | .escape, .literal | .escape, .error .invalidBackreference
  | .escape, .error .incompleteToken | .escape, .error .invalidEscape => true
  | .quantifier, .quantifier _ | .quantifier, .error .unquantifiable
  | .quantifier, .error .intervalOverflow | .quantifier, .error .intervalReversed => true
  | .anchor, .metasequence | .dot, .metasequence | .literal, .literal => true
  | .alternator, .alternator _ | .alternator, .error .emptyAlternative => true
  | .char, .literal | .char, .error .requiresEscape => true
  | _, _ => false

namespace ClassParts

theorem ofText_append (text : List Char) :
    (ofText text).opening ++ (ofText text).interior ++ (ofText text).closing = text := by
  simp only [ofText]
  rw [List.append_assoc, List.take_append_drop, List.take_append_drop]

theorem closing_eq_nil {p : ClassParts} (h : ¬p.closed) : p.closing = [] := by
  simpa [closed] using h

theorem length_interior_le (text : List Char) : (ofText text).interior.length ≤ text.length := by
  have := congrArg List.length (ofText_append text)
  simp only [List.length_append] at this
  omega

theorem opening_ne_nil {text : List Char} (h : text ≠ []) : (ofText text).opening ≠ [] := by
  obtain ⟨c, cs, rfl⟩ := List.exists_cons_of_ne_nil h
  simp only [ofText]
  split <;> simp

end ClassParts

namespace CharClass

theorem length_categories (unicode : Bool) (ctx : RangeContext) (ts : List ClassToken) :
    (categories unicode ctx ts).length = ts.length := by
  induction ts generalizing ctx with
  | nil => rfl
  | cons t ts ih => simp [categories, ih]

theorem allows_literal (ctx : RangeContext) (text : List Char) :
    TokenKind.allows .charClass (literal ctx text).1 = true := rfl

theorem allows_hyphen (unicode : Bool) (ctx : RangeContext) (next : Option ClassToken) :
    TokenKind.allows .charClass (hyphen unicode ctx next).1 = true := by
  unfold hyphen
  split
  · rfl
  · split
    · rfl
    · -- whether the range is reversed is read first, then the hyphen is a range or an error
      dsimp only
      split <;> split <;> rfl

theorem allows_escape (unicode : Bool) (ctx : RangeContext) (text : List Char) :
    TokenKind.allows .charClass (escape unicode ctx text).1 = true := by
  unfold escape
  split_ifs <;> rfl

theorem allows_categories (unicode : Bool) (ctx : RangeContext) (ts : List ClassToken) :
    ∀ c ∈ categories unicode ctx ts, TokenKind.allows .charClass c = true := by
  induction ts generalizing ctx with
  | nil => simp [categories]
  | cons t ts ih =>
      intro c hc
      simp only [categories, List.mem_cons] at hc
      rcases hc with rfl | hc
      · -- the category of the first token comes from its kind's reading
        split
        · exact allows_literal ctx t.text
        · exact allows_hyphen unicode ctx ts.head?
        · exact allows_escape unicode ctx t.text
      · exact ih _ c hc

/-- The parts of a class token are its text again. -/
theorem flatten_parts (unicode : Bool) (text : List Char) :
    ((parts unicode text).map Prod.fst).flatten = text := by
  simp only [parts]
  generalize hp : ClassParts.ofText text = p
  have happ : p.opening ++ p.interior ++ p.closing = text := hp ▸ ClassParts.ofText_append text
  have hzip : (((classTokenize unicode p.interior).map ClassToken.text).zip
      (categories unicode .start (classTokenize unicode p.interior))).map Prod.fst =
      (classTokenize unicode p.interior).map ClassToken.text :=
    List.map_fst_zip (by simp [length_categories])
  by_cases hc : p.closed
  · simp [hc, hzip, flatten_classTokenize, ← happ]
  · simp [hc, hzip, flatten_classTokenize, ← happ, ClassParts.closing_eq_nil hc]

theorem parts_ne_nil (unicode : Bool) {text : List Char} (h : text ≠ []) :
    ∀ x ∈ parts unicode text, x.1 ≠ [] := by
  intro x hx
  simp only [parts, List.cons_append, List.mem_cons, List.mem_append] at hx
  rcases hx with rfl | hx | hx
  · exact ClassParts.opening_ne_nil h
  · obtain ⟨a, b⟩ := x
    obtain ⟨t, ht, rfl⟩ := List.mem_map.1 (List.of_mem_zip hx).1
    exact text_ne_nil_of_mem_classTokenize ht
  · split at hx
    · next hc =>
        simp only [List.mem_singleton] at hx
        subst hx
        simpa [ClassParts.closed] using hc
    · simp at hx

theorem allows_parts (unicode : Bool) (text : List Char) :
    ∀ x ∈ parts unicode text, TokenKind.allows .charClass x.2 = true := by
  intro x hx
  simp only [parts, List.cons_append, List.mem_cons, List.mem_append] at hx
  rcases hx with rfl | hx | hx
  · dsimp only
    split <;> rfl
  · obtain ⟨a, c⟩ := x
    exact allows_categories unicode _ _ c (List.of_mem_zip hx).2
  · split at hx
    · simp only [List.mem_singleton] at hx
      subst hx
      rfl
    · simp at hx

end CharClass

namespace Piece

/-- Every piece of a layout has the category of one of the parts. -/
theorem exists_mem_of_mem_layout {pos : Nat} {parts : List (List Char × Category)} {q : Piece}
    (h : q ∈ layout pos parts) : ∃ x ∈ parts, q.category = x.2 := by
  induction parts generalizing pos with
  | nil => simp [layout] at h
  | cons x parts ih =>
      simp only [layout, List.mem_cons] at h
      rcases h with rfl | h
      · exact ⟨x, List.mem_cons_self, rfl⟩
      · obtain ⟨y, hy, hq⟩ := ih h
        exact ⟨y, List.mem_cons_of_mem _ hy, hq⟩

end Piece

theorem CharClass.allows_pieces (unicode : Bool) (pos : Nat) (text : List Char) :
    ∀ q ∈ pieces unicode pos text, TokenKind.allows .charClass q.category = true := by
  intro q hq
  obtain ⟨x, hx, hq⟩ := Piece.exists_mem_of_mem_layout hq
  rw [hq]
  exact allows_parts unicode text x hx

theorem CharClass.laysOut_pieces (unicode : Bool) {pos : Nat} {text : List Char} (h : text ≠ []) :
    Piece.LaysOut pos text (pieces unicode pos text) := by
  have : Piece.LaysOut pos ((parts unicode text).map Prod.fst).flatten (pieces unicode pos text) :=
    Piece.laysOut_layout (parts_ne_nil unicode h)
  rwa [flatten_parts] at this

namespace Classifier

/-- `s'` holds the pieces of `s` followed by a layout of `text` from byte `pos`. -/
def Emits (s s' : Classifier) (pos : Nat) (text : List Char) : Prop :=
  ∃ new, s'.pieces.toList = s.pieces.toList ++ new ∧ Piece.LaysOut pos text new

/-- `s'` holds the pieces of `s` followed by a layout of `text` from byte `pos` whose
categories a token of kind `kind` can get. -/
def Appends (s s' : Classifier) (pos : Nat) (text : List Char) (kind : TokenKind) : Prop :=
  ∃ new, s'.pieces.toList = s.pieces.toList ++ new ∧ Piece.LaysOut pos text new ∧
    ∀ q ∈ new, kind.allows q.category = true

section Appends

variable {s : Classifier} {pos : Nat} {text : List Char} {kind : TokenKind}

theorem Appends.emits {s' : Classifier} (h : Appends s s' pos text kind) : Emits s s' pos text :=
  let ⟨new, hs, hl, _⟩ := h
  ⟨new, hs, hl⟩

theorem laysOut_piece (h : text ≠ []) (c : Category) : Piece.LaysOut pos text [piece pos text c] :=
  Piece.laysOut_singleton h c

theorem appends_emit (h : text ≠ []) {c : Category} (hc : kind.allows c = true) :
    Appends s (s.emit pos text c) pos text kind :=
  ⟨_, by simp, laysOut_piece h c, by simpa [piece] using hc⟩

theorem appends_report (h : text ≠ []) {d : Diagnostic} (hc : kind.allows (.error d) = true) :
    Appends s (s.report pos text d) pos text kind :=
  ⟨_, by simp, laysOut_piece h (.error d), by simpa [piece] using hc⟩

theorem appends_emitSplit (h : text ≠ []) {cut : Nat} (hcut : 1 ≤ cut) {c : Category}
    (hc : kind.allows c = true) (hlit : kind.allows .literal = true) :
    Appends s (s.emitSplit pos text cut c) pos text kind := by
  refine ⟨_, emitSplit_pieces s pos text cut c, ?_, ?_⟩
  · have hhead : text.take cut ≠ [] := by
      obtain ⟨x, xs, rfl⟩ := List.exists_cons_of_ne_nil h
      obtain ⟨k, rfl⟩ : ∃ k, cut = k + 1 := ⟨cut - 1, by omega⟩
      simp
    have htail : Piece.LaysOut (pos + utf8Length (text.take cut)) (text.drop cut)
        (if (text.drop cut).isEmpty then []
          else [piece (pos + utf8Length (text.take cut)) (text.drop cut) .literal]) := by
      split
      · next he => simpa using he
      · next he => exact laysOut_piece (by simpa using he) _
    have := (laysOut_piece hhead c).append htail
    rwa [List.take_append_drop] at this
  · intro q hq
    simp only [List.mem_cons] at hq
    rcases hq with rfl | hq
    · exact hc
    · split at hq
      · simp at hq
      · simp only [List.mem_singleton] at hq
        subst hq
        exact hlit

theorem Emits.trans {s' s'' : Classifier} {a b : List Char} (h₁ : Emits s s' pos a)
    (h₂ : Emits s' s'' (pos + utf8Length a) b) : Emits s s'' pos (a ++ b) := by
  obtain ⟨new₁, hs', hl₁⟩ := h₁
  obtain ⟨new₂, hs'', hl₂⟩ := h₂
  exact ⟨new₁ ++ new₂, by rw [hs'', hs', List.append_assoc], hl₁.append hl₂⟩

end Appends

section Steps

variable (setting : Setting) (s : Classifier) (pos : Nat) {text : List Char}

theorem appends_decimalEscape (h : text ≠ []) :
    Appends s (s.decimalEscape setting pos text).1 pos text .escape := by
  dsimp only [decimalEscape]
  split_ifs
  · exact appends_emit h rfl
  · exact appends_report h rfl
  · exact appends_emitSplit h (by omega) rfl rfl
  · exact appends_emitSplit h (by omega) rfl rfl

theorem appends_namedBackreference (h : text ≠ []) :
    Appends s (s.namedBackreference setting pos text).1 pos text .escape := by
  unfold namedBackreference
  split
  · split
    · split
      · exact appends_emit h rfl
      · exact appends_report h rfl
    · exact appends_report h rfl
  · split
    · exact appends_report h rfl
    · exact appends_emitSplit h (by omega) rfl rfl

/-- The rules of an escape: a digit from 1 to 9 after the backslash goes to the decimal rule and
`k` to the named one; every other escape is one piece, an error or a metasequence or an escaped
literal. Which rule applies depends on the text and the setting only, never on the state. -/
theorem escape_cases_uniform (text : List Char) :
    (∃ x c rest, text = x :: c :: rest ∧ ('1' ≤ c ∧ c ≤ '9') ∧
      ∀ s : Classifier, s.escape setting pos text = s.decimalEscape setting pos text) ∨
    (∃ x rest, text = x :: 'k' :: rest ∧
      ∀ s : Classifier, s.escape setting pos text = s.namedBackreference setting pos text) ∨
    ((∀ x c rest, text = x :: c :: rest → ¬('1' ≤ c ∧ c ≤ '9') ∧ c ≠ 'k') ∧
      ∃ ctx, (∃ d, (d = .incompleteToken ∨ d = .invalidEscape) ∧
          ∀ s : Classifier, s.escape setting pos text = (s.report pos text d, ctx)) ∨
        ∃ c, (c = .metasequence ∨ c = .escapedLiteral) ∧
          ∀ s : Classifier, s.escape setting pos text = (s.emit pos text c, ctx)) := by
  rcases text with _ | ⟨x, _ | ⟨c, rest⟩⟩
  -- a backslash alone, or with one character, is an incomplete token
  all_goals try (refine .inr (.inr ⟨by simp, _, .inl ⟨.incompleteToken, .inl rfl, fun s => rfl⟩⟩))
  -- the conditions are read under the binder of the state, so `simp only` rewrites them
  simp only [escape]
  by_cases hd : ('1' ≤ c && c ≤ '9') = true
  · simp only [if_pos hd]
    simp only [Bool.and_eq_true, decide_eq_true_eq] at hd
    exact .inl ⟨x, c, rest, rfl, hd, fun _ => trivial⟩
  simp only [if_neg hd]
  by_cases hk : c = 'k'
  · subst hk
    simp only [if_true]
    exact .inr (.inl ⟨x, rest, rfl, fun _ => trivial⟩)
  simp only [if_neg hk]
  refine .inr (.inr ⟨fun x' c' rest' h => ?_, ?_⟩)
  · simp only [List.cons.injEq] at h
    obtain ⟨-, rfl, -⟩ := h
    exact ⟨by simpa using hd, hk⟩
  by_cases hp : ((c = 'p' || c = 'P') && setting.unicode) = true
  · simp only [if_pos hp]
    by_cases hlen : (x :: c :: rest).length = 2
    · simp only [if_pos hlen]
      exact ⟨_, .inl ⟨_, .inl rfl, fun s => rfl⟩⟩
    · simp only [if_neg hlen]
      exact ⟨_, .inr ⟨_, .inl rfl, fun s => rfl⟩⟩
  simp only [if_neg hp]
  by_cases hb : (c = 'b' || c = 'B') = true
  · simp only [if_pos hb]
    exact ⟨_, .inr ⟨_, .inl rfl, fun s => rfl⟩⟩
  simp only [if_neg hb]
  by_cases hcxu : ((c = 'c' || c = 'x' || c = 'u') && (x :: c :: rest).length = 2) = true
  · simp only [if_pos hcxu]
    exact ⟨_, .inl ⟨_, .inl rfl, fun s => rfl⟩⟩
  simp only [if_neg hcxu]
  by_cases hu : (c = 'u' && (codePoint setting.unicode (x :: c :: rest)).isNone) = true
  · simp only [if_pos hu]
    exact ⟨_, .inl ⟨_, .inr rfl, fun s => rfl⟩⟩
  simp only [if_neg hu]
  by_cases h0 : (c = '0' && setting.unicode && (x :: c :: rest).length > 2) = true
  · simp only [if_pos h0]
    exact ⟨_, .inl ⟨_, .inr rfl, fun s => rfl⟩⟩
  simp only [if_neg h0]
  by_cases hm : c ∈ ['d', 'D', 's', 'S', 'w', 'W', 'f', 'n', 'r', 't', 'v', '0', 'c', 'x', 'u']
  · simp only [if_pos hm]
    exact ⟨_, .inr ⟨_, .inl rfl, fun s => rfl⟩⟩
  simp only [if_neg hm]
  by_cases hi : (setting.unicode && !Shape.isSyntaxChar c && c ≠ '/') = true
  · simp only [if_pos hi]
    exact ⟨_, .inl ⟨_, .inr rfl, fun s => rfl⟩⟩
  simp only [if_neg hi]
  exact ⟨_, .inr ⟨_, .inr rfl, fun s => rfl⟩⟩

/-- The rules of an escape, read at one state. -/
theorem escape_cases (text : List Char) :
    (∃ x c rest, text = x :: c :: rest ∧ ('1' ≤ c ∧ c ≤ '9') ∧
      s.escape setting pos text = s.decimalEscape setting pos text) ∨
    (∃ x rest, text = x :: 'k' :: rest ∧
      s.escape setting pos text = s.namedBackreference setting pos text) ∨
    ((∀ x c rest, text = x :: c :: rest → ¬('1' ≤ c ∧ c ≤ '9') ∧ c ≠ 'k') ∧
      ∃ ctx, (∃ d, (d = .incompleteToken ∨ d = .invalidEscape) ∧
          s.escape setting pos text = (s.report pos text d, ctx)) ∨
        ∃ c, (c = .metasequence ∨ c = .escapedLiteral) ∧
          s.escape setting pos text = (s.emit pos text c, ctx)) := by
  rcases escape_cases_uniform setting pos text with
    ⟨x, c, rest, ht, hd, he⟩ | ⟨x, rest, ht, he⟩ | ⟨hn, ctx, ⟨d, hd, he⟩ | ⟨c, hc, he⟩⟩
  · exact .inl ⟨x, c, rest, ht, hd, he s⟩
  · exact .inr (.inl ⟨x, rest, ht, he s⟩)
  · exact .inr (.inr ⟨hn, ctx, .inl ⟨d, hd, he s⟩⟩)
  · exact .inr (.inr ⟨hn, ctx, .inr ⟨c, hc, he s⟩⟩)

theorem appends_escape (h : text ≠ []) :
    Appends s (s.escape setting pos text).1 pos text .escape := by
  rcases escape_cases setting s pos text with
    ⟨-, -, -, -, -, he⟩ | ⟨-, -, -, he⟩ | ⟨-, _, ⟨d, hd, he⟩ | ⟨c, hc, he⟩⟩ <;> rw [he]
  · exact appends_decimalEscape setting s pos h
  · exact appends_namedBackreference setting s pos h
  · exact appends_report h (by rcases hd with rfl | rfl <;> rfl)
  · exact appends_emit h (by rcases hc with rfl | rfl <;> rfl)

theorem appends_groupOpen (h : text ≠ []) :
    Appends s (s.groupOpen pos text).1 pos text .groupOpen := by
  dsimp only [groupOpen]
  split_ifs
  · exact appends_report h rfl
  · split
    · split
      · exact appends_report h rfl
      · exact appends_emit h rfl
    · exact appends_emit h rfl

theorem appends_groupClose (h : text ≠ []) :
    Appends s (s.groupClose pos text).1 pos text .groupClose := by
  unfold groupClose
  split
  · dsimp only
    split
    · exact appends_emit h rfl
    · exact appends_report h rfl
  · exact appends_report h rfl

theorem appends_quantifier (ctx : Context) (h : text ≠ []) :
    Appends s (s.quantifier ctx pos text).1 pos text .quantifier := by
  unfold quantifier
  split
  · exact appends_report h rfl
  · split
    · next d hd =>
        -- an interval problem is an overflow or a reversed range
        have : d = .intervalOverflow ∨ d = .intervalReversed := by
          unfold intervalProblem at hd
          split at hd
          · dsimp only at hd
            split_ifs at hd <;> simp_all
          · simp at hd
        rcases this with rfl | rfl
        · exact appends_report h rfl
        · exact appends_report h rfl
    · exact appends_emit h rfl

theorem appends_alternator (ctx : Context) (h : text ≠ []) :
    Appends s (s.alternator ctx pos text).1 pos text .alternator := by
  dsimp only [alternator]
  split
  · exact appends_report h rfl
  · exact appends_emit h rfl

theorem appends_charClass (h : text ≠ []) :
    Appends s (s.charClass setting pos text).1 pos text .charClass :=
  ⟨_, by simp [charClass], CharClass.laysOut_pieces setting.unicode h,
    CharClass.allows_pieces setting.unicode pos text⟩

/-- One step appends a layout of its token's text, with categories its kind allows. -/
theorem appends_step (ctx : Context) {t : Token} (h : t.text ≠ []) :
    Appends s (s.step setting ctx pos t).1 pos t.text t.kind := by
  obtain ⟨kind, text⟩ := t
  cases kind with
  | charClass => exact appends_charClass setting s pos h
  | groupOpen => exact appends_groupOpen s pos h
  | groupClose => exact appends_groupClose s pos h
  | escape => exact appends_escape setting s pos h
  | quantifier => exact appends_quantifier s pos ctx h
  | anchor => exact appends_emit h rfl
  | alternator => exact appends_alternator s pos ctx h
  | dot => exact appends_emit h rfl
  | literal => exact appends_emit h rfl
  | char =>
      simp only [step]
      split
      · exact appends_report h rfl
      · exact appends_emit h rfl

/-! Only group tokens touch the stack of open groups and the capture names. -/

theorem frame_decimalEscape :
    (s.decimalEscape setting pos text).1.stack = s.stack ∧
      (s.decimalEscape setting pos text).1.names = s.names := by
  dsimp only [decimalEscape]
  split_ifs <;> simp

theorem frame_namedBackreference :
    (s.namedBackreference setting pos text).1.stack = s.stack ∧
      (s.namedBackreference setting pos text).1.names = s.names := by
  unfold namedBackreference
  split
  · split
    · split <;> simp
    · simp
  · split <;> simp

theorem frame_escape :
    (s.escape setting pos text).1.stack = s.stack ∧ (s.escape setting pos text).1.names = s.names := by
  rcases escape_cases setting s pos text with
    ⟨-, -, -, -, -, he⟩ | ⟨-, -, -, he⟩ | ⟨-, _, ⟨_, -, he⟩ | ⟨_, -, he⟩⟩ <;> rw [he]
  · exact frame_decimalEscape setting s pos
  · exact frame_namedBackreference setting s pos
  all_goals simp

theorem frame_step (ctx : Context) {t : Token} (hk : t.kind.isGroup = false) :
    (s.step setting ctx pos t).1.stack = s.stack ∧ (s.step setting ctx pos t).1.names = s.names := by
  obtain ⟨kind, text⟩ := t
  cases kind with
  | groupOpen | groupClose => simp [TokenKind.isGroup] at hk
  | escape => exact frame_escape setting s pos
  | quantifier =>
      simp only [step, quantifier]
      split
      · simp
      · split <;> simp
  | alternator =>
      simp only [step, alternator]
      split <;> simp
  | char =>
      simp only [step]
      split <;> simp
  | charClass | anchor | dot | literal => simp [step, charClass]

end Steps

/-- A run appends a layout of the texts of its tokens, one after another. -/
theorem emits_run (setting : Setting) {ts : List Token} (hts : ∀ t ∈ ts, t.text ≠ []) :
    ∀ (s : Classifier) (ctx : Context) (pos : Nat),
      Emits s (run setting s ctx pos ts) pos (ts.map Token.text).flatten := by
  induction ts with
  | nil => exact fun s _ _ => ⟨[], by simp [run], rfl⟩
  | cons t ts ih =>
      intro s ctx pos
      have hstep := (appends_step setting s pos ctx (hts t List.mem_cons_self)).emits
      have hrest := ih (fun t' ht' => hts t' (List.mem_cons_of_mem _ ht'))
        (s.step setting ctx pos t).1 (s.step setting ctx pos t).2 (pos + utf8Length t.text)
      exact hstep.trans hrest

end Classifier

end RegexHighlight
