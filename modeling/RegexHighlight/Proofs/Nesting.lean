import RegexHighlight.Proofs.ClassTracking

/-!
# What a token is read with

Classification reads the top-level tokens of a pattern one after another, and what it makes of a
token depends on what the tokens before it leave: the groups still open, and the context left by
the token just before it. Both are stated here in terms of the tokens alone.

* `Nesting` replays the group tokens on one stack that holds every opening, valid or not, each
  with the style depth it is drawn at: `h % 5 + 1`, for `h` the openings open below it.
* `Context.following` is the context a token leaves. It is read off the token's kind, the
  innermost open group and, for an escape, whether the escape was reported incomplete.

`classify_reads` is where the statements about depths, quantifiers, alternators and escapes
start. The pieces of a classification fall into one block per token. Each block is what one step
of the classifier appends at its token, from a state whose open groups are the nesting of the
tokens before it, in the context the token before it leaves, and as `finish` leaves it.
-/

namespace RegexHighlight

/-! ## The nesting of group tokens -/

/-- An opening on the stack of a nesting: whether it opened a valid group, whether it opened a
lookaround, and the style depth it is drawn at. -/
structure Opened where
  valid : Bool
  lookaround : Bool
  depth : Nat
deriving DecidableEq, Repr

/-- The capture names seen and the openings still open after some tokens, innermost first. -/
structure Nesting where
  names : List (List Char)
  stack : List Opened
deriving DecidableEq, Repr

namespace Nesting

/-- Reads one token. An opening is pushed, valid or not, at depth `h % 5 + 1` for `h` the openings
already open, and a `)` pops the innermost opening; other tokens change nothing. -/
def step (n : Nesting) (t : Token) : Nesting :=
  match t.kind with
  | .groupOpen =>
    ⟨(Opening.captureName? t.text).toList ++ n.names,
      ⟨decide (GroupReplay.openRole n.names t.text = .group), Opening.isLookaround t.text,
        n.stack.length % 5 + 1⟩ :: n.stack⟩
  | .groupClose => ⟨n.names, n.stack.tail⟩
  | _ => n

/-- The nesting after the tokens `ts`. -/
def ofTokens (ts : List Token) : Nesting := ts.foldl step ⟨[], []⟩

/-- The depth of the innermost open group, or 0 outside every group. -/
def depth (n : Nesting) : Nat := (n.stack.head?.map (·.depth)).getD 0

@[simp] theorem ofTokens_nil : ofTokens [] = ⟨[], []⟩ := rfl

@[simp] theorem ofTokens_append_singleton (ts : List Token) (t : Token) :
    ofTokens (ts ++ [t]) = (ofTokens ts).step t := by
  simp [ofTokens]

/-- Every opening of a nesting is drawn at a depth from 1 to 5. -/
theorem depth_mem_ofTokens (ts : List Token) :
    ∀ o ∈ (ofTokens ts).stack, 1 ≤ o.depth ∧ o.depth ≤ 5 := by
  induction ts using List.reverseRecOn with
  | nil => simp
  | append_singleton ts t ih =>
      rw [ofTokens_append_singleton]
      intro o ho
      unfold step at ho
      split at ho
      · rcases List.mem_cons.1 ho with rfl | ho
        · exact ⟨by dsimp only; omega, by dsimp only; omega⟩
        · exact ih o ho
      · exact ih o (List.mem_of_mem_tail ho)
      · exact ih o ho

theorem depth_le_five (ts : List Token) : (ofTokens ts).depth ≤ 5 := by
  unfold depth
  cases h : (ofTokens ts).stack with
  | nil => simp
  | cons o rest => simpa using (depth_mem_ofTokens ts o (by simp [h])).2

/-- Tokens other than group tokens leave a nesting as it is. -/
theorem step_of_not_group (n : Nesting) {t : Token} (hk : t.kind.isGroup = false) :
    n.step t = n := by
  obtain ⟨kind, text⟩ := t
  cases kind <;> simp_all [TokenKind.isGroup, step]

end Nesting

/-! ## The context a token leaves -/

namespace Context

/-- The context a token leaves for the token after it, given the nesting `n` it is read with and
the categories it is classified with. A `)` that closes a valid group leaves that group's depth,
and lets a quantifier follow unless the group is a lookaround. An alternator is remembered as
such. Group openings, anchors, quantifiers, `\b`, `\B` and escapes reported incomplete leave
nothing a quantifier can repeat. -/
def following (n : Nesting) (t : Token) (cats : List Category) : Context :=
  match t.kind with
  | .groupClose =>
    match n.stack with
    | o :: _ => if o.valid then ⟨!o.lookaround, some o.depth, .other⟩ else .after false
    | [] => .after false
  | .alternator => ⟨false, none, .alternator⟩
  | .groupOpen | .anchor | .quantifier => .after false
  | .escape =>
    .after (!(t.text.drop 1).head?.any (fun c => c = 'b' || c = 'B') &&
      !decide (cats = [.error .incompleteToken]))
  | .charClass | .dot | .literal | .char => .after true

/-- The context before the token after the blocks `pre`: the start of the pattern, or the
context the last of them leaves. -/
def before (pre : List (Token × List Piece)) : Context :=
  match pre.getLast? with
  | none => .start
  | some p => following (Nesting.ofTokens (pre.dropLast.map Prod.fst)) p.1 (p.2.map Piece.category)

@[simp] theorem before_nil : before [] = .start := rfl

@[simp] theorem before_append_singleton (pre : List (Token × List Piece)) (p : Token × List Piece) :
    before (pre ++ [p]) =
      following (Nesting.ofTokens (pre.map Prod.fst)) p.1 (p.2.map Piece.category) := by
  simp [before]

section GroupClose

variable (n : Nesting) (text : List Char) (cats : List Category)

@[simp] theorem following_groupClose_previous :
    (following n ⟨.groupClose, text⟩ cats).previous = .other := by
  simp only [following]
  cases n.stack with
  | nil => rfl
  | cons o _ => by_cases hv : o.valid <;> simp [hv, after]

/-- A quantifier may follow a `)` exactly when it closes a valid group other than a
lookaround. -/
@[simp] theorem following_groupClose_quantifiable :
    (following n ⟨.groupClose, text⟩ cats).quantifiable =
      n.stack.head?.any (fun o => o.valid && !o.lookaround) := by
  simp only [following]
  cases n.stack with
  | nil => rfl
  | cons o _ => by_cases hv : o.valid <;> simp [hv, after]

/-- A `)` that a quantifier may follow leaves the depth of the group it closes. -/
theorem following_groupClose_groupDepth
    (hq : (following n ⟨.groupClose, text⟩ cats).quantifiable = true) :
    (following n ⟨.groupClose, text⟩ cats).groupDepth = n.stack.head?.map (·.depth) := by
  rw [following_groupClose_quantifiable] at hq
  simp only [following]
  cases hstack : n.stack with
  | nil => simp [hstack] at hq
  | cons o _ =>
      have hv : o.valid = true := by
        simp only [hstack, List.head?_cons, Option.any_some, Bool.and_eq_true] at hq
        exact hq.1
      simp [hv]

end GroupClose

end Context

/-! ## The classifier nests its tokens -/

/-- The opening an open group was pushed for. -/
def OpenGroup.opened (g : OpenGroup) : Opened := ⟨g.valid, g.lookaround, g.depth⟩

namespace Classifier

/-- The open groups and capture names of a classifier are those of a nesting. -/
structure Nests (s : Classifier) (n : Nesting) : Prop where
  names : ∀ x, x ∈ s.names ↔ x ∈ n.names
  stack : s.stack.map OpenGroup.opened = n.stack

theorem Nests.initial (notes : Array Note) : Nests ⟨[], [], #[], notes⟩ ⟨[], []⟩ :=
  ⟨fun _ => Iff.rfl, rfl⟩

section Steps

variable (setting : Setting) (s : Classifier) (pos : Nat) (text : List Char)

/-- The piece of a `)`: a group boundary at the depth of the group it closes, when that group
is valid. -/
theorem groupClose_pieces :
    (s.groupClose pos text).1.pieces.toList = s.pieces.toList ++
      [piece pos text (match s.stack with
        | g :: _ => if g.valid then .group g.depth else .error .unbalancedRightParen
        | [] => .error .unbalancedRightParen)] := by
  unfold groupClose
  split
  · dsimp only
    split <;> simp [*]
  · simp [*]

/-- The piece of a quantifier: an error when nothing before it can be repeated, else its
interval's problem, else a quantifier at the depth of the group it follows, or 0. -/
theorem quantifier_pieces (ctx : Context) :
    (s.quantifier ctx pos text).1.pieces.toList = s.pieces.toList ++
      [piece pos text (if ctx.quantifiable then
        (intervalProblem text).elim (.quantifier (ctx.groupDepth.getD 0)) .error
        else .error .unquantifiable)] := by
  unfold quantifier
  by_cases hq : ctx.quantifiable = true
  · rw [if_neg (by simp [hq]), if_pos hq]
    cases intervalProblem text <;> simp
  · rw [if_pos (by simpa using hq), if_neg hq]
    simp

/-- The piece of an alternator: an empty alternative first in the pattern or after another
alternator, else an alternator at the depth of the innermost open group. -/
theorem alternator_pieces (ctx : Context) :
    (s.alternator ctx pos text).1.pieces.toList = s.pieces.toList ++
      [piece pos text (if ctx.previous = .start ∨ ctx.previous = .alternator
        then .error .emptyAlternative
        else .alternator ((s.stack.head?.map (·.depth)).getD 0))] := by
  unfold alternator
  by_cases hp : ctx.previous = .start ∨ ctx.previous = .alternator
  · rw [if_pos (by simpa using hp), if_pos hp]
    simp
  · rw [if_neg (by simpa using hp), if_neg hp]
    simp

theorem decimalEscape_context : (s.decimalEscape setting pos text).2 = .after true := by
  dsimp only [decimalEscape]
  split_ifs <;> rfl

/-- A decimal escape is never reported incomplete. -/
theorem decimalEscape_ne_incomplete {new : List Piece}
    (hnew : (s.decimalEscape setting pos text).1.pieces.toList = s.pieces.toList ++ new) :
    new.map Piece.category ≠ [.error .incompleteToken] := by
  dsimp only [decimalEscape] at hnew
  split_ifs at hnew
  · simp at hnew
    simp [← hnew, piece]
  · simp at hnew
    simp [← hnew, piece]
  all_goals
    rw [emitSplit_pieces, List.append_cancel_left_eq] at hnew
    rw [← hnew]
    split <;> simp [piece]

/-- A `\k` escape lets a quantifier follow unless it is reported incomplete. -/
theorem namedBackreference_context {new : List Piece}
    (hnew : (s.namedBackreference setting pos text).1.pieces.toList = s.pieces.toList ++ new) :
    (s.namedBackreference setting pos text).2 =
      .after (!decide (new.map Piece.category = [.error .incompleteToken])) := by
  unfold namedBackreference at hnew ⊢
  by_cases hn : setting.captures.hasNames = true
  · rw [if_pos hn] at hnew ⊢
    cases hname : backreferenceName? text with
    | none =>
        simp only [hname] at hnew ⊢
        simp only [report_pieces, Array.toList_push, List.append_cancel_left_eq] at hnew
        simp [← hnew, piece]
    | some name =>
        simp only [hname] at hnew ⊢
        by_cases hc : setting.captures.names.contains name = true
        · rw [if_pos hc] at hnew ⊢
          simp only [emit_pieces, Array.toList_push, List.append_cancel_left_eq] at hnew
          simp [← hnew, piece]
        · rw [if_neg hc] at hnew ⊢
          simp only [report_pieces, Array.toList_push, List.append_cancel_left_eq] at hnew
          simp [← hnew, piece]
  · rw [if_neg hn] at hnew ⊢
    by_cases hu : setting.unicode = true
    · rw [if_pos hu] at hnew ⊢
      simp only [report_pieces, Array.toList_push, List.append_cancel_left_eq] at hnew
      simp [← hnew, piece]
    · rw [if_neg hu] at hnew ⊢
      rw [emitSplit_pieces, List.append_cancel_left_eq] at hnew
      rw [← hnew]
      split <;> simp [piece]

/-- The context an escape leaves: a quantifier may follow it unless it is `\b` or `\B` or it is
reported incomplete. -/
theorem escape_context {new : List Piece}
    (hnew : (s.escape setting pos text).1.pieces.toList = s.pieces.toList ++ new) :
    (s.escape setting pos text).2 =
      .after (!(text.drop 1).head?.any (fun c => c = 'b' || c = 'B') &&
        !decide (new.map Piece.category = [.error .incompleteToken])) := by
  rcases text with _ | ⟨x, _ | ⟨c, rest⟩⟩
  · simp only [escape, report_pieces, Array.toList_push, List.append_cancel_left_eq] at hnew
    simp [escape, ← hnew, piece]
  · simp only [escape, report_pieces, Array.toList_push, List.append_cancel_left_eq] at hnew
    simp [escape, ← hnew, piece]
  simp only [List.drop_succ_cons, List.drop_zero, List.head?_cons, Option.any_some]
  simp only [escape] at hnew ⊢
  -- the rules are tried in order; each leaf pushes one piece or defers to a rule of its own
  by_cases hd : ('1' ≤ c && c ≤ '9') = true
  · rw [if_pos hd] at hnew ⊢
    simp only [Bool.and_eq_true, decide_eq_true_eq] at hd
    have hb : c ≠ 'b' ∧ c ≠ 'B' :=
      ⟨by rintro rfl; exact absurd hd.2 (by decide), by rintro rfl; exact absurd hd.2 (by decide)⟩
    simp [decimalEscape_context, decimalEscape_ne_incomplete setting s pos _ hnew, hb]
  rw [if_neg hd] at hnew ⊢
  by_cases hk : c = 'k'
  · subst hk
    rw [if_pos rfl] at hnew ⊢
    simp [namedBackreference_context setting s pos _ hnew]
  rw [if_neg hk] at hnew ⊢
  by_cases hp : ((c = 'p' || c = 'P') && setting.unicode) = true
  · rw [if_pos hp] at hnew ⊢
    simp only [Bool.and_eq_true, Bool.or_eq_true, decide_eq_true_eq] at hp
    have hb : c ≠ 'b' ∧ c ≠ 'B' := by rcases hp.1 with rfl | rfl <;> decide
    by_cases hlen : (x :: c :: rest).length = 2
    · rw [if_pos hlen] at hnew ⊢
      simp only [report_pieces, Array.toList_push, List.append_cancel_left_eq] at hnew
      simp [← hnew, piece, hb]
    · rw [if_neg hlen] at hnew ⊢
      simp only [emit_pieces, Array.toList_push, List.append_cancel_left_eq] at hnew
      simp [← hnew, piece, hb]
  rw [if_neg hp] at hnew ⊢
  by_cases hb : (c = 'b' || c = 'B') = true
  · rw [if_pos hb] at hnew ⊢
    simp [hb]
  rw [if_neg hb] at hnew ⊢
  -- from here on the escape is one piece, and only an incomplete one stops a quantifier
  by_cases hcxu : ((c = 'c' || c = 'x' || c = 'u') && (x :: c :: rest).length = 2) = true
  · rw [if_pos hcxu] at hnew ⊢
    simp only [report_pieces, Array.toList_push, List.append_cancel_left_eq] at hnew
    simp [← hnew, piece, hb]
  rw [if_neg hcxu] at hnew ⊢
  by_cases hu : (c = 'u' && (codePoint setting.unicode (x :: c :: rest)).isNone) = true
  · rw [if_pos hu] at hnew ⊢
    simp only [report_pieces, Array.toList_push, List.append_cancel_left_eq] at hnew
    simp [← hnew, piece, hb]
  rw [if_neg hu] at hnew ⊢
  by_cases h0 : (c = '0' && setting.unicode && (x :: c :: rest).length > 2) = true
  · rw [if_pos h0] at hnew ⊢
    simp only [report_pieces, Array.toList_push, List.append_cancel_left_eq] at hnew
    simp [← hnew, piece, hb]
  rw [if_neg h0] at hnew ⊢
  by_cases hm : c ∈ ['d', 'D', 's', 'S', 'w', 'W', 'f', 'n', 'r', 't', 'v', '0', 'c', 'x', 'u']
  · rw [if_pos hm] at hnew ⊢
    simp only [emit_pieces, Array.toList_push, List.append_cancel_left_eq] at hnew
    simp [← hnew, piece, hb]
  rw [if_neg hm] at hnew ⊢
  by_cases hi : (setting.unicode && !Shape.isSyntaxChar c && c ≠ '/') = true
  · rw [if_pos hi] at hnew ⊢
    simp only [report_pieces, Array.toList_push, List.append_cancel_left_eq] at hnew
    simp [← hnew, piece, hb]
  rw [if_neg hi] at hnew ⊢
  simp only [emit_pieces, Array.toList_push, List.append_cancel_left_eq] at hnew
  simp [← hnew, piece, hb]

end Steps

/-- A step keeps the classifier's open groups and capture names those of the nesting. -/
theorem Nests.step {s : Classifier} {n : Nesting} (h : s.Nests n) (setting : Setting)
    (ctx : Context) (pos : Nat) (t : Token) : (s.step setting ctx pos t).1.Nests (n.step t) := by
  by_cases hk : t.kind.isGroup = false
  · obtain ⟨hstack, hnames⟩ := frame_step setting s pos ctx hk
    rw [n.step_of_not_group hk]
    exact ⟨fun x => by rw [hnames]; exact h.names x, by rw [hstack]; exact h.stack⟩
  obtain ⟨kind, text⟩ := t
  cases kind with
  | groupOpen =>
      obtain ⟨-, hstack, hnames⟩ := groupOpen_spec s pos text
      have hlen : n.stack.length = s.stack.length := by rw [← h.stack, List.length_map]
      refine ⟨fun x => (hnames x).trans ?_, ?_⟩
      · simp [Nesting.step, h.names x]
      · show (s.groupOpen pos text).1.stack.map OpenGroup.opened = _
        rw [hstack, GroupReplay.openRole_congr text h.names]
        simp [Nesting.step, OpenGroup.opened, h.stack, hlen]
  | groupClose =>
      obtain ⟨-, hstack, hnames⟩ := groupClose_spec s pos text
      refine ⟨fun x => ?_, ?_⟩
      · show x ∈ (s.groupClose pos text).1.names ↔ x ∈ n.names
        rw [hnames]
        exact h.names x
      · show (s.groupClose pos text).1.stack.map OpenGroup.opened = n.stack.tail
        rw [hstack, List.map_tail, h.stack]
  | charClass | escape | quantifier | anchor | alternator | dot | literal | char =>
      simp [TokenKind.isGroup] at hk

/-- The context a step leaves is the one its token leaves, read with the nesting and the pieces
the step appends. -/
theorem Nests.step_context {s : Classifier} {n : Nesting} (h : s.Nests n) (setting : Setting)
    (ctx : Context) (pos : Nat) (t : Token) {new : List Piece}
    (hnew : (s.step setting ctx pos t).1.pieces.toList = s.pieces.toList ++ new) :
    (s.step setting ctx pos t).2 = Context.following n t (new.map Piece.category) := by
  obtain ⟨kind, text⟩ := t
  cases kind with
  | groupClose =>
      -- the innermost open group of the classifier is that of the nesting
      show (s.groupClose pos text).2 = _
      simp only [Context.following, ← h.stack]
      unfold groupClose
      cases s.stack with
      | nil => rfl
      | cons g rest => by_cases hv : g.valid <;> simp [hv, OpenGroup.opened]
  | escape => exact escape_context setting s pos text hnew
  | quantifier =>
      show (s.quantifier ctx pos text).2 = _
      unfold quantifier
      split
      · rfl
      · split <;> rfl
  | groupOpen =>
      show (s.groupOpen pos text).2 = _
      unfold groupOpen
      split <;> rfl
  | char =>
      simp only [Classifier.step]
      split <;> rfl
  | charClass | anchor | alternator | dot | literal => rfl

/-- A run appends one block of pieces per token. Each block is what the step at its token
appends, from a state that nests the tokens before it, in the context those tokens leave. -/
theorem run_reads (setting : Setting) {ts : List Token} (hts : ∀ t ∈ ts, t.text ≠ []) :
    ∀ (done : List (Token × List Piece)) (s : Classifier) (pos : Nat),
      s.Nests (Nesting.ofTokens (done.map Prod.fst)) →
      ∃ blocks : List (Token × List Piece), blocks.map Prod.fst = ts ∧
        (run setting s (Context.before done) pos ts).pieces.toList =
          s.pieces.toList ++ (blocks.map Prod.snd).flatten ∧
        ∀ pre b post, blocks = pre ++ b :: post → ∃ (s' : Classifier) (pos' : Nat),
          s'.Nests (Nesting.ofTokens ((done ++ pre).map Prod.fst)) ∧
          (s'.step setting (Context.before (done ++ pre)) pos' b.1).1.pieces.toList =
            s'.pieces.toList ++ b.2 := by
  induction ts with
  | nil =>
      intro done s pos _
      refine ⟨[], rfl, by simp [run], fun pre b post h => ?_⟩
      simp at h
  | cons t ts ih =>
      intro done s pos hs
      obtain ⟨new, hnew, -⟩ := appends_step setting s pos (Context.before done)
        (hts t List.mem_cons_self)
      -- the step leaves the state and context that reading `t` after `done` gives
      have hctx : (s.step setting (Context.before done) pos t).2 = Context.before (done ++ [(t, new)]) := by
        rw [Context.before_append_singleton]
        exact hs.step_context setting _ pos t hnew
      have hnests : (s.step setting (Context.before done) pos t).1.Nests
          (Nesting.ofTokens ((done ++ [(t, new)]).map Prod.fst)) := by
        simpa using hs.step setting (Context.before done) pos t
      obtain ⟨blocks, hfst, hrun, hblocks⟩ := ih (fun t' ht' => hts t' (List.mem_cons_of_mem _ ht'))
        (done ++ [(t, new)]) _ (pos + utf8Length t.text) hnests
      refine ⟨(t, new) :: blocks, by simp [hfst], ?_, ?_⟩
      · show (run setting (s.step setting (Context.before done) pos t).1
          (s.step setting (Context.before done) pos t).2 (pos + utf8Length t.text) ts).pieces.toList = _
        rw [hctx, hrun, hnew]
        simp
      · intro pre b post h
        cases pre with
        | nil =>
            obtain ⟨rfl, -⟩ := List.cons.inj h
            exact ⟨s, pos, by simpa using hs, by simpa using hnew⟩
        | cons p pre =>
            obtain ⟨rfl, htail⟩ := List.cons.inj h
            simpa using hblocks pre b post htail

end Classifier

/-! ## The whole pattern -/

/-- `finish` leaves the category of a piece, or reports a group boundary as never closed. -/
theorem Piece.Finished.category_eq {q q' : Piece} (h : q.Finished q') :
    q'.category = q.category ∨
      ((∃ d, q.category = .group d) ∧ q'.category = .error .unbalancedLeftParen) := by
  rcases h with rfl | ⟨d, hd, rfl⟩
  · exact .inl rfl
  · exact .inr ⟨⟨d, hd⟩, rfl⟩

/-- `finish` reports no piece incomplete, and takes back no such report. -/
theorem map_category_eq_incomplete_iff {ps ps' : List Piece}
    (h : List.Forall₂ Piece.Finished ps ps') :
    ps.map Piece.category = [.error .incompleteToken] ↔
      ps'.map Piece.category = [.error .incompleteToken] := by
  cases h with
  | nil => simp
  | @cons q q' r r' hq hrest =>
      have hnil : r = [] ↔ r' = [] := by
        rw [← List.length_eq_zero_iff, hrest.length_eq, List.length_eq_zero_iff]
      rcases hq.category_eq with heq | ⟨⟨d, hd⟩, hq'⟩
      · simp [heq, hnil]
      · simp [hd, hq']

/-- A token leaves the same context whichever of two blocks `finish` relates it is read with. -/
theorem Context.following_finished (n : Nesting) (t : Token) {ps ps' : List Piece}
    (h : List.Forall₂ Piece.Finished ps ps') :
    following n t (ps.map Piece.category) = following n t (ps'.map Piece.category) := by
  simp only [following, map_category_eq_incomplete_iff h]

/-- A relation onto a list cut around one element relates a list cut at the same place. -/
theorem exists_split_of_forall₂ {α β : Type} {R : α → β → Prop} {l : List α}
    {pre' post' : List β} {b' : β} (h : List.Forall₂ R l (pre' ++ b' :: post')) :
    ∃ pre b post, l = pre ++ b :: post ∧ List.Forall₂ R pre pre' ∧ R b b' ∧
      List.Forall₂ R post post' := by
  have hrest := List.forall₂_drop_append l pre' (b' :: post') h
  obtain ⟨b, post, hb, hpost, hdrop⟩ := List.forall₂_cons_right_iff.1 hrest
  exact ⟨l.take pre'.length, b, post, by rw [← hdrop, List.take_append_drop],
    List.forall₂_take_append l pre' (b' :: post') h, hb, hpost⟩

/-- Blocks of the same tokens as they go into `finish` and come out of it. -/
def BlockFinished (b b' : Token × List Piece) : Prop :=
  b'.1 = b.1 ∧ List.Forall₂ Piece.Finished b.2 b'.2

theorem map_fst_eq_of_forall₂ {pre pre' : List (Token × List Piece)}
    (h : List.Forall₂ BlockFinished pre pre') : pre.map Prod.fst = pre'.map Prod.fst := by
  induction h with
  | nil => rfl
  | cons hb _ ih => rw [List.map_cons, List.map_cons, hb.1, ih]

/-- Blocks that `finish` relates leave the same context. -/
theorem Context.before_finished {pre pre' : List (Token × List Piece)}
    (h : List.Forall₂ BlockFinished pre pre') : before pre = before pre' := by
  rcases List.eq_nil_or_concat pre' with rfl | ⟨l', b', rfl⟩
  · rw [List.forall₂_nil_right_iff.1 h]
  · rw [List.concat_eq_append] at h ⊢
    obtain ⟨l, b, post, rfl, hl, hb, hpost⟩ := exists_split_of_forall₂ h
    rw [List.forall₂_nil_right_iff.1 hpost, before_append_singleton, before_append_singleton,
      map_fst_eq_of_forall₂ hl, hb.1, following_finished _ _ hb.2]

/-- `finish` leaves the block of a token other than a group token as its step appended it. -/
theorem Classifier.eq_of_finished_of_not_group (setting : Setting) {s : Classifier} {ctx : Context}
    {pos : Nat} {t : Token} {new ps : List Piece} (ht : t.text ≠ []) (hk : t.kind.isGroup = false)
    (hnew : (s.step setting ctx pos t).1.pieces.toList = s.pieces.toList ++ new)
    (hfin : List.Forall₂ Piece.Finished new ps) : ps = new := by
  obtain ⟨new', hnew', -, hallow⟩ := Classifier.appends_step setting s pos ctx ht
  obtain rfl : new' = new := List.append_cancel_left (hnew'.symm.trans hnew)
  refine eq_of_forall₂_finished hfin fun q hq d hd => ?_
  have := TokenKind.groupRole_eq_none hk (hallow q hq)
  simp [hd, Category.groupRole?] at this

/-- The pieces of a classification fall into one block per token. Each is what the step at its
token appends, as `finish` leaves it; that step starts from a state whose open groups and capture
names are the nesting of the tokens before it, in the context the token before it leaves. -/
theorem classify_reads (pattern : String) (mode : Mode) (hm : mode.unicodeSets = false) :
    ∃ blocks : List (Token × List Piece),
      blocks.map Prod.fst = tokenize mode.unicodeAware pattern.toList ∧
      classify pattern mode = .ok (blocks.map Prod.snd).flatten ∧
      ∀ pre b post, blocks = pre ++ b :: post →
        ∃ (s : Classifier) (pos : Nat) (new : List Piece),
          s.Nests (Nesting.ofTokens (pre.map Prod.fst)) ∧
          (s.step (Setting.ofPattern mode pattern) (Context.before pre) pos b.1).1.pieces.toList =
            s.pieces.toList ++ new ∧
          List.Forall₂ Piece.Finished new b.2 := by
  have hts : ∀ t ∈ tokenize mode.unicodeAware pattern.toList, t.text ≠ [] :=
    fun _ ht => text_ne_nil_of_mem_tokenize ht
  -- the blocks of the run, before `finish`
  obtain ⟨blocks, hfst, hrun, hread⟩ := Classifier.run_reads (Setting.ofPattern mode pattern) hts
    [] ⟨[], [], #[], #[.started pattern mode.flags (Setting.ofPattern mode pattern).captures.total]⟩
    0 (Classifier.Nests.initial _)
  have hpre : (Classifier.ofPattern mode pattern).pieces.toList =
      (blocks.map Prod.snd).flatten := by
    rw [Classifier.ofPattern]
    simpa using hrun
  -- the same blocks after `finish`
  have hfin := Classifier.forall₂_finish mode pattern
  rw [hpre] at hfin
  obtain ⟨blocks', hfst', hflat, hrel⟩ := exists_blocks_of_forall₂ blocks hfin
  refine ⟨blocks', hfst'.trans hfst, by rw [classify_eq hm, hflat], fun pre' b' post' h => ?_⟩
  rw [h] at hrel
  obtain ⟨pre, b, post, rfl, hpre, hb, -⟩ := exists_split_of_forall₂ (R := BlockFinished) hrel
  obtain ⟨s, pos, hs, hstep⟩ := hread pre b post rfl
  refine ⟨s, pos, b.2, ?_, ?_, hb.2⟩
  · rw [← map_fst_eq_of_forall₂ hpre]
    simpa using hs
  · rw [← Context.before_finished hpre, hb.1]
    simpa using hstep

end RegexHighlight
