import RegexHighlight.Proofs.Nesting

/-!
# Style depths

Group boundaries, quantifiers and alternators carry a style depth, read off the nesting of the
group tokens before them (`Nesting`). The rule for each of them is `DepthRule`:

* an opening is a group boundary only when it is valid, and then it is drawn at `h % 5 + 1`, where
  `h` counts the openings open before it, valid or not;
* a `)` is a group boundary only when it closes a valid opening, and then it takes that opening's
  depth;
* an alternator takes the depth of the innermost open group, valid or not, or 0 outside groups;
* a quantifier takes the depth of the group that the `)` just before it closed, when that group is
  valid and no lookaround, and 0 in every other case.

`classify_depths` proves that every piece keeps this rule, so group depths lie in 1 to 5 and the
other depths in 0 to 5.
-/

namespace RegexHighlight

namespace Nesting

/-- The opening the last of the tokens `ts` closes, when it is a `)` and some group is open. -/
def closedByLast (ts : List Token) : Option Opened :=
  match ts.getLast? with
  | some t => if t.kind = .groupClose then (ofTokens ts.dropLast).stack.head? else none
  | none => none

@[simp] theorem closedByLast_nil : closedByLast [] = none := rfl

@[simp] theorem closedByLast_append_singleton (ts : List Token) (t : Token) :
    closedByLast (ts ++ [t]) = if t.kind = .groupClose then (ofTokens ts).stack.head? else none := by
  simp [closedByLast]

end Nesting

/-- The depth a quantifier after the tokens `ts` carries: that of the group the last of them
closed, when it is a `)` that closed a valid group other than a lookaround, and 0 otherwise. -/
def quantifierDepth (ts : List Token) : Nat :=
  match Nesting.closedByLast ts with
  | some o => if o.valid && !o.lookaround then o.depth else 0
  | none => 0

/-- The depth a piece of the token `t`, read after the tokens `pre`, may carry. A group boundary
is a valid opening drawn at `h % 5 + 1`, for `h` the openings open before it, or a `)` at the depth
of the valid opening it closes. An alternator has the depth of the innermost open group, and a
quantifier the depth `quantifierDepth` gives. Other categories carry no depth. -/
def DepthRule (pre : List Token) (t : Token) : Category → Prop
  | .group d =>
    (t.kind = .groupOpen ∧ GroupReplay.openRole (Nesting.ofTokens pre).names t.text = .group ∧
        d = (Nesting.ofTokens pre).stack.length % 5 + 1) ∨
      (t.kind = .groupClose ∧
        ∃ o, (Nesting.ofTokens pre).stack.head? = some o ∧ o.valid = true ∧ o.depth = d)
  | .alternator d => t.kind = .alternator ∧ d = (Nesting.ofTokens pre).depth
  | .quantifier d => t.kind = .quantifier ∧ d = quantifierDepth pre
  | _ => True

theorem quantifierDepth_le_five (ts : List Token) : quantifierDepth ts ≤ 5 := by
  unfold quantifierDepth
  split
  · next o ho =>
      split
      · -- the opening closed is the innermost one of a nesting
        unfold Nesting.closedByLast at ho
        split at ho
        · split at ho
          · exact (Nesting.depth_mem_ofTokens _ o (List.mem_of_mem_head? ho)).2
          · simp at ho
        · simp at ho
      · omega
  · omega

/-- The depths the rule allows: 1 to 5 for a group boundary, 0 to 5 for the others. -/
theorem DepthRule.bounds {pre : List Token} {t : Token} {c : Category} (h : DepthRule pre t c)
    (d : Nat) :
    (c = .group d → 1 ≤ d ∧ d ≤ 5) ∧ (c = .quantifier d → d ≤ 5) ∧
      (c = .alternator d → d ≤ 5) := by
  refine ⟨fun hc => ?_, fun hc => ?_, fun hc => ?_⟩ <;> subst hc
  · rcases h with ⟨-, -, rfl⟩ | ⟨-, o, ho, -, rfl⟩
    · omega
    · exact Nesting.depth_mem_ofTokens pre o (List.mem_of_mem_head? ho)
  · rw [h.2]
    exact quantifierDepth_le_five pre
  · rw [h.2]
    exact Nesting.depth_le_five pre

/-- The context before a quantifier leaves the depth `quantifierDepth` gives, whenever it lets
the quantifier repeat something. -/
theorem Context.groupDepth_before {pre : List (Token × List Piece)}
    (hq : (Context.before pre).quantifiable = true) :
    (Context.before pre).groupDepth.getD 0 = quantifierDepth (pre.map Prod.fst) := by
  rcases List.eq_nil_or_concat pre with rfl | ⟨l, p, rfl⟩
  · simp [Context.start] at hq
  rw [List.concat_eq_append, Context.before_append_singleton] at hq ⊢
  rw [List.map_append, List.map_singleton, quantifierDepth, Nesting.closedByLast_append_singleton]
  obtain ⟨⟨kind, text⟩, ps⟩ := p
  -- only a `)` that closes a valid group leaves a depth behind
  cases kind with
  | groupClose =>
      rw [Context.following_groupClose_groupDepth _ _ _ hq]
      rw [Context.following_groupClose_quantifiable, Option.any_eq_true] at hq
      obtain ⟨o, ho, hvalid⟩ := hq
      simp [ho, hvalid]
  | _ => simp [Context.following, Context.after]

namespace Classifier

section Steps

variable {s : Classifier} {pre : List (Token × List Piece)} {pos : Nat} {text : List Char}
  {new : List Piece}

theorem depthRule_groupOpen (hs : s.Nests (Nesting.ofTokens (pre.map Prod.fst)))
    (hnew : (s.groupOpen pos text).1.pieces.toList = s.pieces.toList ++ new) :
    ∀ q ∈ new, DepthRule (pre.map Prod.fst) ⟨.groupOpen, text⟩ q.category := by
  obtain ⟨⟨p, hp, hview, hcat⟩, -, -⟩ := groupOpen_spec s pos text
  obtain rfl : new = [p] := List.append_cancel_left (hnew.symm.trans hp)
  intro q hq
  obtain rfl := List.mem_singleton.1 hq
  cases hc : q.category with
  | group d =>
      -- a group boundary has the role of a group, so its opening is valid
      have hrole : GroupReplay.openRole s.names text = .group := by
        simp [Piece.groupView, hc, Category.groupRole?, GroupReplay.entry] at hview
        exact hview.2.2.symm
      have hlen : s.stack.length = (Nesting.ofTokens (pre.map Prod.fst)).stack.length := by
        rw [← hs.stack, List.length_map]
      have hd := hcat hrole
      rw [hc, Category.group.injEq] at hd
      exact .inl ⟨rfl, by rwa [← GroupReplay.openRole_congr text hs.names], by rw [hd, hlen]⟩
  | alternator d | quantifier d => simp [Piece.groupView, hc, Category.groupRole?] at hview
  | _ => trivial

theorem depthRule_groupClose (hs : s.Nests (Nesting.ofTokens (pre.map Prod.fst)))
    (hnew : (s.groupClose pos text).1.pieces.toList = s.pieces.toList ++ new) :
    ∀ q ∈ new, DepthRule (pre.map Prod.fst) ⟨.groupClose, text⟩ q.category := by
  rw [groupClose_pieces, List.append_cancel_left_eq] at hnew
  subst hnew
  intro q hq
  obtain rfl := List.mem_singleton.1 hq
  -- the innermost open group of the classifier is that of the nesting
  cases hstack : s.stack with
  | nil => simp [piece, DepthRule]
  | cons g rest =>
      have hhead : (Nesting.ofTokens (pre.map Prod.fst)).stack.head? = some g.opened := by
        rw [← hs.stack, hstack]
        rfl
      by_cases hv : g.valid = true
      · simp only [hv, if_true, piece]
        exact .inr ⟨rfl, g.opened, hhead, hv, rfl⟩
      · simp [hv, piece, DepthRule]

theorem depthRule_alternator (hs : s.Nests (Nesting.ofTokens (pre.map Prod.fst))) (ctx : Context)
    (hnew : (s.alternator ctx pos text).1.pieces.toList = s.pieces.toList ++ new) :
    ∀ q ∈ new, DepthRule (pre.map Prod.fst) ⟨.alternator, text⟩ q.category := by
  rw [alternator_pieces, List.append_cancel_left_eq] at hnew
  subst hnew
  intro q hq
  obtain rfl := List.mem_singleton.1 hq
  -- the depth of the classifier's innermost open group is that of the nesting
  have hdepth : (s.stack.head?.map (·.depth)).getD 0 = (Nesting.ofTokens (pre.map Prod.fst)).depth := by
    rw [Nesting.depth, ← hs.stack]
    cases s.stack <;> rfl
  split <;> simp [piece, DepthRule, hdepth]

theorem depthRule_quantifier :
    ∀ q ∈ new, (s.quantifier (Context.before pre) pos text).1.pieces.toList = s.pieces.toList ++ new →
      DepthRule (pre.map Prod.fst) ⟨.quantifier, text⟩ q.category := by
  intro q hq hnew
  rw [quantifier_pieces, List.append_cancel_left_eq] at hnew
  subst hnew
  obtain rfl := List.mem_singleton.1 hq
  by_cases hquant : (Context.before pre).quantifiable = true
  · simp only [hquant, if_true, piece]
    cases intervalProblem text with
    | none => exact ⟨rfl, Context.groupDepth_before hquant⟩
    | some d => trivial
  · simp [hquant, piece, DepthRule]

end Steps

/-- Every piece a step appends carries the depth the rule gives. -/
theorem depthRule_step (setting : Setting) {s : Classifier} {pre : List (Token × List Piece)}
    {pos : Nat} {t : Token} {new : List Piece} (hs : s.Nests (Nesting.ofTokens (pre.map Prod.fst)))
    (ht : t.text ≠ [])
    (hnew : (s.step setting (Context.before pre) pos t).1.pieces.toList = s.pieces.toList ++ new) :
    ∀ q ∈ new, DepthRule (pre.map Prod.fst) t q.category := by
  obtain ⟨kind, text⟩ := t
  cases kind with
  | groupOpen => exact depthRule_groupOpen hs hnew
  | groupClose => exact depthRule_groupClose hs hnew
  | alternator => exact depthRule_alternator hs _ hnew
  | quantifier => exact fun q hq => depthRule_quantifier q hq hnew
  | charClass | escape | anchor | dot | literal | char =>
      -- these kinds allow no category with a depth
      obtain ⟨new', hnew', -, hallow⟩ := appends_step setting s pos (Context.before pre) ht
      obtain rfl : new' = new := List.append_cancel_left (hnew'.symm.trans hnew)
      intro q hq
      have hq' := hallow q hq
      cases hc : q.category with
      | group d | alternator d | quantifier d =>
          rw [hc] at hq'
          exact absurd hq' Bool.false_ne_true
      | _ => trivial

end Classifier

/-- Every group boundary, quantifier and alternator of a classification carries the depth its rule
gives. A group boundary is a valid opening drawn at `h % 5 + 1`, for `h` the openings open before
it, valid or not, or the `)` that closes a valid opening, at that opening's depth. An alternator
has the depth of the innermost open group, or 0. A quantifier has the depth of the group the `)`
just before it closed, when that group is valid and no lookaround, and 0 otherwise. So group depths
lie in 1 to 5, and quantifier and alternator depths in 0 to 5. -/
theorem classify_depths (pattern : String) (mode : Mode) (hm : mode.unicodeSets = false) :
    ∃ blocks : List (Token × List Piece),
      blocks.map Prod.fst = tokenize mode.unicodeAware pattern.toList ∧
      classify pattern mode = .ok (blocks.map Prod.snd).flatten ∧
      (∀ pre b post, blocks = pre ++ b :: post →
        ∀ q ∈ b.2, DepthRule (pre.map Prod.fst) b.1 q.category) ∧
      ∀ q ∈ (blocks.map Prod.snd).flatten, ∀ d,
        (q.category = .group d → 1 ≤ d ∧ d ≤ 5) ∧ (q.category = .quantifier d → d ≤ 5) ∧
          (q.category = .alternator d → d ≤ 5) := by
  obtain ⟨blocks, hfst, hclassify, hread⟩ := classify_reads pattern mode hm
  have hrule : ∀ pre b post, blocks = pre ++ b :: post →
      ∀ q ∈ b.2, DepthRule (pre.map Prod.fst) b.1 q.category := by
    intro pre b post h q hq
    obtain ⟨s, pos, new, hs, hnew, hfin⟩ := hread pre b post h
    have ht : b.1.text ≠ [] := text_ne_nil_of_mem_tokenize (t := b.1) (by
      rw [← hfst, h]
      simp)
    obtain ⟨q₀, hq₀, hfq⟩ := exists_of_mem_of_forall₂ hfin hq
    -- `finish` only reports a group boundary as never closed, which carries no depth
    rcases hfq with rfl | ⟨d, -, rfl⟩
    · exact Classifier.depthRule_step _ hs ht hnew _ hq₀
    · trivial
  refine ⟨blocks, hfst, hclassify, hrule, fun q hq d => ?_⟩
  obtain ⟨qs, hqs, hq⟩ := List.mem_flatten.1 hq
  obtain ⟨b, hb, rfl⟩ := List.mem_map.1 hqs
  obtain ⟨pre, post, h⟩ := List.append_of_mem hb
  exact (hrule pre b post h q hq).bounds d

theorem classify_depths_sample :
    ({} : Mode).unicodeSets = false ∧
    ∃ blocks : List (Token × List Piece),
      blocks.map Prod.fst = tokenize false "((((((a|b))))))+(?=c)?".toList ∧
      classify "((((((a|b))))))+(?=c)?" {} = .ok (blocks.map Prod.snd).flatten ∧
      (∀ pre b post, blocks = pre ++ b :: post →
        ∀ q ∈ b.2, DepthRule (pre.map Prod.fst) b.1 q.category) ∧
      ∀ q ∈ (blocks.map Prod.snd).flatten, ∀ d,
        (q.category = .group d → 1 ≤ d ∧ d ≤ 5) ∧ (q.category = .quantifier d → d ≤ 5) ∧
          (q.category = .alternator d → d ≤ 5) :=
  ⟨rfl, classify_depths "((((((a|b))))))+(?=c)?" {} rfl⟩

end RegexHighlight
