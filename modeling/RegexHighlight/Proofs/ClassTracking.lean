import Mathlib.Data.List.Forall2
import RegexHighlight.Proofs.Safety
import RegexHighlight.Render.ClassTrack

/-!
# Where a class ends, and the class tracker

Two scanners decide where a character class ends. The lexer (`Shape.classExtent`) reads a class
token up to and including the first `]` after its opening that no `\` takes, or to the end of
the pattern; `ClassParts.ofText` later cuts that token into its opening, interior and closing.
Both cut at the same `]` (`tokenize_class_extent`): the characters before it form a
`ClassParts.Interior`, and a class without it runs to the end of the pattern.

A class token becomes its opening piece, a class boundary when the class is closed and an
`unclosedClass` error otherwise, one piece per interior token, and its closing `]` when it has
one; no other piece is a class boundary or an `unclosedClass` error. So the renderers' tracker,
which sees categories only, finds every class exactly where the lexer put it
(`classify_tracks_classes`).
-/

namespace RegexHighlight

/-! ## The closing bracket -/

namespace ClassParts

/-- The characters a class may hold before the `]` that closes it: a `\` takes the character
after it, whatever it is, and no other character is `]`. -/
inductive Interior : List Char → Prop
  | nil : Interior []
  | escape (c : Char) {rest : List Char} : Interior rest → Interior ('\\' :: c :: rest)
  | char {c : Char} {rest : List Char} : c ≠ '\\' → c ≠ ']' → Interior rest → Interior (c :: rest)

/-- What a class that is never closed holds after its opening: an interior, which may end in a
lone `\`. -/
def Unclosed (cs : List Char) : Prop := Interior cs ∨ ∃ i, cs = i ++ ['\\'] ∧ Interior i

/-- A text either holds a `]` that no `\` takes, and the first one ends an interior, or it holds
none. -/
theorem Interior.split (cs : List Char) :
    (∃ i rest, cs = i ++ ']' :: rest ∧ Interior i) ∨ Unclosed cs := by
  induction cs using Shape.classBodyExtent.induct with
  | case1 => exact .inr (.inl .nil)
  | case2 tail => exact .inl ⟨[], tail, rfl, .nil⟩
  | case3 => exact .inr (.inr ⟨[], rfl, .nil⟩)
  | case4 c rest ih =>
      rcases ih with ⟨i, r, rfl, hi⟩ | hi | ⟨i, rfl, hi⟩
      · exact .inl ⟨'\\' :: c :: i, r, rfl, .escape c hi⟩
      · exact .inr (.inl (.escape c hi))
      · exact .inr (.inr ⟨'\\' :: c :: i, rfl, .escape c hi⟩)
  | case5 c rest h1 h2 h3 ih =>
      have hb : c ≠ '\\' := by
        rintro rfl
        cases rest with
        | nil => exact h2 rfl rfl
        | cons d ds => exact h3 d ds rfl rfl
      have hc : c ≠ ']' := h1
      rcases ih with ⟨i, r, rfl, hi⟩ | hi | ⟨i, rfl, hi⟩
      · exact .inl ⟨c :: i, r, rfl, .char hb hc hi⟩
      · exact .inr (.inl (.char hb hc hi))
      · exact .inr (.inr ⟨c :: i, rfl, .char hb hc hi⟩)

theorem classBodyExtent_cons {c : Char} (hb : c ≠ '\\') (hc : c ≠ ']') (rest : List Char) :
    Shape.classBodyExtent (c :: rest) = 1 + Shape.classBodyExtent rest := by
  rw [Shape.classBodyExtent.eq_def]
  split <;> simp_all

theorem interiorExtent_cons {c : Char} (hb : c ≠ '\\') (hc : c ≠ ']') (rest : List Char) :
    interiorExtent (c :: rest) = 1 + interiorExtent rest := by
  rw [interiorExtent.eq_def]
  split <;> simp_all

/-- The lexer takes an interior whole. -/
theorem classBodyExtent_append {i : List Char} (h : Interior i) (tail : List Char) :
    Shape.classBodyExtent (i ++ tail) = i.length + Shape.classBodyExtent tail := by
  induction h with
  | nil => simp
  | escape c h ih =>
      simp only [List.cons_append, Shape.classBodyExtent, ih, List.length_cons]
      omega
  | char hb hc h ih =>
      rw [List.cons_append, classBodyExtent_cons hb hc, ih, List.length_cons]
      omega

/-- So does the cut of a class token into its parts. -/
theorem interiorExtent_append {i : List Char} (h : Interior i) (tail : List Char) :
    interiorExtent (i ++ tail) = i.length + interiorExtent tail := by
  induction h with
  | nil => simp
  | escape c h ih =>
      simp only [List.cons_append, interiorExtent, ih, List.length_cons]
      omega
  | char hb hc h ih =>
      rw [List.cons_append, interiorExtent_cons hb hc, ih, List.length_cons]
      omega

/-- A class that is never closed is read to the end. -/
theorem classBodyExtent_unclosed {cs : List Char} (h : Unclosed cs) :
    Shape.classBodyExtent cs = cs.length := by
  rcases h with h | ⟨i, rfl, h⟩
  · simpa [Shape.classBodyExtent] using classBodyExtent_append h []
  · simp [classBodyExtent_append h, Shape.classBodyExtent]

theorem interiorExtent_unclosed {cs : List Char} (h : Unclosed cs) :
    interiorExtent cs = cs.length := by
  rcases h with h | ⟨i, rfl, h⟩
  · simpa [interiorExtent] using interiorExtent_append h []
  · simp [interiorExtent_append h, interiorExtent]

/-- Where the cut of a class token puts its interior, when the token is its opening `o`
followed by the body `body` the lexer took. -/
theorem ofText_eq {o body : List Char} (ho : o = ['['] ∧ body.head? ≠ some '^' ∨ o = ['[', '^']) :
    ofText (o ++ body) = ⟨o, body.take (interiorExtent body), body.drop (interiorExtent body)⟩ := by
  rcases ho with ⟨rfl, hb⟩ | rfl
  · exact ofText_plain hb
  · exact ofText_negated body

end ClassParts

/-- Where a class token ends, read through the parts `ClassParts.ofText` cuts it into: its
opening `[`, or `[^` when a `^` follows the bracket; then either an interior and the `]` that
closes it, or, when no `]` closes it, everything up to the end of the pattern, so that no token
follows. -/
def ClassExtent (text : List Char) (post : List Token) : Prop :=
  text = (ClassParts.ofText text).opening ++ (ClassParts.ofText text).interior ++
      (ClassParts.ofText text).closing ∧
    ((ClassParts.ofText text).opening = ['['] ∧ (ClassParts.ofText text).interior.head? ≠ some '^' ∨
      (ClassParts.ofText text).opening = ['[', '^']) ∧
    ((ClassParts.ofText text).closing = [']'] ∧ ClassParts.Interior (ClassParts.ofText text).interior ∨
      (ClassParts.ofText text).closing = [] ∧ ClassParts.Unclosed (ClassParts.ofText text).interior ∧
        post = [])

/-- A token of a pattern, and the tokens after it, come from the rule of its first character. -/
theorem exists_shape_of_tokenize_eq {unicode : Bool} {cs : List Char} {pre post : List Token}
    {t : Token} (h : tokenize unicode cs = pre ++ t :: post) : ∃ c rest,
      t = ⟨(Token.shape unicode c rest).1, c :: rest.take (Token.shape unicode c rest).2⟩ ∧
      post = tokenize unicode (rest.drop (Token.shape unicode c rest).2) := by
  induction cs using tokenize.induct unicode generalizing pre with
  | case1 => simp [tokenize] at h
  | case2 c rest kind n hshape ih =>
      rw [tokenize, hshape] at h
      cases pre with
      | nil =>
          simp only [List.nil_append, List.cons.injEq] at h
          obtain ⟨rfl, rfl⟩ := h
          exact ⟨c, rest, by simp [hshape], by simp [hshape]⟩
      | cons p pre => exact ih (List.cons.inj h).2

/-- The body of a class after its opening: the lexer stops just after the first `]` that no `\`
takes, and the cut into parts puts that `]` alone in the closing; with no such `]`, both take
everything. -/
theorem class_body_cases (body : List Char) :
    (∃ i more, body = i ++ ']' :: more ∧ ClassParts.Interior i ∧
      Shape.classBodyExtent body = i.length + 1 ∧
      (body.take (Shape.classBodyExtent body)).take
          (ClassParts.interiorExtent (body.take (Shape.classBodyExtent body))) = i ∧
      (body.take (Shape.classBodyExtent body)).drop
          (ClassParts.interiorExtent (body.take (Shape.classBodyExtent body))) = [']']) ∨
    (ClassParts.Unclosed body ∧ Shape.classBodyExtent body = body.length ∧
      ClassParts.interiorExtent body = body.length) := by
  rcases ClassParts.Interior.split body with ⟨i, more, rfl, hi⟩ | hu
  · have hext : Shape.classBodyExtent (i ++ ']' :: more) = i.length + 1 := by
      simp [ClassParts.classBodyExtent_append hi, Shape.classBodyExtent]
    have htake : (i ++ ']' :: more).take (i.length + 1) = i ++ [']'] := by
      rw [List.take_append]
      simp
    have hint : ClassParts.interiorExtent (i ++ [']']) = i.length := by
      simp [ClassParts.interiorExtent_append hi, ClassParts.interiorExtent]
    refine .inl ⟨i, more, rfl, hi, hext, ?_, ?_⟩ <;> rw [hext, htake, hint] <;> simp
  · exact .inr ⟨hu, ClassParts.classBodyExtent_unclosed hu, ClassParts.interiorExtent_unclosed hu⟩

/-- Every class token of a pattern ends just after the first `]` that follows its opening and no
`\` takes, or at the end of the pattern when there is none; the cut into parts finds the same
`]`. -/
theorem tokenize_class_extent {unicode : Bool} {cs : List Char} {pre post : List Token}
    {t : Token} (h : tokenize unicode cs = pre ++ t :: post) (hk : t.kind = .charClass) :
    ClassExtent t.text post := by
  obtain ⟨c, rest, rfl, hpost⟩ := exists_shape_of_tokenize_eq h
  obtain ⟨hclass, -⟩ := Token.shape_spec unicode c rest
  obtain ⟨rfl, hn⟩ := hclass hk
  dsimp only at hpost ⊢
  rw [hn] at hpost ⊢
  -- the opening and the body the lexer reads after it
  obtain ⟨o, body, ho, hrest, hext⟩ : ∃ o body,
      (o = ['['] ∧ body.head? ≠ some '^' ∨ o = ['[', '^']) ∧ '[' :: rest = o ++ body ∧
      Shape.classExtent rest = Shape.classBodyExtent body + (o.length - 1) := by
    by_cases hneg : rest.head? = some '^'
    · obtain ⟨body, rfl⟩ : ∃ body, rest = '^' :: body := by
        cases rest with
        | nil => simp at hneg
        | cons d body => exact ⟨body, by simpa using hneg⟩
      exact ⟨['[', '^'], body, .inr rfl, rfl, by simp [Shape.classExtent, Nat.add_comm]⟩
    · refine ⟨['['], rest, .inl ⟨rfl, hneg⟩, rfl, ?_⟩
      unfold Shape.classExtent
      split
      · simp at hneg
      · simp
  have htext : '[' :: rest.take (Shape.classExtent rest) =
      o ++ body.take (Shape.classBodyExtent body) := by
    rcases ho with ⟨rfl, -⟩ | rfl
    · simp_all
    · simp only [List.cons.injEq, true_and, List.cons_append, List.nil_append] at hrest ⊢
      subst hrest
      simp [hext]
  have hdrop : rest.drop (Shape.classExtent rest) = body.drop (Shape.classBodyExtent body) := by
    rcases ho with ⟨rfl, -⟩ | rfl
    · simp_all
    · simp only [List.cons.injEq, true_and, List.cons_append, List.nil_append] at hrest
      subst hrest
      simp [hext]
  have hhead : o = ['['] ∧ (body.take (Shape.classBodyExtent body)).head? ≠ some '^' ∨
      o = ['[', '^'] := by
    rcases ho with ⟨rfl, hb⟩ | rfl
    · refine .inl ⟨rfl, ?_⟩
      rw [List.head?_take]
      split
      · simp
      · exact hb
    · exact .inr rfl
  unfold ClassExtent
  rw [htext, ClassParts.ofText_eq hhead]
  refine ⟨by simp, hhead.imp_left fun h => ⟨h.1, ?_⟩, ?_⟩
  · -- an interior that starts with `^` would have been read as part of the opening
    intro hi
    apply h.2
    dsimp only at hi
    rw [List.head?_take] at hi
    split at hi
    · simp at hi
    · exact hi
  dsimp only
  rcases class_body_cases body with ⟨i, more, -, hi, -, hint, hclose⟩ | ⟨hu, hext', hint'⟩
  · rw [hint, hclose]
    exact .inl ⟨rfl, hi⟩
  · refine .inr ⟨?_, ?_, ?_⟩
    · rw [hext', List.take_length, hint', List.drop_length]
    · rw [hext', List.take_length, hint', List.take_length]
      exact hu
    · rw [hpost, hdrop, hext', List.drop_length, tokenize]

/-! ## The pieces of a class token -/

/-- Whether the tracker reads a category as a class bracket. -/
def Category.marksClass : Category → Bool
  | .classBoundary | .error .unclosedClass => true
  | _ => false

/-- Only a class token gives class brackets. -/
theorem TokenKind.marksClass_eq_false {kind : TokenKind} {c : Category} (hk : kind ≠ .charClass)
    (hc : kind.allows c = true) : c.marksClass = false := by
  cases kind <;> cases c <;> simp_all [TokenKind.allows, Category.marksClass]
  all_goals (rename_i d; cases d <;> simp_all)

namespace CharClass

theorem marksClass_hyphen (unicode : Bool) (ctx : RangeContext) (next : Option ClassToken) :
    (hyphen unicode ctx next).1.marksClass = false := by
  unfold hyphen
  split
  · rfl
  · split
    · rfl
    · dsimp only
      split <;> split <;> rfl

theorem marksClass_escape (unicode : Bool) (ctx : RangeContext) (text : List Char) :
    (escape unicode ctx text).1.marksClass = false := by
  unfold escape
  split_ifs <;> rfl

/-- No interior token is read as a class bracket. -/
theorem marksClass_categories (unicode : Bool) (ctx : RangeContext) (ts : List ClassToken) :
    ∀ c ∈ categories unicode ctx ts, c.marksClass = false := by
  induction ts generalizing ctx with
  | nil => simp [categories]
  | cons t ts ih =>
      intro c hc
      simp only [categories, List.mem_cons] at hc
      rcases hc with rfl | hc
      · split
        · rfl
        · exact marksClass_hyphen unicode ctx ts.head?
        · exact marksClass_escape unicode ctx t.text
      · exact ih _ c hc

/-- The texts and categories of laid out pieces are the parts laid out. -/
theorem map_layout (pos : Nat) (parts : List (List Char × Category)) :
    (Piece.layout pos parts).map (fun q => (q.text.toList, q.category)) = parts := by
  induction parts generalizing pos with
  | nil => rfl
  | cons x parts ih => simp [Piece.layout, ih]

end CharClass

/-- The pieces of a class token with text `text`: first its opening, a class boundary when the
class is closed and an `unclosedClass` error otherwise; then one piece per token of its interior,
none of them read as a class bracket; then, when the class is closed, its `]` as a class
boundary. -/
def ClassPieces (unicode : Bool) (text : List Char) (ps : List Piece) : Prop :=
  ∃ opening interior closing, ps = opening :: interior ++ closing ∧
    opening.text.toList = (ClassParts.ofText text).opening ∧
    opening.category =
      (if (ClassParts.ofText text).closed then .classBoundary else .error .unclosedClass) ∧
    interior.map (·.text.toList) =
      (classTokenize unicode (ClassParts.ofText text).interior).map ClassToken.text ∧
    (∀ q ∈ interior, q.category.marksClass = false) ∧
    closing.map (fun q => (q.text.toList, q.category)) =
      if (ClassParts.ofText text).closed then [([']'], .classBoundary)] else []

/-- Pieces with the texts and categories of the parts of a class token are its class pieces. -/
theorem classPieces_of_parts {unicode : Bool} {text : List Char} {post : List Token}
    (hext : ClassExtent text post) {ps : List Piece}
    (h : ps.map (fun q => (q.text.toList, q.category)) = CharClass.parts unicode text) :
    ClassPieces unicode text ps := by
  obtain ⟨-, -, hclose⟩ := hext
  simp only [CharClass.parts] at h
  obtain ⟨opening, rest, rfl, hopen, hrest⟩ := List.map_eq_cons_iff.1 h
  obtain ⟨interior, closing, rfl, hinterior, hclosing⟩ := List.map_eq_append_iff.1 hrest
  simp only [Prod.mk.injEq] at hopen
  have hlen : (classTokenize unicode (ClassParts.ofText text).interior).length =
      (CharClass.categories unicode .start
        (classTokenize unicode (ClassParts.ofText text).interior)).length := by
    rw [CharClass.length_categories]
  refine ⟨opening, interior, closing, rfl, hopen.1, hopen.2, ?_, ?_, ?_⟩
  · have := congrArg (List.map Prod.fst) hinterior
    rwa [List.map_map, List.map_fst_zip (by simp [hlen])] at this
  · intro q hq
    have hmem : q.category ∈ (interior.map fun q => (q.text.toList, q.category)).map Prod.snd :=
      List.mem_map.2 ⟨_, List.mem_map.2 ⟨q, hq, rfl⟩, rfl⟩
    rw [hinterior, List.map_snd_zip (by simp [hlen])] at hmem
    exact CharClass.marksClass_categories unicode .start _ _ hmem
  · -- a class that is closed ends in its `]`
    rw [hclosing]
    by_cases hc : (ClassParts.ofText text).closed
    · rcases hclose with ⟨hc', -⟩ | ⟨hc', -⟩
      · simp [hc, hc']
      · simp [ClassParts.closed, hc'] at hc
    · simp [hc]

namespace Classifier

/-- The pieces a step appends for a token: each with a category its kind allows, and for a class
token, the parts of the token laid out. -/
def BlockOK (unicode : Bool) (b : Token × List Piece) : Prop :=
  (∀ q ∈ b.2, b.1.kind.allows q.category = true) ∧
    (b.1.kind = .charClass →
      b.2.map (fun q => (q.text.toList, q.category)) = CharClass.parts unicode b.1.text)

theorem blockOK_step (setting : Setting) (s : Classifier) (ctx : Context) (pos : Nat) {t : Token}
    (ht : t.text ≠ []) : ∃ new, (s.step setting ctx pos t).1.pieces.toList = s.pieces.toList ++ new ∧
      BlockOK setting.unicode (t, new) := by
  obtain ⟨new, hpieces, -, hallow⟩ := appends_step setting s pos ctx ht
  refine ⟨new, hpieces, hallow, fun hk => ?_⟩
  -- a class token appends exactly the layout of its parts
  have hclass : (s.step setting ctx pos t).1.pieces.toList =
      s.pieces.toList ++ CharClass.pieces setting.unicode pos t.text := by
    obtain ⟨kind, text⟩ := t
    dsimp only at hk
    subst hk
    simp [step, charClass]
  rw [hclass] at hpieces
  rw [← List.append_cancel_left hpieces]
  exact CharClass.map_layout pos _

/-- A run appends one block of pieces per token, in order. -/
theorem blocks_run (setting : Setting) {ts : List Token} (hts : ∀ t ∈ ts, t.text ≠ []) :
    ∀ (s : Classifier) (ctx : Context) (pos : Nat), ∃ blocks : List (Token × List Piece),
      blocks.map Prod.fst = ts ∧
      (run setting s ctx pos ts).pieces.toList = s.pieces.toList ++ (blocks.map Prod.snd).flatten ∧
      ∀ b ∈ blocks, BlockOK setting.unicode b := by
  induction ts with
  | nil => exact fun s _ _ => ⟨[], rfl, by simp [run], by simp⟩
  | cons t ts ih =>
      intro s ctx pos
      obtain ⟨new, hnew, hok⟩ := blockOK_step setting s ctx pos (hts t List.mem_cons_self)
      obtain ⟨blocks, hfst, hrun, hblocks⟩ := ih (fun t' ht' => hts t' (List.mem_cons_of_mem _ ht'))
        (s.step setting ctx pos t).1 (s.step setting ctx pos t).2 (pos + utf8Length t.text)
      refine ⟨(t, new) :: blocks, by simp [hfst], ?_, ?_⟩
      · simp [run, hrun, hnew]
      · rintro b (_ | ⟨_, hb⟩)
        · exact hok
        · exact hblocks b hb

end Classifier

/-! ## Reporting open groups leaves classes alone -/

/-- How `finish` may change a piece: it leaves it, or reports a group opening as never closed. -/
def Piece.Finished (q q' : Piece) : Prop :=
  q' = q ∨ ∃ d, q.category = .group d ∧ q' = q.markUnclosed

/-- A relation between two lists, read off along blocks of the first: the second splits into
blocks of the same tags, each related to its counterpart. -/
theorem exists_blocks_of_forall₂ {α β γ : Type} {R : α → β → Prop} :
    ∀ (bs : List (γ × List α)) {l' : List β}, List.Forall₂ R (bs.map Prod.snd).flatten l' →
      ∃ bs' : List (γ × List β), bs'.map Prod.fst = bs.map Prod.fst ∧
        (bs'.map Prod.snd).flatten = l' ∧
        List.Forall₂ (fun b b' => b'.1 = b.1 ∧ List.Forall₂ R b.2 b'.2) bs bs'
  | [], l', h => by
      simp only [List.map_nil, List.flatten_nil, List.forall₂_nil_left_iff] at h
      exact ⟨[], rfl, by simp [h], .nil⟩
  | b :: bs, l', h => by
      simp only [List.map_cons, List.flatten_cons] at h
      have hhead : List.Forall₂ R b.2 (l'.take b.2.length) := by
        simpa using List.forall₂_take b.2.length h
      have htail : List.Forall₂ R (bs.map Prod.snd).flatten (l'.drop b.2.length) := by
        simpa using List.forall₂_drop b.2.length h
      obtain ⟨bs', hfst, hflat, hrel⟩ := exists_blocks_of_forall₂ bs htail
      exact ⟨(b.1, l'.take b.2.length) :: bs', by simp [hfst], by simp [hflat],
        .cons ⟨rfl, hhead⟩ hrel⟩

/-- Pieces that are not group boundaries come out of `finish` as they went in. -/
theorem eq_of_forall₂_finished {l l' : List Piece} (h : List.Forall₂ Piece.Finished l l')
    (hl : ∀ q ∈ l, ∀ d, q.category ≠ .group d) : l' = l := by
  induction h with
  | nil => rfl
  | cons hq _ ih =>
      rcases hq with rfl | ⟨d, hd, -⟩
      · rw [ih (fun q hq => hl q (List.mem_cons_of_mem _ hq))]
      · exact absurd hd (hl _ List.mem_cons_self d)

namespace Classifier

/-- `finish` only reports group openings: every piece it changes is a group boundary. -/
theorem forall₂_finish (mode : Mode) (pattern : String) :
    List.Forall₂ Piece.Finished (ofPattern mode pattern).pieces.toList
      (ofPattern mode pattern).finish.pieces.toList := by
  rw [finish_pieces]
  refine List.forall₂_iff_get.2 ⟨by simp, fun i h₁ h₂ => ?_⟩
  simp only [List.get_eq_getElem, List.getElem_mapIdx]
  split
  · next hany =>
      -- a valid open group points at the piece of its opening, a group boundary
      obtain ⟨g, hg, hgi⟩ := List.any_eq_true.1 hany
      simp only [Bool.and_eq_true, beq_iff_eq] at hgi
      obtain ⟨p, hp, -, hcat⟩ := pointsAt_ofPattern mode pattern g hg
      rw [hgi.2] at hp
      have hpi : (ofPattern mode pattern).pieces.toList[i] = p := by
        simpa [List.getElem?_eq_getElem h₁] using hp
      exact .inr ⟨g.depth, by rw [hpi, hcat hgi.1], rfl⟩
  · exact .inl rfl

end Classifier

/-! ## The tracker -/

namespace ClassPosition

/-- The tracker as a recursion over the categories, from a given state. -/
def trackFrom : Bool → List Category → List ClassPosition × Bool
  | isOpen, [] => ([], isOpen)
  | isOpen, c :: cs =>
    ((step isOpen c).1 :: (trackFrom (step isOpen c).2 cs).1, (trackFrom (step isOpen c).2 cs).2)

theorem foldl_track (cs : List Category) :
    ∀ (acc : Array ClassPosition) (isOpen : Bool),
      cs.foldl (fun (acc : Array ClassPosition × Bool) c =>
          let (p, isOpen) := step acc.2 c
          (acc.1.push p, isOpen)) (acc, isOpen) =
        (acc ++ (trackFrom isOpen cs).1.toArray, (trackFrom isOpen cs).2) := by
  induction cs with
  | nil => simp [trackFrom]
  | cons c cs ih =>
      intro acc isOpen
      simp only [List.foldl_cons, trackFrom]
      rw [ih]
      simp

theorem track_eq (cs : List Category) : track cs = trackFrom false cs := by
  simp [track, foldl_track]

theorem trackFrom_append (isOpen : Bool) (l₁ l₂ : List Category) :
    trackFrom isOpen (l₁ ++ l₂) =
      ((trackFrom isOpen l₁).1 ++ (trackFrom (trackFrom isOpen l₁).2 l₂).1,
        (trackFrom (trackFrom isOpen l₁).2 l₂).2) := by
  induction l₁ generalizing isOpen with
  | nil => rfl
  | cons c l₁ ih => simp [trackFrom, ih]

/-- Pieces that are no class brackets keep the tracker where it is. -/
theorem trackFrom_of_marksClass {cs : List Category} (h : ∀ c ∈ cs, c.marksClass = false)
    (isOpen : Bool) :
    trackFrom isOpen cs = (List.replicate cs.length (if isOpen then .inside else .outside), isOpen) := by
  induction cs with
  | nil => rfl
  | cons c cs ih =>
      have hc : step isOpen c = (if isOpen then .inside else .outside, isOpen) := by
        have := h c List.mem_cons_self
        unfold step
        split
        · simp [Category.marksClass] at this
        · simp [Category.marksClass] at this
        · rfl
      simp [trackFrom, hc, ih (fun c' hc' => h c' (List.mem_cons_of_mem _ hc')),
        List.replicate_succ]

end ClassPosition

/-- Whether a token is a class that is never closed. -/
def Token.isUnclosedClass (t : Token) : Bool :=
  t.kind = .charClass && !(ClassParts.ofText t.text).closed

/-- The positions the tracker should give the `n` pieces of a token: a class token's first piece
opens the class, its closing `]` closes it and its other pieces lie inside; the pieces of every
other token lie outside. -/
def ClassPosition.ofToken (t : Token) (n : Nat) : List ClassPosition :=
  if t.kind = .charClass then
    if (ClassParts.ofText t.text).closed then .opening :: List.replicate (n - 2) .inside ++ [.closing]
    else .opening :: List.replicate (n - 1) .inside
  else List.replicate n .outside

/-- The pieces of one token, as the tracker reads them. -/
def BlockShape (unicode : Bool) (b : Token × List Piece) : Prop :=
  (b.1.kind = .charClass → ClassPieces unicode b.1.text b.2) ∧
    (b.1.kind ≠ .charClass → ∀ q ∈ b.2, q.category.marksClass = false)

/-- The tracker over the pieces of one token, starting outside any class. -/
theorem trackFrom_block {unicode : Bool} {b : Token × List Piece} (h : BlockShape unicode b) :
    ClassPosition.trackFrom false (b.2.map Piece.category) =
      (ClassPosition.ofToken b.1 b.2.length, b.1.isUnclosedClass) := by
  obtain ⟨t, ps⟩ := b
  by_cases hk : t.kind = .charClass
  · obtain ⟨q, interior, closing, rfl, -, hq, -, hint, hclose⟩ := h.1 hk
    have hmid := ClassPosition.trackFrom_of_marksClass
      (show ∀ c ∈ interior.map Piece.category, c.marksClass = false by simpa using hint) true
    -- the opening opens the class and the closing `]`, if any, closes it
    by_cases hc : (ClassParts.ofText t.text).closed
    · rw [if_pos hc] at hq hclose
      obtain ⟨r, rfl, hr⟩ : ∃ r, closing = [r] ∧ r.category = .classBoundary := by
        obtain ⟨r, rest, rfl, hr, hrest⟩ := List.map_eq_cons_iff.1 hclose
        obtain rfl := List.map_eq_nil_iff.1 hrest
        exact ⟨r, rfl, (Prod.mk.inj hr).2⟩
      simp [ClassPosition.trackFrom, ClassPosition.trackFrom_append, ClassPosition.step, hq, hmid,
        hr, ClassPosition.ofToken, hk, hc, Token.isUnclosedClass]
    · rw [if_neg hc] at hq hclose
      obtain rfl := List.map_eq_nil_iff.1 hclose
      simp [ClassPosition.trackFrom, ClassPosition.step, hq, hmid,
        ClassPosition.ofToken, hk, hc, Token.isUnclosedClass]
  · have := ClassPosition.trackFrom_of_marksClass
      (show ∀ c ∈ ps.map Piece.category, c.marksClass = false by simpa using h.2 hk) false
    simp [this, ClassPosition.ofToken, hk, Token.isUnclosedClass]

/-- The tracker over the pieces of a whole pattern: a class that is never closed runs to the end,
so the tracker is back outside after every other token. -/
theorem trackFrom_blocks {unicode : Bool} :
    ∀ (blocks : List (Token × List Piece)), (∀ b ∈ blocks, BlockShape unicode b) →
      (∀ pre b post, blocks = pre ++ b :: post → b.1.isUnclosedClass = true → post = []) →
      ClassPosition.trackFrom false ((blocks.map Prod.snd).flatten.map Piece.category) =
        ((blocks.map fun b => ClassPosition.ofToken b.1 b.2.length).flatten,
          blocks.any fun b => b.1.isUnclosedClass)
  | [], _, _ => rfl
  | b :: blocks, hshape, hlast => by
      have hb := trackFrom_block (hshape b List.mem_cons_self)
      simp only [List.map_cons, List.flatten_cons, List.map_append,
        ClassPosition.trackFrom_append, hb, List.any_cons]
      by_cases hu : b.1.isUnclosedClass = true
      · -- nothing follows a class that is never closed
        obtain rfl : blocks = [] := hlast [] b blocks rfl hu
        simp [ClassPosition.trackFrom, hu]
      · have hrest := trackFrom_blocks blocks (fun b' hb' => hshape b' (List.mem_cons_of_mem _ hb'))
          (fun pre b' post h hu' => hlast (b :: pre) b' post (by simp [h]) hu')
        simp only [Bool.not_eq_true] at hu
        rw [hu, hrest]
        simp

/-! ## The whole pattern -/

/-- Every member of the second of two related lists is related to a member of the first. -/
theorem exists_of_mem_of_forall₂ {α β : Type} {R : α → β → Prop} {l : List α} {l' : List β}
    (h : List.Forall₂ R l l') {b : β} (hb : b ∈ l') : ∃ a ∈ l, R a b := by
  induction h with
  | nil => cases hb
  | cons hab _ ih =>
      rcases List.mem_cons.1 hb with rfl | hb
      · exact ⟨_, List.mem_cons_self, hab⟩
      · obtain ⟨a, ha, hr⟩ := ih hb
        exact ⟨a, List.mem_cons_of_mem _ ha, hr⟩

/-- A block of pieces of a token as a classification returns it: a class token's block has the
texts and categories of the token's parts, and no piece of another token is read as a class
bracket. -/
def BlockParts (unicode : Bool) (b : Token × List Piece) : Prop :=
  (b.1.kind = .charClass →
      b.2.map (fun q => (q.text.toList, q.category)) = CharClass.parts unicode b.1.text) ∧
    (b.1.kind ≠ .charClass → ∀ q ∈ b.2, q.category.marksClass = false)

/-- A block of pieces of a token, as `finish` leaves it, is its parts. -/
theorem blockParts_of_finished {unicode : Bool} {b b' : Token × List Piece}
    (hok : Classifier.BlockOK unicode b)
    (hrel : b'.1 = b.1 ∧ List.Forall₂ Piece.Finished b.2 b'.2) : BlockParts unicode b' := by
  obtain ⟨t', ps'⟩ := b'
  obtain ⟨rfl, hrel⟩ := hrel
  refine ⟨fun hk => ?_, fun hk q' hq' => ?_⟩
  · -- a class gives no group boundary, so `finish` leaves its pieces alone
    have hsame : ps' = b.2 := eq_of_forall₂_finished hrel fun q hq d hd => by
      have := hok.1 q hq
      rw [hk, hd] at this
      simp [TokenKind.allows] at this
    rw [hsame]
    exact hok.2 hk
  · obtain ⟨q, hq, hfin⟩ := exists_of_mem_of_forall₂ hrel hq'
    rcases hfin with rfl | ⟨d, -, rfl⟩
    · exact TokenKind.marksClass_eq_false hk (hok.1 _ hq)
    · rfl

/-- The parts of a token whose class extent is known have the shape the tracker reads. -/
theorem BlockParts.blockShape {unicode : Bool} {b : Token × List Piece} (h : BlockParts unicode b)
    (hext : b.1.kind = .charClass → ∃ post, ClassExtent b.1.text post) : BlockShape unicode b := by
  refine ⟨fun hk => ?_, h.2⟩
  obtain ⟨post, hpost⟩ := hext hk
  exact classPieces_of_parts hpost (h.1 hk)

/-- The pieces of a classification fall into one block per token of the pattern, in order, and
each block is the parts of its token. -/
theorem classify_blocks (pattern : String) (mode : Mode) (hm : mode.unicodeSets = false) :
    ∃ blocks : List (Token × List Piece),
      blocks.map Prod.fst = tokenize mode.unicodeAware pattern.toList ∧
      classify pattern mode = .ok (blocks.map Prod.snd).flatten ∧
      ∀ b ∈ blocks, BlockParts mode.unicodeAware b := by
  -- the blocks of the run, before `finish`
  have hts : ∀ t ∈ tokenize mode.unicodeAware pattern.toList, t.text ≠ [] :=
    fun _ ht => text_ne_nil_of_mem_tokenize ht
  obtain ⟨blocks, hfst, hrun, hok⟩ := Classifier.blocks_run (Setting.ofPattern mode pattern) hts
    ⟨[], [], #[], #[.started pattern mode.flags (Setting.ofPattern mode pattern).captures.total]⟩
    .start 0
  have hpre : (Classifier.ofPattern mode pattern).pieces.toList = (blocks.map Prod.snd).flatten := by
    simp only [List.nil_append] at hrun
    exact hrun
  -- the same blocks after `finish`
  have hfin := Classifier.forall₂_finish mode pattern
  rw [hpre] at hfin
  obtain ⟨blocks', hfst', hflat, hrel⟩ := exists_blocks_of_forall₂ blocks hfin
  refine ⟨blocks', hfst'.trans hfst, ?_, fun b' hb' => ?_⟩
  · rw [classify_eq hm, hflat]
  · obtain ⟨b, hb, hbb'⟩ := exists_of_mem_of_forall₂ hrel hb'
    exact blockParts_of_finished (hok b hb) hbb'

/-- Nothing follows a class token that is never closed. -/
theorem eq_nil_of_isUnclosedClass {unicode : Bool} {cs : List Char} {pre post : List Token}
    {t : Token} (h : tokenize unicode cs = pre ++ t :: post) (hu : t.isUnclosedClass = true) :
    post = [] := by
  simp only [Token.isUnclosedClass, Bool.and_eq_true, decide_eq_true_eq, Bool.not_eq_true'] at hu
  obtain ⟨-, -, ⟨hc, -⟩ | ⟨-, -, hpost⟩⟩ := tokenize_class_extent h hu.1
  · simp [ClassParts.closed, hc] at hu
  · exact hpost

/-- Each class token of a pattern opens its class at its first piece, closes it at its `]` if it
has one and holds its other pieces inside, and every other piece lies outside a class. More
fully: every class token ends just after the first `]` that follows its opening `[` or `[^` and
no `\` takes, or else at the end of the pattern (`ClassExtent`), and the cut of the token into
parts finds that same `]`. The pieces of a classification fall into one block per top-level
token, in order; a class token's block is its opening (a class boundary when the class is closed
and an `unclosedClass` error otherwise), its interior pieces and, exactly when the class is
closed, its `]` as a class boundary (`ClassPieces`); no piece of another token is read as a class
bracket. So the tracker that follows the categories alone gives the positions `ClassPosition.ofToken`
names, block by block, and ends inside a class exactly when the pattern has a class that is never
closed. -/
theorem classify_tracks_classes (pattern : String) (mode : Mode) (hm : mode.unicodeSets = false) :
    (∀ pre t post, tokenize mode.unicodeAware pattern.toList = pre ++ t :: post →
      t.kind = .charClass → ClassExtent t.text post) ∧
    ∃ pieces, classify pattern mode = .ok pieces ∧
      ∃ blocks : List (Token × List Piece),
        blocks.map Prod.fst = tokenize mode.unicodeAware pattern.toList ∧
        (blocks.map Prod.snd).flatten = pieces ∧
        (∀ b ∈ blocks, BlockShape mode.unicodeAware b) ∧
        ClassPosition.track (pieces.map Piece.category) =
          ((blocks.map fun b => ClassPosition.ofToken b.1 b.2.length).flatten,
            (tokenize mode.unicodeAware pattern.toList).any Token.isUnclosedClass) := by
  set tokens := tokenize mode.unicodeAware pattern.toList with htokens
  have hextent : ∀ pre t post, tokens = pre ++ t :: post → t.kind = .charClass →
      ClassExtent t.text post := fun _ _ _ h hk => tokenize_class_extent h hk
  obtain ⟨blocks, hfst, hclassify, hparts⟩ := classify_blocks pattern mode hm
  rw [← htokens] at hfst
  have hshape : ∀ b ∈ blocks, BlockShape mode.unicodeAware b := fun b hb =>
    (hparts b hb).blockShape fun hk => by
      obtain ⟨pre, post, hsplit⟩ :=
        List.append_of_mem (List.mem_map.2 ⟨b, hb, rfl⟩ : b.1 ∈ blocks.map Prod.fst)
      exact ⟨post, hextent pre b.1 post (hfst ▸ hsplit) hk⟩
  have hlast : ∀ pre b post, blocks = pre ++ b :: post → b.1.isUnclosedClass = true → post = [] := by
    intro pre b post h hu
    have hsplit : tokens = pre.map Prod.fst ++ b.1 :: post.map Prod.fst := by
      rw [← hfst, h]
      simp
    simpa using eq_nil_of_isUnclosedClass hsplit hu
  refine ⟨hextent, _, hclassify, blocks, hfst, rfl, hshape, ?_⟩
  rw [ClassPosition.track_eq, trackFrom_blocks blocks hshape hlast, ← hfst, List.any_map]
  rfl

theorem classify_tracks_classes_sample :
    ({} : Mode).unicodeSets = false ∧
    ((∀ pre t post, tokenize ({} : Mode).unicodeAware "[^]a(b)[\\]".toList = pre ++ t :: post →
      t.kind = .charClass → ClassExtent t.text post) ∧
    ∃ pieces, classify "[^]a(b)[\\]" {} = .ok pieces ∧
      ∃ blocks : List (Token × List Piece),
        blocks.map Prod.fst = tokenize ({} : Mode).unicodeAware "[^]a(b)[\\]".toList ∧
        (blocks.map Prod.snd).flatten = pieces ∧
        (∀ b ∈ blocks, BlockShape ({} : Mode).unicodeAware b) ∧
        ClassPosition.track (pieces.map Piece.category) =
          ((blocks.map fun b => ClassPosition.ofToken b.1 b.2.length).flatten,
            (tokenize ({} : Mode).unicodeAware "[^]a(b)[\\]".toList).any Token.isUnclosedClass)) :=
  ⟨rfl, classify_tracks_classes "[^]a(b)[\\]" {} rfl⟩

end RegexHighlight
