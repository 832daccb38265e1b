import RegexHighlight.Proofs.Markup
import RegexHighlight.Proofs.ClassTracking
import RegexHighlight.Proofs.Depths
import RegexHighlight.Proofs.Coverage

/-!
# The markup of a classified pattern

`render` writes a classified pattern as HTML. Here it is read as items of the markup language of
`Proofs/Markup`: `renderItems` gives the items of the markup, and `render_toList` shows that the
markup is their printed form. Each piece is written as its text, with `&` and `<` as entities,
inside the tag its category asks for (`openingOf`); a class is wrapped in `<i>` from its opening
piece to its closing one, or to the end when it is never closed; and line breaks become `<br>`.

For a classified pattern the items are valid: style depths lie in 1 to 5 and no diagnostic
message holds a character that markup would read. Every tag other than `<i>` is closed right
after the text of one piece, the `<i>` and `</i>` tags alternate, starting with `<i>` and ending
with `</i>`, and the markup read back as text is the pattern with zero or more of the carriage
returns of its `\r\n` pairs dropped (`render_markup`).
-/

namespace RegexHighlight

/-- No diagnostic message holds `<`, `>`, `&`, `"` or a line break. -/
theorem Diagnostic.message_titleChars (d : Diagnostic) :
    d.message.toList.all Html.titleChar = true := by
  cases d <;> rfl

/-- The style depths markup allows: 1 to 5 for a group boundary, and at most 5 for a quantifier or
an alternator. -/
def Category.StyleDepthOK (c : Category) : Prop :=
  ∀ d, (c = .group d → 1 ≤ d ∧ d ≤ 5) ∧ (c = .quantifier d → d ≤ 5) ∧ (c = .alternator d → d ≤ 5)

theorem ClassPosition.length_trackFrom (isOpen : Bool) (cs : List Category) :
    (trackFrom isOpen cs).1.length = cs.length := by
  induction cs generalizing isOpen with
  | nil => rfl
  | cons c cs ih => simp [trackFrom, ih]

theorem ClassPosition.length_track (cs : List Category) : (track cs).1.length = cs.length := by
  rw [track_eq, length_trackFrom]

/-! ## What a classification gives the renderer -/

theorem unicodeSets_of_classify {pattern : String} {mode : Mode} {pieces : List Piece}
    (h : classify pattern mode = .ok pieces) : mode.unicodeSets = false := by
  cases hv : mode.unicodeSets with
  | false => rfl
  | true => simp [classify, hv] at h

/-- Every piece of a classification carries a style depth that markup allows. -/
theorem styleDepthOK_of_classify {pattern : String} {mode : Mode} {pieces : List Piece}
    (h : classify pattern mode = .ok pieces) : ∀ q ∈ pieces, q.category.StyleDepthOK := by
  obtain ⟨blocks, hfst, hclassify, hread⟩ := classify_reads pattern mode (unicodeSets_of_classify h)
  obtain rfl : pieces = (blocks.map Prod.snd).flatten := by
    rw [hclassify] at h
    exact (Except.ok.inj h).symm
  intro q hq d
  obtain ⟨qs, hqs, hq⟩ := List.mem_flatten.1 hq
  obtain ⟨b, hb, rfl⟩ := List.mem_map.1 hqs
  obtain ⟨pre, post, hsplit⟩ := List.append_of_mem hb
  obtain ⟨s, pos, new, hs, hnew, hfin⟩ := hread pre b post hsplit
  have ht : b.1.text ≠ [] := text_ne_nil_of_mem_tokenize (t := b.1) (by
    rw [← hfst, hsplit]
    simp)
  obtain ⟨q₀, hq₀, hfq⟩ := exists_of_mem_of_forall₂ hfin hq
  -- `finish` only reports a group boundary as never closed, and an error carries no depth
  rcases hfq with rfl | ⟨d', -, rfl⟩
  · exact (Classifier.depthRule_step _ hs ht hnew _ hq₀).bounds d
  · simp [Piece.markUnclosed]

/-- The pieces of a classification lay out the pattern from byte 0. -/
theorem laysOut_of_classify {pattern : String} {mode : Mode} {pieces : List Piece}
    (h : classify pattern mode = .ok pieces) : Piece.LaysOut 0 pattern.toList pieces := by
  have hpieces :
      classify pattern mode = .ok (Classifier.ofPattern mode pattern).finish.pieces.toList :=
    classify_eq (unicodeSets_of_classify h)
  rw [h] at hpieces
  rw [Except.ok.inj hpieces]
  exact laysOut_ofPattern mode pattern

/-- The pieces of a classification, one block per token: each block has the shape the class
tracker reads, and nothing follows a class that is never closed. -/
theorem classify_class_blocks {pattern : String} {mode : Mode} {pieces : List Piece}
    (h : classify pattern mode = .ok pieces) :
    ∃ blocks : List (Token × List Piece), pieces = (blocks.map Prod.snd).flatten ∧
      (∀ b ∈ blocks, BlockShape mode.unicodeAware b) ∧
      ∀ pre b post, blocks = pre ++ b :: post → b.1.isUnclosedClass = true → post = [] := by
  obtain ⟨blocks, hfst, hclassify, hparts⟩ :=
    classify_blocks pattern mode (unicodeSets_of_classify h)
  refine ⟨blocks, (Except.ok.inj (h.symm.trans hclassify)), fun b hb => ?_,
    fun pre b post hb hu => ?_⟩
  · refine (hparts b hb).blockShape fun hk => ?_
    obtain ⟨pre, post, hsplit⟩ :=
      List.append_of_mem (List.mem_map.2 ⟨b, hb, rfl⟩ : b.1 ∈ blocks.map Prod.fst)
    exact ⟨post, tokenize_class_extent (hfst ▸ hsplit) hk⟩
  · have hsplit : tokenize mode.unicodeAware pattern.toList =
        pre.map Prod.fst ++ b.1 :: post.map Prod.fst := by
      rw [← hfst, hb]
      simp
    simpa using eq_nil_of_isUnclosedClass hsplit hu

namespace Html

/-! ## The items of the markup -/

/-- How a character of a piece's text is written: `&` and `<` as entities, any other as itself. -/
def Item.ofChar : Char → Item
  | '&' => .amp
  | '<' => .lt
  | c => .char c

/-- The items a piece's text is written as, before line breaks are written. -/
def textItems (s : String) : List Item := s.toList.map Item.ofChar

/-- The opening tag a category is wrapped in, or `none` for plain text. -/
def openingOf : Category → Option Opening
  | .literal | .classBody => none
  | .escapedLiteral | .classBoundary => some (.plain .span)
  | .metasequence | .quantifier 0 | .alternator 0 => some (.plain .b)
  | .group d | .quantifier d | .alternator d => some (.group d)
  | .backreference => some .bref
  | .rangeHyphen => some (.plain .u)
  | .error diag => some (.err (attributeValue diag.message))

/-- The items of one piece: its text, inside the tag its category asks for. -/
def pieceItems (p : Piece) : List Item :=
  match openingOf p.category with
  | none => textItems p.text
  | some o => .opening o :: (textItems p.text ++ [.closing o.element])

/-- The items of one piece at its place among the classes: `<i>` before the opening of a class
and `</i>` after its closing. -/
def placedItems (p : Piece) (pos : ClassPosition) : List Item :=
  (if pos = .opening then [.opening (.plain .i)] else []) ++ pieceItems p ++
    (if pos = .closing then [.closing .i] else [])

/-- The items of a classified pattern before its line breaks are written: each piece at its
place, and a last `</i>` when a class is never closed. -/
def bodyItems (pieces : List Piece) : List Item :=
  ((pieces.zip (ClassPosition.track (pieces.map Piece.category)).1).flatMap fun pp =>
      placedItems pp.1 pp.2) ++
    if (ClassPosition.track (pieces.map Piece.category)).2 then [.closing .i] else []

/-- The items of the markup of a classified pattern. -/
def renderItems (pieces : List Piece) : List Item := breakItems (bodyItems pieces)

/-! ## The markup is printed items -/

theorem Item.ofChar_cases (c : Char) :
    ofChar c = .amp ∧ c = '&' ∨ ofChar c = .lt ∧ c = '<' ∨
      ofChar c = .char c ∧ c ≠ '<' ∧ c ≠ '&' := by
  by_cases hamp : c = '&'
  · subst hamp
    exact .inl ⟨rfl, rfl⟩
  by_cases hlt : c = '<'
  · subst hlt
    exact .inr (.inl ⟨rfl, rfl⟩)
  exact .inr (.inr ⟨ofChar.eq_3 c hamp hlt, hlt, hamp⟩)

theorem Item.text_ofChar (c : Char) : (ofChar c).text = escapeChar c := by
  rcases ofChar_cases c with ⟨h, rfl⟩ | ⟨h, rfl⟩ | ⟨h, hlt, hamp⟩ <;> rw [h]
  · rfl
  · rfl
  · rw [escapeChar.eq_3 c hamp hlt]
    rfl

theorem escape_toList (s : String) : (escape s).toList = print (textItems s) := by
  simp only [escape, textItems, print, String.toList_ofList, List.flatMap_map, Item.text_ofChar]

theorem tagOf_eq (c : Category) :
    tagOf c = (openingOf c).map fun o => (o.element.name, o.attributes) := by
  cases c with
  | quantifier d | alternator d => cases d <;> rfl
  | _ => rfl

theorem pieceMarkup_toList (p : Piece) : (pieceMarkup p).toList = print (pieceItems p) := by
  unfold pieceMarkup pieceItems
  rw [tagOf_eq]
  cases openingOf p.category with
  | none => exact escape_toList p.text
  | some o =>
      simp only [Option.map_some, String.toList_append, escape_toList, print_cons, print_append,
        Item.text_opening, Item.text_closing, print_nil, List.append_nil, List.append_assoc,
        List.cons_append]
      rfl

theorem print_flatMap {α : Type} (f : α → List Item) (l : List α) :
    print (l.flatMap f) = l.flatMap fun a => print (f a) := by
  simp only [print, List.flatMap_assoc]

theorem placedMarkup_toList (p : Piece) (pos : ClassPosition) :
    ((if pos = .opening then "<i>" else "") ++ pieceMarkup p ++
      (if pos = .closing then "</i>" else "")).toList = print (placedItems p pos) := by
  have hi : "<i>".toList = print [.opening (.plain .i)] := rfl
  have hc : "</i>".toList = print [.closing .i] := rfl
  cases pos <;> simp [placedItems, pieceMarkup_toList, hi, hc]

/-- The markup of a classified pattern is its items, printed. -/
theorem render_toList {pieces : List Piece} (hv : ∀ x ∈ bodyItems pieces, x.Valid) :
    (render pieces).toList = print (renderItems pieces) := by
  rw [renderItems, ← breakLines_print hv, render]
  unfold bodyItems
  generalize ClassPosition.track (pieces.map Piece.category) = T
  obtain ⟨positions, inside⟩ := T
  simp only [String.toList_ofList]
  congr 1
  have hi : "</i>".toList = print [.closing .i] := rfl
  cases inside
  · rw [if_neg Bool.false_ne_true, if_neg Bool.false_ne_true, List.append_nil]
    simp only [String.toList_join, List.flatMap_map, print_flatMap, placedMarkup_toList]
  · rw [if_pos rfl, if_pos rfl, String.toList_append, print_append, hi]
    simp only [String.toList_join, List.flatMap_map, print_flatMap, placedMarkup_toList]

/-! ## The items are valid -/

theorem Item.valid_ofChar (c : Char) : (ofChar c).Valid := by
  rcases ofChar_cases c with ⟨h, -⟩ | ⟨h, -⟩ | ⟨h, hlt, hamp⟩ <;> rw [h]
  · trivial
  · trivial
  · exact ⟨hlt, hamp⟩

theorem Item.isText_ofChar (c : Char) : (ofChar c).IsText := by
  rcases ofChar_cases c with ⟨h, -⟩ | ⟨h, -⟩ | ⟨h, -⟩ <;> rw [h] <;> trivial

theorem Item.decode_ofChar (c : Char) : (ofChar c).decode = [c] := by
  rcases ofChar_cases c with ⟨h, rfl⟩ | ⟨h, rfl⟩ | ⟨h, -⟩ <;> rw [h] <;> rfl

/-- A text without `<`, `&` and `"` is its own attribute value. -/
theorem attributeValue_of_titleChars {s : String} (hs : s.toList.all titleChar = true) :
    attributeValue s = s := by
  rw [← String.toList_inj]
  simp only [attributeValue, escape, String.toList_ofList]
  have hs' := List.all_eq_true.1 hs
  generalize s.toList = l at hs' ⊢
  induction l with
  | nil => rfl
  | cons c l ih =>
      have hc := hs' c List.mem_cons_self
      simp only [titleChar, Bool.and_eq_true, tagChar_eq_true, bne_iff_ne, ne_eq] at hc
      obtain ⟨⟨hlt, -, hamp, -, -⟩, hq⟩ := hc
      rw [List.flatMap_cons, escapeChar.eq_3 c hamp hlt, List.singleton_append, List.flatMap_cons,
        if_neg hq, List.singleton_append, ih fun d hd => hs' d (List.mem_cons_of_mem _ hd)]

theorem valid_openingOf {c : Category} (hc : c.StyleDepthOK) :
    ∀ o ∈ openingOf c, (Item.opening o).Valid := by
  intro o ho
  cases c with
  | group d =>
      cases ho
      exact (hc d).1 rfl
  | quantifier d | alternator d =>
      cases d with
      | zero =>
          cases ho
          trivial
      | succ n =>
          cases ho
          first
            | exact ⟨by omega, (hc (n + 1)).2.1 rfl⟩
            | exact ⟨by omega, (hc (n + 1)).2.2 rfl⟩
  | error diag =>
      cases ho
      show (attributeValue diag.message).toList.all titleChar = true
      rw [attributeValue_of_titleChars diag.message_titleChars]
      exact diag.message_titleChars
  | _ => cases ho <;> trivial

theorem valid_pieceItems {p : Piece} (hp : p.category.StyleDepthOK) :
    ∀ x ∈ pieceItems p, x.Valid := by
  have htext : ∀ x ∈ textItems p.text, x.Valid := by
    intro x hx
    obtain ⟨c, -, rfl⟩ := List.mem_map.1 hx
    exact Item.valid_ofChar c
  unfold pieceItems
  cases ho : openingOf p.category with
  | none => exact htext
  | some o =>
      rintro x (_ | ⟨_, hx⟩)
      · exact valid_openingOf hp o ho
      · rcases List.mem_append.1 hx with hx | hx
        · exact htext x hx
        · rw [List.mem_singleton.1 hx]
          trivial

/-- An item of the body is `<i>`, `</i>` or an item of one of the pieces. -/
theorem mem_bodyItems {pieces : List Piece} {x : Item} (hx : x ∈ bodyItems pieces) :
    x = .opening (.plain .i) ∨ x = .closing .i ∨ ∃ q ∈ pieces, x ∈ pieceItems q := by
  unfold bodyItems at hx
  rcases List.mem_append.1 hx with hx | hx
  · obtain ⟨⟨q, pos⟩, hmem, hx⟩ := List.mem_flatMap.1 hx
    simp only [placedItems, List.mem_append] at hx
    rcases hx with (hx | hx) | hx
    · split at hx <;> simp_all
    · exact .inr (.inr ⟨q, (List.of_mem_zip hmem).1, hx⟩)
    · split at hx <;> simp_all
  · split at hx <;> simp_all

theorem valid_bodyItems {pieces : List Piece} (hp : ∀ q ∈ pieces, q.category.StyleDepthOK) :
    ∀ x ∈ bodyItems pieces, x.Valid := by
  intro x hx
  rcases mem_bodyItems hx with rfl | rfl | ⟨q, hq, hx⟩
  · trivial
  · trivial
  · exact valid_pieceItems (hp q hq) x hx

/-! ## What the markup stands for -/

theorem decode_flatMap {α : Type} (f : α → List Item) (l : List α) :
    decode (l.flatMap f) = l.flatMap fun a => decode (f a) := by
  simp only [decode, List.flatMap_assoc]

theorem decode_textItems (s : String) : decode (textItems s) = s.toList := by
  simp [decode, textItems, List.flatMap_map, Item.decode_ofChar]

theorem decode_pieceItems (p : Piece) : decode (pieceItems p) = p.text.toList := by
  unfold pieceItems
  cases openingOf p.category with
  | none => exact decode_textItems p.text
  | some o => simp [decode_textItems, Item.decode]

theorem decode_placedItems (p : Piece) (pos : ClassPosition) :
    decode (placedItems p pos) = p.text.toList := by
  cases pos <;> simp [placedItems, decode_pieceItems, Item.decode]

/-- The body stands for the texts of the pieces, one after another: the tags around them stand
for nothing. -/
theorem decode_bodyItems (pieces : List Piece) :
    decode (bodyItems pieces) = (pieces.map fun q => q.text.toList).flatten := by
  have hlen : pieces.length ≤ (ClassPosition.track (pieces.map Piece.category)).1.length := by
    simp [ClassPosition.length_track]
  have htail : decode (if (ClassPosition.track (pieces.map Piece.category)).2 then [.closing .i]
      else []) = [] := by
    split <;> rfl
  unfold bodyItems
  rw [decode_append, htail, List.append_nil, decode_flatMap]
  simp only [decode_placedItems]
  -- the positions run as long as the pieces, so the zip keeps every piece
  have hzip := List.flatMap_map Prod.fst (fun q : Piece => q.text.toList)
    (pieces.zip (ClassPosition.track (pieces.map Piece.category)).1)
  rw [List.map_fst_zip hlen] at hzip
  rw [← List.flatMap_def, hzip]

/-! ## Tags closed after one piece's text -/

theorem isText_of_mem_textItems {s : String} {x : Item} (hx : x ∈ textItems s) : x.IsText := by
  obtain ⟨c, -, rfl⟩ := List.mem_map.1 hx
  exact Item.isText_ofChar c

/-- No category is written in `<i>`: that element marks the classes. -/
theorem element_openingOf {c : Category} : ∀ o ∈ openingOf c, o.element ≠ .i := by
  intro o ho
  cases c with
  | quantifier d | alternator d =>
      cases d <;> cases ho <;> exact fun h => by cases h
  | _ => cases ho <;> exact fun h => by cases h

theorem closesAfter_pieceItems (p : Piece) :
    ClosesAfter (fun ts => ts = textItems p.text) (pieceItems p) := by
  unfold pieceItems
  cases openingOf p.category with
  | none =>
      exact closesAfter_of_forall fun x hx o ho =>
        absurd (isText_of_mem_textItems hx) (by rw [ho]; exact id)
  | some o => exact closesAfter_tagged (fun x hx => isText_of_mem_textItems hx) rfl

theorem closesAfter_placedItems (p : Piece) (pos : ClassPosition) :
    ClosesAfter (fun ts => ts = textItems p.text) (placedItems p pos) := by
  have hi : ∀ (l : List Item), (∀ x ∈ l, x = .opening (.plain .i) ∨ x = .closing .i) →
      ClosesAfter (fun ts => ts = textItems p.text) l := fun l hl =>
    closesAfter_of_forall fun x hx o ho => by
      rcases hl x hx with rfl | rfl <;> cases ho
      rfl
  refine ((hi _ ?_).append (closesAfter_pieceItems p)).append (hi _ ?_) <;>
    · intro x hx
      split at hx <;> simp_all

/-- Every tag of the body other than `<i>` is closed right after the text of one piece. -/
theorem closesAfter_bodyItems (pieces : List Piece) :
    ClosesAfter (fun ts => ∃ q ∈ pieces, ts = textItems q.text) (bodyItems pieces) := by
  unfold bodyItems
  refine ClosesAfter.append ?_ (closesAfter_of_forall fun x hx o ho => ?_)
  · rw [List.flatMap_def]
    refine ClosesAfter.flatten fun l hl => ?_
    obtain ⟨⟨q, pos⟩, hmem, rfl⟩ := List.mem_map.1 hl
    exact (closesAfter_placedItems q pos).mono fun ts hts => ⟨q, (List.of_mem_zip hmem).1, hts⟩
  · split at hx <;> simp_all

/-! ## Classes in italics -/

/-- The italic tags written around a piece at a position among the classes: `<i>` (`true`)
before the opening of a class and `</i>` (`false`) after its closing. -/
def italicsAt : ClassPosition → List Bool
  | .opening => [true]
  | .closing => [false]
  | .outside | .inside => []

theorem filterMap_italic_pieceItems (p : Piece) : (pieceItems p).filterMap Item.italic = [] := by
  have htext : (textItems p.text).filterMap Item.italic = [] := by
    refine List.filterMap_eq_nil_iff.2 fun x hx => ?_
    cases x with
    | char _ | lt | amp => rfl
    | br | opening _ | closing _ => exact absurd (isText_of_mem_textItems hx) id
  unfold pieceItems
  cases ho : openingOf p.category with
  | none => exact htext
  | some o =>
      have he := element_openingOf o ho
      have hopen : (Item.opening o).italic = none := by
        cases o with
        | plain e => cases e <;> first | rfl | exact absurd rfl he
        | _ => rfl
      have hclose : (Item.closing o.element).italic = none := by
        cases h : o.element <;> first | rfl | exact absurd h he
      simp [hopen, hclose, htext]

theorem filterMap_italic_placedItems (p : Piece) (pos : ClassPosition) :
    (placedItems p pos).filterMap Item.italic = italicsAt pos := by
  cases pos <;> simp [placedItems, italicsAt, filterMap_italic_pieceItems, Item.italic]

/-- The italic tags of the body are those of the positions the tracker gives, and a last `</i>`
when a class is left open. -/
theorem filterMap_italic_bodyItems (pieces : List Piece) :
    (bodyItems pieces).filterMap Item.italic =
      (ClassPosition.track (pieces.map Piece.category)).1.flatMap italicsAt ++
        if (ClassPosition.track (pieces.map Piece.category)).2 then [false] else [] := by
  have hlen : (ClassPosition.track (pieces.map Piece.category)).1.length ≤ pieces.length := by
    simp [ClassPosition.length_track]
  have hzip := List.flatMap_map Prod.snd italicsAt
    (pieces.zip (ClassPosition.track (pieces.map Piece.category)).1)
  rw [List.map_snd_zip hlen] at hzip
  unfold bodyItems
  rw [List.filterMap_append, List.filterMap_flatMap]
  simp only [filterMap_italic_placedItems]
  rw [hzip]
  split <;> rfl

theorem italics_ofToken (t : Token) (n : Nat) :
    (ClassPosition.ofToken t n).flatMap italicsAt =
      if t.kind = .charClass then
        (if (ClassParts.ofText t.text).closed then [true, false] else [true])
      else [] := by
  unfold ClassPosition.ofToken
  split_ifs <;> simp [List.flatMap_replicate, italicsAt]

/-- Over blocks in which nothing follows a class that is never closed, the italic tags alternate:
each class is one `<i>` and one `</i>`, the last one's `</i>` written at the end when it is never
closed. -/
theorem italics_blocks : ∀ (blocks : List (Token × List Piece)),
    (∀ pre b post, blocks = pre ++ b :: post → b.1.isUnclosedClass = true → post = []) →
    ∃ n, (blocks.map fun b => ClassPosition.ofToken b.1 b.2.length).flatten.flatMap italicsAt ++
        (if blocks.any fun b => b.1.isUnclosedClass then [false] else []) =
      (List.replicate n [true, false]).flatten
  | [], _ => ⟨0, rfl⟩
  | b :: blocks, hlast => by
      simp only [List.map_cons, List.flatten_cons, List.flatMap_append, italics_ofToken,
        List.any_cons]
      by_cases hu : b.1.isUnclosedClass = true
      · -- a class that is never closed comes last
        obtain rfl : blocks = [] := hlast [] b blocks rfl hu
        simp only [Token.isUnclosedClass, Bool.and_eq_true, decide_eq_true_eq,
          Bool.not_eq_true'] at hu
        exact ⟨1, by simp [hu.1, hu.2, Token.isUnclosedClass]⟩
      · obtain ⟨n, hn⟩ := italics_blocks blocks fun pre b' post h hu' =>
          hlast (b :: pre) b' post (by simp [h]) hu'
        simp only [Bool.not_eq_true] at hu
        simp only [hu, Bool.false_or]
        rw [List.append_assoc, hn]
        by_cases hk : b.1.kind = .charClass
        · have hc : (ClassParts.ofText b.1.text).closed = true := by
            simpa [Token.isUnclosedClass, hk] using hu
          exact ⟨n + 1, by simp [hk, hc, List.replicate_succ]⟩
        · exact ⟨n, by simp [hk]⟩

/-- In the markup of a classification the italic tags alternate, `<i>` first and `</i>` last. -/
theorem italics_of_classify {pattern : String} {mode : Mode} {pieces : List Piece}
    (h : classify pattern mode = .ok pieces) :
    ∃ n, (renderItems pieces).filterMap Item.italic = (List.replicate n [true, false]).flatten := by
  obtain ⟨blocks, rfl, hshape, hlast⟩ := classify_class_blocks h
  rw [renderItems, filterMap_italic_breakItems, filterMap_italic_bodyItems, ClassPosition.track_eq,
    trackFrom_blocks blocks hshape hlast]
  exact italics_blocks blocks hlast

/-! ## The markup of a classified pattern -/

/-- The markup of a classified pattern is well formed and reads back as the pattern. It is the
printed form of valid items, so every tag in it is `<i>`, `</i>`, `<br>`, `<span>`, `</span>`,
`<u>`, `</u>`, `<b>`, `<b class="gN">` with `N` from 1 to 5, `<b class="bref">`,
`<b class="err" title="…">` or `</b>`; every `<` begins such a tag and every `&` begins `&lt;`
or `&amp;`. Every tag other than `<i>` is closed by its element's closing tag right after the text
of one piece, with the line breaks of that text written as `<br>`. The `<i>` and `</i>` tags
alternate, `<i>` first and `</i>` last. Read back as text (`<br>` as a line feed, other tags
deleted, entities decoded), the markup is the pattern with zero or more of the carriage returns
that directly precede a line feed dropped, and exactly the pattern when it holds no carriage
return. -/
theorem render_markup_well_formed (pattern : String) (mode : Mode) (hm : mode.unicodeSets = false) :
    ∃ pieces, classify pattern mode = .ok pieces ∧
      ∃ items : List Item, (render pieces).toList = print items ∧ (∀ x ∈ items, x.Valid) ∧
        (∀ pre post, (render pieces).toList = pre ++ '<' :: post →
          ∃ x : Item, x.IsTag ∧ x.Valid ∧ List.IsPrefix x.text ('<' :: post)) ∧
        (∀ pre post, (render pieces).toList = pre ++ '&' :: post →
          List.IsPrefix "&lt;".toList ('&' :: post) ∨ List.IsPrefix "&amp;".toList ('&' :: post)) ∧
        ClosesAfter (fun ts => ∃ q ∈ pieces, ts = breakItems (textItems q.text)) items ∧
        (∃ n, items.filterMap Item.italic = (List.replicate n [true, false]).flatten) ∧
        DropsCRs pattern.toList (unmark (render pieces).toList) ∧
        ('\r' ∉ pattern.toList → unmark (render pieces).toList = pattern.toList) := by
  obtain ⟨pieces, h⟩ : ∃ pieces, classify pattern mode = .ok pieces := ⟨_, classify_eq hm⟩
  have hbody : ∀ x ∈ bodyItems pieces, x.Valid := valid_bodyItems (styleDepthOK_of_classify h)
  have hvalid : ∀ x ∈ renderItems pieces, x.Valid := valid_breakItems hbody
  have hprint : (render pieces).toList = print (renderItems pieces) := render_toList hbody
  -- the markup reads back as what its items stand for: the texts of the pieces, less the
  -- carriage returns the line-break pass drops
  have hread : DropsCRs pattern.toList (unmark (render pieces).toList) := by
    rw [hprint, unmark_print hvalid, (laysOut_of_classify h).eq_flatten, ← decode_bodyItems]
    exact decode_breakItems _
  refine ⟨pieces, h, renderItems pieces, hprint, hvalid, fun pre post hlt => ?_,
    fun pre post hamp => ?_, ?_, italics_of_classify h, hread, hread.eq_of_not_mem⟩
  · exact begins_tag_of_print hvalid (hprint ▸ hlt)
  · exact begins_entity_of_print hvalid (hprint ▸ hamp)
  · exact (closesAfter_bodyItems pieces).breakItems.mono
      fun ts ⟨ts₀, ⟨q, hq, hts₀⟩, hts⟩ => ⟨q, hq, hts₀ ▸ hts⟩

theorem render_markup_well_formed_sample :
    ({} : Mode).unicodeSets = false ∧
    ∃ pieces, classify "(a)[<\r\n&" {} = .ok pieces ∧
      ∃ items : List Item, (render pieces).toList = print items ∧ (∀ x ∈ items, x.Valid) ∧
        (∀ pre post, (render pieces).toList = pre ++ '<' :: post →
          ∃ x : Item, x.IsTag ∧ x.Valid ∧ List.IsPrefix x.text ('<' :: post)) ∧
        (∀ pre post, (render pieces).toList = pre ++ '&' :: post →
          List.IsPrefix "&lt;".toList ('&' :: post) ∨ List.IsPrefix "&amp;".toList ('&' :: post)) ∧
        ClosesAfter (fun ts => ∃ q ∈ pieces, ts = breakItems (textItems q.text)) items ∧
        (∃ n, items.filterMap Item.italic = (List.replicate n [true, false]).flatten) ∧
        DropsCRs "(a)[<\r\n&".toList (unmark (render pieces).toList) ∧
        ('\r' ∉ "(a)[<\r\n&".toList →
          unmark (render pieces).toList = "(a)[<\r\n&".toList) :=
  ⟨rfl, render_markup_well_formed "(a)[<\r\n&" {} rfl⟩

end Html

end RegexHighlight
