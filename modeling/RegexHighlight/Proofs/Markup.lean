import RegexHighlight.Render.Html

/-!
# The markup language of the HTML renderer

The renderer's output is read as a sequence of items: plain characters, the entities `&lt;` and
`&amp;`, the line break `<br>`, and the opening and closing tags of the elements `i`, `span`, `u`
and `b`, where `<b>` may carry a group class, the backreference class or an error class with a
title. `Item.text` writes an item and `print` a sequence of them; `decode` is what markup stands
for, with each `<br>` read as a line feed and the other tags removed.

In a sequence of valid items every `<` begins a tag and every `&` an entity
(`begins_tag_of_print`, `begins_entity_of_print`), and `unmark`, which reads markup back as text
by deleting tags, reads it back as what its items stand for (`unmark_print`). The renderer's
last pass writes line breaks as `<br>`. `breakItems` is that pass on items: it commutes with
printing (`breakLines_print`),
leaves the tags where they are, and changes what the markup stands for only by dropping
carriage returns that directly precede a line feed (`decode_breakItems`).
-/

namespace RegexHighlight.Html

/-! ## Items -/

/-- The elements of the markup. -/
inductive Element
  | i
  | span
  | u
  | b
deriving DecidableEq, Repr

/-- The name an element's tags write. -/
def Element.name : Element → String
  | .i => "i"
  | .span => "span"
  | .u => "u"
  | .b => "b"

/-- The opening tags of the markup. -/
inductive Opening
  /-- `<i>`, `<span>`, `<u>` or `<b>`, without attributes. -/
  | plain (e : Element)
  /-- `<b class="gN">`, where `N` is a style depth. -/
  | group (depth : Nat)
  /-- `<b class="bref">`. -/
  | bref
  /-- `<b class="err" title="…">`. -/
  | err (title : String)
deriving DecidableEq, Repr

/-- The element an opening tag opens. -/
def Opening.element : Opening → Element
  | .plain e => e
  | .group _ | .bref | .err _ => .b

/-- The attributes an opening tag writes after its element's name. -/
def Opening.attributes : Opening → String
  | .plain _ => ""
  | .group d => " class=\"g" ++ toString d ++ "\""
  | .bref => " class=\"bref\""
  | .err title => " class=\"err\" title=\"" ++ title ++ "\""

/-- Whether a character may stand in a tag between its `<` and its `>`: it is none of `<`, `>`,
`&`, `\r` and `\n`. -/
def tagChar (c : Char) : Bool :=
  c != '<' && c != '>' && c != '&' && c != '\r' && c != '\n'

/-- Whether a character may stand in an attribute value: a tag character other than `"`. -/
def titleChar (c : Char) : Bool :=
  tagChar c && c != '"'

@[simp] theorem tagChar_eq_true {c : Char} :
    tagChar c = true ↔ c ≠ '<' ∧ c ≠ '>' ∧ c ≠ '&' ∧ c ≠ '\r' ∧ c ≠ '\n' := by
  simp [tagChar, and_assoc]

theorem tagChar_of_isDigit {c : Char} (h : c.isDigit = true) : tagChar c = true := by
  simp only [tagChar_eq_true]
  refine ⟨?_, ?_, ?_, ?_, ?_⟩ <;> rintro rfl <;> exact absurd h (by decide)

/-- A style depth is written in decimal digits. -/
theorem isDigit_of_mem_toString {d : Nat} {c : Char} (h : c ∈ (toString d).toList) :
    c.isDigit = true :=
  Nat.isDigit_of_mem_toDigits (show 0 < 10 by decide) (show 10 ≤ 10 by decide)
    (by simpa [toString, Nat.repr] using h)

/-- What stands between the `<` and the `>` of an opening tag cannot be `br`. -/
theorem Opening.inner_ne_br (o : Opening) :
    (o.element.name ++ o.attributes).toList ≠ "br".toList := by
  cases o with
  | plain e => cases e <;> exact fun h => absurd (congrArg List.length h) (by decide)
  | bref => exact fun h => absurd (congrArg List.length h) (by decide)
  | group d =>
      show ("b" ++ (" class=\"g" ++ toString d ++ "\"")).toList ≠ _
      simp only [String.toList_append]
      exact fun h => absurd (List.cons.inj (List.cons.inj h).2).1 (by decide)
  | err title =>
      show ("b" ++ (" class=\"err\" title=\"" ++ title ++ "\"")).toList ≠ _
      simp only [String.toList_append]
      exact fun h => absurd (List.cons.inj (List.cons.inj h).2).1 (by decide)

/-- One unit of markup. -/
inductive Item
  | char (c : Char)
  | lt
  | amp
  | br
  | opening (o : Opening)
  | closing (e : Element)
deriving DecidableEq, Repr

namespace Item

/-- How an item is written. -/
def text : Item → List Char
  | .char c => [c]
  | .lt => "&lt;".toList
  | .amp => "&amp;".toList
  | .br => "<br>".toList
  | .opening o => ("<" ++ o.element.name ++ o.attributes ++ ">").toList
  | .closing e => ("</" ++ e.name ++ ">").toList

/-- What an item stands for: its character, a line feed for `<br>`, and nothing for a tag. -/
def decode : Item → List Char
  | .char c => [c]
  | .lt => ['<']
  | .amp => ['&']
  | .br => ['\n']
  | .opening _ | .closing _ => []

/-- A tag: `<br>`, an opening or a closing. -/
def IsTag : Item → Prop
  | .br | .opening _ | .closing _ => True
  | .char _ | .lt | .amp => False

/-- Text: a character or an entity. -/
def IsText : Item → Prop
  | .char _ | .lt | .amp => True
  | .br | .opening _ | .closing _ => False

/-- An item as markup may hold it: a plain character is neither `<` nor `&`, a style depth is
one of 1 to 5, and a title holds none of `<`, `>`, `&`, `"` and the line break characters. -/
def Valid : Item → Prop
  | .char c => c ≠ '<' ∧ c ≠ '&'
  | .opening (.group d) => 1 ≤ d ∧ d ≤ 5
  | .opening (.err title) => title.toList.all titleChar = true
  | _ => True

/-- Whether an item is `<i>` (`true`) or `</i>` (`false`). -/
def italic : Item → Option Bool
  | .opening (.plain .i) => some true
  | .closing .i => some false
  | _ => none

theorem text_ne_nil (x : Item) : x.text ≠ [] := by
  cases x <;> simp [text]

theorem text_opening (o : Opening) :
    (opening o).text = '<' :: ((o.element.name ++ o.attributes).toList ++ ['>']) := by
  show ("<" ++ o.element.name ++ o.attributes ++ ">").toList = _
  simp only [String.toList_append]
  rfl

theorem text_closing (e : Element) : (closing e).text = '<' :: ('/' :: e.name.toList ++ ['>']) := by
  cases e <;> rfl

theorem tagChars_opening {o : Opening} (ho : (opening o).Valid) :
    (o.element.name ++ o.attributes).toList.all tagChar = true := by
  cases o with
  | plain e => cases e <;> rfl
  | bref => rfl
  | group d =>
      show ("b" ++ (" class=\"g" ++ toString d ++ "\"")).toList.all tagChar = true
      simp only [String.toList_append, List.all_append, Bool.and_eq_true]
      exact ⟨rfl, ⟨rfl, List.all_eq_true.2 fun c hc => tagChar_of_isDigit
        (isDigit_of_mem_toString hc)⟩, rfl⟩
  | err title =>
      show ("b" ++ (" class=\"err\" title=\"" ++ title ++ "\"")).toList.all tagChar = true
      simp only [String.toList_append, List.all_append, Bool.and_eq_true]
      refine ⟨rfl, ⟨rfl, List.all_eq_true.2 fun c hc => ?_⟩, rfl⟩
      have := List.all_eq_true.1 ho c hc
      simp only [titleChar, Bool.and_eq_true] at this
      exact this.1

/-- A tag is written as `<`, characters that are none of `<`, `>`, `&`, `\r` and `\n`, and `>`. -/
theorem text_of_isTag {x : Item} (hx : x.Valid) (ht : x.IsTag) :
    ∃ t, x.text = '<' :: (t ++ ['>']) ∧ t.all tagChar = true := by
  cases x with
  | char c | lt | amp => cases ht
  | br => exact ⟨"br".toList, rfl, rfl⟩
  | closing e => exact ⟨_, text_closing e, by cases e <;> rfl⟩
  | opening o => exact ⟨_, text_opening o, tagChars_opening hx⟩

/-- After its `<`, a valid tag holds none of `<`, `&`, `\r` and `\n`. -/
theorem not_special_of_tag {t : List Char} (ht : t.all tagChar = true) :
    ∀ c ∈ t ++ ['>'], c ≠ '<' ∧ c ≠ '&' ∧ c ≠ '\r' ∧ c ≠ '\n' := by
  intro c hc
  rcases List.mem_append.1 hc with hc | hc
  · obtain ⟨h1, -, h3, h4, h5⟩ := tagChar_eq_true.1 (List.all_eq_true.1 ht c hc)
    exact ⟨h1, h3, h4, h5⟩
  · rw [List.mem_singleton.1 hc]
    decide

/-- A tag stands for a line feed exactly when what stands between its `<` and `>` is `br`. -/
theorem decode_of_text {x : Item} (ht : x.IsTag) {t : List Char}
    (h : x.text = '<' :: (t ++ ['>'])) : x.decode = if t = "br".toList then ['\n'] else [] := by
  cases x with
  | char c | lt | amp => cases ht
  | br =>
      have hbr : t = "br".toList :=
        List.append_cancel_right
          (List.cons.inj (h.symm.trans rfl : _ = '<' :: ("br".toList ++ ['>']))).2
      rw [if_pos hbr]
      rfl
  | opening o =>
      rw [text_opening] at h
      rw [← List.append_cancel_right (List.cons.inj h).2, if_neg o.inner_ne_br]
      rfl
  | closing e =>
      rw [text_closing] at h
      have hne : '/' :: e.name.toList ≠ "br".toList := fun h =>
        absurd (List.cons.inj h).1 (by decide)
      rw [← List.append_cancel_right (List.cons.inj h).2, if_neg hne]
      rfl

end Item

/-- How a sequence of items is written. -/
def print (items : List Item) : List Char := items.flatMap Item.text

/-- What a sequence of items stands for. -/
def decode (items : List Item) : List Char := items.flatMap Item.decode

@[simp] theorem print_nil : print [] = [] := rfl

@[simp] theorem print_cons (x : Item) (xs : List Item) : print (x :: xs) = x.text ++ print xs :=
  rfl

@[simp] theorem print_append (xs ys : List Item) : print (xs ++ ys) = print xs ++ print ys := by
  simp [print]

@[simp] theorem decode_nil : decode [] = [] := rfl

@[simp] theorem decode_cons (x : Item) (xs : List Item) :
    decode (x :: xs) = x.decode ++ decode xs := rfl

@[simp] theorem decode_append (xs ys : List Item) :
    decode (xs ++ ys) = decode xs ++ decode ys := by
  simp [decode]

/-! ## Where `<` and `&` stand -/

/-- If a character `ch` stands in the text of an item only at its start, and only in items with
property `P`, then every `ch` of the printed markup begins the text of such an item. -/
theorem exists_item_of_print {ch : Char} {P : Item → Prop} {items : List Item}
    (hitems : ∀ x ∈ items, ∀ a b, x.text = a ++ ch :: b → a = [] ∧ P x) :
    ∀ {pre post : List Char}, print items = pre ++ ch :: post →
      ∃ x ∈ items, P x ∧ List.IsPrefix x.text (ch :: post) := by
  induction items with
  | nil => simp
  | cons x xs ih =>
      intro pre post h
      have hxs : ∀ y ∈ xs, ∀ a b, y.text = a ++ ch :: b → a = [] ∧ P y :=
        fun y hy => hitems y (List.mem_cons_of_mem _ hy)
      rw [print_cons] at h
      rcases List.append_eq_append_iff.1 h with ⟨a', rfl, hrest⟩ | ⟨c', hx, hpost⟩
      · obtain ⟨y, hy, hPy, hpre⟩ := ih hxs hrest
        exact ⟨y, List.mem_cons_of_mem _ hy, hPy, hpre⟩
      · cases c' with
        | nil =>
            have hrest : print xs = [] ++ ch :: post := by simpa using hpost.symm
            obtain ⟨y, hy, hPy, hpre⟩ := ih hxs hrest
            exact ⟨y, List.mem_cons_of_mem _ hy, hPy, hpre⟩
        | cons d c'' =>
            -- the character stands inside `x`, so at its start
            obtain ⟨rfl, rfl⟩ := List.cons.inj hpost
            obtain ⟨rfl, hPx⟩ := hitems x List.mem_cons_self pre c'' hx
            exact ⟨x, List.mem_cons_self, hPx, ⟨print xs, by simp [hx]⟩⟩

theorem eq_nil_of_cons_eq_append {ch : Char} {t a b : List Char} (ht : ch ∉ t)
    (h : ch :: t = a ++ ch :: b) : a = [] := by
  cases a with
  | nil => rfl
  | cons d a =>
      obtain ⟨-, rfl⟩ := List.cons.inj h
      exact absurd (by simp) ht

/-- A valid item holds `<` only as the first character of a tag. -/
theorem Item.lt_mem_text {x : Item} (hx : x.Valid) {a b : List Char} (h : x.text = a ++ '<' :: b) :
    a = [] ∧ (x.IsTag ∧ x.Valid) := by
  by_cases ht : x.IsTag
  · obtain ⟨t, htext, hnone⟩ := text_of_isTag hx ht
    rw [htext] at h
    have hlt : '<' ∉ t ++ ['>'] := fun hmem => (Item.not_special_of_tag hnone _ hmem).1 rfl
    exact ⟨eq_nil_of_cons_eq_append hlt h, ht, hx⟩
  · exfalso
    cases x with
    | char c =>
        cases a with
        | nil => exact hx.1 (List.cons.inj h).1
        | cons d a => simp [Item.text] at h
    | lt => exact absurd (h ▸ (by simp : '<' ∈ a ++ '<' :: b)) (by decide)
    | amp => exact absurd (h ▸ (by simp : '<' ∈ a ++ '<' :: b)) (by decide)
    | br | opening _ | closing _ => exact ht trivial

/-- A valid item holds `&` only as the first character of an entity. -/
theorem Item.amp_mem_text {x : Item} (hx : x.Valid) {a b : List Char} (h : x.text = a ++ '&' :: b) :
    a = [] ∧ (x = .lt ∨ x = .amp) := by
  by_cases ht : x.IsTag
  · obtain ⟨t, htext, hnone⟩ := text_of_isTag hx ht
    have hmem : '&' ∈ x.text := h ▸ (by simp)
    rw [htext] at hmem
    rcases List.mem_cons.1 hmem with heq | hmem
    · cases heq
    · exact absurd rfl (Item.not_special_of_tag hnone _ hmem).2.1
  · cases x with
    | char c =>
        cases a with
        | nil => exact absurd (List.cons.inj h).1 hx.2
        | cons d a => simp [Item.text] at h
    | lt => exact ⟨eq_nil_of_cons_eq_append (by decide) h, .inl rfl⟩
    | amp => exact ⟨eq_nil_of_cons_eq_append (by decide) h, .inr rfl⟩
    | br | opening _ | closing _ => exact absurd trivial ht

/-- In valid markup every `<` begins a tag. -/
theorem begins_tag_of_print {items : List Item} (hv : ∀ x ∈ items, x.Valid) {pre post : List Char}
    (h : print items = pre ++ '<' :: post) :
    ∃ x : Item, x.IsTag ∧ x.Valid ∧ List.IsPrefix x.text ('<' :: post) := by
  obtain ⟨x, -, hx, hpre⟩ :=
    exists_item_of_print (fun x hx _ _ h => Item.lt_mem_text (hv x hx) h) h
  exact ⟨x, hx.1, hx.2, hpre⟩

/-- In valid markup every `&` begins an entity. -/
theorem begins_entity_of_print {items : List Item} (hv : ∀ x ∈ items, x.Valid)
    {pre post : List Char} (h : print items = pre ++ '&' :: post) :
    List.IsPrefix "&lt;".toList ('&' :: post) ∨ List.IsPrefix "&amp;".toList ('&' :: post) := by
  obtain ⟨x, -, hx, hpre⟩ :=
    exists_item_of_print (fun x hx _ _ h => Item.amp_mem_text (hv x hx) h) h
  rcases hx with rfl | rfl
  · exact .inl hpre
  · exact .inr hpre

/-! ## Reading markup back -/

/-- Markup read back as text: `<br>` stands for a line feed, every other tag, from its `<` to the
next `>`, is deleted, and `&lt;` and `&amp;` stand for `<` and `&`. -/
def unmark : List Char → List Char
  | [] => []
  | '<' :: cs =>
    (if cs.takeWhile (· != '>') = "br".toList then ['\n'] else []) ++
      unmark (cs.dropWhile (· != '>')).tail
  | '&' :: 'l' :: 't' :: ';' :: cs => '<' :: unmark cs
  | '&' :: 'a' :: 'm' :: 'p' :: ';' :: cs => '&' :: unmark cs
  | c :: cs => c :: unmark cs
termination_by cs => cs.length
decreasing_by
  all_goals simp only [List.length_cons, List.length_tail]
  all_goals first
    | omega
    | exact Nat.lt_succ_of_le (Nat.le_trans (Nat.sub_le _ _) (List.dropWhile_suffix _).length_le)

theorem unmark_char {c : Char} (hlt : c ≠ '<') (hamp : c ≠ '&') (r : List Char) :
    unmark (c :: r) = c :: unmark r := by
  rw [unmark.eq_5] <;> simp_all

theorem unmark_tag {t : List Char} (ht : ∀ c ∈ t, c ≠ '>') (r : List Char) :
    unmark ('<' :: (t ++ '>' :: r)) = (if t = "br".toList then ['\n'] else []) ++ unmark r := by
  have hp : ∀ c ∈ t, (c != '>') = true := by simpa using ht
  rw [unmark, List.takeWhile_append_of_pos hp, List.dropWhile_append_of_pos hp]
  simp

/-- Reading back the text of a valid item gives what the item stands for. -/
theorem unmark_text_append {x : Item} (hx : x.Valid) (r : List Char) :
    unmark (x.text ++ r) = x.decode ++ unmark r := by
  by_cases ht : x.IsTag
  · obtain ⟨t, htext, hnone⟩ := Item.text_of_isTag hx ht
    have hgt : ∀ c ∈ t, c ≠ '>' := fun c hc =>
      (tagChar_eq_true.1 (List.all_eq_true.1 hnone c hc)).2.1
    rw [htext, List.cons_append, List.append_assoc, List.singleton_append, unmark_tag hgt,
      Item.decode_of_text ht htext]
  · cases x with
    | char c => exact unmark_char hx.1 hx.2 r
    | lt => exact unmark.eq_3 r
    | amp => exact unmark.eq_4 r
    | br | opening _ | closing _ => exact absurd trivial ht

/-- Valid markup reads back as what its items stand for. -/
theorem unmark_print {xs : List Item} (hv : ∀ x ∈ xs, x.Valid) : unmark (print xs) = decode xs := by
  induction xs with
  | nil => simp [unmark]
  | cons x xs ih =>
      rw [print_cons, unmark_text_append (hv x List.mem_cons_self),
        ih fun y hy => hv y (List.mem_cons_of_mem _ hy), decode_cons]

/-! ## Carriage returns dropped before line feeds -/

/-- `t` is `s` with zero or more of the carriage returns that directly precede a line feed
removed. -/
inductive DropsCRs : List Char → List Char → Prop
  | nil : DropsCRs [] []
  | keep (c : Char) {s t : List Char} : DropsCRs s t → DropsCRs (c :: s) (c :: t)
  | drop {s t : List Char} : DropsCRs ('\n' :: s) t → DropsCRs ('\r' :: '\n' :: s) t

theorem DropsCRs.append_left (l : List Char) {s t : List Char} (h : DropsCRs s t) :
    DropsCRs (l ++ s) (l ++ t) := by
  induction l with
  | nil => exact h
  | cons c l ih => exact .keep c ih

/-- Without a carriage return nothing is dropped. -/
theorem DropsCRs.eq_of_not_mem {s t : List Char} (h : DropsCRs s t) (hs : '\r' ∉ s) : t = s := by
  induction h with
  | nil => rfl
  | keep c _ ih => simp_all
  | drop _ _ => simp at hs

/-! ## The line-break pass -/

/-- The renderer's last pass, on items: `\r\n` and a lone `\n` become `<br>`. -/
def breakItems : List Item → List Item
  | [] => []
  | .char '\r' :: .char '\n' :: xs => .br :: breakItems xs
  | .char '\n' :: xs => .br :: breakItems xs
  | x :: xs => x :: breakItems xs

/-- The text of a tag or an entity passes through `breakLines` unchanged. -/
theorem breakLines_append_of_free {l : List Char} (hl : ∀ c ∈ l, c ≠ '\r' ∧ c ≠ '\n')
    (r : List Char) : breakLines (l ++ r) = l ++ breakLines r := by
  induction l with
  | nil => rfl
  | cons c l ih =>
      obtain ⟨hr, hn⟩ := hl c List.mem_cons_self
      rw [List.cons_append, List.cons_append, ← ih fun d hd => hl d (List.mem_cons_of_mem _ hd)]
      cases l ++ r with
      | nil => simp [breakLines]
      | cons d ds => simp [breakLines, hr]

theorem Item.text_free {x : Item} (hx : x.Valid) (hc : ∀ c, x ≠ .char c) :
    ∀ c ∈ x.text, c ≠ '\r' ∧ c ≠ '\n' := by
  by_cases ht : x.IsTag
  · obtain ⟨t, htext, hnone⟩ := text_of_isTag hx ht
    rw [htext]
    rintro c (_ | ⟨_, hmem⟩)
    · decide
    · exact (not_special_of_tag hnone c hmem).2.2
  · cases x with
    | char c => exact absurd rfl (hc c)
    | lt | amp => simp [text]
    | br | opening _ | closing _ => exact absurd trivial ht

/-- Printed valid markup that does not start with a line feed item does not start with `\n`. -/
theorem print_ne_lf {xs : List Item} (hv : ∀ x ∈ xs, x.Valid) (hhead : xs.head? ≠ some (.char '\n'))
    (r : List Char) : print xs ≠ '\n' :: r := by
  cases xs with
  | nil => simp
  | cons x xs =>
      rw [print_cons]
      intro h
      by_cases hc : ∃ c, x = .char c
      · obtain ⟨c, rfl⟩ := hc
        simp only [Item.text, List.cons_append, List.nil_append, List.cons.injEq] at h
        exact hhead (by simp [h.1])
      · have hfree := Item.text_free (hv x List.mem_cons_self) (fun c hx => hc ⟨c, hx⟩)
        obtain ⟨d, ds, hd⟩ := List.exists_cons_of_ne_nil x.text_ne_nil
        rw [hd, List.cons_append, List.cons.injEq] at h
        exact (hfree d (hd ▸ List.mem_cons_self)).2 h.1

/-- The pass on items is the pass on the printed markup. -/
theorem breakLines_print {xs : List Item} (hv : ∀ x ∈ xs, x.Valid) :
    breakLines (print xs) = print (breakItems xs) := by
  induction xs using breakItems.induct with
  | case1 => rfl
  | case2 xs ih =>
      simp only [print_cons, Item.text, breakItems, List.cons_append, List.nil_append]
      rw [breakLines, ih fun x hx => hv x (by simp [hx])]
  | case3 xs ih =>
      simp only [print_cons, Item.text, breakItems, List.cons_append, List.nil_append]
      rw [breakLines, ih fun x hx => hv x (by simp [hx])]
  | case4 x xs hcrlf hlf ih =>
      have hrest : ∀ y ∈ xs, y.Valid := fun y hy => hv y (List.mem_cons_of_mem _ hy)
      rw [breakItems.eq_4 x xs hcrlf hlf, print_cons, print_cons, ← ih hrest]
      by_cases hc : ∃ c, x = .char c
      · obtain ⟨c, rfl⟩ := hc
        simp only [Item.text, List.cons_append, List.nil_append]
        by_cases hr : c = '\r'
        · -- a carriage return that is not followed by a line feed item stays
          subst hr
          have hne : xs.head? ≠ some (.char '\n') := by
            cases xs with
            | nil => simp
            | cons y ys =>
                simp only [List.head?_cons, ne_eq, Option.some.injEq]
                exact fun hy => hcrlf ys rfl (by rw [hy])
          cases hp : print xs with
          | nil => rfl
          | cons d ds =>
              have hd : d ≠ '\n' := fun hd => print_ne_lf hrest hne ds (by rw [hp, hd])
              simp [breakLines, hd]
        · have hn : c ≠ '\n' := fun hn => hlf (by rw [hn])
          cases print xs with
          | nil => simp [breakLines]
          | cons d ds => simp [breakLines, hr]
      · exact breakLines_append_of_free
          (Item.text_free (hv x List.mem_cons_self) fun c hx => hc ⟨c, hx⟩) _

theorem valid_breakItems {xs : List Item} (hv : ∀ x ∈ xs, x.Valid) :
    ∀ x ∈ breakItems xs, x.Valid := by
  induction xs using breakItems.induct with
  | case1 => simp [breakItems]
  | case2 xs ih =>
      rw [breakItems]
      rintro x (_ | ⟨_, hx⟩)
      · trivial
      · exact ih (fun y hy => hv y (by simp [hy])) x hx
  | case3 xs ih =>
      rw [breakItems]
      rintro x (_ | ⟨_, hx⟩)
      · trivial
      · exact ih (fun y hy => hv y (by simp [hy])) x hx
  | case4 x xs hcrlf hlf ih =>
      rw [breakItems.eq_4 x xs hcrlf hlf]
      rintro y (_ | ⟨_, hy⟩)
      · exact hv x List.mem_cons_self
      · exact ih (fun z hz => hv z (List.mem_cons_of_mem _ hz)) y hy

/-- The pass drops exactly the carriage returns of `\r\n` from what the markup stands for. -/
theorem decode_breakItems (xs : List Item) : DropsCRs (decode xs) (decode (breakItems xs)) := by
  induction xs using breakItems.induct with
  | case1 => exact .nil
  | case2 xs ih =>
      simp only [breakItems, decode_cons, Item.decode, List.cons_append, List.nil_append]
      exact .drop (.keep '\n' ih)
  | case3 xs ih =>
      simp only [breakItems, decode_cons, Item.decode, List.cons_append, List.nil_append]
      exact .keep '\n' ih
  | case4 x xs hcrlf hlf ih =>
      rw [breakItems.eq_4 x xs hcrlf hlf, decode_cons, decode_cons]
      exact ih.append_left _

/-- The pass keeps the `<i>` and `</i>` tags in order. -/
theorem filterMap_italic_breakItems (xs : List Item) :
    (breakItems xs).filterMap Item.italic = xs.filterMap Item.italic := by
  induction xs using breakItems.induct with
  | case1 => rfl
  | case2 xs ih =>
      rw [breakItems]
      exact ih
  | case3 xs ih =>
      rw [breakItems]
      exact ih
  | case4 x xs hcrlf hlf ih =>
      rw [breakItems.eq_4 x xs hcrlf hlf, List.filterMap_cons, List.filterMap_cons, ih]

/-- A tag stops the pass: it acts on each side of the tag apart. -/
theorem breakItems_append_cons {y : Item} (hy : ∀ c, y ≠ .char c) (xs ys : List Item) :
    breakItems (xs ++ y :: ys) = breakItems xs ++ y :: breakItems ys := by
  have hyy : breakItems (y :: ys) = y :: breakItems ys := by
    rw [breakItems.eq_4 y ys (fun _ h => absurd h (hy _)) (fun h => absurd h (hy _))]
  induction xs using breakItems.induct with
  | case1 => rw [List.nil_append, hyy, breakItems.eq_1, List.nil_append]
  | case2 xs ih => simp [breakItems, ih]
  | case3 xs ih => simp [breakItems, ih]
  | case4 x xs hcrlf hlf ih =>
      rw [breakItems.eq_4 x xs hcrlf hlf]
      simp only [List.cons_append]
      rw [← ih]
      apply breakItems.eq_4
      · intro zs hx hzs
        cases xs with
        | nil => exact hy _ (List.cons.inj (by simpa using hzs)).1
        | cons w ws =>
            simp only [List.cons_append, List.cons.injEq] at hzs
            exact hcrlf ws hx (by rw [hzs.1])
      · exact hlf

/-- A tag in the output of the pass stands there in its input too, followed by what the pass
makes of the rest. -/
theorem exists_of_breakItems_eq {y : Item} (hy : ∀ c, y ≠ .char c) (hbr : y ≠ .br) :
    ∀ {xs pre post : List Item}, breakItems xs = pre ++ y :: post →
      ∃ pre' post', xs = pre' ++ y :: post' ∧ breakItems post' = post := by
  intro xs
  induction xs using breakItems.induct with
  | case1 => simp [breakItems]
  | case2 xs ih =>
      intro pre post h
      rw [breakItems] at h
      cases pre with
      | nil => exact absurd (List.cons.inj h).1.symm hbr
      | cons p pre =>
          obtain ⟨pre', post', rfl, hpost⟩ := ih (List.cons.inj h).2
          exact ⟨.char '\r' :: .char '\n' :: pre', post', rfl, hpost⟩
  | case3 xs ih =>
      intro pre post h
      rw [breakItems] at h
      cases pre with
      | nil => exact absurd (List.cons.inj h).1.symm hbr
      | cons p pre =>
          obtain ⟨pre', post', rfl, hpost⟩ := ih (List.cons.inj h).2
          exact ⟨.char '\n' :: pre', post', rfl, hpost⟩
  | case4 x xs hcrlf hlf ih =>
      intro pre post h
      rw [breakItems.eq_4 x xs hcrlf hlf] at h
      cases pre with
      | nil =>
          obtain ⟨rfl, rfl⟩ := List.cons.inj h
          exact ⟨[], xs, rfl, rfl⟩
      | cons p pre =>
          obtain ⟨pre', post', rfl, hpost⟩ := ih (List.cons.inj h).2
          exact ⟨x :: pre', post', rfl, hpost⟩

/-! ## Closed tags -/

/-- Every opening tag other than `<i>` is followed by items that `content` allows and then by its
element's closing tag. -/
def ClosesAfter (content : List Item → Prop) (items : List Item) : Prop :=
  ∀ pre o post, items = pre ++ .opening o :: post → o.element ≠ .i →
    ∃ ts rest, post = ts ++ .closing o.element :: rest ∧ content ts

section ClosesAfter

variable {content : List Item → Prop}

theorem ClosesAfter.append {xs ys : List Item} (hx : ClosesAfter content xs)
    (hy : ClosesAfter content ys) : ClosesAfter content (xs ++ ys) := by
  intro pre o post h ho
  rcases List.append_eq_append_iff.1 h with ⟨a', hpre, hys⟩ | ⟨c', hxs, hpost⟩
  · exact hy a' o post hys ho
  · cases c' with
    | nil =>
        rw [List.append_nil] at hxs
        exact hy [] o post (by simpa using hpost.symm) ho
    | cons d c'' =>
        obtain ⟨rfl, rfl⟩ := List.cons.inj hpost
        obtain ⟨ts, rest, rfl, hts⟩ := hx pre o c'' hxs ho
        exact ⟨ts, rest ++ ys, by simp, hts⟩

theorem ClosesAfter.mono {content' : List Item → Prop} {xs : List Item}
    (h : ClosesAfter content xs) (hc : ∀ ts, content ts → content' ts) :
    ClosesAfter content' xs := by
  intro pre o post hxs ho
  obtain ⟨ts, rest, hpost, hts⟩ := h pre o post hxs ho
  exact ⟨ts, rest, hpost, hc ts hts⟩

/-- Items without an opening tag other than `<i>` close every tag they open. -/
theorem closesAfter_of_forall {xs : List Item}
    (h : ∀ x ∈ xs, ∀ o, x = .opening o → o.element = .i) : ClosesAfter content xs := by
  intro pre o post hxs ho
  exact absurd (h _ (by simp [hxs]) o rfl) ho

theorem ClosesAfter.flatten {ls : List (List Item)} (h : ∀ l ∈ ls, ClosesAfter content l) :
    ClosesAfter content ls.flatten := by
  induction ls with
  | nil => exact closesAfter_of_forall (by simp)
  | cons l ls ih =>
      rw [List.flatten_cons]
      exact (h l List.mem_cons_self).append (ih fun l' hl' => h l' (List.mem_cons_of_mem _ hl'))

/-- An opening tag, what `content` allows, and the matching closing tag. -/
theorem closesAfter_tagged {o : Opening} {ts : List Item} (hts : ∀ x ∈ ts, x.IsText)
    (hc : content ts) :
    ClosesAfter content (.opening o :: (ts ++ [.closing o.element])) := by
  intro pre o' post h _
  cases pre with
  | nil =>
      obtain ⟨heq, rfl⟩ := List.cons.inj h
      cases heq
      exact ⟨ts, [], rfl, hc⟩
  | cons p pre =>
      -- no opening tag stands after the first
      rw [List.cons_append] at h
      have hmem : Item.opening o' ∈ ts ++ [.closing o.element] := by
        rw [(List.cons.inj h).2]
        simp
      rcases List.mem_append.1 hmem with hts' | hcl
      · exact absurd (hts _ hts') id
      · simp at hcl

/-- The pass keeps every tag closed, around what it makes of the items between. -/
theorem ClosesAfter.breakItems {xs : List Item} (h : ClosesAfter content xs) :
    ClosesAfter (fun ts => ∃ ts₀, content ts₀ ∧ ts = Html.breakItems ts₀) (Html.breakItems xs) := by
  intro pre o post hxs ho
  obtain ⟨pre', post', rfl, rfl⟩ := exists_of_breakItems_eq (y := .opening o)
    (fun _ h => by cases h) (fun h => by cases h) hxs
  obtain ⟨ts, rest, rfl, hts⟩ := h pre' o post' rfl ho
  exact ⟨Html.breakItems ts, Html.breakItems rest,
    breakItems_append_cons (fun _ h => by cases h) ts rest, ts, hts, rfl⟩

end ClosesAfter

end RegexHighlight.Html
