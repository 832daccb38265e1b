import Mathlib.Data.String.Basic
import RegexHighlight.Span

/-!
# Pieces laid out over a text

`Piece.LaysOut pos cs ps` says that the pieces `ps` cut the characters `cs` into non-empty
stretches, in order, each piece spanning the bytes of its own text and the first one starting at
byte `pos`. Classification builds its output by appending one such layout per token
(`LaysOut.append`), and a layout of a whole pattern from byte 0 tiles the pattern in the sense of
the byte-level string API: every offset is a character boundary and every text is the slice
between its offsets (`LaysOut.tiling`).
-/

namespace RegexHighlight

theorem utf8Length_eq_utf8Len (cs : List Char) : utf8Length cs = String.utf8Len cs := by
  induction cs with
  | nil => rfl
  | cons c cs ih => simp [ih, Nat.add_comm]

theorem utf8Length_pos {cs : List Char} (h : cs ≠ []) : 0 < utf8Length cs := by
  obtain ⟨c, cs, rfl⟩ := List.exists_cons_of_ne_nil h
  have := c.utf8Size_pos
  simp only [utf8Length_cons]
  omega

/-- Pieces tile `pattern` exactly: they are empty only for the empty pattern, each starts where
the one before it stopped (the first at 0), the last stops at the end, none is empty, every offset
is a character boundary and every text is the slice of the pattern between its offsets. -/
structure ExactTiling (pattern : String) (pieces : List Piece) : Prop where
  eq_nil_iff : pieces = [] ↔ pattern = ""
  head_start : ∀ q ∈ pieces.head?, q.span.start = 0
  stop_eq_start : ∀ (i : Nat) (h : i + 1 < pieces.length),
    pieces[i].span.stop = pieces[i + 1].span.start
  last_stop : ∀ q ∈ pieces.getLast?, q.span.stop = pattern.utf8ByteSize
  start_lt_stop : ∀ q ∈ pieces, q.span.start < q.span.stop
  start_valid : ∀ q ∈ pieces, String.Pos.Raw.IsValid pattern ⟨q.span.start⟩
  stop_valid : ∀ q ∈ pieces, String.Pos.Raw.IsValid pattern ⟨q.span.stop⟩
  text_eq_extract : ∀ q ∈ pieces,
    q.text = String.Pos.Raw.extract pattern ⟨q.span.start⟩ ⟨q.span.stop⟩

namespace Piece

/-- The pieces `ps` cut `cs` into non-empty consecutive stretches, from byte `pos` on. -/
def LaysOut : Nat → List Char → List Piece → Prop
  | _, cs, [] => cs = []
  | pos, cs, q :: qs =>
    q.text.toList ≠ [] ∧ q.span = ⟨pos, pos + utf8Length q.text.toList⟩ ∧
      ∃ rest, cs = q.text.toList ++ rest ∧ LaysOut (pos + utf8Length q.text.toList) rest qs

/-- The part of a piece a layout looks at. -/
def frame (q : Piece) : Span × String := (q.span, q.text)

@[simp] theorem laysOut_nil {pos : Nat} {cs : List Char} : LaysOut pos cs [] ↔ cs = [] :=
  Iff.rfl

theorem LaysOut.append {pos : Nat} {a b : List Char} {ps qs : List Piece}
    (hp : LaysOut pos a ps) (hq : LaysOut (pos + utf8Length a) b qs) :
    LaysOut pos (a ++ b) (ps ++ qs) := by
  induction ps generalizing pos a with
  | nil =>
      simp only [laysOut_nil] at hp
      subst hp
      simpa using hq
  | cons p ps ih =>
      obtain ⟨hne, hspan, rest, rfl, hrest⟩ := hp
      refine ⟨hne, hspan, rest ++ b, by simp, ih hrest ?_⟩
      simpa [Nat.add_assoc] using hq

/-- One non-empty text is laid out by the one piece that spans it. -/
theorem laysOut_singleton {pos : Nat} {text : List Char} (h : text ≠ []) (c : Category) :
    LaysOut pos text [⟨⟨pos, pos + utf8Length text⟩, String.ofList text, c⟩] :=
  ⟨by simpa using h, by simp, [], by simp, rfl⟩

theorem laysOut_layout {pos : Nat} {parts : List (List Char × Category)}
    (h : ∀ x ∈ parts, x.1 ≠ []) :
    LaysOut pos (parts.map Prod.fst).flatten (layout pos parts) := by
  induction parts generalizing pos with
  | nil => rfl
  | cons x parts ih =>
      obtain ⟨text, c⟩ := x
      have hrest : ∀ y ∈ parts, y.1 ≠ [] := fun y hy => h y (List.mem_cons_of_mem _ hy)
      refine ⟨by simpa using h _ List.mem_cons_self, by simp, (parts.map Prod.fst).flatten,
        by simp, ?_⟩
      simpa using ih hrest

/-- A layout of `cs` cuts it into the texts of its pieces. -/
theorem LaysOut.eq_flatten {pos : Nat} {cs : List Char} {ps : List Piece}
    (h : LaysOut pos cs ps) : cs = (ps.map fun q => q.text.toList).flatten := by
  induction ps generalizing pos cs with
  | nil => exact h
  | cons q qs ih =>
      obtain ⟨-, -, rest, rfl, hrest⟩ := h
      simp [ih hrest]

/-- A layout only looks at spans and texts, so changing categories keeps it. -/
theorem LaysOut.of_frames_eq {pos : Nat} {cs : List Char} {ps qs : List Piece}
    (h : qs.map frame = ps.map frame) (hp : LaysOut pos cs ps) : LaysOut pos cs qs := by
  induction ps generalizing pos cs qs with
  | nil =>
      simp only [List.map_nil, List.map_eq_nil_iff] at h
      subst h
      exact hp
  | cons p ps ih =>
      cases qs with
      | nil => simp at h
      | cons q qs =>
          simp only [List.map_cons, List.cons.injEq, frame, Prod.mk.injEq] at h
          obtain ⟨⟨hspan, htext⟩, hrest⟩ := h
          obtain ⟨hne, hs, rest, hcs, hlay⟩ := hp
          rw [← hspan, ← htext] at *
          exact ⟨hne, hs, rest, hcs, ih hrest hlay⟩

theorem LaysOut.text_ne_nil {pos : Nat} {cs : List Char} {ps : List Piece}
    (h : LaysOut pos cs ps) : ∀ q ∈ ps, q.text.toList ≠ [] := by
  induction ps generalizing pos cs with
  | nil => simp
  | cons p ps ih =>
      obtain ⟨hne, -, rest, -, hrest⟩ := h
      rintro q (_ | ⟨_, hq⟩)
      · exact hne
      · exact ih hrest q hq

theorem LaysOut.eq_nil_iff {pos : Nat} {cs : List Char} {ps : List Piece}
    (h : LaysOut pos cs ps) : ps = [] ↔ cs = [] := by
  cases ps with
  | nil => simpa using h
  | cons p ps =>
      obtain ⟨hne, -, rest, rfl, -⟩ := h
      simp [hne]

theorem LaysOut.head_start {pos : Nat} {cs : List Char} {ps : List Piece}
    (h : LaysOut pos cs ps) : ∀ q ∈ ps.head?, q.span.start = pos := by
  cases ps with
  | nil => simp
  | cons p ps =>
      obtain ⟨-, hspan, -⟩ := h
      simp [hspan]

theorem LaysOut.stop_eq_start {pos : Nat} {cs : List Char} {ps : List Piece}
    (h : LaysOut pos cs ps) (i : Nat) (hi : i + 1 < ps.length) :
    ps[i].span.stop = ps[i + 1].span.start := by
  induction ps generalizing pos cs i with
  | nil => simp at hi
  | cons p ps ih =>
      obtain ⟨-, hspan, rest, -, hrest⟩ := h
      cases i with
      | zero =>
          cases ps with
          | nil => simp at hi
          | cons q qs =>
              have := hrest.head_start q (by simp)
              simp [hspan, this]
      | succ i => simpa using ih hrest i (by simpa using hi)

theorem LaysOut.last_stop {pos : Nat} {cs : List Char} {ps : List Piece}
    (h : LaysOut pos cs ps) : ∀ q ∈ ps.getLast?, q.span.stop = pos + utf8Length cs := by
  induction ps generalizing pos cs with
  | nil => simp
  | cons p ps ih =>
      obtain ⟨-, hspan, rest, rfl, hrest⟩ := h
      cases ps with
      | nil => simp_all
      | cons q qs =>
          intro r hr
          rw [List.getLast?_cons_cons] at hr
          simpa [Nat.add_assoc] using ih hrest r hr

/-- Every piece of a layout is a stretch of the text, found after the characters before it. -/
theorem LaysOut.exists_split {pos : Nat} {cs : List Char} {ps : List Piece}
    (h : LaysOut pos cs ps) : ∀ q ∈ ps, ∃ l r, cs = l ++ q.text.toList ++ r ∧
      q.span = ⟨pos + utf8Length l, pos + utf8Length l + utf8Length q.text.toList⟩ := by
  induction ps generalizing pos cs with
  | nil => simp
  | cons p ps ih =>
      obtain ⟨-, hspan, rest, rfl, hrest⟩ := h
      rintro q (_ | ⟨_, hq⟩)
      · exact ⟨[], rest, by simp, by simpa using hspan⟩
      · obtain ⟨l, r, hl, hq⟩ := ih hrest q hq
        refine ⟨p.text.toList ++ l, r, by simp [hl], ?_⟩
        simpa [Nat.add_assoc] using hq

/-- A layout of a whole string from byte 0 tiles it exactly. -/
theorem LaysOut.tiling {p : String} {ps : List Piece} (h : LaysOut 0 p.toList ps) :
    ExactTiling p ps where
  eq_nil_iff := by rw [h.eq_nil_iff, String.toList_eq_nil_iff]
  head_start := h.head_start
  stop_eq_start := h.stop_eq_start
  last_stop q hq := by
    rw [h.last_stop q hq, utf8Length_eq_utf8Len, String.utf8Len_toList, Nat.zero_add]
  start_lt_stop q hq := by
    obtain ⟨l, r, -, hspan⟩ := h.exists_split q hq
    have := utf8Length_pos (h.text_ne_nil q hq)
    simp only [hspan]
    omega
  start_valid q hq := by
    obtain ⟨l, r, hl, hspan⟩ := h.exists_split q hq
    refine String.Pos.Raw.isValid_iff_exists_append.2
      ⟨String.ofList l, String.ofList (q.text.toList ++ r), ?_, ?_⟩
    · rw [← String.ofList_append, ← List.append_assoc, ← hl, String.ofList_toList]
    · simp [hspan, utf8Length_eq_utf8Len]
  stop_valid q hq := by
    obtain ⟨l, r, hl, hspan⟩ := h.exists_split q hq
    refine String.Pos.Raw.isValid_iff_exists_append.2
      ⟨String.ofList (l ++ q.text.toList), String.ofList r, ?_, ?_⟩
    · rw [← String.ofList_append, ← hl, String.ofList_toList]
    · simp [hspan, String.Pos.Raw.ext_iff, utf8Length_eq_utf8Len, String.utf8ByteSize_ofList]
  text_eq_extract q hq := by
    obtain ⟨l, r, hl, hspan⟩ := h.exists_split q hq
    have key := String.extract_of_valid l q.text.toList r
    rw [← hl, String.ofList_toList, String.ofList_toList] at key
    simpa [hspan, utf8Length_eq_utf8Len] using key.symm

end Piece

end RegexHighlight
