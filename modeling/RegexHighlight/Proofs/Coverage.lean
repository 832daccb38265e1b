import RegexHighlight.Proofs.Step

/-!
# Classification covers the pattern

Every step of a classification appends pieces that lay out the text of its token: one piece
with the whole text, an escape cut in two, or the opening, interior tokens and closing of a
character class (`Classifier.appends_step`). Since the tokens are never empty and concatenate to
the pattern, the pieces of a run lay out the whole pattern, and `finish` changes categories only.
So the pieces of `classify` tile the pattern exactly (`classify_tiles`).
-/

namespace RegexHighlight

theorem utf8Length_toList (pattern : String) : utf8Length pattern.toList = pattern.utf8ByteSize := by
  rw [utf8Length_eq_utf8Len, String.utf8Len_toList]

theorem length_text_le_of_mem_tokenize {unicode : Bool} {cs : List Char} {t : Token}
    (h : t ∈ tokenize unicode cs) : t.text.length ≤ cs.length := by
  have hmem : t.text ∈ (tokenize unicode cs).map Token.text := List.mem_map.2 ⟨t, h, rfl⟩
  have := (List.sublist_flatten_of_mem hmem).length_le
  rwa [flatten_tokenize] at this

/-- The pieces of a pattern lay it out from byte 0. -/
theorem laysOut_ofPattern (mode : Mode) (pattern : String) :
    Piece.LaysOut 0 pattern.toList (Classifier.ofPattern mode pattern).finish.pieces.toList := by
  have hts : ∀ t ∈ tokenize mode.unicodeAware pattern.toList, t.text ≠ [] :=
    fun _ ht => text_ne_nil_of_mem_tokenize ht
  obtain ⟨new, hnew, hlay⟩ := Classifier.emits_run (Setting.ofPattern mode pattern) hts
    ⟨[], [], #[], #[.started pattern mode.flags (Setting.ofPattern mode pattern).captures.total]⟩
    .start 0
  rw [flatten_tokenize] at hlay
  refine hlay.of_frames_eq ?_
  rw [Classifier.finish_frames, Classifier.ofPattern, hnew]
  simp

/-- Classification succeeds on every pattern unless the `v` flag is set, and its pieces tile the
pattern exactly. Both lexers only make non-empty tokens, so each stops after at most as many
tokens as the pattern has bytes. -/
theorem classify_tiles (pattern : String) (mode : Mode) (hm : mode.unicodeSets = false) :
    (∃ pieces, classify pattern mode = .ok pieces ∧ ExactTiling pattern pieces) ∧
    (∀ t ∈ tokenize mode.unicodeAware pattern.toList, t.text ≠ []) ∧
    (tokenize mode.unicodeAware pattern.toList).length ≤ pattern.utf8ByteSize ∧
    ∀ t ∈ tokenize mode.unicodeAware pattern.toList, t.kind = .charClass →
      (∀ x ∈ classTokenize mode.unicodeAware (ClassParts.ofText t.text).interior, x.text ≠ []) ∧
      (classTokenize mode.unicodeAware (ClassParts.ofText t.text).interior).length ≤
        pattern.utf8ByteSize := by
  have hbytes : pattern.toList.length ≤ pattern.utf8ByteSize := by
    rw [← utf8Length_toList]
    exact length_le_utf8Length _
  refine ⟨⟨_, classify_eq hm, (laysOut_ofPattern mode pattern).tiling⟩,
    fun _ ht => text_ne_nil_of_mem_tokenize ht,
    Nat.le_trans (length_tokenize_le _ _) hbytes, ?_⟩
  intro t ht _
  refine ⟨fun _ hx => text_ne_nil_of_mem_classTokenize hx, ?_⟩
  calc (classTokenize _ (ClassParts.ofText t.text).interior).length
      _ ≤ (ClassParts.ofText t.text).interior.length := length_classTokenize_le _ _
      _ ≤ t.text.length := ClassParts.length_interior_le _
      _ ≤ pattern.toList.length := length_text_le_of_mem_tokenize ht
      _ ≤ pattern.utf8ByteSize := hbytes

theorem classify_tiles_unicode_sample :
    ({ unicode := true } : Mode).unicodeSets = false ∧
    ((∃ pieces, classify "(é|[^\\]☃-)\\" { unicode := true } = .ok pieces ∧
        ExactTiling "(é|[^\\]☃-)\\" pieces) ∧
      (∀ t ∈ tokenize true "(é|[^\\]☃-)\\".toList, t.text ≠ []) ∧
      (tokenize true "(é|[^\\]☃-)\\".toList).length ≤ "(é|[^\\]☃-)\\".utf8ByteSize ∧
      ∀ t ∈ tokenize true "(é|[^\\]☃-)\\".toList, t.kind = .charClass →
        (∀ x ∈ classTokenize true (ClassParts.ofText t.text).interior, x.text ≠ []) ∧
        (classTokenize true (ClassParts.ofText t.text).interior).length ≤
          "(é|[^\\]☃-)\\".utf8ByteSize) :=
  ⟨rfl, classify_tiles _ { unicode := true } rfl⟩

end RegexHighlight
