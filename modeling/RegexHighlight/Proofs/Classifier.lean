import RegexHighlight.Classify
import RegexHighlight.Proofs.Layout

/-!
# The classifier, one operation at a time

Small facts about the operations a classification is made of, stated once so that the proofs
about whole runs never unfold them: every token of either lexer holds at least one character,
emitting and reporting push one piece and touch nothing else, and `finish` changes only the
categories of the pieces that valid open groups point at (`Classifier.finish_pieces`).
-/

namespace RegexHighlight

theorem text_ne_nil_of_mem_tokenize {unicode : Bool} {cs : List Char} {t : Token}
    (h : t ∈ tokenize unicode cs) : t.text ≠ [] := by
  induction cs using tokenize.induct unicode with
  | case1 => simp [tokenize] at h
  | case2 c rest kind n hshape ih =>
      rw [tokenize, hshape] at h
      rcases List.mem_cons.1 h with rfl | h
      · simp
      · exact ih h

theorem length_tokenize_le (unicode : Bool) (cs : List Char) :
    (tokenize unicode cs).length ≤ cs.length := by
  induction cs using tokenize.induct unicode with
  | case1 => simp [tokenize]
  | case2 c rest kind n hshape ih =>
      rw [tokenize, hshape]
      simp only [List.length_cons, List.length_drop] at *
      omega

theorem text_ne_nil_of_mem_classTokenize {unicode : Bool} {cs : List Char} {t : ClassToken}
    (h : t ∈ classTokenize unicode cs) : t.text ≠ [] := by
  induction cs using classTokenize.induct unicode with
  | case1 => simp [classTokenize] at h
  | case2 c rest kind n hshape ih =>
      rw [classTokenize, hshape] at h
      rcases List.mem_cons.1 h with rfl | h
      · simp
      · exact ih h

theorem length_classTokenize_le (unicode : Bool) (cs : List Char) :
    (classTokenize unicode cs).length ≤ cs.length := by
  induction cs using classTokenize.induct unicode with
  | case1 => simp [classTokenize]
  | case2 c rest kind n hshape ih =>
      rw [classTokenize, hshape]
      simp only [List.length_cons, List.length_drop] at *
      omega

/-- A piece reported as a group left open. -/
def Piece.markUnclosed (q : Piece) : Piece := { q with category := .error .unbalancedLeftParen }

@[simp] theorem Piece.frame_markUnclosed (q : Piece) : q.markUnclosed.frame = q.frame := rfl

@[simp] theorem Piece.markUnclosed_markUnclosed (q : Piece) :
    q.markUnclosed.markUnclosed = q.markUnclosed := rfl

namespace Classifier

section Emit

variable (s : Classifier) (pos : Nat) (text : List Char)

@[simp] theorem emit_pieces (c : Category) :
    (s.emit pos text c).pieces = s.pieces.push (piece pos text c) := rfl

@[simp] theorem emit_stack (c : Category) : (s.emit pos text c).stack = s.stack := rfl

@[simp] theorem emit_names (c : Category) : (s.emit pos text c).names = s.names := rfl

@[simp] theorem report_pieces (d : Diagnostic) :
    (s.report pos text d).pieces = s.pieces.push (piece pos text (.error d)) := rfl

@[simp] theorem report_stack (d : Diagnostic) : (s.report pos text d).stack = s.stack := rfl

@[simp] theorem report_names (d : Diagnostic) : (s.report pos text d).names = s.names := rfl

theorem emitSplit_pieces (cut : Nat) (c : Category) :
    (s.emitSplit pos text cut c).pieces.toList = s.pieces.toList ++
      piece pos (text.take cut) c ::
        if (text.drop cut).isEmpty then []
        else [piece (pos + utf8Length (text.take cut)) (text.drop cut) .literal] := by
  simp only [emitSplit]
  by_cases h : (text.drop cut).isEmpty <;> simp [h]

@[simp] theorem emitSplit_stack (cut : Nat) (c : Category) :
    (s.emitSplit pos text cut c).stack = s.stack := by
  simp only [emitSplit]
  split <;> rfl

@[simp] theorem emitSplit_names (cut : Nat) (c : Category) :
    (s.emitSplit pos text cut c).names = s.names := by
  simp only [emitSplit]
  split <;> rfl

end Emit

theorem closeOpen_pieces (s : Classifier) (g : OpenGroup) :
    (s.closeOpen g).pieces.toList =
      if g.valid then s.pieces.toList.modify g.index Piece.markUnclosed else s.pieces.toList := by
  unfold closeOpen
  split
  · split
    · next p hp =>
        have hlt : g.index < s.pieces.size := (Array.getElem?_eq_some_iff.1 hp).1
        have hget : s.pieces[g.index] = p := (Array.getElem?_eq_some_iff.1 hp).2
        simp only [Array.set!_eq_setIfInBounds, Array.toList_setIfInBounds]
        apply List.ext_getElem (by simp)
        intro i h₁ h₂
        simp only [List.getElem_set, List.getElem_modify]
        split <;> simp_all [Piece.markUnclosed]
    · next hp =>
        have : s.pieces.size ≤ g.index := by simpa using hp
        simp [List.modify_eq_self, this]
  · rfl

/-- Closing the groups `gs` one after another marks the pieces the valid ones point at; the
order does not matter, and a piece marked twice is marked once. -/
theorem foldl_closeOpen_pieces (gs : List OpenGroup) (s : Classifier) :
    (gs.foldl closeOpen s).pieces.toList = s.pieces.toList.mapIdx fun i q =>
      if gs.any (fun g => g.valid && g.index == i) then q.markUnclosed else q := by
  induction gs generalizing s with
  | nil =>
      apply List.ext_getElem (by simp)
      intro i h₁ h₂
      simp
  | cons g gs ih =>
      rw [List.foldl_cons, ih, closeOpen_pieces]
      apply List.ext_getElem (by split <;> simp)
      intro i h₁ h₂
      by_cases hv : g.valid <;> by_cases hi : g.index = i <;> simp [hv, hi]

/-- `finish` marks exactly the pieces that valid open groups point at. -/
theorem finish_pieces (s : Classifier) :
    s.finish.pieces.toList = s.pieces.toList.mapIdx fun i q =>
      if s.stack.any (fun g => g.valid && g.index == i) then q.markUnclosed else q := by
  simp only [finish, foldl_closeOpen_pieces, List.any_reverse]

theorem finish_frames (s : Classifier) :
    s.finish.pieces.toList.map Piece.frame = s.pieces.toList.map Piece.frame := by
  rw [finish_pieces]
  apply List.ext_getElem (by simp)
  intro i h₁ h₂
  simp only [List.getElem_map, List.getElem_mapIdx]
  split <;> simp

end Classifier

/-- The setting a pattern is classified under. -/
def Setting.ofPattern (mode : Mode) (pattern : String) : Setting :=
  ⟨mode.unicodeAware, Captures.ofTokens (tokenize mode.unicodeAware pattern.toList)⟩

/-- The state of a classification after its last token, before the groups left open are
reported. -/
def Classifier.ofPattern (mode : Mode) (pattern : String) : Classifier :=
  Classifier.run (Setting.ofPattern mode pattern)
    ⟨[], [], #[], #[.started pattern mode.flags (Setting.ofPattern mode pattern).captures.total]⟩
    .start 0 (tokenize mode.unicodeAware pattern.toList)

theorem classify_eq {pattern : String} {mode : Mode} (hm : mode.unicodeSets = false) :
    classify pattern mode = .ok (Classifier.ofPattern mode pattern).finish.pieces.toList := by
  simp [classify, hm]
  rfl

end RegexHighlight
