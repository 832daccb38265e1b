import RegexHighlight.Proofs.Step

/-!
# Only the `u` flag changes classification

A classification reads its mode in two places: `Mode.unicodeAware` picks the lexical rules of
every token, and the flag string is written into the first note. Notes are written and never
read, so two classifier states that differ in their notes only take every step alike
(`Classifier.Alike.run`) and end with the same pieces.

Hence the pieces of a pattern depend on the mode only through `unicodeAware`, and a flag string
that `Mode.parse` accepts classifies a pattern as the mode with `u` alone does when the string
holds `u`, and as the empty mode otherwise (`classify_reads_only_unicode`).
-/

namespace RegexHighlight

/-! ## Flag strings -/

namespace Mode

theorem unicode_set (m : Mode) (f : Flag) (on : Bool) :
    (m.set f on).unicode = if f = .unicode then on else m.unicode := by
  cases f <;> rfl

theorem letter_of_ofChar? {c : Char} {f : Flag} (h : Flag.ofChar? c = some f) : f.letter = c := by
  simpa using List.find?_some h

/-- A flag string read to its end without a problem leaves `v` unset, and sets `u` exactly when
the string holds it. -/
theorem parseFrom_ok {flags : String} {cs : List Char} {seen : List Flag} {m m' : Mode}
    (h : parseFrom flags cs seen m = .ok m') :
    m'.unicodeSets = false ∧ m'.unicode = (m.unicode || decide ('u' ∈ cs)) := by
  induction cs generalizing seen m with
  | nil =>
      simp only [parseFrom] at h
      split at h
      · cases h
      · next hv =>
          cases h
          simpa using hv
  | cons c cs ih =>
      simp only [parseFrom] at h
      split at h
      · cases h
      · next f hf =>
          split at h
          · cases h
          · obtain ⟨hv, hu⟩ := ih h
            refine ⟨hv, ?_⟩
            rw [hu, unicode_set]
            -- the flag read is `u` exactly when its letter is
            have hl := letter_of_ofChar? hf
            by_cases hfu : f = .unicode
            · subst hfu
              simp [← hl, Flag.letter]
            · have hc : 'u' ≠ c := by
                rintro rfl
                cases f <;> simp_all [Flag.letter]
              simp [hfu, hc]

theorem parse_ok {flags : String} {m : Mode} (h : parse flags = .ok m) :
    m.unicodeSets = false ∧ m.unicode = decide ('u' ∈ flags.toList) := by
  simpa using parseFrom_ok h

end Mode

/-! ## Notes are never read -/

namespace Classifier

/-- Two states that differ at most in their notes. -/
def Alike (s s' : Classifier) : Prop :=
  s.names = s'.names ∧ s.stack = s'.stack ∧ s.pieces = s'.pieces

/-- Two results of a step whose states differ at most in their notes. -/
def StepAlike (r r' : Classifier × Context) : Prop := Alike r.1 r'.1 ∧ r.2 = r'.2

section Alike

variable {s s' : Classifier} (setting : Setting) (pos : Nat) {text : List Char}

theorem Alike.eq (h : Alike s s') : s' = { s with notes := s'.notes } := by
  obtain ⟨hn, hs, hp⟩ := h
  cases s
  cases s'
  simp_all

theorem Alike.emit (h : Alike s s') (c : Category) :
    Alike (s.emit pos text c) (s'.emit pos text c) := by
  obtain ⟨hn, hs, hp⟩ := h
  exact ⟨hn, hs, by simp [hp]⟩

theorem Alike.report (h : Alike s s') (d : Diagnostic) :
    Alike (s.report pos text d) (s'.report pos text d) := by
  obtain ⟨hn, hs, hp⟩ := h
  exact ⟨hn, hs, by simp [hp]⟩

theorem Alike.emitSplit (h : Alike s s') (cut : Nat) (c : Category) :
    Alike (s.emitSplit pos text cut c) (s'.emitSplit pos text cut c) := by
  simp only [Classifier.emitSplit]
  split
  · exact h.emit pos c
  · exact (h.emit pos c).emit _ _

theorem Alike.decimalEscape (h : Alike s s') :
    StepAlike (s.decimalEscape setting pos text) (s'.decimalEscape setting pos text) := by
  dsimp only [Classifier.decimalEscape]
  split_ifs
  · exact ⟨h.emit pos _, rfl⟩
  · exact ⟨h.report pos _, rfl⟩
  · exact ⟨h.emitSplit pos _ _, rfl⟩
  · exact ⟨h.emitSplit pos _ _, rfl⟩

theorem Alike.namedBackreference (h : Alike s s') :
    StepAlike (s.namedBackreference setting pos text) (s'.namedBackreference setting pos text) := by
  unfold Classifier.namedBackreference
  split
  · split
    · split
      · exact ⟨h.emit pos _, rfl⟩
      · exact ⟨h.report pos _, rfl⟩
    · exact ⟨h.report pos _, rfl⟩
  · split
    · exact ⟨h.report pos _, rfl⟩
    · exact ⟨h.emitSplit pos _ _, rfl⟩

theorem Alike.escape (h : Alike s s') :
    StepAlike (s.escape setting pos text) (s'.escape setting pos text) := by
  -- the rule that applies is the same for both states
  rcases escape_cases_uniform setting pos text with
    ⟨-, -, -, -, -, he⟩ | ⟨-, -, -, he⟩ | ⟨-, _, ⟨_, -, he⟩ | ⟨_, -, he⟩⟩ <;> rw [he s, he s']
  · exact h.decimalEscape setting pos
  · exact h.namedBackreference setting pos
  · exact ⟨h.report pos _, rfl⟩
  · exact ⟨h.emit pos _, rfl⟩

theorem Alike.groupOpen (h : Alike s s') :
    StepAlike (s.groupOpen pos text) (s'.groupOpen pos text) := by
  rw [h.eq]
  obtain ⟨names, stack, pieces, notes⟩ := s
  dsimp only [Classifier.groupOpen]
  split_ifs
  · exact ⟨⟨rfl, rfl, rfl⟩, rfl⟩
  · split
    · split <;> exact ⟨⟨rfl, rfl, rfl⟩, rfl⟩
    · exact ⟨⟨rfl, rfl, rfl⟩, rfl⟩

theorem Alike.groupClose (h : Alike s s') :
    StepAlike (s.groupClose pos text) (s'.groupClose pos text) := by
  rw [h.eq]
  obtain ⟨names, stack, pieces, notes⟩ := s
  unfold Classifier.groupClose
  dsimp only
  split
  · split <;> exact ⟨⟨rfl, rfl, rfl⟩, rfl⟩
  · exact ⟨⟨rfl, rfl, rfl⟩, rfl⟩

theorem Alike.quantifier (h : Alike s s') (ctx : Context) :
    StepAlike (s.quantifier ctx pos text) (s'.quantifier ctx pos text) := by
  unfold Classifier.quantifier
  split
  · exact ⟨h.report pos _, rfl⟩
  · split
    · exact ⟨h.report pos _, rfl⟩
    · exact ⟨h.emit pos _, rfl⟩

theorem Alike.alternator (h : Alike s s') (ctx : Context) :
    StepAlike (s.alternator ctx pos text) (s'.alternator ctx pos text) := by
  have hs : s'.stack = s.stack := h.2.1.symm
  dsimp only [Classifier.alternator]
  rw [hs]
  split
  · exact ⟨h.report pos _, rfl⟩
  · exact ⟨h.emit pos _, rfl⟩

/-- A step reads no notes. -/
theorem Alike.step (h : Alike s s') (ctx : Context) (t : Token) :
    StepAlike (s.step setting ctx pos t) (s'.step setting ctx pos t) := by
  obtain ⟨kind, text⟩ := t
  cases kind with
  | charClass =>
      obtain ⟨hn, hs, hp⟩ := h
      exact ⟨⟨hn, hs, by simp [Classifier.step, Classifier.charClass, hp]⟩, rfl⟩
  | groupOpen => exact h.groupOpen pos
  | groupClose => exact h.groupClose pos
  | escape => exact h.escape setting pos
  | quantifier => exact h.quantifier pos ctx
  | alternator => exact h.alternator pos ctx
  | anchor | dot | literal => exact ⟨h.emit pos _, rfl⟩
  | char =>
      simp only [Classifier.step]
      split
      · exact ⟨h.report pos _, rfl⟩
      · exact ⟨h.emit pos _, rfl⟩

/-- A run reads no notes: states that differ only there stay so, step by step. -/
theorem Alike.run (h : Alike s s') (ctx : Context) (pos : Nat) (ts : List Token) :
    Alike (Classifier.run setting s ctx pos ts) (Classifier.run setting s' ctx pos ts) := by
  induction ts generalizing s s' ctx pos with
  | nil => exact h
  | cons t ts ih =>
      obtain ⟨hstep, hctx⟩ := h.step setting pos ctx t
      simp only [Classifier.run]
      rw [hctx]
      exact ih hstep _ _

theorem Alike.finish (h : Alike s s') : s.finish.pieces = s'.finish.pieces := by
  obtain ⟨-, hs, hp⟩ := h
  apply Array.toList_inj.1
  rw [finish_pieces, finish_pieces, hs, hp]

end Alike

end Classifier

/-! ## The mode of a classification -/

/-- Modes with the same lexical rules classify every pattern alike. -/
theorem classify_eq_of_unicodeAware {pattern : String} {m₁ m₂ : Mode}
    (h₁ : m₁.unicodeSets = false) (h₂ : m₂.unicodeSets = false)
    (hu : m₁.unicodeAware = m₂.unicodeAware) : classify pattern m₁ = classify pattern m₂ := by
  rw [classify_eq h₁, classify_eq h₂]
  have hsetting : Setting.ofPattern m₁ pattern = Setting.ofPattern m₂ pattern := by
    simp only [Setting.ofPattern, hu]
  -- the two runs start from states that differ in the flag string of their first note only
  have halike : Classifier.Alike (Classifier.ofPattern m₁ pattern)
      (Classifier.ofPattern m₂ pattern) := by
    simp only [Classifier.ofPattern, hsetting, hu]
    apply Classifier.Alike.run
    exact ⟨rfl, rfl, rfl⟩
  rw [halike.finish]

/-- The `u` flag is the only flag that changes how a pattern is classified: modes without `v` that
agree on `u` classify every pattern alike. Classifying under a flag string fails with the error of
`Mode.parse` when the string is refused, and otherwise classifies under the mode read, which
classifies as the mode with `u` alone when the string holds `u`, and as the empty mode otherwise. -/
theorem classify_reads_only_unicode (pattern : String) :
    (∀ m₁ m₂ : Mode, m₁.unicodeSets = false → m₂.unicodeSets = false →
      m₁.unicode = m₂.unicode → classify pattern m₁ = classify pattern m₂) ∧
    ∀ flags : String,
      (∀ e, Mode.parse flags = .error e → classifyWithFlags pattern flags = .error e) ∧
      ∀ m, Mode.parse flags = .ok m →
        classifyWithFlags pattern flags = classify pattern m ∧
        classify pattern m = classify pattern { unicode := decide ('u' ∈ flags.toList) } := by
  have hsame : ∀ m₁ m₂ : Mode, m₁.unicodeSets = false → m₂.unicodeSets = false →
      m₁.unicode = m₂.unicode → classify pattern m₁ = classify pattern m₂ :=
    fun m₁ m₂ h₁ h₂ hu =>
      classify_eq_of_unicodeAware h₁ h₂ (by simp [Mode.unicodeAware, h₁, h₂, hu])
  refine ⟨hsame, fun flags => ⟨fun e he => ?_, fun m hm => ⟨?_, ?_⟩⟩⟩
  · simp [classifyWithFlags, he, bind, Except.bind]
  · simp [classifyWithFlags, hm, bind, Except.bind]
  · obtain ⟨hv, hu⟩ := Mode.parse_ok hm
    exact hsame _ _ hv rfl hu

theorem classify_reads_only_unicode_sample :
    classify "[\\u{61}-z]\\1(a)" { global := true, unicode := true } =
        classify "[\\u{61}-z]\\1(a)" { unicode := true, sticky := true } ∧
      Mode.parse "gg" = .error ⟨.repeated 'g', "gg"⟩ ∧
      classifyWithFlags "[\\u{61}-z]\\1(a)" "gg" = .error ⟨.repeated 'g', "gg"⟩ ∧
      Mode.parse "yu" = .ok { unicode := true, sticky := true } ∧
      classifyWithFlags "[\\u{61}-z]\\1(a)" "yu" =
        classify "[\\u{61}-z]\\1(a)" { unicode := true, sticky := true } ∧
      classify "[\\u{61}-z]\\1(a)" { unicode := true, sticky := true } =
        classify "[\\u{61}-z]\\1(a)" { unicode := decide ('u' ∈ "yu".toList) } :=
  have hgg : Mode.parse "gg" = .error ⟨.repeated 'g', "gg"⟩ := by decide
  have hyu : Mode.parse "yu" = .ok { unicode := true, sticky := true } := by decide
  ⟨(classify_reads_only_unicode "[\\u{61}-z]\\1(a)").1 _ _ rfl rfl rfl, hgg,
    ((classify_reads_only_unicode "[\\u{61}-z]\\1(a)").2 "gg").1 _ hgg, hyu,
    ((classify_reads_only_unicode "[\\u{61}-z]\\1(a)").2 "yu").2 _ hyu⟩

end RegexHighlight
