import RegexHighlight.Proofs.ClassTracking

/-!
# Ranges in a character class

The grammar of a class reads its interior as atoms, a run of characters giving one atom per
character and a hyphen counting as an atom too, and takes them greedily from the left: an atom
followed by a hyphen and some further atom makes a range with them, and otherwise stands alone
(`ClassItem.read`). The hyphen of a range `a-b` is an invalid range when an endpoint is a class
escape such as `\d`, or when both endpoints stand for code points and they are reversed; every
other hyphen is a plain class character (`rangeHyphens`).

The classifier never builds the items. It reads whole tokens with a `RangeContext`, which stands
for a state of the greedy reader (`RangeContext.Reads`): at the start of an item, after an atom
that may start a range, or after the hyphen of a range. Each token keeps that relation, so the
classifier gives every hyphen the category the grammar gives it (`hyphenCategories_start`), and
so does every class of a pattern (`classify_reads_class_ranges`).

The two endpoints are not read alike. The start of a range stands for the character an escape
writes only when the escape is complete and allowed in the mode (`ClassToken.code`), but the
end is read by `codePoint` alone, so an escape that the Unicode-aware rules reject, such as
`\a`, still stands for its character at the end of a range (`invalid_escape_ends_range`). That
is the only place the two readings differ (`escape_invalid_of_codePoint_ne_code`).
-/

namespace RegexHighlight

namespace ClassToken

/-- The atom of one character. -/
def char (c : Char) : ClassToken := ⟨.literal, [c]⟩

/-- The atoms of a class token: a run of characters gives one atom per character. -/
def atoms (t : ClassToken) : List ClassToken :=
  match t.kind with
  | .literal => t.text.map char
  | _ => [t]

/-- The code point an atom stands for at the start of a range: a character stands for itself,
and an escape for the character it writes when it is complete and allowed in the mode. -/
def code (unicode : Bool) (t : ClassToken) : Option Nat :=
  if t.kind = .escape ∧ (isIncomplete unicode t.text || unicode && !isUnicodeEscape t.text) = true
  then none
  else codePoint unicode t.text

/-- The categories of the hyphens among one atom, when it stands alone. -/
def lone (t : ClassToken) : List Category :=
  if t.kind = .hyphen then [.classBody] else []

/-- What the class lexer gives: a run holds at least one character and neither `\` nor `-`, a
hyphen is the character `-` alone, and an escape starts with `\`. -/
def Lexed (t : ClassToken) : Prop :=
  match t.kind with
  | .literal => t.text ≠ [] ∧ '\\' ∉ t.text ∧ '-' ∉ t.text
  | .hyphen => t.text = ['-']
  | .escape => t.text.head? = some '\\'

/-- The tokens of a class interior are lexed. -/
theorem lexed_classTokenize (unicode : Bool) (cs : List Char) :
    ∀ t ∈ classTokenize unicode cs, t.Lexed := by
  intro t ht
  obtain ⟨c, rest, rfl⟩ := exists_shape_of_mem_classTokenize ht
  unfold shape
  by_cases hb : c = '\\'
  · simp [Lexed, hb]
  by_cases hh : c = '-'
  · simp [Lexed, hh]
  simp only [if_neg hb, if_neg hh, Lexed]
  -- a run takes the characters up to the next `\` or `-`
  rw [(List.prefix_iff_eq_take.1 (List.takeWhile_prefix _)).symm]
  have hrun := List.all_eq_true.1 (List.all_takeWhile (l := rest)
    (p := fun d => decide (d ≠ '\\') && decide (d ≠ '-')))
  refine ⟨List.cons_ne_nil _ _, fun hm => ?_, fun hm => ?_⟩
  · rcases List.mem_cons.1 hm with hc | hm
    · exact hb hc.symm
    · simpa using hrun _ hm
  · rcases List.mem_cons.1 hm with hc | hm
    · exact hh hc.symm
    · simpa using hrun _ hm

theorem codePoint_cons {c : Char} (hc : c ≠ '\\') (unicode : Bool) (cs : List Char) :
    codePoint unicode (c :: cs) = some c.toNat := by
  unfold codePoint
  split
  · next h => exact absurd (List.cons.inj h).1 hc
  · next h => rw [(List.cons.inj h).1]
  · next h => cases h

theorem isClassEscape_cons {c : Char} (hc : c ≠ '\\') (unicode : Bool) (cs : List Char) :
    isClassEscape unicode (c :: cs) = false := by
  cases cs <;> simp [isClassEscape, hc]

theorem code_char {c : Char} (hc : c ≠ '\\') (unicode : Bool) :
    (char c).code unicode = some c.toNat := by
  simp [code, char, codePoint_cons hc]

theorem code_hyphen (unicode : Bool) : code unicode ⟨.hyphen, ['-']⟩ = some '-'.toNat := rfl

/-- An incomplete escape is no class escape, and stands for no code point. -/
theorem isIncomplete_cases {unicode : Bool} {text : List Char}
    (h : isIncomplete unicode text = true) :
    isClassEscape unicode text = false ∧ codePoint unicode text = none := by
  simp only [isIncomplete, Bool.or_eq_true, Bool.and_eq_true, decide_eq_true_eq] at h
  rcases h with (((rfl | rfl) | rfl) | rfl) | ⟨rfl, rfl | rfl⟩ <;> (try cases unicode) <;> decide

/-- A property escape `\p{…}` or `\P{…}` is no escape the Unicode-aware rules allow otherwise,
and stands for no code point. -/
theorem property_escape {p : Char} (hp : p = 'p' ∨ p = 'P') (rest : List Char) :
    isUnicodeEscape ('\\' :: p :: '{' :: rest) = false ∧
      codePoint true ('\\' :: p :: '{' :: rest) = none := by
  rcases hp with rfl | rfl <;>
    simp [isUnicodeEscape, Shape.isSyntaxChar, codePoint, CodePoint.ofEscape, Shape.isOctal]

/-- A class escape stands for no code point, and under the Unicode-aware rules it is no escape
those rules allow otherwise. -/
theorem isClassEscape_cases {unicode : Bool} {text : List Char}
    (h : isClassEscape unicode text = true) :
    codePoint unicode text = none ∧ (unicode = true → isUnicodeEscape text = false) := by
  simp only [isClassEscape, Bool.or_eq_true, Bool.and_eq_true, decide_eq_true_eq] at h
  rcases h with (((((rfl | rfl) | rfl) | rfl) | rfl) | rfl) | ⟨rfl, hp⟩
  all_goals try (cases unicode <;> decide)
  -- a property escape, read only under the Unicode-aware rules
  obtain ⟨p, rest, rfl, hpP⟩ : ∃ p rest, text = '\\' :: p :: '{' :: rest ∧ (p = 'p' ∨ p = 'P') := by
    rcases text with _ | ⟨a, _ | ⟨b, _ | ⟨c, rest⟩⟩⟩ <;> simp at hp
    rcases hp with ⟨rfl, rfl, rfl⟩ | ⟨rfl, rfl, rfl⟩
    · exact ⟨'p', rest, rfl, .inl rfl⟩
    · exact ⟨'P', rest, rfl, .inr rfl⟩
  exact ⟨(property_escape hpP rest).2, fun _ => (property_escape hpP rest).1⟩

theorem code_of_isClassEscape {unicode : Bool} {text : List Char}
    (h : isClassEscape unicode text = true) : code unicode ⟨.escape, text⟩ = none := by
  obtain ⟨hcode, -⟩ := isClassEscape_cases h
  simp [code, hcode]

/-- The first atom of a lexed token stands for the code point the token stands for, and is a
class escape when the token is. -/
theorem exists_head_atoms {n : ClassToken} (h : n.Lexed) (unicode : Bool) :
    ∃ b rest, n.atoms = b :: rest ∧ codePoint unicode b.text = codePoint unicode n.text ∧
      isClassEscape unicode b.text = isClassEscape unicode n.text := by
  obtain ⟨kind, text⟩ := n
  cases kind with
  | literal =>
      obtain ⟨hne, hb, -⟩ := h
      obtain ⟨c, cs, rfl⟩ := List.exists_cons_of_ne_nil hne
      have hc : c ≠ '\\' := fun hc => hb (hc ▸ List.mem_cons_self)
      exact ⟨char c, cs.map char, rfl, by simp [char, codePoint_cons hc],
        by simp [char, isClassEscape_cons hc]⟩
  | hyphen => exact ⟨_, [], rfl, rfl, rfl⟩
  | escape => exact ⟨_, [], rfl, rfl, rfl⟩

/-- A lexed token is the character `-` exactly when it is a hyphen. -/
theorem text_eq_hyphen_iff {t : ClassToken} (h : t.Lexed) : t.text = ['-'] ↔ t.kind = .hyphen := by
  obtain ⟨kind, text⟩ := t
  cases kind with
  | literal => exact ⟨fun ht => absurd (ht ▸ List.mem_singleton_self _) h.2.2, fun hk => by cases hk⟩
  | hyphen => exact ⟨fun _ => rfl, fun _ => h⟩
  | escape =>
      refine ⟨fun ht => ?_, fun hk => by cases hk⟩
      have hhead : text.head? = some '\\' := h
      have ht' : text = ['-'] := ht
      simp [ht'] at hhead

end ClassToken

open ClassToken

/-- An item of a class as its grammar reads it: an atom that stands alone, or a range `a-b`. -/
inductive ClassItem
  | single (a : ClassToken)
  | range (a h b : ClassToken)
deriving DecidableEq, Repr

namespace ClassItem

/-- Reads atoms into items greedily from the left: an atom followed by a hyphen and a further
atom makes a range with them, and otherwise stands alone. -/
def read : List ClassToken → List ClassItem
  | a :: tail@(h :: b :: rest) =>
    if h.kind = .hyphen then range a h b :: read rest else single a :: read tail
  | atoms => atoms.map single

/-- The category of the hyphen of a range from `a` to `b`: an invalid range when an endpoint is
a class escape, or when `a` stands for a larger code point than `b`. -/
def rangeCategory (unicode : Bool) (a b : ClassToken) : Category :=
  let reversed := match a.code unicode, codePoint unicode b.text with
    | some lo, some hi => decide (lo > hi)
    | _, _ => false
  if reversed || isClassEscape unicode a.text || isClassEscape unicode b.text then
    .error .invalidRange
  else .rangeHyphen

/-- The categories of the hyphens of an item, in order. -/
def hyphens (unicode : Bool) : ClassItem → List Category
  | single a => a.lone
  | range a _ b => a.lone ++ rangeCategory unicode a b :: b.lone

end ClassItem

/-- The categories the grammar gives the hyphens among a list of atoms, in order. -/
def rangeHyphens (unicode : Bool) (atoms : List ClassToken) : List Category :=
  (ClassItem.read atoms).flatMap (ClassItem.hyphens unicode)

/-- A state of the greedy reader between two atoms. -/
inductive RangeReader
  /-- The next atom starts an item. -/
  | free
  /-- The atom `a` started an item, which the next atoms may make a range. -/
  | after (a : ClassToken)
  /-- The hyphen of a range was read, and the next atom ends the range. -/
  | toEnd

namespace RangeReader

/-- The categories the grammar gives the hyphens among the atoms still to read. -/
def hyphens (unicode : Bool) : RangeReader → List ClassToken → List Category
  | free, atoms => rangeHyphens unicode atoms
  | after a, h :: b :: rest =>
    if h.kind = .hyphen then
      ClassItem.rangeCategory unicode a b :: b.lone ++ rangeHyphens unicode rest
    else rangeHyphens unicode (h :: b :: rest)
  | after _, atoms => rangeHyphens unicode atoms
  | toEnd, [] => []
  | toEnd, b :: rest => b.lone ++ rangeHyphens unicode rest

variable {unicode : Bool}

@[simp] theorem hyphens_free (atoms : List ClassToken) :
    free.hyphens unicode atoms = rangeHyphens unicode atoms := rfl

@[simp] theorem hyphens_toEnd_cons (b : ClassToken) (rest : List ClassToken) :
    toEnd.hyphens unicode (b :: rest) = b.lone ++ rangeHyphens unicode rest := rfl

/-- Reading from the start of an item is reading its first atom, then going on after it. -/
theorem rangeHyphens_cons (a : ClassToken) (xs : List ClassToken) :
    rangeHyphens unicode (a :: xs) = a.lone ++ (after a).hyphens unicode xs := by
  match xs with
  | [] => simp [rangeHyphens, ClassItem.read, ClassItem.hyphens, hyphens]
  | [h] => simp [rangeHyphens, ClassItem.read, ClassItem.hyphens, hyphens]
  | h :: b :: rest =>
      by_cases hh : h.kind = .hyphen <;>
        simp [rangeHyphens, ClassItem.read, ClassItem.hyphens, hyphens, hh]

@[simp] theorem hyphens_nil (r : RangeReader) : r.hyphens unicode [] = [] := by
  cases r <;> simp [hyphens, rangeHyphens, ClassItem.read]

theorem hyphens_after_of_ne {h : ClassToken} (hh : h.kind ≠ .hyphen) (a : ClassToken)
    (ys : List ClassToken) :
    (after a).hyphens unicode (h :: ys) = rangeHyphens unicode (h :: ys) := by
  cases ys <;> simp [hyphens, hh]

/-- An atom other than a hyphen starts an item, unless a range waits for its end. -/
theorem hyphens_cons_of_ne {r : RangeReader} (hr : r ≠ toEnd) {a : ClassToken}
    (ha : a.kind ≠ .hyphen) (ys : List ClassToken) :
    r.hyphens unicode (a :: ys) = (after a).hyphens unicode ys := by
  have hlone : a.lone = [] := by simp [lone, ha]
  cases r with
  | free => rw [hyphens_free, rangeHyphens_cons, hlone, List.nil_append]
  | after a' => rw [hyphens_after_of_ne ha, rangeHyphens_cons, hlone, List.nil_append]
  | toEnd => exact absurd rfl hr

/-- Within a run, only its last character may start a range. -/
theorem hyphens_run {r : RangeReader} (hr : r ≠ toEnd) (c : Char) (cs : List Char)
    (xs : List ClassToken) :
    r.hyphens unicode ((c :: cs).map char ++ xs) =
      (after (char (cs.getLast?.getD c))).hyphens unicode xs := by
  induction cs generalizing r c with
  | nil => exact hyphens_cons_of_ne hr (by simp [char]) xs
  | cons d cs ih =>
      rw [List.map_cons, List.cons_append, hyphens_cons_of_ne hr (by simp [char]), ih (by simp),
        List.getLast?_cons,
        Option.getD_some]

end RangeReader

open RangeReader

/-- The context the classifier carries stands for a state of the greedy reader: no atom waits
at the start of an item; or one does, the context keeps its code point and whether it is a
class escape; or the hyphen of a range was just read. -/
def RangeContext.Reads (unicode : Bool) (ctx : RangeContext) : RangeReader → Prop
  | .free => ctx.rangeable = false ∧ ctx.last ≠ .rangeHyphen
  | .after a => ctx.rangeable = true ∧ ctx.last ≠ .rangeHyphen ∧ ctx.code = a.code unicode ∧
      (ctx.last = .shorthand ↔ isClassEscape unicode a.text = true)
  | .toEnd => ctx.rangeable = false ∧ ctx.last = .rangeHyphen

namespace CharClass

/-- The categories the classifier gives the hyphens of a class interior, in order. -/
def hyphenCategories (unicode : Bool) (ctx : RangeContext) (ts : List ClassToken) : List Category :=
  ((ts.zip (categories unicode ctx ts)).filter fun p => p.1.kind = .hyphen).map Prod.snd

variable {unicode : Bool} {ctx : RangeContext}

theorem hyphenCategories_literal (text : List Char) (ts : List ClassToken) :
    hyphenCategories unicode ctx (⟨.literal, text⟩ :: ts) =
      hyphenCategories unicode (literal ctx text).2 ts := by
  simp [hyphenCategories, categories]

theorem hyphenCategories_escape (text : List Char) (ts : List ClassToken) :
    hyphenCategories unicode ctx (⟨.escape, text⟩ :: ts) =
      hyphenCategories unicode (escape unicode ctx text).2 ts := by
  simp [hyphenCategories, categories]

theorem hyphenCategories_hyphen (text : List Char) (ts : List ClassToken) :
    hyphenCategories unicode ctx (⟨.hyphen, text⟩ :: ts) =
      (hyphen unicode ctx ts.head?).1 ::
        hyphenCategories unicode (hyphen unicode ctx ts.head?).2 ts := by
  simp [hyphenCategories, categories]

/-- The context after an escape: whether it is a class escape, and its code point at the start
of a range. -/
theorem escape_snd (text : List Char) :
    (escape unicode ctx text).2 =
      ctx.after (if isClassEscape unicode text then .shorthand else .none)
        (code unicode ⟨.escape, text⟩) := by
  unfold escape
  by_cases hi : isIncomplete unicode text = true
  · simp [hi, (isIncomplete_cases hi).1, code]
  by_cases hc : isClassEscape unicode text = true
  · simp [hi, hc, code_of_isClassEscape hc]
  by_cases hv : (unicode && !isUnicodeEscape text) = true
  · simp only [hi, hc, hv, if_false, if_true, Bool.false_eq_true]
    simp [code, hv]
  · simp only [hi, hc, hv, if_false, Bool.false_eq_true]
    simp [code, hi, hv]

end CharClass

open CharClass

namespace RangeContext

variable {unicode : Bool} {ctx : RangeContext} {r : RangeReader}

/-- The context after a character that may start a range. -/
theorem reads_char {c : Char} (hc : c ≠ '\\') :
    (⟨true, .none, some c.toNat⟩ : RangeContext).Reads unicode (.after (char c)) := by
  refine ⟨rfl, by simp, (code_char hc unicode).symm, ?_⟩
  simp [char, isClassEscape_cons hc]

theorem Reads.last_ne (h : ctx.Reads unicode r) (hr : r ≠ .toEnd) : ctx.last ≠ .rangeHyphen := by
  cases r with
  | free => exact h.2
  | after a => exact h.2.1
  | toEnd => exact absurd rfl hr

theorem Reads.literal (h : ctx.Reads unicode r) {c : Char} {cs : List Char}
    (hb : '\\' ∉ c :: cs) (xs : List ClassToken) :
    ∃ r', (CharClass.literal ctx (c :: cs)).2.Reads unicode r' ∧
      r.hyphens unicode ((c :: cs).map char ++ xs) = r'.hyphens unicode xs := by
  have hctx : CharClass.literal ctx (c :: cs) =
      (.classBody, ⟨(c :: cs).length ≥ 2 || ctx.last != .rangeHyphen, .none,
        some (cs.getLast?.getD c).toNat⟩) := by
    simp [CharClass.literal, List.getLast?_cons]
  -- the last character of the run, the one that may start a range
  have hd : ∀ {c : Char} {cs : List Char}, '\\' ∉ c :: cs → cs.getLast?.getD c ≠ '\\' :=
    fun hb hd => hb (hd ▸ List.mem_of_getLast? List.getLast?_cons)
  by_cases hr : r = .toEnd
  · -- the run's first character ends a range
    subst hr
    obtain ⟨-, hlast⟩ := h
    rw [hctx, List.map_cons, List.cons_append]
    cases cs with
    | nil => exact ⟨.free, by simp [Reads, hlast], by simp [hyphens, lone, char]⟩
    | cons d cs =>
        refine ⟨.after (char (cs.getLast?.getD d)), ?_, ?_⟩
        · simpa [List.getLast?_cons] using
            @reads_char unicode _ (hd fun h => hb (List.mem_cons_of_mem _ h))
        · rw [hyphens_toEnd_cons, show (char c).lone = [] from rfl, List.nil_append]
          exact hyphens_run (r := .free) (by simp) d cs xs
  · refine ⟨.after (char (cs.getLast?.getD c)), ?_, hyphens_run hr c cs xs⟩
    have hbne : (ctx.last != .rangeHyphen) = true := bne_iff_ne.2 (h.last_ne hr)
    rw [hctx]
    simpa [hbne] using @reads_char unicode _ (hd hb)

theorem Reads.escape (h : ctx.Reads unicode r) (text : List Char) (xs : List ClassToken) :
    ∃ r', (CharClass.escape unicode ctx text).2.Reads unicode r' ∧
      r.hyphens unicode (⟨.escape, text⟩ :: xs) = r'.hyphens unicode xs := by
  rw [escape_snd]
  have hshort :
      (if isClassEscape unicode text then RangeLast.shorthand else .none) ≠ .rangeHyphen := by
    split <;> simp
  by_cases hr : r = .toEnd
  · -- the escape ends a range
    subst hr
    refine ⟨.free, ⟨by simp [after, h.2], hshort⟩, ?_⟩
    rw [hyphens_toEnd_cons]
    rfl
  · refine ⟨.after ⟨.escape, text⟩, ⟨by simp [after, h.last_ne hr], hshort, rfl, ?_⟩,
      hyphens_cons_of_ne hr (by simp) xs⟩
    split <;> simp_all [after]

theorem Reads.hyphen (h : ctx.Reads unicode r) {ts : List ClassToken} (hts : ∀ n ∈ ts, n.Lexed) :
    ∃ r', (CharClass.hyphen unicode ctx ts.head?).2.Reads unicode r' ∧
      r.hyphens unicode (⟨.hyphen, ['-']⟩ :: ts.flatMap atoms) =
        (CharClass.hyphen unicode ctx ts.head?).1 :: r'.hyphens unicode (ts.flatMap atoms) := by
  -- a hyphen that stands alone, after which it may start a range itself
  have hplain : ctx.last ≠ .rangeHyphen →
      (ctx.after .none (some '-'.toNat)).Reads unicode (.after ⟨.hyphen, ['-']⟩) := fun hl =>
    ⟨by simp [after, hl], by simp [after], (code_hyphen unicode).symm,
      by simp [after, isClassEscape]⟩
  cases r with
  | free =>
      obtain ⟨hrange, hl⟩ := h
      simp only [CharClass.hyphen, hrange, Bool.not_false, if_true]
      exact ⟨_, hplain hl, by rw [hyphens_free, rangeHyphens_cons]; rfl⟩
  | toEnd =>
      obtain ⟨hrange, hl⟩ := h
      simp only [CharClass.hyphen, hrange, Bool.not_false, if_true]
      refine ⟨.free, ⟨by simp [after, hl], by simp [after]⟩, ?_⟩
      rw [hyphens_toEnd_cons]
      rfl
  | after a =>
      obtain ⟨hrange, hl, hcode, hshort⟩ := h
      cases ts with
      | nil =>
          simp only [CharClass.hyphen, hrange, Bool.not_true, List.head?_nil]
          exact ⟨_, hplain hl,
            by simp [hyphens, rangeHyphens, ClassItem.read, ClassItem.hyphens, lone]⟩
      | cons n ts =>
          -- the hyphen of a range, whose end is the first atom of the next token
          obtain ⟨b, rest, hatoms, hcp, hce⟩ := exists_head_atoms (hts n List.mem_cons_self) unicode
          have hsh : (ctx.last == .shorthand) = isClassEscape unicode a.text :=
            Bool.eq_iff_iff.2 (beq_iff_eq.trans hshort)
          simp only [CharClass.hyphen, hrange, Bool.not_true, List.head?_cons, Bool.false_eq_true,
            if_false]
          refine ⟨.toEnd, ⟨rfl, rfl⟩, ?_⟩
          rw [List.flatMap_cons, hatoms, List.cons_append]
          -- both sides compare the same two code points
          cases hlo : a.code unicode <;> cases hhi : codePoint unicode n.text <;>
            simp only [hyphens, if_true, ClassItem.rangeCategory, hcode, hlo, hcp, hhi, hce, hsh,
              List.cons_append]

end RangeContext

/-- Among lexed tokens, the texts `-` are the hyphens. -/
theorem map_snd_filter_zip {ts : List ClassToken} (hts : ∀ t ∈ ts, t.Lexed) (cs : List Category) :
    (((ts.map ClassToken.text).zip cs).filter (·.1 = ['-'])).map Prod.snd =
      ((ts.zip cs).filter fun p => p.1.kind = .hyphen).map Prod.snd := by
  induction ts generalizing cs with
  | nil => simp
  | cons t ts ih =>
      cases cs with
      | nil => simp
      | cons c cs =>
          have hrest := ih (fun t' ht' => hts t' (List.mem_cons_of_mem _ ht')) cs
          simp only [List.map_cons, List.zip_cons_cons, List.filter_cons,
            text_eq_hyphen_iff (hts t List.mem_cons_self)]
          split <;> simp [hrest]

/-- The classifier gives every hyphen of a class interior the category the grammar gives it. -/
theorem hyphenCategories_eq_hyphens {unicode : Bool} :
    ∀ (ts : List ClassToken), (∀ t ∈ ts, t.Lexed) → ∀ {ctx : RangeContext} {r : RangeReader},
      ctx.Reads unicode r → hyphenCategories unicode ctx ts = r.hyphens unicode (ts.flatMap atoms)
  | [], _, _, r, _ => by simp [hyphenCategories, categories]
  | ⟨kind, text⟩ :: ts, hts, ctx, r, h => by
      have ht : Lexed ⟨kind, text⟩ := hts _ List.mem_cons_self
      have hts' : ∀ t ∈ ts, t.Lexed := fun t ht => hts t (List.mem_cons_of_mem _ ht)
      rw [List.flatMap_cons]
      cases kind with
      | literal =>
          obtain ⟨hne, hb, -⟩ := ht
          obtain ⟨c, cs, rfl⟩ := List.exists_cons_of_ne_nil hne
          obtain ⟨r', h', heq⟩ := h.literal hb (ts.flatMap atoms)
          rw [hyphenCategories_literal, hyphenCategories_eq_hyphens ts hts' h']
          exact heq.symm
      | hyphen =>
          obtain rfl : text = ['-'] := ht
          obtain ⟨r', h', heq⟩ := h.hyphen hts'
          rw [hyphenCategories_hyphen, hyphenCategories_eq_hyphens ts hts' h']
          exact heq.symm
      | escape =>
          obtain ⟨r', h', heq⟩ := h.escape text (ts.flatMap atoms)
          rw [hyphenCategories_escape, hyphenCategories_eq_hyphens ts hts' h']
          exact heq.symm

theorem hyphenCategories_start (unicode : Bool) (cs : List Char) :
    hyphenCategories unicode .start (classTokenize unicode cs) =
      rangeHyphens unicode ((classTokenize unicode cs).flatMap atoms) :=
  hyphenCategories_eq_hyphens _ (lexed_classTokenize unicode cs) (r := .free) ⟨rfl, by decide⟩

/- In `[a---b]` the first hyphen makes the range from `a` to `-`, which is reversed. The second
hyphen is the end of that range, and the third stands alone, since the atom before it belongs to
the range. -/
example :
    hyphenCategories false .start (classTokenize false "a---b".toList) =
      [.error .invalidRange, .classBody, .classBody] := by
  decide +kernel

/-! ## Where the two endpoints are read apart -/

/-- The end of a range is read by `codePoint`, the start by `ClassToken.code`; they differ only
at an escape that the classifier reports as invalid. -/
theorem escape_invalid_of_codePoint_ne_code {unicode : Bool} {t : ClassToken}
    (h : codePoint unicode t.text ≠ t.code unicode) (ctx : RangeContext) :
    t.kind = .escape ∧ (CharClass.escape unicode ctx t.text).1 = .error .invalidEscape := by
  obtain ⟨kind, text⟩ := t
  have hk : kind = .escape := by
    by_contra hk
    exact h (by simp [code, hk])
  subst hk
  refine ⟨rfl, ?_⟩
  have hi : isIncomplete unicode text = false := by
    by_contra hi
    exact h (by simp [code, (isIncomplete_cases (Bool.eq_true_of_not_eq_false hi)).2])
  have hv : (unicode && !isUnicodeEscape text) = true := by
    by_contra hv
    exact h (by simp_all [code])
  have hc : isClassEscape unicode text = false := by
    by_contra hc
    exact h (by rw [(isClassEscape_cases (Bool.eq_true_of_not_eq_false hc)).1,
      code_of_isClassEscape (Bool.eq_true_of_not_eq_false hc)])
  simp [CharClass.escape, hi, hc, hv]

/-! ## Whole patterns -/

/-- The pieces `-` of a class are its hyphens: neither its opening nor its closing is one. -/
theorem hyphen_pieces {unicode : Bool} {text : List Char} {post : List Token}
    (hext : ClassExtent text post) {ps : List Piece}
    (h : ps.map (fun q => (q.text.toList, q.category)) = CharClass.parts unicode text) :
    (ps.filter (·.text = "-")).map Piece.category =
      hyphenCategories unicode .start (classTokenize unicode (ClassParts.ofText text).interior) := by
  have hview : (ps.filter (·.text = "-")).map Piece.category =
      ((ps.map fun q => (q.text.toList, q.category)).filter (·.1 = ['-'])).map Prod.snd := by
    rw [List.filter_map, List.map_map]
    congr 1
    refine List.filter_congr fun q _ => ?_
    simp [← String.toList_inj]
  obtain ⟨-, hopen, hclose⟩ := hext
  have hopen' : (ClassParts.ofText text).opening ≠ ['-'] := by
    rcases hopen with ⟨ho, -⟩ | ho <;> simp [ho]
  -- the closing, when there is one, is `]`
  have hclosing : ((if (ClassParts.ofText text).closed then
      [((ClassParts.ofText text).closing, Category.classBoundary)] else []).filter
        (·.1 = ['-'])) = [] := by
    rcases hclose with ⟨hc, -⟩ | ⟨hc, -⟩ <;> simp [hc, ClassParts.closed]
  rw [hview, h, CharClass.parts]
  simp only [List.cons_append, List.filter_cons, hopen', decide_false, Bool.false_eq_true,
    if_false, List.filter_append, hclosing, List.append_nil]
  exact map_snd_filter_zip (lexed_classTokenize unicode _) _

/-- Every class of a pattern reads its ranges as the grammar does. The pieces of a
classification fall into one block per token; in the block of a class token, the pieces `-` are
the hyphens of its interior, in order, and each has the category the greedy grammar gives it
over the atoms of the interior: a plain class character when it stands alone, and when it is the
hyphen of a range `a-b`, an invalid range exactly when `a` or `b` is a class escape or `a` stands
for a larger code point than `b`, and a range hyphen otherwise. The start `a` stands for a code
point as `ClassToken.code` says, and the end `b` as `codePoint` says; the two differ only at an
escape the classifier reports as invalid. -/
theorem classify_reads_class_ranges (pattern : String) (mode : Mode)
    (hm : mode.unicodeSets = false) :
    (∃ blocks : List (Token × List Piece),
      blocks.map Prod.fst = tokenize mode.unicodeAware pattern.toList ∧
      classify pattern mode = .ok (blocks.map Prod.snd).flatten ∧
      ∀ b ∈ blocks, b.1.kind = .charClass →
        (b.2.filter (·.text = "-")).map Piece.category =
          rangeHyphens mode.unicodeAware
            ((classTokenize mode.unicodeAware (ClassParts.ofText b.1.text).interior).flatMap
              ClassToken.atoms)) ∧
    ∀ (t : ClassToken) (ctx : RangeContext),
      codePoint mode.unicodeAware t.text ≠ t.code mode.unicodeAware →
        t.kind = .escape ∧
          (CharClass.escape mode.unicodeAware ctx t.text).1 = .error .invalidEscape := by
  obtain ⟨blocks, hfst, hclassify, hparts⟩ := classify_blocks pattern mode hm
  refine ⟨⟨blocks, hfst, hclassify, fun b hb hk => ?_⟩,
    fun t ctx h => escape_invalid_of_codePoint_ne_code h ctx⟩
  obtain ⟨pre, post, hsplit⟩ :=
    List.append_of_mem (List.mem_map.2 ⟨b, hb, rfl⟩ : b.1 ∈ blocks.map Prod.fst)
  rw [hfst] at hsplit
  rw [hyphen_pieces (tokenize_class_extent hsplit hk) ((hparts b hb).1 hk), hyphenCategories_start]

theorem classify_reads_class_ranges_sample :
    ({ unicode := true } : Mode).unicodeSets = false ∧
      (∃ blocks : List (Token × List Piece),
        blocks.map Prod.fst = tokenize true "[\\w-z]".toList ∧
        classify "[\\w-z]" { unicode := true } = .ok (blocks.map Prod.snd).flatten ∧
        ∀ b ∈ blocks, b.1.kind = .charClass →
          (b.2.filter (·.text = "-")).map Piece.category =
            rangeHyphens true
              ((classTokenize true (ClassParts.ofText b.1.text).interior).flatMap ClassToken.atoms)) ∧
      ∀ (t : ClassToken) (ctx : RangeContext), codePoint true t.text ≠ t.code true →
        t.kind = .escape ∧ (CharClass.escape true ctx t.text).1 = .error .invalidEscape :=
  ⟨rfl, classify_reads_class_ranges "[\\w-z]" { unicode := true } rfl⟩

/-- The end of a range is read by the character an invalid escape escapes: under the
Unicode-aware rules `\a` is an invalid escape and stands for no code point at the start of a
range, yet in `[z-\a]` it ends a range that is reversed, since `a` comes before `z`. -/
theorem invalid_escape_ends_range :
    (classify "[z-\\a]" { unicode := true }).toOption.map (List.map fun q => (q.text, q.category)) =
        some [("[", .classBoundary), ("z", .classBody), ("-", .error .invalidRange),
          ("\\a", .error .invalidEscape), ("]", .classBoundary)] ∧
      ClassToken.code true ⟨.escape, ['\\', 'a']⟩ = none ∧
      codePoint true ['\\', 'a'] = some 'a'.toNat ∧ (ClassToken.char 'z').code true = some 'z'.toNat := by
  decide +kernel

end RegexHighlight
