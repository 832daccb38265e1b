import Mathlib.Data.List.Forall2
import Mathlib.Data.List.Induction
import RegexHighlight.Proofs.Step

/-!
# Group balance

Group openings and `)` are matched on one stack that holds every opening, valid or not: a bare
`(?` and an opening that repeats an earlier capture name are reported at once but still pushed,
so that their `)` is accounted for. `GroupReplay` replays only the group tokens of a pattern on
such a stack and says what each of them becomes (`GroupReplay.roles`).

Classification agrees with the replay exactly (`classify_groups`): read through
`Piece.groupView`, its pieces are the replay's entries, with the same spans and texts, in the
same order, and no other piece is a group boundary or carries a group diagnostic. The proof is a
simulation (`Classifier.Simulates`) between the classifier state and the replay, kept by every
step. Its last link is `finish`, which reports the openings still open through the piece indices
the stack holds; `roleIndex` turns those into positions among the group pieces.
-/

namespace RegexHighlight

/-- What a group token becomes. -/
inductive GroupRole
  /-- A group boundary, at any depth. -/
  | group
  | invalidGroupType
  | duplicateCaptureName
  | unbalancedLeftParen
  | unbalancedRightParen
deriving DecidableEq, Repr

/-- The group role a category stands for, if any. -/
def Category.groupRole? : Category → Option GroupRole
  | .group _ => some .group
  | .error .invalidGroupType => some .invalidGroupType
  | .error .duplicateCaptureName => some .duplicateCaptureName
  | .error .unbalancedLeftParen => some .unbalancedLeftParen
  | .error .unbalancedRightParen => some .unbalancedRightParen
  | _ => none

/-- A piece read for its group role, with its span and text. -/
def Piece.groupView (q : Piece) : Option (Span × String × GroupRole) :=
  q.category.groupRole?.map fun r => (q.span, q.text, r)

/-- Only group tokens give pieces with a group role. -/
theorem TokenKind.groupRole_eq_none {kind : TokenKind} {c : Category} (hk : kind.isGroup = false)
    (hc : kind.allows c = true) : c.groupRole? = none := by
  cases kind <;> cases c <;> simp_all [TokenKind.isGroup, TokenKind.allows, Category.groupRole?]
  all_goals (rename_i d; cases d <;> simp_all)

/-- The tokens of a pattern, each with the byte offset it starts at. -/
def withOffsets : Nat → List Token → List (Nat × Token)
  | _, [] => []
  | pos, t :: ts => (pos, t) :: withOffsets (pos + utf8Length t.text) ts

/-- The group tokens of a pattern with their byte offsets: its top-level openings and `)`, so
neither the parentheses inside a class nor escaped ones. -/
def groupTokens (unicode : Bool) (pattern : String) : List (Nat × Token) :=
  (withOffsets 0 (tokenize unicode pattern.toList)).filter (·.2.kind.isGroup)

/-- The replay of group tokens on one stack. -/
structure GroupReplay where
  /-- The names of all named openings so far. -/
  names : List (List Char)
  /-- The openings not yet closed, innermost first: the position of each among the entries,
  and whether it is valid. -/
  stack : List (Nat × Bool)
  /-- One entry per group token so far. -/
  out : List (Span × String × GroupRole)

namespace GroupReplay

/-- The entry of a group token with text `text` at byte `pos`. -/
def entry (pos : Nat) (text : List Char) (role : GroupRole) : Span × String × GroupRole :=
  (⟨pos, pos + utf8Length text⟩, String.ofList text, role)

/-- The same entry, reported as an opening that is never closed. -/
def unclosed (e : Span × String × GroupRole) : Span × String × GroupRole :=
  (e.1, e.2.1, .unbalancedLeftParen)

/-- An opening is `(?`, which is no group type, or repeats the name of an earlier named
opening, or is valid. -/
def openRole (names : List (List Char)) (text : List Char) : GroupRole :=
  if text = ['(', '?'] then .invalidGroupType
  else if (Opening.captureName? text).any names.contains then .duplicateCaptureName
  else .group

/-- Replays one group token: an opening is pushed whatever its role; a `)` pops the innermost
opening, if any, and closes a group only when that opening was valid. -/
def step (r : GroupReplay) (x : Nat × Token) : GroupReplay :=
  if x.2.kind = .groupOpen then
    let role := openRole r.names x.2.text
    { names := (Opening.captureName? x.2.text).toList ++ r.names
      stack := (r.out.length, decide (role = .group)) :: r.stack
      out := r.out ++ [entry x.1 x.2.text role] }
  else
    match r.stack with
    | (_, valid) :: rest =>
      { r with
          stack := rest
          out := r.out ++ [entry x.1 x.2.text (if valid then .group else .unbalancedRightParen)] }
    | [] => { r with out := r.out ++ [entry x.1 x.2.text .unbalancedRightParen] }

/-- The replay of a list of group tokens. -/
def run (xs : List (Nat × Token)) : GroupReplay := xs.foldl step ⟨[], [], []⟩

/-- The entries at the end: every valid opening still on the stack is never closed. -/
def final (r : GroupReplay) : List (Span × String × GroupRole) :=
  r.out.mapIdx fun j e => if r.stack.any (fun o => o.2 && o.1 == j) then unclosed e else e

/-- What each group token becomes. -/
def roles (xs : List (Nat × Token)) : List (Span × String × GroupRole) := (run xs).final

theorem step_groupOpen (r : GroupReplay) (pos : Nat) {t : Token} (hk : t.kind = .groupOpen) :
    r.step (pos, t) =
      ⟨(Opening.captureName? t.text).toList ++ r.names,
        (r.out.length, decide (openRole r.names t.text = .group)) :: r.stack,
        r.out ++ [entry pos t.text (openRole r.names t.text)]⟩ := by
  simp [step, hk]

theorem step_groupClose (r : GroupReplay) (pos : Nat) {t : Token} (hk : t.kind ≠ .groupOpen) :
    r.step (pos, t) =
      ⟨r.names, r.stack.tail,
        r.out ++ [entry pos t.text (if r.stack.head?.any (·.2) then .group else .unbalancedRightParen)]⟩ := by
  cases hs : r.stack with
  | nil => simp [step, hk, hs]
  | cons o rest =>
      obtain ⟨i, valid⟩ := o
      cases valid <;> simp [step, hk, hs]

theorem openRole_ne_unbalancedLeftParen (names : List (List Char)) (text : List Char) :
    openRole names text ≠ .unbalancedLeftParen := by
  unfold openRole
  split_ifs <;> simp

/-- What the replay keeps true: the stack holds positions of entries, latest first, and no
entry is reported as never closed before `final` does so. -/
structure WellFormed (r : GroupReplay) : Prop where
  lt_length : ∀ o ∈ r.stack, o.1 < r.out.length
  decreasing : (r.stack.map (·.1)).Pairwise (· > ·)
  not_unclosed : ∀ e ∈ r.out, e.2.2 ≠ .unbalancedLeftParen

theorem WellFormed.initial : WellFormed ⟨[], [], []⟩ := ⟨by simp, .nil, by simp⟩

theorem WellFormed.step {r : GroupReplay} (h : WellFormed r) (x : Nat × Token) :
    WellFormed (r.step x) := by
  obtain ⟨pos, t⟩ := x
  by_cases hk : t.kind = .groupOpen
  · -- an opening is pushed at the position of its new entry, past every position so far
    rw [step_groupOpen r pos hk]
    refine ⟨?_, ?_, ?_⟩
    · intro o ho
      rcases List.mem_cons.1 ho with rfl | ho
      · simp
      · have := h.lt_length o ho
        simp only [List.length_append, List.length_singleton]
        omega
    · refine List.pairwise_cons.2 ⟨fun a ha => ?_, h.decreasing⟩
      obtain ⟨o, ho, rfl⟩ := List.mem_map.1 ha
      exact h.lt_length o ho
    · intro e he
      rcases List.mem_append.1 he with he | he
      · exact h.not_unclosed e he
      · simp only [List.mem_singleton] at he
        simpa [he, entry] using openRole_ne_unbalancedLeftParen r.names t.text
  · -- a `)` pops, and its entry closes a group or is reported unbalanced
    rw [step_groupClose r pos hk]
    refine ⟨?_, ?_, ?_⟩
    · intro o ho
      have := h.lt_length o (List.mem_of_mem_tail ho)
      simp only [List.length_append, List.length_singleton]
      omega
    · rw [List.map_tail]
      exact h.decreasing.tail
    · intro e he
      rcases List.mem_append.1 he with he | he
      · exact h.not_unclosed e he
      · simp only [List.mem_singleton] at he
        split at he <;> simp [he, entry]

theorem WellFormed.run (xs : List (Nat × Token)) : WellFormed (GroupReplay.run xs) := by
  rw [GroupReplay.run]
  induction xs using List.reverseRecOn with
  | nil => exact WellFormed.initial
  | append_singleton xs x ih =>
      rw [List.foldl_append, List.foldl_cons, List.foldl_nil]
      exact ih.step x

end GroupReplay

/-- Marking list elements by their index, with marks that always count and on elements that
never do, counts the marked indices. -/
theorem countP_mapIdx_mark {α : Type} (l : List α) (marked : Nat → Bool) (f : α → α)
    (p : α → Bool) (hf : ∀ x, p (f x) = true) (hl : ∀ x ∈ l, p x = false) :
    (l.mapIdx fun j x => if marked j then f x else x).countP p =
      (List.range l.length).countP marked := by
  induction l using List.reverseRecOn with
  | nil => simp
  | append_singleton l x ih =>
      have hx : p x = false := hl x (by simp)
      rw [List.mapIdx_append, List.countP_append, ih (fun y hy => hl y (by simp [hy])),
        List.length_append, List.length_singleton, List.range_succ, List.countP_append]
      by_cases hm : marked l.length <;> simp [hm, hf, hx]

namespace GroupReplay

/-- The openings `final` reports as never closed are the valid openings left on the stack. -/
theorem WellFormed.countP_final {r : GroupReplay} (h : WellFormed r) :
    r.final.countP (fun e => e.2.2 = .unbalancedLeftParen) = r.stack.countP (·.2) := by
  have hout : ∀ e ∈ r.out, decide (e.2.2 = .unbalancedLeftParen) = false :=
    fun e he => by simpa using h.not_unclosed e he
  rw [final, countP_mapIdx_mark r.out _ unclosed _ (fun _ => by simp [unclosed]) hout]
  -- the marked positions are, in another order, the positions of the valid openings
  have hnodup : ((r.stack.filter (·.2)).map (·.1)).Nodup :=
    ((h.decreasing.sublist ((List.filter_sublist).map _)).imp Nat.ne_of_gt)
  have hmem : ∀ a, a ∈ (List.range r.out.length).filter
      (fun j => r.stack.any fun o => o.2 && o.1 == j) ↔ a ∈ (r.stack.filter (·.2)).map (·.1) := by
    intro a
    simp only [List.mem_filter, List.mem_range, List.any_eq_true, List.mem_map,
      Bool.and_eq_true, beq_iff_eq]
    constructor
    · rintro ⟨-, o, ho, hv, rfl⟩
      exact ⟨o, ⟨ho, hv⟩, rfl⟩
    · rintro ⟨o, ⟨ho, hv⟩, rfl⟩
      exact ⟨h.lt_length o ho, o, ho, hv, rfl⟩
  have hperm := (List.perm_ext_iff_of_nodup (List.nodup_range.filter _) hnodup).2 hmem
  rw [List.countP_eq_length_filter, hperm.length_eq, List.length_map, List.countP_eq_length_filter]

end GroupReplay

/-- The position, among the pieces with a group role, of the piece at index `i`. -/
def roleIndex (pieces : List Piece) (i : Nat) : Nat :=
  ((pieces.take i).filterMap Piece.groupView).length

theorem roleIndex_append_of_le {l : List Piece} {i : Nat} (l' : List Piece) (h : i ≤ l.length) :
    roleIndex (l ++ l') i = roleIndex l i := by
  rw [roleIndex, roleIndex, List.take_append_of_le_length h]

theorem roleIndex_length (l : List Piece) :
    roleIndex l l.length = (l.filterMap Piece.groupView).length := by
  rw [roleIndex, List.take_length]

/-- Pieces with a group role have increasing role indices. -/
theorem roleIndex_lt {l : List Piece} {i j : Nat} (hij : i < j) (hi : i < l.length)
    (hrole : (l[i].groupView).isSome) : roleIndex l i < roleIndex l j := by
  have htake : l.take (i + 1) <+: l.take j := List.take_prefix_take_left hij
  have hle := (htake.filterMap Piece.groupView).length_le
  have hsucc : ((l.take (i + 1)).filterMap Piece.groupView).length = roleIndex l i + 1 := by
    rw [← List.take_concat_get hi, List.concat_eq_append, List.filterMap_append]
    obtain ⟨e, he⟩ := Option.isSome_iff_exists.1 hrole
    simp [roleIndex, he]
  calc roleIndex l i < roleIndex l i + 1 := Nat.lt_succ_self _
    _ = ((l.take (i + 1)).filterMap Piece.groupView).length := hsucc.symm
    _ ≤ roleIndex l j := hle

theorem roleIndex_injective {l : List Piece} {i j : Nat} (hi : i < l.length) (hj : j < l.length)
    (hri : (l[i].groupView).isSome) (hrj : (l[j].groupView).isSome)
    (h : roleIndex l i = roleIndex l j) : i = j := by
  rcases Nat.lt_trichotomy i j with hlt | heq | hgt
  · exact absurd h (Nat.ne_of_lt (roleIndex_lt hlt hi hri))
  · exact heq
  · exact absurd h.symm (Nat.ne_of_lt (roleIndex_lt hgt hj hrj))

@[simp] theorem Piece.groupView_markUnclosed (q : Piece) :
    q.markUnclosed.groupView = some (q.span, q.text, .unbalancedLeftParen) := rfl

/-- Reporting pieces as unclosed, index by index, reads through `groupView` as reporting the
entries at their role indices, provided only pieces with a group role are reported. -/
theorem filterMap_groupView_mapIdx (l : List Piece) (P Q : Nat → Bool)
    (hP : ∀ i (h : i < l.length), P i = true → (l[i].groupView).isSome)
    (hPQ : ∀ i (h : i < l.length), (l[i].groupView).isSome → P i = Q (roleIndex l i)) :
    (l.mapIdx fun i q => if P i then q.markUnclosed else q).filterMap Piece.groupView =
      (l.filterMap Piece.groupView).mapIdx fun j e => if Q j then GroupReplay.unclosed e else e := by
  induction l using List.reverseRecOn with
  | nil => simp
  | append_singleton l q ih =>
      -- the pieces before `q` keep their indices and role indices
      have hl : ∀ i (h : i < l.length) (h' : i < (l ++ [q]).length), (l ++ [q])[i] = l[i] :=
        fun i h _ => List.getElem_append_left h
      have ih' := ih (fun i h hPi => by
          simpa [hl i h (by simp; omega)] using hP i (by simp; omega) hPi)
        (fun i h hr => by
          simpa [hl i h (by simp; omega), roleIndex_append_of_le [q] (Nat.le_of_lt h)] using
            hPQ i (by simp; omega) (by simpa [hl i h (by simp; omega)] using hr))
      have hlast : (l ++ [q])[l.length] = q := by simp
      have hidx : roleIndex (l ++ [q]) l.length = (l.filterMap Piece.groupView).length := by
        rw [roleIndex_append_of_le [q] (Nat.le_refl _), roleIndex_length]
      rw [List.mapIdx_append, List.filterMap_append, ih', List.filterMap_append,
        List.mapIdx_append]
      congr 1
      -- the last piece: reported exactly when its entry is
      cases hq : q.groupView with
      | none =>
          have hP' : P l.length = false := by
            by_contra hne
            have := hP l.length (by simp) (by simpa using hne)
            simp [hlast, hq] at this
          simp [hP', hq]
      | some e =>
          have hPQ' := hPQ l.length (by simp) (by simp [hlast, hq])
          rw [hidx] at hPQ'
          obtain ⟨span, text, role⟩ := e
          have he : q.span = span ∧ q.text = text := by
            simp only [Piece.groupView, Option.map_eq_some_iff] at hq
            obtain ⟨r, -, hr⟩ := hq
            simp only [Prod.mk.injEq] at hr
            exact ⟨hr.1, hr.2.1⟩
          by_cases hp : P l.length
          · simp [hp, ← hPQ', hq, GroupReplay.unclosed, he]
          · simp [hp, ← hPQ', hq]

theorem GroupReplay.openRole_congr {names names' : List (List Char)} (text : List Char)
    (h : ∀ n, n ∈ names ↔ n ∈ names') : openRole names text = openRole names' text := by
  have hc : names.contains = names'.contains := funext fun n =>
    Bool.eq_iff_iff.2 (by rw [List.contains_iff_mem, List.contains_iff_mem]; exact h n)
  simp [openRole, hc]

namespace Classifier

/-- The classifier reads an opening the way the replay does: its piece has the replay's role
(and, when valid, the depth of the stack below it), the group pushed for it is valid exactly when
that role is `group` and points at that piece, and a named opening adds its name. -/
theorem groupOpen_spec (s : Classifier) (pos : Nat) (text : List Char) :
    (∃ p, (s.groupOpen pos text).1.pieces.toList = s.pieces.toList ++ [p] ∧
      p.groupView = some (GroupReplay.entry pos text (GroupReplay.openRole s.names text)) ∧
      (GroupReplay.openRole s.names text = .group →
        p.category = .group (s.stack.length % 5 + 1))) ∧
    (s.groupOpen pos text).1.stack =
      ⟨decide (GroupReplay.openRole s.names text = .group), Opening.isLookaround text,
        s.pieces.size, s.stack.length % 5 + 1⟩ :: s.stack ∧
    ∀ n, n ∈ (s.groupOpen pos text).1.names ↔ n ∈ (Opening.captureName? text).toList ++ s.names := by
  by_cases h1 : text = ['(', '?']
  · subst h1
    simp [groupOpen, GroupReplay.openRole, GroupReplay.entry, piece, Piece.groupView,
      Category.groupRole?, Opening.captureName?]
  · cases hn : Opening.captureName? text with
    | none =>
        simp [groupOpen, GroupReplay.openRole, GroupReplay.entry, piece, Piece.groupView,
          Category.groupRole?, h1, hn]
    | some name =>
        by_cases hc : s.names.contains name
        · -- a repeated name: reported, and the name is already known
          have hmem : name ∈ s.names := by simpa using hc
          simp [groupOpen, GroupReplay.openRole, GroupReplay.entry, piece, Piece.groupView,
            Category.groupRole?, h1, hn, hmem]
        · have hmem : name ∉ s.names := by simpa using hc
          simp [groupOpen, GroupReplay.openRole, GroupReplay.entry, piece, Piece.groupView,
            Category.groupRole?, h1, hn, hmem]

/-- The classifier reads a `)` the way the replay does: it pops the innermost opening, if any,
and its piece is a group boundary exactly when that opening was valid. -/
theorem groupClose_spec (s : Classifier) (pos : Nat) (text : List Char) :
    (∃ p, (s.groupClose pos text).1.pieces.toList = s.pieces.toList ++ [p] ∧
      p.groupView = some (GroupReplay.entry pos text
        (if s.stack.head?.any (·.valid) then .group else .unbalancedRightParen))) ∧
    (s.groupClose pos text).1.stack = s.stack.tail ∧
    (s.groupClose pos text).1.names = s.names := by
  unfold groupClose
  split
  · next g rest hs =>
      by_cases hv : g.valid <;>
        simp [hs, hv, GroupReplay.entry, piece, Piece.groupView, Category.groupRole?]
  · next hs =>
      simp [hs, GroupReplay.entry, piece, Piece.groupView, Category.groupRole?]

/-- An open group on the classifier's stack tracks an opening on the replay's: both are valid
or both are not, and the group points at a piece with a group role whose role index is the
opening's position among the entries. -/
def Tracks (pieces : List Piece) (g : OpenGroup) (o : Nat × Bool) : Prop :=
  g.valid = o.2 ∧ ∃ h : g.index < pieces.length,
    (pieces[g.index].groupView).isSome ∧ roleIndex pieces g.index = o.1

theorem Tracks.append {pieces : List Piece} {g : OpenGroup} {o : Nat × Bool}
    (h : Tracks pieces g o) (new : List Piece) : Tracks (pieces ++ new) g o := by
  obtain ⟨hv, hlt, hrole, hidx⟩ := h
  refine ⟨hv, by simp; omega, ?_, ?_⟩
  · rwa [List.getElem_append_left hlt]
  · rw [roleIndex_append_of_le new (Nat.le_of_lt hlt), hidx]

/-- A group pushed for a new piece with a group role tracks the opening pushed at the end of
the entries. -/
theorem Tracks.push (pieces : List Piece) {p : Piece} (hp : p.groupView.isSome) (valid : Bool)
    (lookaround : Bool) (depth : Nat) :
    Tracks (pieces ++ [p]) ⟨valid, lookaround, pieces.length, depth⟩
      ((pieces.filterMap Piece.groupView).length, valid) := by
  refine ⟨rfl, by simp, by simpa using hp, ?_⟩
  rw [roleIndex_append_of_le [p] (Nat.le_refl _), roleIndex_length]

/-- The classifier state `s` and the replay `r` agree: the same capture names, the group pieces
of `s` are the entries of `r`, and the two stacks track each other level by level. -/
structure Simulates (s : Classifier) (r : GroupReplay) : Prop where
  names : ∀ n, n ∈ s.names ↔ n ∈ r.names
  out : s.pieces.toList.filterMap Piece.groupView = r.out
  stack : List.Forall₂ (Tracks s.pieces.toList) s.stack r.stack

theorem Simulates.initial (notes : Array Note) : Simulates ⟨[], [], #[], notes⟩ ⟨[], [], []⟩ :=
  ⟨fun _ => Iff.rfl, rfl, .nil⟩

variable {s : Classifier} {r : GroupReplay}

/-- A token other than a group token leaves the replay where it is. -/
theorem Simulates.step_of_not_group (hsim : Simulates s r) (setting : Setting) (ctx : Context)
    (pos : Nat) {t : Token} (ht : t.text ≠ []) (hk : t.kind.isGroup = false) :
    Simulates (s.step setting ctx pos t).1 r := by
  obtain ⟨new, hpieces, -, hallow⟩ := appends_step setting s pos ctx ht
  obtain ⟨hstack, hnames⟩ := frame_step setting s pos ctx hk
  -- the new pieces all have categories no group token gives
  have hnone : new.filterMap Piece.groupView = [] := by
    refine List.filterMap_eq_nil_iff.2 fun q hq => ?_
    simp [Piece.groupView, TokenKind.groupRole_eq_none hk (hallow q hq)]
  refine ⟨fun n => by rw [hnames]; exact hsim.names n, ?_, ?_⟩
  · rw [hpieces, List.filterMap_append, hnone, List.append_nil, hsim.out]
  · rw [hstack, hpieces]
    exact hsim.stack.imp fun _ _ hg => hg.append new

theorem Simulates.groupOpen (hsim : Simulates s r) (pos : Nat) {t : Token}
    (hk : t.kind = .groupOpen) : Simulates (s.groupOpen pos t.text).1 (r.step (pos, t)) := by
  obtain ⟨⟨p, hpieces, hp, -⟩, hstack, hnames⟩ := groupOpen_spec s pos t.text
  rw [GroupReplay.step_groupOpen r pos hk, ← GroupReplay.openRole_congr t.text hsim.names]
  refine ⟨fun n => (hnames n).trans ?_, ?_, ?_⟩
  · simp only [List.mem_append, hsim.names n]
  · rw [hpieces, List.filterMap_append, hsim.out]
    simp [hp]
  · rw [hstack, hpieces, ← Array.length_toList]
    refine .cons ?_ (hsim.stack.imp fun _ _ hg => hg.append [p])
    rw [← hsim.out]
    exact Tracks.push s.pieces.toList (by simp [hp]) _ _ _

/-- Tracking stacks have innermost groups that are valid together. -/
theorem Tracks.head_valid {pieces : List Piece} {gs : List OpenGroup} {os : List (Nat × Bool)}
    (h : List.Forall₂ (Tracks pieces) gs os) : gs.head?.any (·.valid) = os.head?.any (·.2) := by
  cases h with
  | nil => rfl
  | cons hg _ => simp [hg.1]

theorem Tracks.tail {pieces : List Piece} {gs : List OpenGroup} {os : List (Nat × Bool)}
    (h : List.Forall₂ (Tracks pieces) gs os) : List.Forall₂ (Tracks pieces) gs.tail os.tail := by
  cases h with
  | nil => exact .nil
  | cons _ hrest => exact hrest

theorem Simulates.groupClose (hsim : Simulates s r) (pos : Nat) {t : Token}
    (hk : t.kind = .groupClose) : Simulates (s.groupClose pos t.text).1 (r.step (pos, t)) := by
  obtain ⟨⟨p, hpieces, hp⟩, hstack, hnames⟩ := groupClose_spec s pos t.text
  rw [GroupReplay.step_groupClose r pos (by simp [hk]), ← Tracks.head_valid hsim.stack]
  refine ⟨fun n => by rw [hnames]; exact hsim.names n, ?_, ?_⟩
  · rw [hpieces, List.filterMap_append, hsim.out]
    simp [hp]
  · rw [hstack, hpieces]
    exact (Tracks.tail hsim.stack).imp fun _ _ hg => hg.append [p]

/-- One step of the classifier moves the replay by one step on a group token and not at all on
any other token. -/
theorem Simulates.step (hsim : Simulates s r) (setting : Setting) (ctx : Context) (pos : Nat)
    {t : Token} (ht : t.text ≠ []) :
    Simulates (s.step setting ctx pos t).1 (if t.kind.isGroup then r.step (pos, t) else r) := by
  obtain ⟨kind, text⟩ := t
  cases kind with
  | groupOpen => exact hsim.groupOpen pos rfl
  | groupClose => exact hsim.groupClose pos rfl
  | _ => exact hsim.step_of_not_group setting ctx pos ht rfl

/-- A run of the classifier simulates the replay of the group tokens it reads. -/
theorem Simulates.run (setting : Setting) {ts : List Token} (hts : ∀ t ∈ ts, t.text ≠ []) :
    ∀ {s : Classifier} {r : GroupReplay} (ctx : Context) (pos : Nat), Simulates s r →
      Simulates (Classifier.run setting s ctx pos ts)
        (((withOffsets pos ts).filter (·.2.kind.isGroup)).foldl GroupReplay.step r) := by
  induction ts with
  | nil => exact fun _ _ hsim => hsim
  | cons t ts ih =>
      intro s r ctx pos hsim
      have hstep := hsim.step setting ctx pos (hts t List.mem_cons_self)
      have hrest := ih (fun t' ht' => hts t' (List.mem_cons_of_mem _ ht'))
        (s.step setting ctx pos t).2 (pos + utf8Length t.text) hstep
      simp only [Classifier.run, withOffsets, List.filter_cons]
      by_cases hk : t.kind.isGroup <;> simpa [hk] using hrest

/-- Open groups on tracking stacks mark the pieces whose entries they track. -/
theorem Tracks.any_eq {pieces : List Piece} {gs : List OpenGroup} {os : List (Nat × Bool)}
    (h : List.Forall₂ (Tracks pieces) gs os) {i : Nat} (hi : i < pieces.length)
    (hrole : (pieces[i].groupView).isSome) :
    gs.any (fun g => g.valid && g.index == i) = os.any (fun o => o.2 && o.1 == roleIndex pieces i) := by
  induction h with
  | nil => rfl
  | @cons g o gs os hg _ ih =>
      obtain ⟨hv, hlt, hgr, hidx⟩ := hg
      -- distinct group pieces have distinct role indices
      have hiff : g.index = i ↔ o.1 = roleIndex pieces i :=
        ⟨fun h => by rw [← h, hidx], fun h => roleIndex_injective hlt hi hgr hrole (hidx.trans h)⟩
      have hbeq : (g.index == i) = (o.1 == roleIndex pieces i) := by
        exact Bool.eq_iff_iff.2 (by simpa only [beq_iff_eq] using hiff)
      rw [List.any_cons, List.any_cons, ih, hv, hbeq]

theorem Tracks.isSome_of_any {pieces : List Piece} {gs : List OpenGroup} {os : List (Nat × Bool)}
    (h : List.Forall₂ (Tracks pieces) gs os) {i : Nat} (hi : i < pieces.length)
    (hany : gs.any (fun g => g.valid && g.index == i) = true) : (pieces[i].groupView).isSome := by
  induction h with
  | nil => simp at hany
  | @cons g o gs os hg _ ih =>
      rcases Bool.or_eq_true _ _ ▸ List.any_cons ▸ hany with hgi | hany
      · obtain ⟨-, hlt, hgr, -⟩ := hg
        have hidx : g.index = i := (by simpa using hgi : g.valid = true ∧ g.index = i).2
        subst hidx
        exact hgr
      · exact ih hany

/-- Reporting the groups left open is replayed by reporting the valid openings left open. -/
theorem Simulates.finish (hsim : Simulates s r) :
    s.finish.pieces.toList.filterMap Piece.groupView = r.final := by
  rw [finish_pieces, GroupReplay.final, ← hsim.out]
  exact filterMap_groupView_mapIdx _ _ _
    (fun _ hi hany => Tracks.isSome_of_any hsim.stack hi hany)
    (fun _ hi hrole => Tracks.any_eq hsim.stack hi hrole)

end Classifier

/-- A piece is reported as a group never closed exactly when its group role says so. -/
theorem countP_unclosed_eq (pieces : List Piece) :
    pieces.countP (fun q => q.category = .error .unbalancedLeftParen) =
      (pieces.filterMap Piece.groupView).countP (fun e => e.2.2 = .unbalancedLeftParen) := by
  rw [List.countP_filterMap]
  congr 1
  funext q
  obtain ⟨span, text, c⟩ := q
  cases c <;> simp [Piece.groupView, Category.groupRole?]
  rename_i d
  cases d <;> simp

/-- Classification treats group tokens exactly as replaying them on one stack does. Read
through `groupView`, the pieces are the replay's entries: the same spans and texts in the same
order, and the roles the replay gives. So a `)` and the opening it pops are group boundaries when
that opening is valid, `(?` is no group type, a repeated name is reported, a `)` that pops an
invalid opening or finds the stack empty is unbalanced, every valid opening left on the stack is
reported as never closed, and no piece from another token has one of these categories. The
openings reported as never closed are as many as the valid openings left on the stack. -/
theorem classify_groups (pattern : String) (mode : Mode) (hm : mode.unicodeSets = false) :
    ∃ pieces, classify pattern mode = .ok pieces ∧
      pieces.filterMap Piece.groupView = GroupReplay.roles (groupTokens mode.unicodeAware pattern) ∧
      pieces.countP (fun q => q.category = .error .unbalancedLeftParen) =
        (GroupReplay.run (groupTokens mode.unicodeAware pattern)).stack.countP (·.2) := by
  have hts : ∀ t ∈ tokenize mode.unicodeAware pattern.toList, t.text ≠ [] :=
    fun _ ht => text_ne_nil_of_mem_tokenize ht
  have hsim := Classifier.Simulates.run (Setting.ofPattern mode pattern) hts .start 0
    (Classifier.Simulates.initial
      #[.started pattern mode.flags (Setting.ofPattern mode pattern).captures.total])
  have hroles : (Classifier.ofPattern mode pattern).finish.pieces.toList.filterMap
      Piece.groupView = GroupReplay.roles (groupTokens mode.unicodeAware pattern) :=
    hsim.finish
  refine ⟨_, classify_eq hm, hroles, ?_⟩
  rw [countP_unclosed_eq, hroles, GroupReplay.roles]
  exact (GroupReplay.WellFormed.run _).countP_final

theorem classify_groups_sample :
    ({} : Mode).unicodeSets = false ∧
    ∃ pieces, classify "(?<n>a)(?<n>))((?(" {} = .ok pieces ∧
      pieces.filterMap Piece.groupView = GroupReplay.roles (groupTokens false "(?<n>a)(?<n>))((?(") ∧
      pieces.countP (fun q => q.category = .error .unbalancedLeftParen) =
        (GroupReplay.run (groupTokens false "(?<n>a)(?<n>))((?(")).stack.countP (·.2) :=
  ⟨rfl, classify_groups "(?<n>a)(?<n>))((?(" {} rfl⟩

end RegexHighlight
