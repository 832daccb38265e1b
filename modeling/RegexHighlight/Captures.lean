import RegexHighlight.Token

/-!
# Capturing groups

A backreference may name a group that opens later in the pattern, so the capturing groups of
the whole pattern are counted before classification starts. A group captures when its opening
is a bare `(` or a named opening `(?<name>`. The count is kept as a 32-bit word that stops at
its largest value, and names given twice are collected once: classification reports them.
-/

namespace RegexHighlight

namespace Opening

/-- The name of a named group opening `(?<name>`. -/
def captureName? (opening : List Char) : Option (List Char) :=
  match opening with
  | '(' :: '?' :: '<' :: rest =>
    if rest.getLast? = some '>' && Shape.nameExtent rest = some (rest.length - 1) then
      some rest.dropLast
    else none
  | _ => none

/-- Whether a group opening starts a capturing group. -/
def isCapturing (opening : List Char) : Bool :=
  opening = ['('] || (captureName? opening).isSome

/-- Whether a group opening starts a lookaround: `(?=`, `(?!`, `(?<=` or `(?<!`. -/
def isLookaround (opening : List Char) : Bool :=
  opening = ['(', '?', '='] || opening = ['(', '?', '!'] ||
    opening = ['(', '?', '<', '='] || opening = ['(', '?', '<', '!']

end Opening

/-- The largest value of a 32-bit unsigned word, where counts and group numbers stop. -/
def wordLimit : Nat := 4294967295

/-- What is known about the capturing groups of a whole pattern. -/
structure Captures where
  /-- The number of capturing groups, stopping at `wordLimit`. -/
  total : Nat
  /-- The names of the named groups, each once, in order of first appearance. -/
  names : List (List Char)
deriving DecidableEq, Repr

namespace Captures

/-- Adds one capturing group opening to the count. -/
def add (info : Captures) (opening : List Char) : Captures :=
  let names := match Opening.captureName? opening with
    | some name => if info.names.contains name then info.names else info.names ++ [name]
    | none => info.names
  ⟨min (info.total + 1) wordLimit, names⟩

/-- The capturing groups among the top-level tokens of a pattern. -/
def ofTokens (tokens : List Token) : Captures :=
  (tokens.filter fun t => t.kind = .groupOpen && Opening.isCapturing t.text).foldl
    (fun info t => info.add t.text) ⟨0, []⟩

/-- Whether the pattern has a named group. -/
def hasNames (info : Captures) : Bool := !info.names.isEmpty

end Captures

end RegexHighlight
