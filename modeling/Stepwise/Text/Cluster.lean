import Stepwise.Text.BreakClass

/-!
# Clusters

On a screen the characters that a reader takes for one stay together: a letter and its marks, the
letters of a Hangul syllable or of a conjunct, a flag, an emoji made of others. A cluster is such
a group, as the extended grapheme clusters of Unicode have it.
-/

namespace Stepwise.Text

/-- What a cluster ends in, as far as the next character's place hangs on it. -/
structure ClusterEnd where
  /-- The class of the last character. -/
  last : BreakClass
  /-- Whether the last character is the second letter of a flag. -/
  isFlag : Bool := false
  /-- Whether the cluster ends in a consonant and marks, and if it does, whether a linker is among
  these. -/
  linked : Option Bool := none
  /-- Whether the cluster ends in a pictograph and marks, with at most one joiner at the end. -/
  isPictograph : Bool := false
deriving DecidableEq, Repr, Inhabited

namespace ClusterEnd

/-- Whether a character of this class belongs to the cluster. -/
def takes (before : ClusterEnd) (next : BreakClass) : Bool :=
  if before.last == .carriageReturn && next == .lineFeed then true
  else if before.last.isBreak || next.isBreak then false
  else if before.last.sameSyllable next || next.isMark || before.last == .leadingSign then true
  else if next == .consonant then before.linked == some true
  else if next == .pictograph then before.last == .joiner && before.isPictograph
  else next == .flagLetter && before.last == .flagLetter && !before.isFlag

/-- The end of the cluster after one more character of it. -/
def push (before : ClusterEnd) (c : Char) : ClusterEnd :=
  let next := BreakClass.ofChar c
  { last := next
    isFlag := next == .flagLetter && before.last == .flagLetter && !before.isFlag
    linked :=
      if next == .consonant then some false
      else if next != .extender && next != .joiner || c.toNat == 0x200c then none
      else if isLinker c then before.linked.map fun _ => true
      else before.linked
    isPictograph :=
      next == .pictograph ||
        before.isPictograph && before.last != .joiner && (next == .extender || next == .joiner) }

/-- The end of the cluster of one character. -/
def ofChar (c : Char) : ClusterEnd :=
  push { last := .control } c

end ClusterEnd

/-- The clusters of a text that goes on from a cluster, of which are given its end and, last one
first, its characters. -/
def clustersFrom (before : ClusterEnd) (earlier : List Char) : List Char → List (List Char)
  | [] => [earlier.reverse]
  | c :: cs =>
    if before.takes (.ofChar c) then clustersFrom (before.push c) (c :: earlier) cs
    else earlier.reverse :: clustersFrom (.ofChar c) [c] cs

/-- The clusters of a text, in order. -/
def clusters : List Char → List (List Char)
  | [] => []
  | c :: cs => clustersFrom (.ofChar c) [c] cs

end Stepwise.Text
