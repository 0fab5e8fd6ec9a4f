import Stepwise.Grammar.Fault

/-!
# Extents

Where a bracket closes, where a statement ends and where a list is divided is found by counting
brackets, before anything is read. Each search gives back pieces that make up the tokens it was
given: `partAt_tokens`, `partAtCloser_tokens`, `enclosed_tokens`, `bareStatement_tokens` and
`statement_tokens` say so.
-/

namespace Stepwise

/-! ## Pieces of a token list -/

/-- A token list divided at one of its tokens. -/
structure Parted where
  /-- The tokens before the dividing one. -/
  before : List Token
  /-- The dividing token. -/
  mark : Token
  /-- The tokens after it. -/
  after : List Token
deriving DecidableEq, Repr

/-- A token list divided between two of its tokens. -/
structure Cut where
  /-- The first piece. -/
  front : List Token
  /-- The second piece. -/
  rest : List Token
deriving DecidableEq, Repr

/-- A token list that starts with an opening bracket, divided at the closing one. -/
structure Enclosed where
  /-- The opening bracket. -/
  opener : Token
  /-- What stands between the brackets. -/
  inside : List Token
  /-- The closing bracket. -/
  closer : Token
  /-- What follows. -/
  after : List Token
deriving DecidableEq, Repr

namespace Parted

/-- The list that was divided. -/
def tokens (p : Parted) : List Token :=
  p.before ++ p.mark :: p.after

/-- The division of a longer list, one token having been put in front. -/
def cons (t : Token) (p : Parted) : Parted :=
  { p with before := t :: p.before }

/-- The cut right after the dividing token. -/
def cut (p : Parted) : Cut :=
  ⟨p.before ++ [p.mark], p.after⟩

@[simp] theorem tokens_cons (t : Token) (p : Parted) : (p.cons t).tokens = t :: p.tokens := rfl

end Parted

namespace Cut

/-- The list that was divided. -/
def tokens (c : Cut) : List Token :=
  c.front ++ c.rest

/-- Puts tokens in front of the first piece. -/
def addFront (ts : List Token) (c : Cut) : Cut :=
  { c with front := ts ++ c.front }

@[simp] theorem tokens_addFront (ts : List Token) (c : Cut) :
    (c.addFront ts).tokens = ts ++ c.tokens := by
  simp [addFront, tokens]

end Cut

@[simp] theorem Parted.tokens_cut (p : Parted) : p.cut.tokens = p.tokens := by
  simp [Parted.cut, Cut.tokens, Parted.tokens]

namespace Enclosed

/-- The list that was divided. -/
def tokens (e : Enclosed) : List Token :=
  e.opener :: (e.inside ++ e.closer :: e.after)

/-- The tokens from the opening bracket to the closing one. -/
def bracketed (e : Enclosed) : List Token :=
  e.opener :: (e.inside ++ [e.closer])

/-- The cut right after the closing bracket. -/
def cut (e : Enclosed) : Cut :=
  ⟨e.bracketed, e.after⟩

@[simp] theorem tokens_cut (e : Enclosed) : e.cut.tokens = e.tokens := by
  simp [cut, Cut.tokens, tokens, bracketed]

end Enclosed

namespace Extent

/-! ## Searches -/

/-- The number of parentheses and index brackets that are open after `t`, `depth` having been
open before it. A closing bracket too many does not count. -/
def depthAfter (depth : Nat) (t : Token) : Nat :=
  if t.text = "(" ∨ t.text = "[" then depth + 1
  else if t.text = ")" ∨ t.text = "]" then depth - 1
  else depth

/-- Divides at the first token `separator` outside brackets. -/
def partAt (separator : String) (depth : Nat) : List Token → Option Parted
  | [] => none
  | t :: ts =>
    if t.text = separator ∧ depth = 0 then some ⟨[], t, ts⟩
    else (partAt separator (depthAfter depth t) ts).map (Parted.cons t)

/-- The number of tokens `separator` outside brackets. -/
def countOf (separator : String) (depth : Nat) : List Token → Nat
  | [] => 0
  | t :: ts =>
    if t.text = separator ∧ depth = 0 then countOf separator depth ts + 1
    else countOf separator (depthAfter depth t) ts

/-- Puts a token in front of the first of several pieces. -/
def consFirst (t : Token) : List (List Token) → List (List Token)
  | [] => [[t]]
  | piece :: pieces => (t :: piece) :: pieces

/-- The pieces between the tokens `separator` that stand outside brackets. -/
def splitAt (separator : String) (depth : Nat) : List Token → List (List Token)
  | [] => [[]]
  | t :: ts =>
    if t.text = separator ∧ depth = 0 then [] :: splitAt separator depth ts
    else consFirst t (splitAt separator (depthAfter depth t) ts)

/-- Divides at the closing bracket that matches one opened before the list; `depth` further
brackets of its kind are open. -/
def partAtCloser (bracket : Bracket) (depth : Nat) : List Token → Option Parted
  | [] => none
  | t :: ts =>
    if t.text = bracket.opener then (partAtCloser bracket (depth + 1) ts).map (Parted.cons t)
    else if t.text = bracket.closer then
      if depth = 0 then some ⟨[], t, ts⟩
      else (partAtCloser bracket (depth - 1) ts).map (Parted.cons t)
    else (partAtCloser bracket depth ts).map (Parted.cons t)

/-- Finds the bracket that closes the one at the front. Where the tokens have ended before it
opens, the fault is placed at `whole`. -/
def enclosed (whole : Location) (bracket : Bracket) : List Token → Except SyntaxFault Enclosed
  | [] => .error ⟨.missingOpener bracket, whole⟩
  | t :: ts =>
    if t.text = bracket.opener then
      match partAtCloser bracket 0 ts with
      | some p => .ok ⟨t, p.before, p.mark, p.after⟩
      | none => .error ⟨.unclosed bracket, t.loc⟩
    else .error ⟨.missingOpener bracket, t.loc⟩

/-- Divides at the semicolon that ends a statement; a missing one is reported at `loc`. -/
def semicolon (loc : Location) (ts : List Token) : Except SyntaxFault Parted :=
  match partAt ";" 0 ts with
  | some p => .ok p
  | none => .error ⟨.missingSemicolon, loc⟩

/-! ## What a search finds makes up the tokens searched -/

theorem partAt_tokens {separator : String} {depth : Nat} {ts : List Token} {p : Parted}
    (h : partAt separator depth ts = some p) : p.tokens = ts := by
  induction ts generalizing depth p with
  | nil => simp [partAt] at h
  | cons t ts ih =>
    rw [partAt] at h
    split at h
    · cases h; rfl
    · obtain ⟨q, hq, rfl⟩ := Option.map_eq_some_iff.1 h
      rw [Parted.tokens_cons, ih hq]

theorem partAtCloser_tokens {bracket : Bracket} {depth : Nat} {ts : List Token} {p : Parted}
    (h : partAtCloser bracket depth ts = some p) : p.tokens = ts := by
  induction ts generalizing depth p with
  | nil => simp [partAtCloser] at h
  | cons t ts ih =>
    have put : ∀ {d : Nat}, (partAtCloser bracket d ts).map (Parted.cons t) = some p →
        p.tokens = t :: ts := by
      intro d h
      obtain ⟨q, hq, rfl⟩ := Option.map_eq_some_iff.1 h
      rw [Parted.tokens_cons, ih hq]
    rw [partAtCloser] at h
    split at h
    · exact put h
    · split at h
      · split at h
        · cases h; rfl
        · exact put h
      · exact put h

theorem enclosed_tokens {whole : Location} {bracket : Bracket} {ts : List Token} {e : Enclosed}
    (h : enclosed whole bracket ts = .ok e) : e.tokens = ts := by
  cases ts with
  | nil => simp [enclosed] at h
  | cons t ts =>
    rw [enclosed] at h
    split at h
    · split at h
      · next p hp => cases h; exact congrArg (t :: ·) (partAtCloser_tokens hp)
      · cases h
    · cases h

theorem semicolon_tokens {loc : Location} {ts : List Token} {p : Parted}
    (h : semicolon loc ts = .ok p) : p.tokens = ts := by
  rw [semicolon] at h
  split at h
  · next hq => cases h; exact partAt_tokens hq
  · cases h

/-- What follows a closing bracket is shorter than what started with the opening one. -/
theorem length_after_lt {whole : Location} {bracket : Bracket} {ts : List Token} {e : Enclosed}
    (h : enclosed whole bracket ts = .ok e) : e.after.length < ts.length := by
  rw [← enclosed_tokens h]
  simp only [Enclosed.tokens, List.length_cons, List.length_append]
  omega

/-! ## Statements -/

/-- The places that faults at the end of the tokens are reported at. -/
structure Ends where
  /-- The last token of all. -/
  whole : Location
  /-- The last token of the piece that is being read. -/
  piece : Location

/-- Cuts after the first statement, leaving an `else` that follows it where it is: so an `if`
inside the first branch of another leaves its `else` to that one. -/
def bareStatement (ends : Ends) (ts : List Token) : Except SyntaxFault Cut :=
  match ts with
  | [] => .error ⟨.missingStatement, ends.piece⟩
  | t :: ts =>
    if t.text = "\x7b" then (enclosed ends.whole .brace (t :: ts)).map Enclosed.cut
    else if t.text = "if" ∨ t.text = "for" ∨ t.text = "while" then
      match _h : enclosed ends.whole .paren ts with
      | .error fault => .error fault
      | .ok header =>
        (bareStatement ends header.after).map (Cut.addFront (t :: header.bracketed))
    else (semicolon t.loc (t :: ts)).map Parted.cut
termination_by ts.length
decreasing_by exact Nat.lt_succ_of_lt (length_after_lt _h)

theorem bareStatement_tokens {ends : Ends} {ts : List Token} {c : Cut}
    (h : bareStatement ends ts = .ok c) : c.tokens = ts := by
  fun_induction bareStatement ends ts generalizing c with
  | case1 => cases h
  | case2 t ts =>
    revert h
    cases he : enclosed ends.whole .brace (t :: ts) with
    | error fault => intro h; cases h
    | ok e => intro h; cases h; rw [Enclosed.tokens_cut, enclosed_tokens he]
  | case3 t ts _ _ fault => cases h
  | case4 t ts _ _ header he ih =>
    revert h ih
    cases hb : bareStatement ends header.after with
    | error fault => intro _ h; cases h
    | ok body =>
      intro ih h
      cases h
      rw [Cut.tokens_addFront, ih rfl, ← enclosed_tokens he]
      simp [Enclosed.bracketed, Enclosed.tokens]
  | case5 t ts =>
    revert h
    cases hs : semicolon t.loc (t :: ts) with
    | error fault => intro h; cases h
    | ok p => intro h; cases h; rw [Parted.tokens_cut, semicolon_tokens hs]

/-- Cuts after the first statement, an `else` that belongs to it included. -/
def statement (ends : Ends) (ts : List Token) : Except SyntaxFault Cut :=
  match ts with
  | [] => .error ⟨.missingStatement, ends.piece⟩
  | t :: ts =>
    if t.text = "\x7b" then (enclosed ends.whole .brace (t :: ts)).map Enclosed.cut
    else if t.text = "for" ∨ t.text = "while" then
      match _h : enclosed ends.whole .paren ts with
      | .error fault => .error fault
      | .ok header => (statement ends header.after).map (Cut.addFront (t :: header.bracketed))
    else if t.text = "if" then
      match _h : bareStatement ends (t :: ts) with
      | .error fault => .error fault
      | .ok ⟨front, next :: more⟩ =>
        if next.text = "else" then
          (statement ends more).map (Cut.addFront (front ++ [next]))
        else .ok ⟨front, next :: more⟩
      | .ok ⟨front, []⟩ => .ok ⟨front, []⟩
    else (semicolon t.loc (t :: ts)).map Parted.cut
termination_by ts.length
decreasing_by
  · exact Nat.lt_succ_of_lt (length_after_lt _h)
  · have := congrArg List.length (bareStatement_tokens _h)
    simp only [Cut.tokens, List.length_append, List.length_cons] at this ⊢
    omega

end Extent

end Stepwise
