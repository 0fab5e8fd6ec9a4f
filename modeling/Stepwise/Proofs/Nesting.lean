import Stepwise.Proofs.Inventory

/-!
# Brackets of an expression that can be read

An expression is read as if it stood between parentheses, and the parenthesis that stands for its
beginning waits on the same stack as all others. The brackets on the stack of operators are those
that are open, so that every closing bracket finds the innermost open one; but the first of them may
be the one that stands for the beginning. A parenthesis that nothing opens is therefore accepted if it
closes the beginning, and then the end closes a parenthesis of the expression in its place.

These are all the expressions with brackets that do not match: `f ) ( x` is read as a call of `f`.

## Main results

* `step_brackets`, `steps_brackets`: the brackets on the stack are those that are open.
* `nested_or_crossed`: tokens that match between parentheses match by themselves, or are crossed.
* `read_nested_or_crossed`: the brackets of an expression that has been read.
-/

namespace Stepwise

/-! ## Section 1: Matching brackets -/

/-- The texts of the brackets in expressions. -/
def bracketTexts : List String :=
  ["(", ")", "[", "]"]

/-- The brackets that stay open when one of a kind is closed. It has to be the innermost one. -/
def closeInnermost (bracket : Bracket) : List Bracket → Option (List Bracket)
  | [] => none
  | innermost :: outer => if innermost = bracket then some outer else none

/-- The parentheses and index brackets that are open behind a token, the innermost one first. There
are none if the token closes a bracket other than the innermost one. -/
def openAfter (opened : List Bracket) (t : Token) : Option (List Bracket) :=
  if t.text = "(" then some (.paren :: opened)
  else if t.text = "[" then some (.square :: opened)
  else if t.text = ")" then closeInnermost .paren opened
  else if t.text = "]" then closeInnermost .square opened
  else some opened

/-- The brackets that are open behind tokens, if each closing one has matched. -/
def openBehind (opened : List Bracket) (ts : List Token) : Option (List Bracket) :=
  ts.foldlM openAfter opened

/-- Whether the brackets of tokens match: each closing one closes the innermost that is open, and
none is left open. -/
def Nested (ts : List Token) : Prop :=
  openBehind [] ts = some []

instance (ts : List Token) : Decidable (Nested ts) :=
  inferInstanceAs (Decidable (_ = _))

/-- Whether brackets match but for two parentheses: one that closes what nothing has opened, and
behind it one that nothing closes. -/
def Crossed (ts : List Token) : Prop :=
  ∃ front closer middle opener back, ts = front ++ closer :: (middle ++ opener :: back) ∧
    closer.text = ")" ∧ opener.text = "(" ∧ Nested front ∧ Nested middle ∧ Nested back

@[simp] theorem openBehind_nil (opened : List Bracket) : openBehind opened [] = some opened :=
  rfl

@[simp] theorem openBehind_cons (opened : List Bracket) (t : Token) (ts : List Token) :
    openBehind opened (t :: ts) = (openAfter opened t).bind (openBehind · ts) :=
  rfl

theorem openBehind_append (opened : List Bracket) (ts us : List Token) :
    openBehind opened (ts ++ us) = (openBehind opened ts).bind (openBehind · us) :=
  List.foldlM_append

theorem closeInnermost_eq_some {bracket : Bracket} {opened rest : List Bracket} :
    closeInnermost bracket opened = some rest ↔ opened = bracket :: rest := by
  cases opened with
  | nil => simp [closeInnermost]
  | cons innermost outer => simp [closeInnermost]

theorem openAfter_of_not_mem {t : Token} (ht : t.text ∉ bracketTexts) (opened : List Bracket) :
    openAfter opened t = some opened := by
  simp only [bracketTexts, List.mem_cons, List.not_mem_nil, or_false, not_or] at ht
  simp only [openAfter, ht, if_false]

/-- What a token does to the brackets that are open, whichever they are: it opens one, closes the
innermost one or leaves them. -/
inductive Turns (t : Token) : Prop where
  | opens (bracket : Bracket) (hbracket : bracket ≠ .brace) (ht : t.text = bracket.opener)
  | closes (bracket : Bracket) (hbracket : bracket ≠ .brace) (ht : t.text = bracket.closer)
  | leaves (hleaves : ∀ opened, openAfter opened t = some opened)

theorem turns (t : Token) : Turns t := by
  by_cases hparen : t.text = "("
  · exact .opens .paren (by decide) hparen
  by_cases hsquare : t.text = "["
  · exact .opens .square (by decide) hsquare
  by_cases hcloseParen : t.text = ")"
  · exact .closes .paren (by decide) hcloseParen
  by_cases hcloseSquare : t.text = "]"
  · exact .closes .square (by decide) hcloseSquare
  · refine .leaves (openAfter_of_not_mem ?_)
    simp only [bracketTexts, List.mem_cons, List.not_mem_nil, or_false, not_or]
    exact ⟨hparen, hcloseParen, hsquare, hcloseSquare⟩

theorem openAfter_opener {bracket : Bracket} {t : Token} (hbracket : bracket ≠ .brace)
    (ht : t.text = bracket.opener) (opened : List Bracket) :
    openAfter opened t = some (bracket :: opened) := by
  cases bracket with
  | brace => exact absurd rfl hbracket
  | _ => simp [openAfter, ht, Bracket.opener]

theorem openAfter_closer {bracket : Bracket} {t : Token} (hbracket : bracket ≠ .brace)
    (ht : t.text = bracket.closer) (opened : List Bracket) :
    openAfter opened t = closeInnermost bracket opened := by
  cases bracket with
  | brace => exact absurd rfl hbracket
  | _ => simp [openAfter, ht, Bracket.closer]

/-! ## Section 2: Brackets around brackets -/

/-- What tokens do inside brackets, they do inside further ones as well. -/
theorem openAfter_of_inner {inner rest : List Bracket} {t : Token}
    (h : openAfter inner t = some rest) (outer : List Bracket) :
    openAfter (inner ++ outer) t = some (rest ++ outer) := by
  cases turns t with
  | opens bracket hbracket ht =>
    rw [openAfter_opener hbracket ht] at h ⊢
    cases h
    rfl
  | closes bracket hbracket ht =>
    rw [openAfter_closer hbracket ht, closeInnermost_eq_some] at h ⊢
    rw [h]
    rfl
  | leaves hleaves =>
    rw [hleaves] at h ⊢
    cases h
    rfl

theorem openBehind_of_inner {inner rest : List Bracket} {ts : List Token}
    (h : openBehind inner ts = some rest) (outer : List Bracket) :
    openBehind (inner ++ outer) ts = some (rest ++ outer) := by
  induction ts generalizing inner with
  | nil =>
    cases h
    rfl
  | cons t ts ih =>
    rw [openBehind_cons, Option.bind_eq_some_iff] at h
    obtain ⟨opened, hopened, hrest⟩ := h
    rw [openBehind_cons, openAfter_of_inner hopened]
    exact ih hrest

/-- Brackets around matching ones match, and so do matching ones behind them. -/
theorem Nested.enclose {bracket : Bracket} {opener closer : Token} {inside back : List Token}
    (hinside : Nested inside) (hback : Nested back) (hbracket : bracket ≠ .brace)
    (hopener : opener.text = bracket.opener) (hcloser : closer.text = bracket.closer) :
    Nested (opener :: (inside ++ closer :: back)) := by
  have hinner : openBehind [bracket] inside = some [bracket] := openBehind_of_inner hinside [bracket]
  have hclosed : openAfter [bracket] closer = some [] := by
    rw [openAfter_closer hbracket hcloser, closeInnermost_eq_some]
  rw [Nested, openBehind_cons, openAfter_opener hbracket hopener, Option.bind_some,
    openBehind_append, hinner, Option.bind_some, openBehind_cons, hclosed]
  exact hback

/-- What becomes of a bracket around some tokens: it stays open, or one of them closes it. -/
inductive Surrounded (outermost : Bracket) (inner : List Bracket) (ts : List Token)
    (opened : List Bracket) : Prop where
  | stays {rest : List Bracket} (hrest : openBehind inner ts = some rest)
      (hopened : opened = rest ++ [outermost])
  | closed {front back : List Token} {closer : Token} (hts : ts = front ++ closer :: back)
      (hcloser : closer.text = outermost.closer) (hfront : openBehind inner front = some [])
      (hback : openBehind [] back = some opened)

theorem Surrounded.cons {outermost : Bracket} {inner inner' opened : List Bracket} {t : Token}
    {ts : List Token} (ht : openAfter inner t = some inner')
    (h : Surrounded outermost inner' ts opened) : Surrounded outermost inner (t :: ts) opened := by
  cases h with
  | stays hrest hopened =>
    refine .stays ?_ hopened
    rw [openBehind_cons, ht]
    exact hrest
  | closed hts hcloser hfront hback =>
    subst hts
    refine .closed (List.cons_append ..).symm hcloser ?_ hback
    rw [openBehind_cons, ht]
    exact hfront

theorem surrounded {inner opened : List Bracket} {outermost : Bracket} {ts : List Token}
    (h : openBehind (inner ++ [outermost]) ts = some opened) :
    Surrounded outermost inner ts opened := by
  induction ts generalizing inner with
  | nil =>
    cases h
    exact .stays rfl rfl
  | cons t ts ih =>
    rw [openBehind_cons, Option.bind_eq_some_iff] at h
    obtain ⟨mid, hmid, hrest⟩ := h
    cases turns t with
    | opens bracket hbracket ht =>
      rw [openAfter_opener hbracket ht] at hmid
      cases hmid
      exact (ih hrest).cons (openAfter_opener hbracket ht inner)
    | closes bracket hbracket ht =>
      rw [openAfter_closer hbracket ht, closeInnermost_eq_some] at hmid
      cases inner with
      | nil =>
        -- Nothing else is open, so that this token closes the outermost bracket.
        cases hmid
        exact .closed (List.nil_append (t :: ts)).symm ht rfl hrest
      | cons innermost inner =>
        obtain ⟨rfl, rfl⟩ : innermost = bracket ∧ inner ++ [outermost] = mid := by simpa using hmid
        refine (ih hrest).cons ?_
        rw [openAfter_closer hbracket ht, closeInnermost_eq_some]
    | leaves hleaves =>
      rw [hleaves] at hmid
      cases hmid
      exact (ih hrest).cons (hleaves inner)

/-- A single bracket that is left open has been opened by one of the tokens, and the brackets before
and behind it match. -/
theorem exists_opener {bracket : Bracket} {ts : List Token}
    (h : openBehind [] ts = some [bracket]) :
    ∃ front opener back, ts = front ++ opener :: back ∧ opener.text = bracket.opener ∧
      Nested front ∧ Nested back := by
  -- A bracket that is opened first may be closed again, and then the search goes on behind it.
  induction hlength : ts.length using Nat.strongRecOn generalizing ts with
  | ind n ih =>
    subst hlength
    cases ts with
    | nil => cases h
    | cons t ts =>
      rw [openBehind_cons, Option.bind_eq_some_iff] at h
      obtain ⟨opened, hopened, hrest⟩ := h
      cases turns t with
      | opens first hfirst ht =>
        rw [openAfter_opener hfirst ht] at hopened
        cases hopened
        rw [← List.nil_append [first]] at hrest
        cases surrounded hrest with
        | @stays rest hback hbracket =>
          obtain ⟨rfl, rfl⟩ : rest = [] ∧ bracket = first := by
            cases rest with
            | nil => simpa using hbracket
            | cons _ _ => simp at hbracket
          exact ⟨[], t, ts, rfl, ht, rfl, hback⟩
        | @closed inside back closer hts hcloser hinside hback =>
          subst hts
          have hless : back.length < (t :: (inside ++ closer :: back)).length := by
            simp only [List.length_cons, List.length_append]
            omega
          obtain ⟨front, opener, back, rfl, hopener, hfront, hback⟩ := ih _ hless hback rfl
          have hnested : Nested (t :: (inside ++ closer :: front)) :=
            .enclose hinside hfront hfirst ht hcloser
          exact ⟨t :: (inside ++ closer :: front), opener, back, by simp, hopener, hnested, hback⟩
      | closes first hfirst ht =>
        -- Nothing is open yet that could be closed.
        rw [openAfter_closer hfirst ht] at hopened
        cases hopened
      | leaves hleaves =>
        rw [hleaves] at hopened
        cases hopened
        obtain ⟨front, opener, back, rfl, hopener, hfront, hback⟩ :=
          ih _ (Nat.lt_succ_self _) hrest rfl
        refine ⟨t :: front, opener, back, rfl, hopener, ?_, hback⟩
        rw [Nested, openBehind_cons, hleaves]
        exact hfront

/-- Tokens that match between two parentheses match by themselves, or they are crossed. -/
theorem nested_or_crossed {ts : List Token} (h : openBehind [.paren] ts = some [.paren]) :
    Nested ts ∨ Crossed ts := by
  rw [← List.nil_append [Bracket.paren]] at h
  cases surrounded h with
  | @stays rest hrest hopened =>
    obtain rfl : rest = [] := by simpa using hopened
    exact .inl hrest
  | @closed front back closer hts hcloser hfront hback =>
    -- The parenthesis that stands for the beginning is closed, so that another one stays open.
    obtain ⟨middle, opener, back, rfl, hopener, hmiddle, hback⟩ := exists_opener hback
    exact .inr ⟨front, closer, middle, opener, back, hts, hcloser, hopener, hfront, hmiddle, hback⟩

namespace Expression

/-! ## Section 3: Brackets on the stack -/

/-- The bracket that an opening one on the stack is. -/
@[simp] def Opener.bracket : Opener → Bracket
  | .group | .call => .paren
  | .index => .square

/-- The bracket that waits, if it is one. -/
@[simp] def Pending.bracket? : Pending × Location → Option Bracket
  | (.opener o, _) => some o.bracket
  | (.operator _, _) => none

/-- The brackets that wait to be closed, the innermost one first. -/
def brackets (pending : List (Pending × Location)) : List Bracket :=
  pending.filterMap Pending.bracket?

@[simp] theorem brackets_opener (opener : Opener) (loc : Location)
    (pending : List (Pending × Location)) :
    brackets ((.opener opener, loc) :: pending) = opener.bracket :: brackets pending :=
  rfl

@[simp] theorem brackets_operator (op : Operator) (loc : Location)
    (pending : List (Pending × Location)) :
    brackets ((.operator op, loc) :: pending) = brackets pending :=
  rfl

/-- Applying operators takes no bracket off the stack. -/
theorem unwind_brackets (yields : Operator → Bool) (pending : List (Pending × Location))
    (operands : List Operand) :
    Gives (fun p => brackets p.1 = brackets pending) (unwind yields pending operands) := by
  fun_induction unwind yields pending operands with
  | case1 op loc pending operands _ ih =>
    rintro p h
    obtain ⟨operands', _, h⟩ := exists_of_bind_ok h
    exact ih operands' p h
  | case2 => exact .ok rfl
  | case3 => exact .ok rfl

/-- A parenthesis closes the innermost bracket on the stack, and that is a parenthesis. -/
theorem brackets_of_closeParen {loc : Location} {s s' : Stacks} (h : closeParen loc s = .ok s') :
    brackets s.pending = .paren :: brackets s'.pending := by
  unfold closeParen at h
  dsimp only at h
  split at h
  · next hpending =>
    cases h
    rw [hpending]
    rfl
  · next hpending =>
    split at h
    · cases h
      rw [hpending]
      rfl
    · cases h
  · cases h

theorem brackets_of_closeIndex {loc : Location} {s s' : Stacks} (h : closeIndex loc s = .ok s') :
    brackets s.pending = .square :: brackets s'.pending := by
  unfold closeIndex at h
  split at h
  · next hpending =>
    obtain ⟨⟨index, rest⟩, -, h⟩ := exists_of_bind_ok h
    dsimp only at h
    split at h
    · cases h
      rw [hpending]
      rfl
    · cases h
  · cases h

/-- What a symbol does to the brackets that are open. -/
@[simp] def Symbol.turn (opened : List Bracket) : Symbol → Option (List Bracket)
  | .opener o => some (o.bracket :: opened)
  | .operator _ => some opened
  | .closeParen => closeInnermost .paren opened
  | .closeIndex => closeInnermost .square opened

/-- How a symbol is written that is a bracket. -/
def Symbol.bracketText? : Symbol → Option String
  | .opener o => some o.bracket.opener
  | .operator _ => none
  | .closeParen => some Bracket.paren.closer
  | .closeIndex => some Bracket.square.closer

theorem bracketText?_of_symbol : ∀ (after : Bool), ∀ text ∈ punctuation,
    ∀ symbol ∈ Symbol.of? after text,
      symbol.bracketText? = if text ∈ bracketTexts then some text else none := by
  decide

/-- What a symbol does to the brackets is what its token does. -/
theorem openAfter_of_symbol {after : Bool} {t : Token} {symbol : Symbol}
    (h : Symbol.of? after t.text = some symbol) (opened : List Bracket) :
    openAfter opened t = symbol.turn opened := by
  -- Only the text of the token decides which bracket it is, not what it opens or whether it closes.
  have htext := bracketText?_of_symbol after t.text (mem_punctuation_of_symbol h) symbol h
  by_cases hmem : t.text ∈ bracketTexts
  · rw [if_pos hmem] at htext
    cases symbol with
    | opener o =>
      have ho : o.bracket.opener = t.text := by simpa [Symbol.bracketText?] using htext
      exact openAfter_opener (by cases o <;> decide) ho.symm opened
    | operator op => cases htext
    | closeParen =>
      have hc : Bracket.paren.closer = t.text := by simpa [Symbol.bracketText?] using htext
      exact openAfter_closer (by decide) hc.symm opened
    | closeIndex =>
      have hc : Bracket.square.closer = t.text := by simpa [Symbol.bracketText?] using htext
      exact openAfter_closer (by decide) hc.symm opened
  · rw [if_neg hmem] at htext
    cases symbol with
    | operator op => exact openAfter_of_not_mem hmem opened
    | _ => cases htext

theorem shift_brackets (s : Stacks) (loc : Location) (symbol : Symbol) :
    Gives (fun s' => symbol.turn (brackets s.pending) = some (brackets s'.pending))
      (s.shift loc symbol) := by
  cases symbol with
  | opener o => exact .ok (by simp)
  | operator op =>
    rintro s' h
    obtain ⟨⟨pending, operands⟩, hunwind, h⟩ := exists_of_bind_ok h
    have hbrackets := unwind_brackets _ _ _ _ hunwind
    cases h
    simpa using hbrackets.symm
  | closeParen =>
    rintro s' h
    obtain ⟨⟨pending, operands⟩, hunwind, h⟩ := exists_of_bind_ok h
    have hbrackets := unwind_brackets _ _ _ _ hunwind
    have hclose := brackets_of_closeParen h
    rw [Symbol.turn, closeInnermost_eq_some, ← hbrackets]
    exact hclose
  | closeIndex =>
    rintro s' h
    obtain ⟨⟨pending, operands⟩, hunwind, h⟩ := exists_of_bind_ok h
    have hbrackets := unwind_brackets _ _ _ _ hunwind
    have hclose := brackets_of_closeIndex h
    rw [Symbol.turn, closeInnermost_eq_some, ← hbrackets]
    exact hclose

/-- A word or numeral is no bracket. -/
theorem openAfter_of_isOperand {t : Token} (ht : isOperand t = true) (opened : List Bracket) :
    openAfter opened t = some opened := by
  refine openAfter_of_not_mem (fun hmem => ?_) opened
  have hsub : ∀ text ∈ bracketTexts, text ∈ punctuation := by decide
  rw [isOperand_of_mem_punctuation (hsub _ hmem)] at ht
  cases ht

/-- After a token has been taken in, the brackets that wait are those that it leaves open. -/
theorem step_brackets {s s' : Stacks} {t : Token} (h : s.step t = .ok s') :
    openAfter (brackets s.pending) t = some (brackets s'.pending) := by
  cases takesIn_of_step h with
  | operand ht => exact openAfter_of_isOperand ht _
  | symbol hsymbol hshift =>
    rw [openAfter_of_symbol hsymbol]
    exact shift_brackets s t.loc _ s' hshift

theorem steps_brackets {s s' : Stacks} {ts : List Token} (h : s.steps ts = .ok s') :
    openBehind (brackets s.pending) ts = some (brackets s'.pending) := by
  induction ts generalizing s with
  | nil =>
    cases h
    rfl
  | cons t ts ih =>
    obtain ⟨s₁, hstep, hsteps⟩ := exists_of_bind_ok h
    rw [openBehind_cons, step_brackets hstep]
    exact ih hsteps

/-- At the end a single parenthesis waits, which the end closes. -/
theorem brackets_of_finish {s : Stacks} {loc : Location} {node : Node}
    (h : s.finish loc = .ok node) : brackets s.pending = [.paren] := by
  obtain ⟨s', hshift, h⟩ := exists_of_bind_ok h
  -- The end is taken in like a closing parenthesis, and nothing may be left behind it.
  have hturn := shift_brackets s loc .closeParen s' hshift
  rw [Symbol.turn, closeInnermost_eq_some] at hturn
  have hpending : s'.pending = [] := by
    split at h
    · cases h
    all_goals assumption
  rw [hturn, hpending]
  rfl

/-- The brackets of an expression that has been read match, but for a parenthesis that closes the
beginning and another one that the end closes. -/
theorem read_nested_or_crossed {ts : List Token} {node : Node} (h : read ts = .ok node) :
    Nested ts ∨ Crossed ts := by
  cases ts with
  | nil => exact .inl rfl
  | cons t ts =>
    obtain ⟨s, hsteps, hfinish⟩ := exists_of_bind_ok h
    -- One parenthesis waits before the first token, and one behind the last.
    have hopened := steps_brackets hsteps
    rw [brackets_of_finish hfinish] at hopened
    exact nested_or_crossed hopened

/-- `f ) ( x` is a call of `f`: the first parenthesis closes the one that stands for the beginning,
and the end closes the second one. -/
def crossedCall : List Token :=
  [⟨"f", ⟨1, 1⟩⟩, ⟨")", ⟨1, 3⟩⟩, ⟨"(", ⟨1, 5⟩⟩, ⟨"x", ⟨1, 7⟩⟩]

theorem read_crossedCall :
    read crossedCall = .ok (.call "f" [.var ⟨"x", [], ⟨1, 7⟩⟩] ⟨1, 1⟩) := by
  rfl

theorem read_nested_or_crossed_crossedCall :
    ∃ node, read crossedCall = .ok node ∧ (Nested crossedCall ∨ Crossed crossedCall) ∧
      ¬ Nested crossedCall :=
  ⟨_, read_crossedCall, read_nested_or_crossed read_crossedCall, by decide⟩

/-- So brackets need not match in an expression that can be read. -/
theorem read_not_nested : ¬ ∀ (ts : List Token) (node : Node), read ts = .ok node → Nested ts :=
  fun hnested => absurd (hnested _ _ read_crossedCall) (by decide)

end Expression

end Stepwise
