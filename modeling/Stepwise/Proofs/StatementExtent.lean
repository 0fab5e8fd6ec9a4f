import Stepwise.Grammar.Statement
import Stepwise.Proofs.Bracketing
import Stepwise.Proofs.StatementWriting

/-!
# The extents of written statements

Before a statement is read, its extent is searched for in the tokens that follow. This module shows
that each search ends where the statement as written ends.

The two searches differ in what they do at an `else`. The one for the first branch of an `if` stops
before it, and so finds the extent of a bare statement whatever follows. The other one takes an
`else` with it, and so finds the extent of any statement that no `else` follows.

## Main results

* `Statement.WrittenOne.bareStatement`: the search for a first branch ends with the branch.
* `Statement.WrittenOne.statement`: the search for a body ends with the body.
-/

namespace Stepwise.Extent

/-! ## Section 1: Extents, one way to begin after the other -/

/-- The texts that begin a statement with parts, or a part of one. -/
def partWords : List String := ["\x7b", "if", "for", "while", "else"]

/-- A first branch in braces ends with its closing brace, even if an `else` follows. -/
theorem bareStatement_brace {ends : Ends} {t : Token} (ht : t.text = "\x7b") (ts : List Token) :
    bareStatement ends (t :: ts) = (enclosed ends.whole .brace (t :: ts)).map Enclosed.cut := by
  rw [bareStatement, if_pos ht]

/-- A header belongs to the branch behind it, and is put in front of what the search finds there. -/
theorem bareStatement_header {ends : Ends} {t : Token} {ts : List Token} {header : Enclosed}
    (ht : t.text = "if" ∨ t.text = "for" ∨ t.text = "while")
    (h : enclosed ends.whole .paren ts = .ok header) :
    bareStatement ends (t :: ts) =
      (bareStatement ends header.after).map (Cut.addFront (t :: header.bracketed)) := by
  have hbrace : t.text ≠ "\x7b" := by rintro hb; rw [hb] at ht; revert ht; decide
  rw [bareStatement, if_neg hbrace, if_pos ht]
  split
  · next fault hf => rw [h] at hf; cases hf
  · next header' hh => rw [h] at hh; cases hh; rfl

/-- A first branch that begins in no other way ends with its semicolon. -/
theorem bareStatement_semicolon {ends : Ends} {t : Token}
    (ht : t.text ∉ partWords) (ts : List Token) :
    bareStatement ends (t :: ts) = (semicolon t.loc (t :: ts)).map Parted.cut := by
  simp only [partWords, List.mem_cons, List.not_mem_nil, or_false, not_or] at ht
  rw [bareStatement, if_neg ht.1, if_neg]
  simp only [ht, or_self, not_false_eq_true]

theorem statement_brace {ends : Ends} {t : Token} (ht : t.text = "\x7b") (ts : List Token) :
    statement ends (t :: ts) = (enclosed ends.whole .brace (t :: ts)).map Enclosed.cut := by
  rw [statement, if_pos ht]

/-- The header of a loop belongs to its body. An `if` is not among these: it may have a second branch. -/
theorem statement_header {ends : Ends} {t : Token} {ts : List Token} {header : Enclosed}
    (ht : t.text = "for" ∨ t.text = "while") (h : enclosed ends.whole .paren ts = .ok header) :
    statement ends (t :: ts) =
      (statement ends header.after).map (Cut.addFront (t :: header.bracketed)) := by
  have hbrace : t.text ≠ "\x7b" := by rintro hb; rw [hb] at ht; revert ht; decide
  rw [statement, if_neg hbrace, if_pos ht]
  split
  · next fault hf => rw [h] at hf; cases hf
  · next header' hh => rw [h] at hh; cases hh; rfl

/-- A body that begins in no other way ends with its semicolon. -/
theorem statement_semicolon {ends : Ends} {t : Token}
    (ht : t.text ∉ partWords) (ts : List Token) :
    statement ends (t :: ts) = (semicolon t.loc (t :: ts)).map Parted.cut := by
  simp only [partWords, List.mem_cons, List.not_mem_nil, or_false, not_or] at ht
  rw [statement, if_neg ht.1, if_neg, if_neg ht.2.1]
  simp only [ht, or_self, not_false_eq_true]

/-- An `if` ends with its first branch if no `else` comes next. -/
theorem statement_if {ends : Ends} {t : Token} {ts front rest : List Token} (ht : t.text = "if")
    (h : bareStatement ends (t :: ts) = .ok ⟨front, rest⟩)
    (hrest : ∀ next more, rest = next :: more → next.text ≠ "else") :
    statement ends (t :: ts) = .ok ⟨front, rest⟩ := by
  rw [statement, if_neg (by rw [ht]; decide), if_neg (by rw [ht]; decide), if_pos ht]
  split
  · next fault hf => rw [h] at hf; cases hf
  · next front' next more hh =>
    rw [h] at hh; cases hh
    rw [if_neg (hrest next more rfl)]
  · next front' hh =>
    rw [h] at hh; cases hh; rfl

/-- An `else` next to the first branch takes one more statement in. -/
theorem statement_if_else {ends : Ends} {t mark : Token} {ts front more : List Token}
    (ht : t.text = "if") (h : bareStatement ends (t :: ts) = .ok ⟨front, mark :: more⟩)
    (hmark : mark.text = "else") :
    statement ends (t :: ts) = (statement ends more).map (Cut.addFront (front ++ [mark])) := by
  rw [statement, if_neg (by rw [ht]; decide), if_neg (by rw [ht]; decide), if_pos ht]
  split
  · next fault hf => rw [h] at hf; cases hf
  · next front' next more' hh =>
    rw [h] at hh; cases hh
    rw [if_pos hmark]
  · next front' hh =>
    rw [h] at hh; cases hh

end Stepwise.Extent

namespace Stepwise

open Extent

namespace Statement

/-! ## Section 2: The pieces of statements -/

theorem WrittenExpression.bracketed {e : Node} {ts : List Token} (h : WrittenExpression e ts) :
    Bracketed false ts :=
  h.1.bracketed

theorem WrittenOptional.bracketed {e : Node} {ts : List Token} (h : WrittenOptional e ts) :
    Bracketed false ts := by
  rcases h with ⟨-, rfl⟩ | h
  · exact .nil
  · exact h.bracketed

/-- The value of a declarator is an expression, so its commas stand inside brackets. -/
theorem WrittenDeclarator.bracketed {ns : List Node} {ts : List Token}
    (h : WrittenDeclarator ns ts) : Bracketed false ts := by
  cases h with
  | plain ht => exact .token ht.1.not_mem_structureTexts
  | initialized ht hmark he =>
    exact .cons ht.1.not_mem_structureTexts (.cons (by rw [hmark]; decide) he.bracketed)

/-- Only the commas between declarators stand outside brackets. -/
theorem WrittenDeclarators.bracketed {ns : List Node} {ts : List Token}
    (h : WrittenDeclarators ns ts) : Bracketed true ts := by
  induction h with
  | one h => exact h.bracketed.loosen
  | more h hmark _ ih => exact .append h.bracketed.loosen (.append (.comma hmark) ih)

/-- Tokens that end with their only semicolon and do not begin like a statement with parts. -/
def EndsAtSemicolon (ts : List Token) : Prop :=
  ∃ body mark, ts = body ++ [mark] ∧ mark.text = ";" ∧ Bracketed true body ∧
    ∀ t ∈ ts.head?, t.text ∉ partWords

/-- A statement without parts ends at its only semicolon. -/
theorem WrittenSimple.endsAtSemicolon {ns : List Node} {ts : List Token}
    (h : WrittenSimple ns ts) : EndsAtSemicolon ts := by
  cases h with
  | @empty mark hmark =>
    refine ⟨[], mark, rfl, hmark, .nil, fun t ht => ?_⟩
    obtain rfl : mark = t := by simpa using ht
    rw [hmark]
    decide
  | @expression e ts mark he hmark =>
    refine ⟨ts, mark, rfl, hmark, he.bracketed.loosen, fun t ht => ?_⟩
    obtain ⟨t', ts', rfl⟩ := List.exists_cons_of_ne_nil he.1.ne_nil
    obtain rfl : t' = t := by simpa using ht
    -- An expression has no braces since its brackets match, and no keywords by assumption.
    have hbrace := he.bracketed.text_ne t' List.mem_cons_self
    have hkeyword := he.2 t' List.mem_cons_self
    simp only [keywords, partWords, List.mem_cons, List.not_mem_nil, or_false, not_or]
      at hbrace hkeyword ⊢
    exact ⟨hbrace.2.1, hkeyword.2.2.2.1, hkeyword.2.1, hkeyword.2.2.1, hkeyword.2.2.2.2.1⟩
  | @declaration ns ts t mark ht hns hmark =>
    have hts : Bracketed true (t :: ts) := .cons (by rw [ht]; decide) hns.bracketed
    refine ⟨t :: ts, mark, rfl, hmark, hts, fun t' ht' => ?_⟩
    obtain rfl : t = t' := by simpa using ht'
    rw [ht]
    decide

theorem endsAtSemicolon_return {e : Node} {ts : List Token} {t mark : Token}
    (ht : t.text = "return") (he : WrittenOptional e ts) (hmark : mark.text = ";") :
    EndsAtSemicolon (t :: ts ++ [mark]) := by
  have hts : Bracketed true (t :: ts) := .cons (by rw [ht]; decide) he.bracketed.loosen
  refine ⟨t :: ts, mark, rfl, hmark, hts, fun t' ht' => ?_⟩
  obtain rfl : t = t' := by simpa using ht'
  rw [ht]
  decide

/-- A semicolon is found behind tokens whose brackets match, since there is none in them. -/
theorem semicolon_of_bracketed {commas : Bool} {ts : List Token} (h : Bracketed commas ts)
    {mark : Token} (hmark : mark.text = ";") (loc : Location) (rest : List Token) :
    semicolon loc (ts ++ mark :: rest) = .ok ⟨ts, mark, rest⟩ := by
  rw [semicolon, partAt_of_clear (h.clear (.inl rfl)) (h.foldl_depthAfter 0) hmark]

/-- The extent of a statement without parts, however extents are searched for. -/
theorem EndsAtSemicolon.extent {ts : List Token} (h : EndsAtSemicolon ts) (ends : Ends)
    (rest : List Token) :
    bareStatement ends (ts ++ rest) = .ok ⟨ts, rest⟩ ∧
      statement ends (ts ++ rest) = .ok ⟨ts, rest⟩ := by
  obtain ⟨body, mark, rfl, hmark, hbody, hhead⟩ := h
  obtain ⟨t, ts, hts⟩ : ∃ t ts, body ++ mark :: rest = t :: ts :=
    List.exists_cons_of_ne_nil (by simp)
  -- The first token may be the semicolon itself.
  have ht : t.text ∉ partWords := by
    apply hhead
    cases body <;> simp_all
  have hsemicolon : (semicolon t.loc (body ++ mark :: rest)).map Parted.cut =
      .ok ⟨body ++ [mark], rest⟩ := by
    rw [semicolon_of_bracketed hbody hmark]
    rfl
  rw [List.append_assoc, List.singleton_append]
  rw [hts] at hsemicolon ⊢
  exact ⟨(bareStatement_semicolon ht ts).trans hsemicolon,
    (statement_semicolon ht ts).trans hsemicolon⟩

/-- A statement without parts has no bracket that would stop the search for a closing one. -/
theorem EndsAtSemicolon.passes {ts : List Token} (h : EndsAtSemicolon ts) (bracket : Bracket) :
    Passes bracket ts := by
  obtain ⟨body, mark, rfl, hmark, hbody, -⟩ := h
  refine (hbody.passes bracket).append (passes_token ?_ ?_) <;> rw [hmark] <;>
    cases bracket <;> decide

/-- The search for a closing parenthesis passes over the header of a for loop. -/
theorem passes_forHeader {init : List Node} {condition step : Node} {is cs ss : List Token}
    {mark : Token} (hinit : WrittenSimple init is) (hcondition : WrittenOptional condition cs)
    (hmark : mark.text = ";") (hstep : WrittenOptional step ss) (bracket : Bracket) :
    Passes bracket (is ++ (cs ++ mark :: ss)) := by
  refine (hinit.endsAtSemicolon.passes bracket).append ((hcondition.bracketed.passes bracket).append
    (.cons ?_ ?_ (hstep.bracketed.passes bracket))) <;> rw [hmark] <;> cases bracket <;> decide

/-- Parentheses after a word, and what follows them, have no braces of their own. -/
theorem passes_brace_header {t o c : Token} {inside us : List Token}
    (ht : t.text ∉ ["\x7b", "\x7d"]) (ho : o.text = "(") (hinside : Passes .brace inside)
    (hc : c.text = ")") (hus : Passes .brace us) :
    Passes .brace (t :: (o :: inside ++ c :: us)) := by
  simp only [List.mem_cons, List.not_mem_nil, or_false, not_or] at ht
  refine .cons ht.1 ht.2 (.cons ?_ ?_ (hinside.append (.cons ?_ ?_ hus))) <;>
    simp [ho, hc, Bracket.opener, Bracket.closer]

mutual

/-- The braces of a written statement match. -/
theorem WrittenOne.passes {bare : Bool} {ns : List Node} {ts : List Token} :
    WrittenOne bare ns ts → Passes .brace ts
  | .simple h => h.endsAtSemicolon.passes .brace
  | .giveBack ht he hmark => (endsAtSemicolon_return ht he hmark).passes .brace
  | .block ho hns hc => hns.passes.enclose ho hc
  | .whileLoop ht ho he hc hbody =>
    passes_brace_header (by rw [ht]; decide) ho (he.bracketed.passes .brace) hc hbody.passes
  | .forLoop ht ho hinit hcondition hmark hstep hc hbody =>
    passes_brace_header (by rw [ht]; decide) ho
      (passes_forHeader hinit hcondition hmark hstep .brace) hc hbody.passes
  | .ifThen ht ho he hc hthen =>
    passes_brace_header (by rw [ht]; decide) ho (he.bracketed.passes .brace) hc hthen.passes
  | .ifElse ht ho he hc hthen hmark helse =>
    (passes_brace_header (by rw [ht]; decide) ho (he.bracketed.passes .brace) hc
      hthen.passes).append (.cons (by rw [hmark]; decide) (by rw [hmark]; decide) helse.passes)

/-- The braces of one written statement after the other match. -/
theorem WrittenAll.passes {ns : List Node} {ts : List Token} : WrittenAll ns ts → Passes .brace ts
  | .nil => passes_nil .brace
  | .cons h hmore => h.passes.append hmore.passes

end

/-! ## Section 3: Extents of written statements -/

/-- A header and a branch of known extent are together a branch of known extent. -/
theorem bareStatement_of_header {ends : Ends} {t o c : Token} {inside us rest : List Token}
    (ht : t.text = "if" ∨ t.text = "for" ∨ t.text = "while") (ho : o.text = "(")
    (hinside : Passes .paren inside) (hc : c.text = ")")
    (hus : bareStatement ends (us ++ rest) = .ok ⟨us, rest⟩) :
    bareStatement ends (t :: (o :: inside ++ c :: us) ++ rest) =
      .ok ⟨t :: (o :: inside ++ c :: us), rest⟩ := by
  have hheader := enclosed_of_passes ho hinside hc ends.whole (us ++ rest)
  have htokens : t :: (o :: inside ++ c :: us) ++ rest =
      t :: (o :: inside ++ c :: (us ++ rest)) := by simp
  rw [htokens, bareStatement_header ht hheader, hus]
  simp [Except.map, Cut.addFront, Enclosed.bracketed]

/-- The same for the header of a loop and its body. -/
theorem statement_of_header {ends : Ends} {t o c : Token} {inside us rest : List Token}
    (ht : t.text = "for" ∨ t.text = "while") (ho : o.text = "(")
    (hinside : Passes .paren inside) (hc : c.text = ")")
    (hus : statement ends (us ++ rest) = .ok ⟨us, rest⟩) :
    statement ends (t :: (o :: inside ++ c :: us) ++ rest) =
      .ok ⟨t :: (o :: inside ++ c :: us), rest⟩ := by
  have hheader := enclosed_of_passes ho hinside hc ends.whole (us ++ rest)
  have htokens : t :: (o :: inside ++ c :: us) ++ rest =
      t :: (o :: inside ++ c :: (us ++ rest)) := by simp
  rw [htokens, statement_header ht hheader, hus]
  simp [Except.map, Cut.addFront, Enclosed.bracketed]

/-- The closing brace of a block is found, since the braces between match. -/
theorem enclosed_block {ns : List Node} {ts : List Token} {o c : Token} (ho : o.text = "\x7b")
    (hns : WrittenAll ns ts) (hc : c.text = "\x7d") (whole : Location) (rest : List Token) :
    enclosed whole .brace (o :: ts ++ [c] ++ rest) = .ok ⟨o, ts, c, rest⟩ := by
  rw [List.append_assoc, List.singleton_append]
  exact enclosed_of_passes ho hns.passes hc whole rest

/-- The extent of a statement that no `if` with an `else` ends is found whatever follows, even an
`else`. -/
theorem WrittenOne.bareStatement {ns : List Node} {ts : List Token} (ends : Ends)
    (rest : List Token) :
    WrittenOne true ns ts → Extent.bareStatement ends (ts ++ rest) = .ok ⟨ts, rest⟩
  | .simple h => (h.endsAtSemicolon.extent ends rest).1
  | .giveBack ht he hmark => ((endsAtSemicolon_return ht he hmark).extent ends rest).1
  -- A block ends with its brace, and its braces match inside.
  | .block ho hns hc => by
    rw [List.cons_append, List.cons_append, bareStatement_brace ho, ← List.cons_append,
      ← List.cons_append, enclosed_block ho hns hc]
    rfl
  | .whileLoop ht ho he hc hbody =>
    bareStatement_of_header (.inr (.inr ht)) ho (he.bracketed.passes .paren) hc
      (hbody.bareStatement ends rest)
  | .forLoop ht ho hinit hcondition hmark hstep hc hbody =>
    bareStatement_of_header (.inr (.inl ht)) ho
      (passes_forHeader hinit hcondition hmark hstep .paren) hc (hbody.bareStatement ends rest)
  | .ifThen ht ho he hc hthen =>
    bareStatement_of_header (.inl ht) ho (he.bracketed.passes .paren) hc
      (hthen.bareStatement ends rest)

/-- Whether no `else` comes next. -/
def NoElse (ts : List Token) : Prop :=
  ∀ next more, ts = next :: more → next.text ≠ "else"

theorem noElse_nil : NoElse [] := by
  simp [NoElse]

theorem noElse_cons {t : Token} {ts : List Token} (h : t.text ≠ "else") : NoElse (t :: ts) := by
  rintro _ _ ⟨⟩
  exact h

/-- Where no `else` comes next and none comes next behind, none comes next in both together. -/
theorem NoElse.append {ts us : List Token} (hts : NoElse ts) (hus : NoElse us) :
    NoElse (ts ++ us) := by
  cases ts with
  | nil => exact hus
  | cons t ts => exact noElse_cons (hts t ts rfl)

/-- The extent of any statement is found if no `else` follows it. -/
theorem WrittenOne.statement {bare : Bool} {ns : List Node} {ts : List Token} (ends : Ends)
    {rest : List Token} (hrest : NoElse rest) :
    WrittenOne bare ns ts → Extent.statement ends (ts ++ rest) = .ok ⟨ts, rest⟩
  | .simple h => (h.endsAtSemicolon.extent ends rest).2
  | .giveBack ht he hmark => ((endsAtSemicolon_return ht he hmark).extent ends rest).2
  | .block ho hns hc => by
    rw [List.cons_append, List.cons_append, statement_brace ho, ← List.cons_append,
      ← List.cons_append, enclosed_block ho hns hc]
    rfl
  | .whileLoop ht ho he hc hbody =>
    statement_of_header (.inr ht) ho (he.bracketed.passes .paren) hc (hbody.statement ends hrest)
  | .forLoop ht ho hinit hcondition hmark hstep hc hbody =>
    statement_of_header (.inl ht) ho (passes_forHeader hinit hcondition hmark hstep .paren) hc
      (hbody.statement ends hrest)
  | .ifThen ht ho he hc hthen =>
    statement_if ht (bareStatement_of_header (.inl ht) ho (he.bracketed.passes .paren) hc
      (hthen.bareStatement ends rest)) hrest
  | @WrittenOne.ifElse _ _ _ _ ts us vs t o c mark ht ho he hc hthen hmark helse => by
    -- The first branch is bare, so the search for its end stops right before the `else`.
    have hfront := bareStatement_of_header (.inl ht) ho (he.bracketed.passes .paren) hc
      (hthen.bareStatement ends (mark :: (vs ++ rest)))
    have htokens : t :: (o :: ts ++ c :: us) ++ mark :: vs ++ rest =
        t :: (o :: ts ++ c :: us) ++ mark :: (vs ++ rest) := by simp
    rw [htokens]
    refine (statement_if_else ht hfront hmark).trans ?_
    -- The second branch may have an `else` of its own, but none follows it.
    rw [helse.statement ends hrest]
    show Except.ok (Cut.mk _ _) = _
    rw [List.append_assoc, List.singleton_append]

/-- A statement is not empty and does not begin with `else`. -/
theorem WrittenOne.exists_cons {bare : Bool} {ns : List Node} {ts : List Token}
    (h : WrittenOne bare ns ts) : ∃ t us, ts = t :: us ∧ t.text ≠ "else" := by
  have hend : ∀ {ts : List Token}, EndsAtSemicolon ts → ∃ t us, ts = t :: us ∧ t.text ≠ "else" := by
    rintro ts ⟨body, mark, rfl, -, -, hhead⟩
    obtain ⟨t, us, hts⟩ := List.exists_cons_of_ne_nil (List.append_ne_nil_of_right_ne_nil body
      (List.cons_ne_nil mark []))
    refine ⟨t, us, hts, fun helse => hhead t (by rw [hts]; rfl) ?_⟩
    rw [helse]
    decide
  cases h with
  | simple h => exact hend h.endsAtSemicolon
  | giveBack ht he hmark => exact hend (endsAtSemicolon_return ht he hmark)
  | block ho _ _ => exact ⟨_, _, rfl, by rw [ho]; decide⟩
  | whileLoop ht _ _ _ _ => exact ⟨_, _, rfl, by rw [ht]; decide⟩
  | forLoop ht _ _ _ _ _ _ _ => exact ⟨_, _, rfl, by rw [ht]; decide⟩
  | ifThen ht _ _ _ _ => exact ⟨_, _, rfl, by rw [ht]; decide⟩
  | ifElse ht _ _ _ _ _ _ => exact ⟨_, _, rfl, by rw [ht]; decide⟩

theorem WrittenOne.ne_nil {bare : Bool} {ns : List Node} {ts : List Token}
    (h : WrittenOne bare ns ts) : ts ≠ [] := by
  obtain ⟨t, us, rfl, -⟩ := h.exists_cons
  exact List.cons_ne_nil t us

/-- No list of written statements begins with `else`. -/
theorem WrittenAll.noElse {ns : List Node} {ts : List Token} (h : WrittenAll ns ts) :
    NoElse ts := by
  cases h with
  | nil => exact noElse_nil
  | cons h _ =>
    obtain ⟨t, us, rfl, hne⟩ := h.exists_cons
    exact noElse_cons hne

end Statement
end Stepwise
