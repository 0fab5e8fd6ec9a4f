import Stepwise.Proofs.StatementExtent

/-!
# Statements read as they are written

Reading a list of tokens that begins with a written statement gives the nodes of the statement and
goes on behind it (`Statement.Reads`). This is shown for each kind of statement from what holds of
the statements inside, and then for all statements by recursion on how they are written.

## Main results

* `Statement.WrittenAll.reads`: written statements are read as their nodes, within every bound that
  their tokens fit in.
* `Statement.readAll_written`: all tokens of written statements are read as these statements.
-/

namespace Stepwise.Statement

open Extent

/-! ## Section 1: Reading expressions and declarations -/

/-- An expression that stands in a statement is read back. -/
theorem WrittenExpression.read {e : Node} {ts : List Token} (h : WrittenExpression e ts) :
    ∃ e', Expression.read ts = .ok e' ∧ e'.unplaced = e.unplaced :=
  Expression.exists_read_of_written h.1

theorem WrittenOptional.read {e : Node} {ts : List Token} (h : WrittenOptional e ts) :
    ∃ e', Expression.read ts = .ok e' ∧ e'.unplaced = e.unplaced := by
  rcases h with ⟨rfl, rfl⟩ | h
  · exact ⟨.empty, rfl, rfl⟩
  · exact h.read

/-- A declarator is read back as a declaration, and an assignment if it has a value. -/
theorem WrittenDeclarator.read {ns : List Node} {ts : List Token} (h : WrittenDeclarator ns ts)
    (whole loc : Location) :
    ∃ ns', Declaration.declarator whole loc ts = .ok ns' ∧ unplacedAll ns' = unplacedAll ns := by
  cases h with
  | @plain _ t ht =>
    have hname : Declaration.name t = .ok t.text := if_pos ht.1.1
    refine ⟨[.declaration t.text t.loc], ?_, rfl⟩
    rw [Declaration.declarator, hname, Declaration.skipSizes]
    rfl
  | @initialized e _ _ _ ts t mark ht hmark he =>
    have hname : Declaration.name t = .ok t.text := if_pos ht.1.1
    obtain ⟨e', hread, he'⟩ := he.read
    have hne : ts.isEmpty = false := by
      rw [List.isEmpty_eq_false_iff]
      exact he.1.ne_nil
    refine ⟨[.declaration t.text t.loc, .assignment ⟨t.text, [], t.loc⟩ e' mark.loc], ?_, ?_⟩
    · rw [Declaration.declarator, hname, Declaration.skipSizes, hmark]
      simp only [bind, Except.bind, Declaration.initializer, hmark, hne, hread, String.reduceEq,
        if_false, if_true, Bool.false_eq_true]
      rfl
    · simp only [unplacedAll, Node.unplaced, unplacedRef, he']

/-- Declarators are divided at the commas between them, and each is read on its own. -/
theorem WrittenDeclarators.read {ns : List Node} {ts : List Token} (h : WrittenDeclarators ns ts)
    (whole loc : Location) :
    ∃ ns', Declaration.declarators whole loc (splitAt "," 0 ts) = .ok ns' ∧
      unplacedAll ns' = unplacedAll ns := by
  induction h with
  | one h =>
    obtain ⟨ns', hread, hns'⟩ := h.read whole loc
    have hclear : Clear "," 0 _ := h.bracketed.clear (.inr ⟨rfl, .inl rfl⟩)
    refine ⟨ns' ++ [], ?_, by rw [List.append_nil, hns']⟩
    rw [splitAt_of_clear hclear, Declaration.declarators, hread]
    rfl
  | more h hmark _ ih =>
    obtain ⟨ns', hread, hns'⟩ := h.read whole loc
    obtain ⟨ms', hmore, hms'⟩ := ih
    have hclear : Clear "," 0 _ := h.bracketed.clear (.inr ⟨rfl, .inl rfl⟩)
    refine ⟨ns' ++ ms', ?_, by rw [unplacedAll_append, unplacedAll_append, hns', hms']⟩
    rw [splitAt_mark hclear (h.bracketed.foldl_depthAfter 0) hmark, Declaration.declarators, hread,
      hmore]
    rfl

/-! ## Section 2: Reading statements -/

/-- Reading a list that begins with `ts` gives the nodes `ns` and goes on behind `ts`. The bound on
the number of statements only has to allow for those inside `ts`. -/
def Reads (whole : Location) (ns : List Node) (ts : List Token) : Prop :=
  ∀ bound rest, ts.length ≤ bound + 1 → NoElse rest →
    readWithin whole (bound + 1) (ts ++ rest) = (readWithin whole bound rest).map (ns ++ ·)

/-- Reading a list reads its first statement, and goes on behind it. -/
theorem reads_of_readOne {whole : Location} {ns : List Node} {t : Token} {us : List Token}
    (h : ∀ bound rest, us.length ≤ bound → NoElse rest →
      readOne whole (readWithin whole bound) t (us ++ rest) = .ok (ns, rest)) :
    Reads whole ns (t :: us) := by
  intro bound rest hbound hrest
  rw [List.cons_append, readWithin, h bound rest (Nat.le_of_succ_le_succ hbound) hrest]
  show (readWithin whole bound rest).bind _ = _
  cases readWithin whole bound rest <;> rfl

/-- A statement that stands alone. -/
theorem Reads.alone {whole : Location} {ns : List Node} {ts : List Token} (h : Reads whole ns ts)
    (hne : ts ≠ []) {bound : Nat} (hbound : ts.length ≤ bound) :
    readWithin whole bound ts = .ok ns := by
  have hpos : 0 < ts.length := List.length_pos_iff.2 hne
  obtain ⟨b, rfl⟩ : ∃ b, bound = b + 1 := ⟨bound - 1, by omega⟩
  have hread := h b [] hbound noElse_nil
  have hempty : readWithin whole b [] = .ok [] := by cases b <;> rfl
  rw [List.append_nil, hempty] at hread
  simpa [Except.map] using hread

/-- An expression that ends with a semicolon, or the semicolon alone, is read as one statement. -/
theorem reads_optional {e : Node} {ts : List Token} {mark : Token} (he : WrittenOptional e ts)
    (hhead : ∀ t ∈ (ts ++ [mark]).head?, t.text ∉ "\x7b" :: keywords) (hmark : mark.text = ";")
    (whole : Location) :
    ∃ e', e'.unplaced = e.unplaced ∧ Reads whole [e'] (ts ++ [mark]) := by
  obtain ⟨e', hread, he'⟩ := he.read
  refine ⟨e', he', ?_⟩
  obtain ⟨t, us, hts⟩ : ∃ t us, ts ++ [mark] = t :: us := List.exists_cons_of_ne_nil (by simp)
  rw [hts] at hhead ⊢
  have ht := hhead t rfl
  simp only [keywords, List.mem_cons, List.not_mem_nil, or_false, not_or] at ht
  refine reads_of_readOne fun bound rest _ _ => ?_
  have htokens : t :: (us ++ rest) = ts ++ mark :: rest := by
    rw [← List.cons_append, ← hts, List.append_assoc, List.singleton_append]
  -- No other kind of statement begins with this token.
  have hone : readOne whole (readWithin whole bound) t (us ++ rest) =
      readExpression t (us ++ rest) := by
    simp only [readOne, ht, if_false]
  rw [hone, readExpression, htokens, semicolon_of_bracketed he.bracketed hmark]
  simp only [bind, Except.bind, hread]
  rfl

/-- A statement without parts is read as its nodes. -/
theorem WrittenSimple.reads {ns : List Node} {ts : List Token} (h : WrittenSimple ns ts)
    (whole : Location) :
    ∃ ns', unplacedAll ns' = unplacedAll ns ∧ Reads whole ns' ts := by
  cases h with
  | @empty mark hmark =>
    have hhead : ∀ t ∈ ([] ++ [mark] : List Token).head?, t.text ∉ "\x7b" :: keywords := by
      intro t ht
      obtain rfl : mark = t := by simpa using ht
      rw [hmark]
      decide
    obtain ⟨e', he', hreads⟩ := reads_optional (.inl ⟨rfl, rfl⟩) hhead hmark whole
    exact ⟨[e'], by simp only [unplacedAll, he'], hreads⟩
  | @expression e ts mark he hmark =>
    have hhead : ∀ t ∈ (ts ++ [mark]).head?, t.text ∉ "\x7b" :: keywords := by
      intro t ht
      obtain ⟨t', ts', rfl⟩ := List.exists_cons_of_ne_nil he.1.ne_nil
      obtain rfl : t' = t := by simpa using ht
      have hbrace := he.bracketed.text_ne t' List.mem_cons_self
      simp only [List.mem_cons, List.not_mem_nil, or_false, not_or] at hbrace
      exact fun hmem => (List.mem_cons.mp hmem).elim hbrace.2.1 (he.2 t' List.mem_cons_self)
    obtain ⟨e', he', hreads⟩ := reads_optional (.inr he) hhead hmark whole
    exact ⟨[e'], by simp only [unplacedAll, he'], hreads⟩
  | @declaration ns ts t mark ht hns hmark =>
    obtain ⟨ns', hread, hns'⟩ := hns.read whole t.loc
    refine ⟨ns', hns', ?_⟩
    rw [List.cons_append]
    refine reads_of_readOne fun bound rest _ _ => ?_
    have hone : readOne whole (readWithin whole bound) t (ts ++ [mark] ++ rest) =
        Declaration.read whole t.loc (ts ++ [mark] ++ rest) := by
      simp [readOne, ht]
    rw [hone, Declaration.read, List.append_assoc, List.singleton_append,
      semicolon_of_bracketed hns.bracketed hmark]
    simp only [bind, Except.bind, hread]
    rfl

/-- The body of a loop or a branch, followed by anything but an `else`. -/
theorem body_of_reads {bare : Bool} {ns ns' : List Node} {us rest : List Token} {whole : Location}
    {bound : Nat} (h : WrittenOne bare ns us) (hreads : Reads whole ns' us)
    (hbound : us.length ≤ bound) (hrest : NoElse rest) (ends : Ends) :
    body ends (readWithin whole bound) (us ++ rest) = .ok (.sequence ns', rest) := by
  rw [body, h.statement ends hrest]
  simp only [bind, Except.bind, hreads.alone h.ne_nil hbound]
  cases us with
  | nil => exact absurd rfl h.ne_nil
  | cons t ts => rfl

/-- The header of a for loop is divided at its two semicolons. -/
theorem forHeader_of_written {init : List Node} {condition step : Node} {is cs ss : List Token}
    {mark : Token} (hinit : WrittenSimple init is) (hcondition : WrittenOptional condition cs)
    (hmark : mark.text = ";") (hstep : WrittenOptional step ss) :
    ForHeader.of (is ++ (cs ++ mark :: ss)) = .ok ⟨is, cs, ss⟩ := by
  obtain ⟨body, first, rfl, hfirst, hbody, -⟩ := hinit.endsAtSemicolon
  rw [ForHeader.of, List.append_assoc, List.singleton_append,
    partAt_of_clear (hbody.clear (.inl rfl)) (hbody.foldl_depthAfter 0) hfirst]
  simp only
  rw [partAt_of_clear (hcondition.bracketed.clear (.inl rfl))
    (hcondition.bracketed.foldl_depthAfter 0) hmark]
  simp only [countOf_of_clear (hstep.bracketed.clear (.inl rfl))]

/-- A while loop is read from its header and from what its body is read as. -/
theorem reads_while {bare : Bool} {e e' : Node} {ns ns' : List Node} {ts us : List Token}
    {t o c : Token} {whole : Location} (ht : t.text = "while") (ho : o.text = "(")
    (he : WrittenExpression e ts) (hread : Expression.read ts = .ok e') (hc : c.text = ")")
    (hbody : WrittenOne bare ns us) (hreads : Reads whole ns' us) :
    Reads whole [.whileLoop e' (.sequence ns') t.loc] (t :: (o :: ts ++ c :: us)) := by
  refine reads_of_readOne fun bound rest hbound hrest => ?_
  have hus : us.length ≤ bound := by simp at hbound; omega
  have htokens : o :: ts ++ c :: us ++ rest = o :: ts ++ c :: (us ++ rest) := by simp
  rw [htokens]
  simp only [readOne, ht, String.reduceEq, if_false, if_true, readWhile,
    enclosed_of_passes ho (he.bracketed.passes .paren) hc, bind, Except.bind, hread,
    body_of_reads hbody hreads hus hrest]
  rfl

/-- A for loop is read from the three parts of its header and from what its body is read as. -/
theorem reads_for {bare : Bool} {condition condition' step step' : Node}
    {init init' ns ns' : List Node} {is cs ss us : List Token} {t o mark c : Token}
    {whole : Location} (ht : t.text = "for") (ho : o.text = "(") (hinit : WrittenSimple init is)
    (hinitReads : Reads whole init' is) (hcondition : WrittenOptional condition cs)
    (hconditionRead : Expression.read cs = .ok condition') (hmark : mark.text = ";")
    (hstep : WrittenOptional step ss) (hstepRead : Expression.read ss = .ok step')
    (hc : c.text = ")") (hbody : WrittenOne bare ns us) (hreads : Reads whole ns' us) :
    Reads whole [.forLoop (.sequence init') condition' step' (.sequence ns') t.loc]
      (t :: (o :: (is ++ (cs ++ mark :: ss)) ++ c :: us)) := by
  refine reads_of_readOne fun bound rest hbound hrest => ?_
  have hlen : is.length ≤ bound ∧ us.length ≤ bound := by simp at hbound; omega
  have hinitOne : WrittenOne bare init is := .simple hinit
  have htokens : o :: (is ++ (cs ++ mark :: ss)) ++ c :: us ++ rest =
      o :: (is ++ (cs ++ mark :: ss)) ++ c :: (us ++ rest) := by simp
  rw [htokens]
  simp only [readOne, ht, String.reduceEq, if_false, if_true, readFor,
    enclosed_of_passes ho (passes_forHeader hinit hcondition hmark hstep .paren) hc, bind,
    Except.bind, forHeader_of_written hinit hcondition hmark hstep, hinitReads.alone hinitOne.ne_nil hlen.1,
    hconditionRead, hstepRead, body_of_reads hbody hreads hlen.2 hrest]
  rfl

/-- An `if` is read from its header and its one branch, since no `else` comes next. -/
theorem reads_if {e e' : Node} {ns ns' : List Node} {ts us : List Token} {t o c : Token}
    {whole : Location} (ht : t.text = "if") (ho : o.text = "(") (he : WrittenExpression e ts)
    (hread : Expression.read ts = .ok e') (hc : c.text = ")") (hthen : WrittenOne true ns us)
    (hreads : Reads whole ns' us) :
    Reads whole [.ifElse e' (.sequence ns') none t.loc] (t :: (o :: ts ++ c :: us)) := by
  refine reads_of_readOne fun bound rest hbound hrest => ?_
  have hus : us.length ≤ bound := by simp at hbound; omega
  -- What follows is no `else`, so there is no second branch.
  have helse : ∀ ends, readElse ends (readWithin whole bound) rest = .ok (none, rest) := by
    intro ends
    cases rest with
    | nil => rfl
    | cons next more => rw [readElse, if_neg (hrest next more rfl)]
  have htokens : o :: ts ++ c :: us ++ rest = o :: ts ++ c :: (us ++ rest) := by simp
  rw [htokens]
  simp only [readOne, ht, String.reduceEq, if_false, if_true, readIf,
    enclosed_of_passes ho (he.bracketed.passes .paren) hc, bind, Except.bind, hread,
    hthen.bareStatement, hreads.alone hthen.ne_nil hus, helse]
  rfl

/-- An `if` with an `else` is read from its header and both branches. -/
theorem reads_if_else {e e' : Node} {ns ns' ms ms' : List Node} {ts us vs : List Token}
    {t o c mark : Token} {whole : Location} (ht : t.text = "if") (ho : o.text = "(")
    (he : WrittenExpression e ts) (hread : Expression.read ts = .ok e') (hc : c.text = ")")
    (hthen : WrittenOne true ns us) (hreads : Reads whole ns' us) (hmark : mark.text = "else")
    (helse : WrittenOne false ms vs) (helseReads : Reads whole ms' vs) :
    Reads whole [.ifElse e' (.sequence ns') (some (.sequence ms')) t.loc]
      (t :: (o :: ts ++ c :: us) ++ mark :: vs) := by
  rw [List.cons_append]
  refine reads_of_readOne fun bound rest hbound hrest => ?_
  have hlen : us.length ≤ bound ∧ vs.length ≤ bound := by simp at hbound; omega
  -- The second branch is found and read like the body of a loop.
  have hbranch : ∀ ends, readElse ends (readWithin whole bound) (mark :: (vs ++ rest)) =
      .ok (some (.sequence ms'), rest) := by
    intro ends
    rw [readElse, if_pos hmark, body_of_reads helse helseReads hlen.2 hrest]
    rfl
  have htokens : o :: ts ++ c :: us ++ mark :: vs ++ rest =
      o :: ts ++ c :: (us ++ (mark :: (vs ++ rest))) := by simp
  rw [htokens]
  simp only [readOne, ht, String.reduceEq, if_false, if_true, readIf,
    enclosed_of_passes ho (he.bracketed.passes .paren) hc, bind, Except.bind, hread,
    hthen.bareStatement, hreads.alone hthen.ne_nil hlen.1, hbranch]
  rfl

theorem reads_return {e e' : Node} {ts : List Token} {t mark : Token} (ht : t.text = "return")
    (he : WrittenOptional e ts) (hread : Expression.read ts = .ok e') (hmark : mark.text = ";")
    (whole : Location) : Reads whole [.giveBack e' t.loc] (t :: ts ++ [mark]) := by
  rw [List.cons_append]
  refine reads_of_readOne fun bound rest _ _ => ?_
  rw [List.append_assoc, List.singleton_append]
  simp only [readOne, ht, if_true, readReturn, semicolon_of_bracketed he.bracketed hmark, bind,
    Except.bind, hread]
  rfl

theorem reads_block {ns ns' : List Node} {ts : List Token} {o c : Token} {whole : Location}
    (ho : o.text = "\x7b") (hns : WrittenAll ns ts)
    (hread : ∀ bound, ts.length ≤ bound → readWithin whole bound ts = .ok ns')
    (hc : c.text = "\x7d") :
    Reads whole [.block (.sequence ns') o.loc] (o :: ts ++ [c]) := by
  rw [List.cons_append]
  refine reads_of_readOne fun bound rest hbound _ => ?_
  have hts : ts.length ≤ bound := by simp at hbound; omega
  have hbraces := fun whole => enclosed_block ho hns hc whole rest
  simp only [List.cons_append] at hbraces
  simp only [readOne, ho, String.reduceEq, if_false, if_true, readBlock, hbraces, bind,
    Except.bind, hread bound hts]
  rfl

mutual

/-- A written statement is read as its nodes. -/
theorem WrittenOne.reads {bare : Bool} {ns : List Node} {ts : List Token} (whole : Location) :
    WrittenOne bare ns ts → ∃ ns', unplacedAll ns' = unplacedAll ns ∧ Reads whole ns' ts
  | .simple h => h.reads whole
  | .giveBack ht he hmark => by
    obtain ⟨e', hread, he'⟩ := he.read
    exact ⟨_, by simp only [unplacedAll, Node.unplaced, he'], reads_return ht he hread hmark whole⟩
  | .block ho hns hc => by
    obtain ⟨ns', hns', hread⟩ := hns.reads whole
    exact ⟨_, by simp only [unplacedAll, Node.unplaced, hns'], reads_block ho hns hread hc⟩
  | .whileLoop ht ho he hc hbody => by
    obtain ⟨e', hread, he'⟩ := he.read
    obtain ⟨ns', hns', hreads⟩ := hbody.reads whole
    exact ⟨_, by simp only [unplacedAll, Node.unplaced, he', hns'],
      reads_while ht ho he hread hc hbody hreads⟩
  | .forLoop ht ho hinit hcondition hmark hstep hc hbody => by
    obtain ⟨init', hinit', hinitReads⟩ := hinit.reads whole
    obtain ⟨condition', hconditionRead, hcondition'⟩ := hcondition.read
    obtain ⟨step', hstepRead, hstep'⟩ := hstep.read
    obtain ⟨ns', hns', hreads⟩ := hbody.reads whole
    exact ⟨_, by simp only [unplacedAll, Node.unplaced, hinit', hcondition', hstep', hns'],
      reads_for ht ho hinit hinitReads hcondition hconditionRead hmark hstep hstepRead hc hbody
        hreads⟩
  | .ifThen ht ho he hc hthen => by
    obtain ⟨e', hread, he'⟩ := he.read
    obtain ⟨ns', hns', hreads⟩ := hthen.reads whole
    exact ⟨_, by simp only [unplacedAll, Node.unplaced, unplacedElse, he', hns'],
      reads_if ht ho he hread hc hthen hreads⟩
  | .ifElse ht ho he hc hthen hmark helse => by
    obtain ⟨e', hread, he'⟩ := he.read
    obtain ⟨ns', hns', hreads⟩ := hthen.reads whole
    obtain ⟨ms', hms', helseReads⟩ := helse.reads whole
    exact ⟨_, by simp only [unplacedAll, Node.unplaced, unplacedElse, he', hns', hms'],
      reads_if_else ht ho he hread hc hthen hreads hmark helse helseReads⟩

/-- Written statements are read as their nodes, whatever bound the tokens fit in. -/
theorem WrittenAll.reads {ns : List Node} {ts : List Token} (whole : Location) :
    WrittenAll ns ts → ∃ ns', unplacedAll ns' = unplacedAll ns ∧
      ∀ bound, ts.length ≤ bound → readWithin whole bound ts = .ok ns'
  | .nil => ⟨[], rfl, fun bound _ => by cases bound <;> rfl⟩
  | @WrittenAll.cons ns ms ts us h hmore => by
    obtain ⟨ns', hns', hreads⟩ := h.reads whole
    obtain ⟨ms', hms', hmoreReads⟩ := hmore.reads whole
    refine ⟨ns' ++ ms', by rw [unplacedAll_append, unplacedAll_append, hns', hms'], ?_⟩
    intro bound hbound
    -- The statement takes a token at least, so that the rest fits in what remains of the bound.
    have hpos : 0 < ts.length := List.length_pos_iff.2 h.ne_nil
    rw [List.length_append] at hbound
    obtain ⟨b, rfl⟩ : ∃ b, bound = b + 1 := ⟨bound - 1, by omega⟩
    rw [hreads b us (by omega) hmore.noElse, hmoreReads b (by omega)]
    rfl

end

/-! ## Section 3: The round trip -/

/-- Statements, however they are written, are read back as what they are, places aside. -/
theorem readAll_written (whole : Location) {ns : List Node} {ts : List Token}
    (h : WrittenAll ns ts) :
    ∃ ns', readAll whole ts = .ok ns' ∧
      (Node.sequence ns').unplaced = (Node.sequence ns).unplaced := by
  obtain ⟨ns', hns', hread⟩ := h.reads whole
  exact ⟨ns', hread ts.length (Nat.le_refl _), by simp only [Node.unplaced, hns']⟩

/-- In `if (a) if (b) x; else y;` the `else` belongs to the outer `if`. -/
theorem readAll_written_else :
    ∃ ns', readAll .start (["if", "(", "a", ")", "if", "(", "b", ")", "x", ";", "else", "y",
        ";"].map (Token.mk · .start)) = .ok ns' ∧
      (Node.sequence ns').unplaced = (Node.sequence [.ifElse (.var ⟨"a", [], .start⟩)
        (.sequence [.ifElse (.var ⟨"b", [], .start⟩) (.sequence [.var ⟨"x", [], .start⟩]) none
          .start])
        (some (.sequence [.var ⟨"y", [], .start⟩])) .start]).unplaced := by
  have hname : ∀ text ∈ ["a", "b", "x", "y"], IsDeclarable text := by
    unfold IsDeclarable Expression.IsVariableName
    decide
  have hvar : ∀ text ∈ ["a", "b", "x", "y"],
      WrittenExpression (.var ⟨text, [], .start⟩) [⟨text, .start⟩] := by
    intro text htext
    obtain ⟨hvariable, hkeyword⟩ := hname text htext
    refine ⟨.plain (t := ⟨text, .start⟩) hvariable, fun t ht => ?_⟩
    rw [List.mem_singleton.mp ht]
    exact hkeyword
  have hsimple : ∀ text ∈ ["a", "b", "x", "y"], ∀ bare,
      WrittenOne bare [.var ⟨text, [], .start⟩] ([⟨text, .start⟩] ++ [⟨";", .start⟩]) :=
    fun text htext bare => .simple (.expression (hvar text htext) rfl)
  have hinner : WrittenOne true [.ifElse (.var ⟨"b", [], .start⟩)
      (.sequence [.var ⟨"x", [], .start⟩]) none .start] _ :=
    .ifThen (t := ⟨"if", .start⟩) (o := ⟨"(", .start⟩) (c := ⟨")", .start⟩) rfl rfl
      (hvar "b" (by decide)) rfl (hsimple "x" (by decide) true)
  have houter : WrittenOne false [.ifElse (.var ⟨"a", [], .start⟩) (.sequence [.ifElse
      (.var ⟨"b", [], .start⟩) (.sequence [.var ⟨"x", [], .start⟩]) none .start])
      (some (.sequence [.var ⟨"y", [], .start⟩])) .start] _ :=
    @WrittenOne.ifElse _ _ _ _ _ _ _ ⟨"if", .start⟩ ⟨"(", .start⟩ ⟨")", .start⟩ ⟨"else", .start⟩
      rfl rfl (hvar "a" (by decide)) rfl hinner rfl (hsimple "y" (by decide) false)
  exact readAll_written .start (.cons houter .nil)

end Stepwise.Statement
