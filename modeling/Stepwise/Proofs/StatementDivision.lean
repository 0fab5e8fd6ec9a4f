import Stepwise.Proofs.ReadingOn

/-!
# Where one statement ends and the next begins

There are two descriptions of where a statement ends. The reader of statements goes on behind what it
has read, and the search for the extent of a body counts brackets before anything is read. Both look
for the same semicolons and brackets and take in an `else` at the same places, so that the extent of
the first statement is what the first round of reading takes.

What a round takes depends on what follows only in whether an `else` comes next, and no statement
begins with one. Tokens that can be read are therefore divided into statements that can be read one
by one, and statements can be put behind one another.

## Main results

* `Statement.rounds_of_readAll` and `Statement.Rounds.readAll_eq`: statements are read in rounds, and what
  can be read in rounds is read.
* `Statement.Round.extent`: a round ends where the search for an extent ends.
* `Statement.first_extent_is_one_round`: the extent of the first statement is read in one round, and
  so is every body.
* `Statement.readAll_append`: statements behind statements.
-/

namespace Stepwise

open Expression (Reading Gives exists_of_bind_ok ok_of_bind)
open Expression.Reading

/-! ## Section 1: Extents -/

namespace Extent

theorem statement_ends (ends ends' : Ends) (ts : List Token) :
    Carries id (statement ends ts) (statement ends' ts) := by
  intro c h
  have hagain := statement_front h ends' id
  rwa [← Cut.tokens, statement_tokens h] at hagain

/-- The search for a semicolon passes over a first token that is no bracket. -/
theorem semicolon_cons {loc : Location} {t : Token} {ts : List Token} {p : Parted}
    (ht : t.text ∉ structureTexts) (h : semicolon loc ts = .ok p) (loc' : Location) :
    semicolon loc' (t :: ts) = .ok (p.cons t) := by
  simp only [structureTexts, List.mem_cons, List.not_mem_nil, or_false, not_or] at ht
  have hdepth : depthAfter 0 t = 0 := by simp [depthAfter, ht]
  unfold semicolon at h ⊢
  split at h
  · next hpart =>
    cases h
    rw [partAt, if_neg (by simp [ht]), hdepth, hpart]
    rfl
  · cases h

end Extent

namespace Statement

open Extent (Ends)

/-! ## Section 2: Rounds -/

/-- One round of reading takes a statement from the front of some tokens, or the nodes of one
declaration, and leaves the rest. -/
inductive Round (whole : Location) : List Token → List Node → List Token → Prop where
  | statement {t : Token} {ts rest : List Token} {node : Node} (ht : t.text ≠ "int")
      (h : readOne whole (readAll whole) t ts = .ok ([node], rest)) :
      Round whole (t :: ts) [node] rest
  | declaration {t : Token} {ts rest : List Token} {nodes : List Node} (ht : t.text = "int")
      (h : Declaration.read whole t.loc ts = .ok (nodes, rest)) : Round whole (t :: ts) nodes rest

section

variable {whole whole' : Location} {t : Token} {ts rest : List Token} {nodes : List Node}

theorem readOne_declaration {inner : List Token → Reading (List Node)} (ht : t.text = "int")
    (ts : List Token) : readOne whole inner t ts = Declaration.read whole t.loc ts := by
  simp [readOne, ht]

/-- Every statement but a declaration is read as a single node, whatever its parts are. -/
theorem gives_node {inner : List Token → Reading (List Node)} (ht : t.text ≠ "int")
    (ts : List Token) : Gives (fun step => ∃ node, step.1 = [node]) (readOne whole inner t ts) := by
  unfold readOne
  dsimp only
  split_ifs
  · exact .bind (.any _) fun _ _ => .bind (.any _) fun _ _ => .ok ⟨_, rfl⟩
  · refine .bind (.any _) fun parens _ => ?_
    split
    · exact .error
    · exact .bind (.any _) fun _ _ => .bind (.any _) fun _ _ => .bind (.any _) fun _ _ =>
        .bind (.any _) fun _ _ => .ok ⟨_, rfl⟩
  · exact .bind (.any _) fun _ _ => .bind (.any _) fun _ _ => .bind (.any _) fun _ _ => .ok ⟨_, rfl⟩
  · exact .bind (.any _) fun _ _ => .bind (.any _) fun _ _ => .bind (.any _) fun _ _ =>
      .bind (.any _) fun _ _ => .bind (.any _) fun _ _ => .ok ⟨_, rfl⟩
  · exact .bind (.any _) fun _ _ => .bind (.any _) fun _ _ => .ok ⟨_, rfl⟩
  · exact .error
  · exact .bind (.any _) fun _ _ => .bind (.any _) fun _ _ => .ok ⟨_, rfl⟩

theorem round_cons :
    Round whole (t :: ts) nodes rest ↔
      readOne whole (readAll whole) t ts = .ok (nodes, rest) := by
  constructor
  · rintro (⟨-, h⟩ | ⟨ht, h⟩)
    · exact h
    · rwa [readOne_declaration ht]
  · intro h
    by_cases ht : t.text = "int"
    · rw [readOne_declaration ht] at h
      exact .declaration ht h
    · obtain ⟨node, rfl⟩ := gives_node ht ts _ h
      exact .statement ht h

theorem Round.exists_cons (h : Round whole ts nodes rest) :
    ∃ t us, ts = t :: us ∧ readOne whole (readAll whole) t us = .ok (nodes, rest) := by
  cases h with
  | statement ht h => exact ⟨_, _, rfl, h⟩
  | declaration ht h => exact ⟨_, _, rfl, by rwa [readOne_declaration ht]⟩

/-- What a round takes, it takes from all tokens that begin alike, unless an `else` comes behind it
that did not come before. -/
theorem Round.front (h : Round whole ts nodes rest) :
    ∃ front, front ≠ [] ∧ ts = front ++ rest ∧
      ∀ whole' us, (NoElse rest → NoElse us) → Round whole' (front ++ us) nodes us := by
  obtain ⟨t, ts, rfl, hone⟩ := h.exists_cons
  have hinner : ∀ whole' us, us.length ≤ ts.length →
      Carries id (readAll whole us) (readAll whole' us) :=
    fun whole' us _ => readAll_ends whole whole' us
  obtain ⟨front, rfl, hagain⟩ := readOne_front (hinner whole) (Nat.le_refl _) hone
  refine ⟨t :: front, List.cons_ne_nil _ _, rfl, fun whole' us hus => round_cons.mpr ?_⟩
  -- What is inside the statement is read alike, too.
  have hone' := hagain ⟨whole', t.loc⟩ us hus
  exact readOne_ends (fun us _ => readAll_ends whole whole' us) whole' whole' (Nat.le_refl _) _ hone'

theorem Round.length_lt (h : Round whole ts nodes rest) : rest.length < ts.length := by
  obtain ⟨front, hfront, rfl, -⟩ := h.front
  rw [List.length_append]
  exact Nat.lt_add_of_pos_left (List.length_pos_iff.mpr hfront)

/-- No statement begins with an `else`. -/
theorem Round.noElse (h : Round whole ts nodes rest) : NoElse ts := by
  cases h with
  | @statement t ts rest node ht h =>
    refine noElse_cons fun helse => ?_
    simp [readOne, helse] at h
  | declaration ht h => exact noElse_cons (by rw [ht]; decide)

/-- Some tokens are read in rounds, one behind the other. -/
inductive Rounds (whole : Location) : List Token → List Node → Prop where
  | nil : Rounds whole [] []
  | round {ts rest : List Token} {first more : List Node} (hround : Round whole ts first rest)
      (hmore : Rounds whole rest more) : Rounds whole ts (first ++ more)

theorem Rounds.noElse (h : Rounds whole ts nodes) : NoElse ts := by
  cases h with
  | nil => exact noElse_nil
  | round hround _ => exact hround.noElse

theorem Rounds.ends (h : Rounds whole ts nodes) (whole' : Location) : Rounds whole' ts nodes := by
  induction h with
  | nil => exact .nil
  | @round ts rest first more hround _ ih =>
    obtain ⟨front, -, rfl, hagain⟩ := hround.front
    exact .round (hagain whole' rest id) ih

/-- Statements are read by reading the first one and then those that are left. -/
theorem readAll_cons :
    readAll whole (t :: ts) = .ok nodes ↔
      ∃ first rest more, Round whole (t :: ts) first rest ∧ readAll whole rest = .ok more ∧
        nodes = first ++ more := by
  -- There are no more tokens than `ts` inside the first statement or behind it, so that the bound that
  -- is left after one statement does for both.
  constructor
  · intro h
    obtain ⟨⟨first, rest⟩, hone, h⟩ := exists_of_bind_ok h
    obtain ⟨more, hmore, h⟩ := exists_of_bind_ok h
    cases h
    have hround : Round whole (t :: ts) first rest :=
      round_cons.mpr (readOne_ends (fun us _ => readWithin_ends whole whole us (.inr (Nat.le_refl _)))
        whole whole (Nat.le_refl _) _ hone)
    exact ⟨first, rest, more, hround,
      readWithin_ends whole whole rest (.inr (Nat.le_refl _)) more hmore, rfl⟩
  · rintro ⟨first, rest, more, hround, hmore, rfl⟩
    have hrest : rest.length ≤ ts.length := Nat.le_of_lt_succ hround.length_lt
    have hone := readOne_ends (fun us hus => readWithin_ends whole whole us (.inl hus)) whole whole
      (Nat.le_refl _) _ (round_cons.mp hround)
    exact ok_of_bind hone (ok_of_bind (readWithin_ends whole whole rest (.inl hrest) more hmore) rfl)

/-- What can be read in rounds is read, the nodes of the rounds one after the other. -/
theorem Rounds.readAll_eq (h : Rounds whole ts nodes) : readAll whole ts = .ok nodes := by
  induction h with
  | nil => rfl
  | @round ts rest first more hround _ ih =>
    obtain ⟨t, us, rfl, -⟩ := hround.exists_cons
    exact readAll_cons.mpr ⟨first, rest, more, hround, ih, rfl⟩

/-- Statements that are read are read in rounds. -/
theorem rounds_of_readAll (h : readAll whole ts = .ok nodes) : Rounds whole ts nodes := by
  -- What is left after a round is shorter, but it is no immediate part of the list.
  induction hlength : ts.length using Nat.strongRecOn generalizing ts nodes with
  | ind n ih =>
    subst hlength
    cases ts with
    | nil =>
      cases h
      exact .nil
    | cons t ts =>
      obtain ⟨first, rest, more, hround, hmore, rfl⟩ := readAll_cons.mp h
      exact .round hround (ih _ hround.length_lt hmore rfl)

end

/-! ## Section 3: Statements behind statements -/

theorem Rounds.append {whole whole' : Location} {xs ys : List Token} {as bs : List Node}
    (hxs : Rounds whole xs as) (hys : Rounds whole' ys bs) :
    Rounds whole' (xs ++ ys) (as ++ bs) := by
  induction hxs with
  | nil => exact hys
  | @round xs rest first more hround hmore ih =>
    obtain ⟨front, -, rfl, hagain⟩ := hround.front
    -- Neither what was left nor what is put behind it begins with an `else`.
    rw [List.append_assoc, List.append_assoc]
    exact .round (hagain whole' (rest ++ ys) fun hrest => hrest.append hys.noElse) ih

/-- Statements behind statements are read as the ones and then the others, wherever their faults
would be reported. -/
theorem readAll_append {whole whole' whole'' : Location} {xs ys : List Token} {as bs : List Node}
    (hxs : readAll whole xs = .ok as) (hys : readAll whole' ys = .ok bs) :
    readAll whole'' (xs ++ ys) = .ok (as ++ bs) := by
  have hrounds := (rounds_of_readAll hxs).append (rounds_of_readAll hys)
  exact (hrounds.ends whole'').readAll_eq

/-- `if (a) x;` -/
def loneIf : List Token :=
  [⟨"if", ⟨1, 1⟩⟩, ⟨"(", ⟨1, 4⟩⟩, ⟨"a", ⟨1, 5⟩⟩, ⟨")", ⟨1, 6⟩⟩, ⟨"x", ⟨1, 8⟩⟩, ⟨";", ⟨1, 9⟩⟩]

/-- `while (b) y; int c, d;` -/
def loopAndDeclaration : List Token :=
  [⟨"while", ⟨2, 1⟩⟩, ⟨"(", ⟨2, 7⟩⟩, ⟨"b", ⟨2, 8⟩⟩, ⟨")", ⟨2, 9⟩⟩, ⟨"y", ⟨2, 11⟩⟩, ⟨";", ⟨2, 12⟩⟩,
    ⟨"int", ⟨2, 14⟩⟩, ⟨"c", ⟨2, 18⟩⟩, ⟨",", ⟨2, 19⟩⟩, ⟨"d", ⟨2, 21⟩⟩, ⟨";", ⟨2, 22⟩⟩]

theorem readAll_loneIf (whole : Location) :
    readAll whole loneIf =
      .ok [.ifElse (.var ⟨"a", [], ⟨1, 5⟩⟩) (.sequence [.var ⟨"x", [], ⟨1, 8⟩⟩]) none ⟨1, 1⟩] := by
  cbv

theorem readAll_loopAndDeclaration (whole : Location) :
    readAll whole loopAndDeclaration =
      .ok [.whileLoop (.var ⟨"b", [], ⟨2, 8⟩⟩) (.sequence [.var ⟨"y", [], ⟨2, 11⟩⟩]) ⟨2, 1⟩,
        .declaration "c" ⟨2, 18⟩, .declaration "d" ⟨2, 21⟩] := by
  cbv

theorem readAll_append_loneIf :
    readAll .start (loneIf ++ loopAndDeclaration) =
      .ok [.ifElse (.var ⟨"a", [], ⟨1, 5⟩⟩) (.sequence [.var ⟨"x", [], ⟨1, 8⟩⟩]) none ⟨1, 1⟩,
        .whileLoop (.var ⟨"b", [], ⟨2, 8⟩⟩) (.sequence [.var ⟨"y", [], ⟨2, 11⟩⟩]) ⟨2, 1⟩,
        .declaration "c" ⟨2, 18⟩, .declaration "d" ⟨2, 21⟩] :=
  readAll_append (readAll_loneIf .start) (readAll_loopAndDeclaration .start)

/-! ## Section 4: Rounds and extents -/

/-- The search for the extent of the first statement ends where `rest` begins. -/
def ExtentLeaves (ts rest : List Token) : Prop :=
  ∃ ends cut, Extent.statement ends ts = .ok cut ∧ cut.rest = rest

section

variable {ends : Ends} {inner : List Token → Reading (List Node)} {whole : Location} {t : Token}
  {ts rest : List Token} {nodes : List Node}

theorem ExtentLeaves.of_semicolon {loc : Location} {p : Parted} (ht : t.text ∉ Extent.partWords)
    (h : Extent.semicolon loc (t :: ts) = .ok p) : ExtentLeaves (t :: ts) p.after := by
  have hagain : Extent.semicolon t.loc (t :: ts) = .ok p := by
    have hfront := Extent.semicolon_front h t.loc p.after
    rwa [← Parted.tokens, Extent.semicolon_tokens h] at hfront
  refine ⟨⟨t.loc, t.loc⟩, p.cut, ?_, rfl⟩
  rw [Extent.statement_semicolon ht, hagain]
  rfl

theorem ExtentLeaves.of_body {parens : Enclosed} {node : Node}
    (ht : t.text = "for" ∨ t.text = "while")
    (hparens : Extent.enclosed ends.whole .paren ts = .ok parens)
    (h : body ends inner parens.after = .ok (node, rest)) : ExtentLeaves (t :: ts) rest := by
  obtain ⟨cut, hcut, h⟩ := exists_of_bind_ok h
  obtain ⟨inside, -, h⟩ := exists_of_bind_ok h
  cases h
  refine ⟨ends, cut.addFront (t :: parens.bracketed), ?_, rfl⟩
  rw [Extent.statement_header ht hparens, hcut]
  rfl

/-- After an if, the search takes in an `else` if the reader does. -/
theorem ExtentLeaves.of_readElse {cut : Cut} {branch : Option Node} (ht : t.text = "if")
    (hcut : Extent.bareStatement ends (t :: ts) = .ok cut)
    (h : readElse ends inner cut.rest = .ok (branch, rest)) : ExtentLeaves (t :: ts) rest := by
  obtain ⟨front, us⟩ := cut
  cases us with
  | nil =>
    cases h
    exact ⟨ends, _, Extent.statement_if ht hcut noElse_nil, rfl⟩
  | cons next more =>
    rw [readElse] at h
    split_ifs at h with helse
    · obtain ⟨⟨node, rest'⟩, hbody, h⟩ := exists_of_bind_ok h
      cases h
      obtain ⟨cut, hbranch, hbody⟩ := exists_of_bind_ok hbody
      obtain ⟨inside, -, hbody⟩ := exists_of_bind_ok hbody
      cases hbody
      refine ⟨ends, cut.addFront (front ++ [next]), ?_, rfl⟩
      rw [Extent.statement_if_else ht hcut helse, hbranch]
      rfl
    · cases h
      exact ⟨ends, _, Extent.statement_if ht hcut (noElse_cons helse), rfl⟩

/-- The search for the extent of a statement ends where its reader stops. -/
theorem extentLeaves_of_readOne (h : readOne whole inner t ts = .ok (nodes, rest)) :
    ExtentLeaves (t :: ts) rest := by
  unfold readOne at h
  split_ifs at h with hreturn hfor hwhile hif hblock hint helse
  · obtain ⟨p, hp, h⟩ := exists_of_bind_ok h
    obtain ⟨value, -, h⟩ := exists_of_bind_ok h
    cases h
    -- The search for the extent begins one token earlier than that of the reader.
    have hcons := Extent.semicolon_cons (t := t) (by rw [hreturn]; decide) hp t.loc
    exact .of_semicolon (p := p.cons t) (by rw [hreturn]; decide) hcons
  · obtain ⟨parens, hparens, h⟩ := exists_of_bind_ok h
    dsimp only at h
    split at h
    · cases h
    · obtain ⟨init, -, h⟩ := exists_of_bind_ok h
      obtain ⟨condition, -, h⟩ := exists_of_bind_ok h
      obtain ⟨step, -, h⟩ := exists_of_bind_ok h
      obtain ⟨⟨node, rest'⟩, hbody, h⟩ := exists_of_bind_ok h
      cases h
      exact .of_body (.inl hfor) hparens hbody
  · obtain ⟨parens, hparens, h⟩ := exists_of_bind_ok h
    obtain ⟨condition, -, h⟩ := exists_of_bind_ok h
    obtain ⟨⟨node, rest'⟩, hbody, h⟩ := exists_of_bind_ok h
    cases h
    exact .of_body (.inr hwhile) hparens hbody
  · obtain ⟨parens, hparens, h⟩ := exists_of_bind_ok h
    obtain ⟨condition, -, h⟩ := exists_of_bind_ok h
    obtain ⟨cut, hcut, h⟩ := exists_of_bind_ok h
    obtain ⟨thenBranch, -, h⟩ := exists_of_bind_ok h
    obtain ⟨⟨elseBranch, rest'⟩, helse, h⟩ := exists_of_bind_ok h
    cases h
    -- Reader and search both stop behind the bare first branch and look for the `else` from there.
    have hbare := Extent.bareStatement_header (.inl hif) hparens
    rw [hcut] at hbare
    exact .of_readElse hif hbare helse
  · obtain ⟨braces, hbraces, h⟩ := exists_of_bind_ok h
    obtain ⟨inside, -, h⟩ := exists_of_bind_ok h
    cases h
    refine ⟨⟨whole, whole⟩, braces.cut, ?_, rfl⟩
    rw [Extent.statement_brace hblock, hbraces]
    rfl
  · obtain ⟨p, hp, h⟩ := exists_of_bind_ok h
    obtain ⟨value, -, h⟩ := exists_of_bind_ok h
    cases h
    have hcons := Extent.semicolon_cons (t := t) (by rw [hint]; decide) hp t.loc
    exact .of_semicolon (p := p.cons t) (by rw [hint]; decide) hcons
  · obtain ⟨p, hp, h⟩ := exists_of_bind_ok h
    obtain ⟨value, -, h⟩ := exists_of_bind_ok h
    cases h
    exact .of_semicolon (by simp [Extent.partWords, hblock, hif, hfor, hwhile, helse]) hp

/-- What is cut off as the first statement is what the first round takes. -/
theorem Round.extent (h : Round whole ts nodes rest) (ends : Ends) :
    ∃ cut, Extent.statement ends ts = .ok cut ∧ cut.rest = rest ∧
      Round whole cut.front nodes [] := by
  obtain ⟨t, us, rfl, hone⟩ := h.exists_cons
  obtain ⟨ends', cut, hcut, hrest⟩ := extentLeaves_of_readOne hone
  refine ⟨cut, Extent.statement_ends ends' ends _ cut hcut, hrest, ?_⟩
  -- The search and the round leave the same rest, so that they take the same tokens.
  obtain ⟨front, -, htokens, hagain⟩ := h.front
  have hfront : cut.front = front := by
    rw [← Extent.statement_tokens hcut, Cut.tokens, hrest] at htokens
    exact List.append_cancel_right htokens
  have halone := hagain whole [] fun _ => noElse_nil
  rwa [List.append_nil, ← hfront] at halone

/-- What is cut off as a body is a single statement, if it can be read at all. -/
theorem round_of_extent {cut : Cut} (hcut : Extent.statement ends ts = .ok cut)
    (h : readAll whole cut.front = .ok nodes) : Round whole cut.front nodes [] := by
  -- The extent of the piece is all of it, so that its first round leaves nothing for another one.
  have halone := Extent.statement_front hcut ends fun _ => noElse_nil
  rw [List.append_nil] at halone
  generalize cut.front = piece at h halone
  cases rounds_of_readAll h with
  | nil =>
    rw [Extent.statement] at halone
    cases halone
  | @round _ rest first more hround hmore =>
    obtain ⟨cut', hcut', rfl, -⟩ := hround.extent ends
    rw [halone] at hcut'
    cases hcut'
    cases hmore with
    | nil => simpa using hround
    | round hround _ => exact absurd hround.length_lt (Nat.not_lt_zero _)

end

/-- The extent of the first statement and its reading agree: what is cut off can be read and is read
in one round, and what is left can be read. Bodies, which are cut off before they are read, are
single statements in the same way. -/
theorem first_extent_is_one_round (whole : Location) (ends : Ends) :
    (∀ ts nodes, ts ≠ [] → readAll whole ts = .ok nodes →
      ∃ cut first more, Extent.statement ends ts = .ok cut ∧ cut.tokens = ts ∧ cut.front ≠ [] ∧
        readAll whole cut.front = .ok first ∧ readAll whole cut.rest = .ok more ∧
        nodes = first ++ more ∧ Round whole cut.front first []) ∧
    ∀ ts node rest, body ends (readAll whole) ts = .ok (node, rest) →
      ∃ front nodes, ts = front ++ rest ∧ node = .sequence nodes ∧
        Round whole front nodes [] := by
  constructor
  · intro ts nodes hne h
    obtain ⟨t, us, rfl⟩ := List.exists_cons_of_ne_nil hne
    obtain ⟨first, rest, more, hround, hmore, rfl⟩ := readAll_cons.mp h
    obtain ⟨cut, hcut, rfl, halone⟩ := hround.extent ends
    -- One round with nothing left is all that there is to read.
    have hfirst : readAll whole cut.front = .ok first := by
      have hrounds := Rounds.round halone .nil
      rw [List.append_nil] at hrounds
      exact hrounds.readAll_eq
    exact ⟨cut, first, more, hcut, Extent.statement_tokens hcut, Extent.statement_ne_nil hcut,
      hfirst, hmore, rfl, halone⟩
  · intro ts node rest h
    obtain ⟨cut, hcut, h⟩ := exists_of_bind_ok h
    obtain ⟨nodes, hnodes, h⟩ := exists_of_bind_ok h
    cases h
    exact ⟨cut.front, nodes, (Extent.statement_tokens hcut).symm, rfl, round_of_extent hcut hnodes⟩

/-- The loop is cut off from the declaration, and its body is cut off in front of the loop's end. -/
theorem first_extent_is_one_round_loopAndDeclaration :
    (∃ cut first more, Extent.statement ⟨.start, .start⟩ loopAndDeclaration = .ok cut ∧
      cut.tokens = loopAndDeclaration ∧ cut.front ≠ [] ∧ readAll .start cut.front = .ok first ∧
      readAll .start cut.rest = .ok more ∧
      [.whileLoop (.var ⟨"b", [], ⟨2, 8⟩⟩) (.sequence [.var ⟨"y", [], ⟨2, 11⟩⟩]) ⟨2, 1⟩,
        .declaration "c" ⟨2, 18⟩, .declaration "d" ⟨2, 21⟩] = first ++ more ∧
      Round .start cut.front first []) ∧
    ∃ front nodes, loopAndDeclaration.drop 4 = front ++ loopAndDeclaration.drop 6 ∧
      Node.sequence [.var ⟨"y", [], ⟨2, 11⟩⟩] = .sequence nodes ∧ Round .start front nodes [] := by
  have hbody : body ⟨.start, .start⟩ (readAll .start) (loopAndDeclaration.drop 4) =
      .ok (.sequence [.var ⟨"y", [], ⟨2, 11⟩⟩], loopAndDeclaration.drop 6) := by
    cbv
  obtain ⟨hfirst, hbodies⟩ := first_extent_is_one_round .start ⟨.start, .start⟩
  exact ⟨hfirst loopAndDeclaration _ (List.cons_ne_nil _ _) (readAll_loopAndDeclaration .start),
    hbodies _ _ _ hbody⟩

end Statement

end Stepwise
