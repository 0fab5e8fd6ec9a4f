import Stepwise.Proofs.Relocation
import Stepwise.Proofs.Shape
import Stepwise.Proofs.StatementExtent

/-!
# What has been read stays read

A reader that has come to the end of what it reads has not looked at what follows. Nor has it looked
at the places that faults at the end of all tokens are reported at, since it has found none. So
anything else may follow the tokens that it took, and it reads the same from them.

There is one exception. After an if the next token is looked at, and an `else` is taken in. For
statements, what follows may therefore begin with an `else` only if what followed before did.

Searches and readers each have a statement of this form, `_front`, and they are put together along
the definitions. For whole programs it follows that their lists of tokens can be put together: what
is read is the one program and then the other.

## Main results

* `Extent.statement_front`: the extent of a statement.
* `Statement.readOne_front`: statements.
* `Loading.TakesItem.front`, `Loading.Loads.loadWithin_append`: the items of a program.
* `Program.ofTokens_append`: two programs without a common name.
-/

namespace Stepwise

/-! ## Section 1: Readings that carry over -/

namespace Expression.Reading

variable {α β γ δ : Type} {g : α → β} {k : γ → δ}

/-- What the first reading gives, the second one gives as well, changed by `g`. -/
def Carries (g : α → β) (x : Reading α) (y : Reading β) : Prop :=
  ∀ a, x = .ok a → y = .ok (g a)

theorem Carries.self (x : Reading α) : Carries id x x :=
  fun _ h => h

theorem Carries.ok {a : α} {b : β} (h : g a = b) : Carries g (.ok a) (.ok b) := by
  rintro _ ⟨⟩
  rw [h]

theorem Carries.error {fault : SyntaxFault} {y : Reading β} : Carries g (.error fault) y :=
  fun _ h => by cases h

/-- One reading after another. -/
theorem Carries.bind {x : Reading α} {y : Reading β} {h : α → Reading γ} {h' : β → Reading δ}
    (hx : Carries g x y) (hh : ∀ a, x = .ok a → Carries k (h a) (h' (g a))) :
    Carries k (x >>= h) (y >>= h') := by
  cases x with
  | ok a =>
    rw [hx a rfl]
    exact hh a rfl
  | error fault => exact .error

/-- Both readings ask the same question. -/
theorem Carries.ite {c : Prop} [Decidable c] {x y : Reading α} {x' y' : Reading β}
    (hx : c → Carries g x x') (hy : ¬ c → Carries g y y') :
    Carries g (if c then x else y) (if c then x' else y') := by
  split
  · next h => exact hx h
  · next h => exact hy h

end Expression.Reading

open Expression (Reading exists_of_bind_ok exists_of_map_ok ok_of_bind)
open Expression.Reading

/-! ## Section 2: Searches -/

theorem Enclosed.bracketed_append (e : Enclosed) (ts : List Token) :
    e.bracketed ++ ts = e.opener :: (e.inside ++ e.closer :: ts) := by
  simp [Enclosed.bracketed]

namespace Extent

/-- A separator that has been found is found again, whatever follows it. -/
theorem partAt_front {separator : String} {depth : Nat} {ts : List Token} {p : Parted}
    (h : partAt separator depth ts = some p) (us : List Token) :
    partAt separator depth (p.before ++ p.mark :: us) = some { p with after := us } := by
  induction ts generalizing depth p with
  | nil => cases h
  | cons t ts ih =>
    rw [partAt] at h
    split at h
    · next hmark =>
      cases h
      rw [List.nil_append, partAt, if_pos hmark]
    · next hmark =>
      obtain ⟨q, hq, rfl⟩ := Option.map_eq_some_iff.mp h
      rw [Parted.cons, List.cons_append, partAt, if_neg hmark, ih hq]
      rfl

/-- So is a closing bracket. -/
theorem partAtCloser_front {bracket : Bracket} {depth : Nat} {ts : List Token} {p : Parted}
    (h : partAtCloser bracket depth ts = some p) (us : List Token) :
    partAtCloser bracket depth (p.before ++ p.mark :: us) = some { p with after := us } := by
  induction ts generalizing depth p with
  | nil => cases h
  | cons t ts ih =>
    have hcons : ∀ {d : Nat} {q : Parted}, partAtCloser bracket d ts = some q →
        (partAtCloser bracket d (q.before ++ q.mark :: us)).map (Parted.cons t) =
          some { q.cons t with after := us } := by
      intro d q hq
      rw [ih hq]
      rfl
    rw [partAtCloser] at h
    split_ifs at h with hopener hcloser hdepth
    · obtain ⟨q, hq, rfl⟩ := Option.map_eq_some_iff.mp h
      rw [Parted.cons, List.cons_append, partAtCloser, if_pos hopener]
      exact hcons hq
    · cases h
      rw [List.nil_append, partAtCloser, if_neg hopener, if_pos hcloser, if_pos hdepth]
    · obtain ⟨q, hq, rfl⟩ := Option.map_eq_some_iff.mp h
      rw [Parted.cons, List.cons_append, partAtCloser, if_neg hopener, if_pos hcloser,
        if_neg hdepth]
      exact hcons hq
    · obtain ⟨q, hq, rfl⟩ := Option.map_eq_some_iff.mp h
      rw [Parted.cons, List.cons_append, partAtCloser, if_neg hopener, if_neg hcloser]
      exact hcons hq

/-- What brackets enclose does not depend on what follows them. -/
theorem enclosed_front {whole : Location} {bracket : Bracket} {ts : List Token} {e : Enclosed}
    (h : enclosed whole bracket ts = .ok e) (whole' : Location) (us : List Token) :
    enclosed whole' bracket (e.bracketed ++ us) = .ok { e with after := us } := by
  cases ts with
  | nil => cases h
  | cons t ts =>
    rw [enclosed] at h
    split at h
    · next hopener =>
      split at h
      · next p hp =>
        cases h
        rw [Enclosed.bracketed_append, enclosed, if_pos hopener, partAtCloser_front hp]
      · cases h
    · cases h

/-- Nor does it depend on where a missing bracket would have been reported. -/
theorem enclosed_ends (whole whole' : Location) (bracket : Bracket) (ts : List Token) :
    Carries id (enclosed whole bracket ts) (enclosed whole' bracket ts) := by
  intro e he
  have hfront := enclosed_front he whole' e.after
  rwa [Enclosed.bracketed_append, ← Enclosed.tokens, enclosed_tokens he] at hfront

/-- What ends with a semicolon does not depend on what follows it. -/
theorem semicolon_front {loc : Location} {ts : List Token} {p : Parted}
    (h : semicolon loc ts = .ok p) (loc' : Location) (us : List Token) :
    semicolon loc' (p.before ++ p.mark :: us) = .ok { p with after := us } := by
  unfold semicolon at h ⊢
  split at h
  · next hpart =>
    cases h
    rw [partAt_front hpart]
  · cases h

/-! ### Cuts -/

/-- The first piece of a cut begins where the tokens that were cut began. -/
theorem front_eq_cons {t : Token} {ts : List Token} {c : Cut} (hc : c.tokens = t :: ts)
    (hne : c.front ≠ []) : ∃ front, c.front = t :: front := by
  obtain ⟨t', front, hfront⟩ := List.exists_cons_of_ne_nil hne
  rw [Cut.tokens, hfront, List.cons_append, List.cons.injEq] at hc
  exact ⟨front, hc.1 ▸ hfront⟩

theorem enclosed_cut_front {whole : Location} {bracket : Bracket} {ts : List Token} {c : Cut}
    (h : (enclosed whole bracket ts).map Enclosed.cut = .ok c) (whole' : Location)
    (us : List Token) :
    (enclosed whole' bracket (c.front ++ us)).map Enclosed.cut = .ok ⟨c.front, us⟩ := by
  obtain ⟨e, he, rfl⟩ := exists_of_map_ok h
  rw [Enclosed.cut, enclosed_front he]
  rfl

theorem semicolon_cut_front {loc : Location} {ts : List Token} {c : Cut}
    (h : (semicolon loc ts).map Parted.cut = .ok c) (loc' : Location) (us : List Token) :
    (semicolon loc' (c.front ++ us)).map Parted.cut = .ok ⟨c.front, us⟩ := by
  obtain ⟨p, hp, rfl⟩ := exists_of_map_ok h
  rw [Parted.cut, List.append_assoc, List.singleton_append, semicolon_front hp]
  rfl

theorem enclosed_cut_ne_nil {whole : Location} {bracket : Bracket} {ts : List Token} {c : Cut}
    (h : (enclosed whole bracket ts).map Enclosed.cut = .ok c) : c.front ≠ [] := by
  obtain ⟨e, -, rfl⟩ := exists_of_map_ok h
  exact List.cons_ne_nil _ _

theorem semicolon_cut_ne_nil {loc : Location} {ts : List Token} {c : Cut}
    (h : (semicolon loc ts).map Parted.cut = .ok c) : c.front ≠ [] := by
  obtain ⟨p, -, rfl⟩ := exists_of_map_ok h
  exact List.append_ne_nil_of_right_ne_nil _ (List.cons_ne_nil _ _)

/-- The extent of a first branch does not depend on what follows it, not even on an `else`. -/
theorem bareStatement_front {ends : Ends} {ts : List Token} {c : Cut}
    (h : bareStatement ends ts = .ok c) (ends' : Ends) (us : List Token) :
    bareStatement ends' (c.front ++ us) = .ok ⟨c.front, us⟩ := by
  -- The search goes on behind a header, so the induction is on the length of the list.
  induction hlength : ts.length using Nat.strongRecOn generalizing ts c with
  | ind n ih =>
    subst hlength
    cases ts with
    | nil =>
      rw [bareStatement] at h
      cases h
    | cons t ts =>
      have htokens := bareStatement_tokens h
      rw [bareStatement_cons] at h
      split_ifs at h with hbrace hheader
      · obtain ⟨front, hfront⟩ := front_eq_cons htokens (enclosed_cut_ne_nil h)
        have hcut := enclosed_cut_front h ends'.whole us
        rw [hfront, List.cons_append] at hcut ⊢
        rw [bareStatement_cons, if_pos hbrace, hcut]
      · obtain ⟨header, he, h⟩ := exists_of_bind_ok h
        obtain ⟨d, hd, rfl⟩ := exists_of_map_ok h
        have hrest := ih _ (Nat.lt_succ_of_lt (length_after_lt he)) hd rfl
        have hopen := enclosed_front he ends'.whole (d.front ++ us)
        rw [Cut.addFront, List.cons_append, List.cons_append, List.append_assoc,
          bareStatement_header hheader hopen, hrest]
        rfl
      · obtain ⟨front, hfront⟩ := front_eq_cons htokens (semicolon_cut_ne_nil h)
        have hcut := semicolon_cut_front h t.loc us
        rw [hfront, List.cons_append] at hcut ⊢
        rw [bareStatement_cons, if_neg hbrace, if_neg hheader, hcut]

/-- A statement is not empty: if it were, it would be found at the end of all tokens as well. -/
theorem bareStatement_ne_nil {ends : Ends} {ts : List Token} {c : Cut}
    (h : bareStatement ends ts = .ok c) : c.front ≠ [] := by
  intro hnil
  have hempty := bareStatement_front h ends []
  rw [hnil, List.nil_append, bareStatement] at hempty
  cases hempty

/-- The extent of a statement and what follows it are the tokens searched. -/
theorem statement_tokens {ends : Ends} {ts : List Token} {c : Cut}
    (h : statement ends ts = .ok c) : c.tokens = ts := by
  induction hlength : ts.length using Nat.strongRecOn generalizing ts c with
  | ind n ih =>
    subst hlength
    cases ts with
    | nil =>
      rw [statement] at h
      cases h
    | cons t ts =>
      rw [statement_cons] at h
      split_ifs at h with hbrace hheader hif
      · obtain ⟨e, he, rfl⟩ := exists_of_map_ok h
        rw [Enclosed.tokens_cut, enclosed_tokens he]
      · obtain ⟨header, he, h⟩ := exists_of_bind_ok h
        obtain ⟨d, hd, rfl⟩ := exists_of_map_ok h
        have hrest := ih _ (Nat.lt_succ_of_lt (length_after_lt he)) hd rfl
        rw [Cut.tokens_addFront, hrest, List.cons_append, Enclosed.bracketed_append,
          ← enclosed_tokens he]
        rfl
      · obtain ⟨⟨front, rest⟩, hcut, h⟩ := exists_of_bind_ok h
        have htokens := bareStatement_tokens hcut
        -- Where an `else` follows, what is cut off reaches to the end of the statement behind it.
        cases rest with
        | nil =>
          cases h
          exact htokens
        | cons next more =>
          dsimp only at h
          split_ifs at h
          · obtain ⟨d, hd, rfl⟩ := exists_of_map_ok h
            rw [Cut.tokens_addFront, ih _ (length_more_lt hcut) hd rfl, ← htokens]
            simp [Cut.tokens]
          · cases h
            exact htokens
      · obtain ⟨p, hp, rfl⟩ := exists_of_map_ok h
        rw [Parted.tokens_cut, semicolon_tokens hp]

/-- The extent of a statement depends on what follows it only in whether an `else` comes next. -/
theorem statement_front {ends : Ends} {ts : List Token} {c : Cut}
    (h : statement ends ts = .ok c) (ends' : Ends) {us : List Token}
    (hus : Statement.NoElse c.rest → Statement.NoElse us) :
    statement ends' (c.front ++ us) = .ok ⟨c.front, us⟩ := by
  induction hlength : ts.length using Nat.strongRecOn generalizing ts c with
  | ind n ih =>
    subst hlength
    cases ts with
    | nil =>
      rw [statement] at h
      cases h
    | cons t ts =>
      have htokens := statement_tokens h
      rw [statement_cons] at h
      split_ifs at h with hbrace hheader hif
      · obtain ⟨front, hfront⟩ := front_eq_cons htokens (enclosed_cut_ne_nil h)
        have hcut := enclosed_cut_front h ends'.whole us
        rw [hfront, List.cons_append] at hcut ⊢
        rw [statement_cons, if_pos hbrace, hcut]
      · obtain ⟨header, he, h⟩ := exists_of_bind_ok h
        obtain ⟨d, hd, rfl⟩ := exists_of_map_ok h
        have hrest := ih _ (Nat.lt_succ_of_lt (length_after_lt he)) hd hus rfl
        have hopen := enclosed_front he ends'.whole (d.front ++ us)
        rw [Cut.addFront, List.cons_append, List.cons_append, List.append_assoc,
          statement_header hheader hopen, hrest]
        rfl
      · obtain ⟨⟨front', rest⟩, hcut, h⟩ := exists_of_bind_ok h
        have hbare := bareStatement_front hcut ends'
        obtain ⟨front', rfl⟩ := front_eq_cons (bareStatement_tokens hcut) (bareStatement_ne_nil hcut)
        cases rest with
        | nil =>
          -- No `else` came, since there was nothing, and none comes now.
          cases h
          exact statement_if hif (hbare us) (hus Statement.noElse_nil)
        | cons next more =>
          dsimp only at h
          split_ifs at h with helse
          · -- The `else` belongs to the statement, and what follows its branch is what matters.
            obtain ⟨d, hd, rfl⟩ := exists_of_map_ok h
            have hbranch := ih _ (length_more_lt hcut) hd hus rfl
            have hthen := hbare (next :: (d.front ++ us))
            rw [Cut.addFront]
            simp only [List.append_assoc, List.cons_append, List.nil_append] at hthen ⊢
            rw [statement_if_else hif hthen helse, hbranch]
            simp [Cut.addFront, Except.map]
          · cases h
            exact statement_if hif (hbare us) (hus (Statement.noElse_cons helse))
      · obtain ⟨front, hfront⟩ := front_eq_cons htokens (semicolon_cut_ne_nil h)
        have hcut := semicolon_cut_front h t.loc us
        rw [hfront, List.cons_append] at hcut ⊢
        rw [statement_cons, if_neg hbrace, if_neg hheader, if_neg hif, hcut]

/-- No statement is empty. -/
theorem statement_ne_nil {ends : Ends} {ts : List Token} {c : Cut}
    (h : statement ends ts = .ok c) : c.front ≠ [] := by
  intro hnil
  have hempty := statement_front h ends fun _ => Statement.noElse_nil
  rw [hnil, List.nil_append, statement] at hempty
  cases hempty

end Extent

/-! ## Section 3: Declarations -/

namespace Declaration

theorem skipSizes_ends (whole whole' : Location) (ts : List Token) :
    Carries id (skipSizes whole ts) (skipSizes whole' ts) := by
  induction hlength : ts.length using Nat.strongRecOn generalizing ts with
  | ind n ih =>
    subst hlength
    cases ts with
    | nil =>
      rw [skipSizes, skipSizes]
      exact .self _
    | cons t ts =>
      rw [skipSizes_cons, skipSizes_cons]
      refine .ite (fun _ => ?_) fun _ => .self _
      refine (Extent.enclosed_ends whole whole' .square (t :: ts)).bind fun size hsize => ?_
      exact ih _ (Extent.length_after_lt hsize) size.after rfl

theorem declarator_ends (whole whole' loc : Location) (ts : List Token) :
    Carries id (declarator whole loc ts) (declarator whole' loc ts) := by
  cases ts with
  | nil => exact .error
  | cons first ts =>
    exact (Carries.self (name first)).bind fun _ _ =>
      (skipSizes_ends whole whole' ts).bind fun _ _ => .self _

theorem declarators_ends (whole whole' loc : Location) (pieces : List (List Token)) :
    Carries id (declarators whole loc pieces) (declarators whole' loc pieces) := by
  induction pieces with
  | nil => exact .self _
  | cons piece pieces ih =>
    exact (declarator_ends whole whole' loc piece).bind fun _ _ => ih.bind fun _ _ => .self _

/-- A declaration takes in its semicolon, whatever follows it. -/
theorem read_front {whole loc : Location} {ts rest : List Token} {nodes : List Node}
    (h : read whole loc ts = .ok (nodes, rest)) :
    ∃ front, ts = front ++ rest ∧
      ∀ whole' us, read whole' loc (front ++ us) = .ok (nodes, us) := by
  obtain ⟨p, hp, h⟩ := exists_of_bind_ok h
  obtain ⟨nodes, hnodes, h⟩ := exists_of_bind_ok h
  cases h
  refine ⟨p.before ++ [p.mark], ?_, fun whole' us => ?_⟩
  · rw [List.append_assoc, ← Extent.semicolon_tokens hp]
    rfl
  · rw [List.append_assoc]
    exact ok_of_bind (Extent.semicolon_front hp loc us)
      (ok_of_bind (declarators_ends whole whole' loc _ _ hnodes) rfl)

/-- A declaration has two tokens at least, a name and a semicolon. -/
theorem length_of_read {whole loc : Location} {ts : List Token} {step : List Node × List Token}
    (h : read whole loc ts = .ok step) : 2 ≤ ts.length := by
  cases ts with
  | nil => cases h
  | cons t ts =>
    cases ts with
    | nil =>
      -- A single token is no semicolon, or there is nothing before it.
      exfalso
      unfold read Extent.semicolon at h
      rw [Extent.partAt, Extent.partAt] at h
      split_ifs at h
      · cases h
      · cases h
    | cons u ts => simp

end Declaration

/-! ## Section 4: Statements -/

namespace Statement

open Extent (Ends)

theorem ForHeader.length_init_le {ts : List Token} {header : ForHeader}
    (h : ForHeader.of ts = .ok header) : header.init.length ≤ ts.length := by
  unfold ForHeader.of at h
  split at h
  · cases h
  · next first hfirst =>
    split at h
    · cases h
    · split at h
      · cases h
        rw [← Extent.partAt_tokens hfirst]
        simp [Parted.tokens]
      · cases h

/-- Something has been read from the front of the tokens `ts`, up to `rest`. It is read `again` from
all tokens that have the same front, unless an `else` comes behind it that did not come before. -/
def TakesFront {α : Type} (again : Ends → List Token → Reading (α × List Token)) (ts : List Token)
    (a : α) (rest : List Token) : Prop :=
  ∃ front, ts = front ++ rest ∧
    ∀ ends us, (NoElse rest → NoElse us) → again ends (front ++ us) = .ok (a, us)

/-- What is read again by one reader is read again by another one that does the same, wherever its
faults would be reported. -/
theorem TakesFront.imp {α : Type} {again again' : Ends → List Token → Reading (α × List Token)}
    {ts rest : List Token} {a : α} (h : TakesFront again ts a rest)
    (hsame : ∀ ends us, ∃ ends', again' ends us = again ends' us) : TakesFront again' ts a rest := by
  obtain ⟨front, hfront, hagain⟩ := h
  refine ⟨front, hfront, fun ends us hus => ?_⟩
  obtain ⟨ends', heq⟩ := hsame ends (front ++ us)
  rw [heq]
  exact hagain ends' us hus

variable {ts rest : List Token} {nodes : List Node} {t : Token}

theorem readReturn_front (h : readReturn t ts = .ok (nodes, rest)) :
    TakesFront (fun _ => readReturn t) ts nodes rest := by
  obtain ⟨p, hp, h⟩ := exists_of_bind_ok h
  obtain ⟨value, hvalue, h⟩ := exists_of_bind_ok h
  cases h
  refine ⟨p.before ++ [p.mark], ?_, fun ends us _ => ?_⟩
  · rw [List.append_assoc, ← Extent.semicolon_tokens hp]
    rfl
  · rw [List.append_assoc]
    exact ok_of_bind (Extent.semicolon_front hp t.loc us) (ok_of_bind hvalue rfl)

theorem readExpression_front (h : readExpression t ts = .ok (nodes, rest)) :
    TakesFront (fun _ => readExpression t) ts nodes rest := by
  obtain ⟨p, hp, h⟩ := exists_of_bind_ok h
  obtain ⟨node, hnode, h⟩ := exists_of_bind_ok h
  cases h
  have htokens : p.cut.tokens = t :: ts := by
    rw [Parted.tokens_cut, Extent.semicolon_tokens hp]
  -- The first token belongs to the expression, or it is the semicolon itself.
  obtain ⟨front, hfront⟩ := Extent.front_eq_cons htokens (by simp [Parted.cut])
  refine ⟨front, ?_, fun ends us _ => ?_⟩
  · rw [Cut.tokens, hfront, List.cons_append, List.cons.injEq] at htokens
    exact htokens.2.symm
  · have hpiece : t :: (front ++ us) = p.before ++ p.mark :: us := by
      rw [← List.cons_append, ← hfront, Parted.cut, List.append_assoc, List.singleton_append]
    refine ok_of_bind (a := { p with after := us }) ?_ (ok_of_bind hnode rfl)
    rw [hpiece]
    exact Extent.semicolon_front hp t.loc us

variable {ends : Ends} {inner inner' : List Token → Reading (List Node)} {n : Nat}
  (hinner : ∀ us, us.length ≤ n → Carries id (inner us) (inner' us))

include hinner

/-- A block takes in its braces. -/
theorem readBlock_front (hlength : ts.length ≤ n)
    (h : readBlock ends inner t ts = .ok (nodes, rest)) :
    TakesFront (fun ends => readBlock ends inner' t) ts nodes rest := by
  obtain ⟨braces, hbraces, h⟩ := exists_of_bind_ok h
  obtain ⟨inside, hinside, h⟩ := exists_of_bind_ok h
  cases h
  have htokens := Extent.enclosed_tokens hbraces
  rw [Enclosed.tokens, List.cons.injEq] at htokens
  obtain ⟨rfl, rfl⟩ := htokens
  refine ⟨braces.inside ++ [braces.closer], by simp, fun ends us _ => ?_⟩
  have hless : braces.inside.length ≤ n := by
    simp only [List.length_append] at hlength
    omega
  exact ok_of_bind (Extent.enclosed_front hbraces ends.whole us)
    (ok_of_bind (hinner braces.inside hless inside hinside) rfl)

/-- The body of a loop takes in one statement, and an `else` only if one came next before. -/
theorem body_front {node : Node} (hlength : ts.length ≤ n)
    (h : body ends inner ts = .ok (node, rest)) :
    TakesFront (fun ends => body ends inner') ts node rest := by
  obtain ⟨cut, hcut, h⟩ := exists_of_bind_ok h
  obtain ⟨inside, hinside, h⟩ := exists_of_bind_ok h
  cases h
  refine ⟨cut.front, (Extent.statement_tokens hcut).symm, fun ends us hus => ?_⟩
  have hless : cut.front.length ≤ n := by
    rw [← Extent.statement_tokens hcut, Cut.tokens, List.length_append] at hlength
    omega
  exact ok_of_bind (Extent.statement_front hcut ends hus)
    (ok_of_bind (hinner cut.front hless inside hinside) rfl)

/-- A for loop takes in its header and its body. -/
theorem readFor_front (hlength : ts.length ≤ n)
    (h : readFor ends inner t ts = .ok (nodes, rest)) :
    TakesFront (fun ends => readFor ends inner' t) ts nodes rest := by
  obtain ⟨parens, hparens, h⟩ := exists_of_bind_ok h
  have htokens := Extent.enclosed_tokens hparens
  cases hheader : ForHeader.of parens.inside with
  | error found =>
    rw [hheader] at h
    cases h
  | ok header =>
    rw [hheader] at h
    obtain ⟨init, hinit, h⟩ := exists_of_bind_ok h
    obtain ⟨condition, hcondition, h⟩ := exists_of_bind_ok h
    obtain ⟨step, hstep, h⟩ := exists_of_bind_ok h
    obtain ⟨⟨node, rest'⟩, hbody, h⟩ := exists_of_bind_ok h
    cases h
    -- The first part of the header is read as statements, and it is no longer than the header.
    have hless : header.init.length ≤ n := by
      refine Nat.le_trans (ForHeader.length_init_le hheader) (Nat.le_trans ?_ hlength)
      rw [← htokens]
      simp only [Enclosed.tokens, List.length_cons, List.length_append]
      omega
    obtain ⟨front, hfront, hagain⟩ := body_front hinner
      (Nat.le_trans (Nat.le_of_lt (Extent.length_after_lt hparens)) hlength) hbody
    refine ⟨parens.bracketed ++ front, ?_, fun ends us hus => ?_⟩
    · rw [List.append_assoc, ← hfront, ← htokens, Enclosed.bracketed_append]
      rfl
    · rw [List.append_assoc]
      refine ok_of_bind (Extent.enclosed_front hparens ends.whole (front ++ us)) ?_
      dsimp only
      rw [hheader]
      exact ok_of_bind (hinner header.init hless init hinit) (ok_of_bind hcondition
        (ok_of_bind hstep (ok_of_bind (hagain ends us hus) rfl)))

/-- So does a while loop. -/
theorem readWhile_front (hlength : ts.length ≤ n)
    (h : readWhile ends inner t ts = .ok (nodes, rest)) :
    TakesFront (fun ends => readWhile ends inner' t) ts nodes rest := by
  obtain ⟨parens, hparens, h⟩ := exists_of_bind_ok h
  obtain ⟨condition, hcondition, h⟩ := exists_of_bind_ok h
  obtain ⟨⟨node, rest'⟩, hbody, h⟩ := exists_of_bind_ok h
  cases h
  obtain ⟨front, hfront, hagain⟩ := body_front hinner
    (Nat.le_trans (Nat.le_of_lt (Extent.length_after_lt hparens)) hlength) hbody
  refine ⟨parens.bracketed ++ front, ?_, fun ends us hus => ?_⟩
  · rw [List.append_assoc, ← hfront, ← Extent.enclosed_tokens hparens, Enclosed.bracketed_append]
    rfl
  · rw [List.append_assoc]
    exact ok_of_bind (Extent.enclosed_front hparens ends.whole (front ++ us))
      (ok_of_bind hcondition (ok_of_bind (hagain ends us hus) rfl))

omit hinner in
theorem readElse_of_noElse (hts : NoElse ts) : readElse ends inner ts = .ok (none, ts) := by
  cases ts with
  | nil => rfl
  | cons t ts => rw [readElse, if_neg (hts t ts rfl)]

/-- A second branch is taken in where there was one, and none where there was none. -/
theorem readElse_front {branch : Option Node} (hlength : ts.length ≤ n)
    (h : readElse ends inner ts = .ok (branch, rest)) :
    TakesFront (fun ends => readElse ends inner') ts branch rest := by
  cases ts with
  | nil =>
    cases h
    exact ⟨[], rfl, fun ends us hus => readElse_of_noElse (hus noElse_nil)⟩
  | cons t ts =>
    rw [readElse] at h
    split_ifs at h with helse
    · obtain ⟨⟨node, rest'⟩, hbody, h⟩ := exists_of_bind_ok h
      cases h
      obtain ⟨front, hfront, hagain⟩ := body_front hinner (Nat.le_of_succ_le hlength) hbody
      refine ⟨t :: front, by rw [hfront, List.cons_append], fun ends us hus => ?_⟩
      dsimp only
      rw [List.cons_append, readElse, if_pos helse]
      exact ok_of_bind (hagain ends us hus) rfl
    · -- Nothing is taken, and nothing will be from tokens that do not go on with an `else` either.
      cases h
      exact ⟨[], rfl, fun ends us hus => readElse_of_noElse (hus (noElse_cons helse))⟩

/-- An `if` takes in its header, its first branch, and its second one if there was one. -/
theorem readIf_front (hlength : ts.length ≤ n)
    (h : readIf ends inner t ts = .ok (nodes, rest)) :
    TakesFront (fun ends => readIf ends inner' t) ts nodes rest := by
  obtain ⟨parens, hparens, h⟩ := exists_of_bind_ok h
  obtain ⟨condition, hcondition, h⟩ := exists_of_bind_ok h
  obtain ⟨cut, hcut, h⟩ := exists_of_bind_ok h
  obtain ⟨thenBranch, hthen, h⟩ := exists_of_bind_ok h
  obtain ⟨⟨elseBranch, rest'⟩, helse, h⟩ := exists_of_bind_ok h
  cases h
  -- The first branch is found whatever follows it. What follows matters to the other one only.
  have htokens := Extent.bareStatement_tokens hcut
  have hafter : cut.front.length + cut.rest.length ≤ n := by
    rw [← List.length_append, ← Cut.tokens, htokens]
    exact Nat.le_trans (Nat.le_of_lt (Extent.length_after_lt hparens)) hlength
  obtain ⟨front, hfront, hagain⟩ := readElse_front hinner (by omega) helse
  refine ⟨parens.bracketed ++ (cut.front ++ front), ?_, fun ends us hus => ?_⟩
  · rw [List.append_assoc, List.append_assoc, ← hfront, ← Cut.tokens, htokens,
      ← Extent.enclosed_tokens hparens, Enclosed.bracketed_append]
    rfl
  · rw [List.append_assoc, List.append_assoc]
    exact ok_of_bind (Extent.enclosed_front hparens ends.whole _) (ok_of_bind hcondition
      (ok_of_bind (Extent.bareStatement_front hcut ends (front ++ us))
        (ok_of_bind (hinner cut.front (by omega) thenBranch hthen)
          (ok_of_bind (hagain ends us hus) rfl))))

/-- What one statement takes in depends on what follows it only in whether an `else` comes next. -/
theorem readOne_front {whole : Location} (hlength : ts.length ≤ n)
    (h : readOne whole inner t ts = .ok (nodes, rest)) :
    TakesFront (fun ends => readOne ends.whole inner' t) ts nodes rest := by
  -- The reader is chosen by the first token, which is the same in all tokens with this front.
  unfold readOne at h
  split_ifs at h with hreturn hfor hwhile hif hblock hint helse
  · refine (readReturn_front h).imp fun ends us => ⟨ends, ?_⟩
    rw [readOne, if_pos hreturn]
  · refine (readFor_front hinner hlength h).imp fun ends us => ⟨⟨ends.whole, (us.getLastD t).loc⟩, ?_⟩
    rw [readOne, if_neg hreturn, if_pos hfor]
  · refine (readWhile_front hinner hlength h).imp fun ends us => ⟨⟨ends.whole, (us.getLastD t).loc⟩, ?_⟩
    rw [readOne, if_neg hreturn, if_neg hfor, if_pos hwhile]
  · refine (readIf_front hinner hlength h).imp fun ends us => ⟨⟨ends.whole, (us.getLastD t).loc⟩, ?_⟩
    rw [readOne, if_neg hreturn, if_neg hfor, if_neg hwhile, if_pos hif]
  · refine (readBlock_front hinner hlength h).imp fun ends us => ⟨⟨ends.whole, (us.getLastD t).loc⟩, ?_⟩
    rw [readOne, if_neg hreturn, if_neg hfor, if_neg hwhile, if_neg hif, if_pos hblock]
  · obtain ⟨front, hfront, hagain⟩ := Declaration.read_front h
    have htakes : TakesFront (fun ends => Declaration.read ends.whole t.loc) ts nodes rest :=
      ⟨front, hfront, fun ends us _ => hagain ends.whole us⟩
    refine htakes.imp fun ends us => ⟨ends, ?_⟩
    rw [readOne, if_neg hreturn, if_neg hfor, if_neg hwhile, if_neg hif, if_neg hblock, if_pos hint]
  · refine (readExpression_front h).imp fun ends us => ⟨ends, ?_⟩
    rw [readOne, if_neg hreturn, if_neg hfor, if_neg hwhile, if_neg hif, if_neg hblock, if_neg hint,
      if_neg helse]

/-- One statement is read alike wherever faults at the end would have been reported. -/
theorem readOne_ends (whole whole' : Location) (hlength : ts.length ≤ n) :
    Carries id (readOne whole inner t ts) (readOne whole' inner' t ts) := by
  rintro ⟨nodes, rest⟩ h
  obtain ⟨front, rfl, hagain⟩ := readOne_front hinner hlength h
  exact hagain ⟨whole', t.loc⟩ rest id

omit hinner

/-- Statements that have been read are read alike within every bound that is no lower, or that allows
for all the tokens, wherever faults would have been reported. -/
theorem readWithin_ends (whole whole' : Location) {bound bound' : Nat} (ts : List Token)
    (hle : bound ≤ bound' ∨ ts.length ≤ bound') :
    Carries id (readWithin whole bound ts) (readWithin whole' bound' ts) := by
  induction bound generalizing bound' ts with
  | zero =>
    cases ts with
    | nil => cases bound' <;> exact .ok rfl
    | cons t ts => exact .error
  | succ bound ih =>
    cases ts with
    | nil => cases bound' <;> exact .ok rfl
    | cons t ts =>
      rw [List.length_cons] at hle
      obtain ⟨bound', rfl⟩ : ∃ n, bound' = n + 1 := ⟨bound' - 1, by omega⟩
      intro nodes h
      obtain ⟨⟨first, rest⟩, hone, h⟩ := exists_of_bind_ok h
      obtain ⟨more, hmore, h⟩ := exists_of_bind_ok h
      cases h
      -- The statements inside the first one and those after it are read with a smaller bound, and
      -- there are fewer tokens to read.
      have hinner : ∀ us : List Token, us.length ≤ ts.length →
          Carries id (readWithin whole bound us) (readWithin whole' bound' us) :=
        fun us hus => ih us (by omega)
      obtain ⟨front, rfl, hagain⟩ := readOne_front hinner (Nat.le_refl _) hone
      have hrest : rest.length ≤ (front ++ rest).length := by simp
      exact ok_of_bind (hagain ⟨whole', t.loc⟩ rest id)
        (ok_of_bind (hinner rest hrest more hmore) rfl)

/-- So are all statements. -/
theorem readAll_ends (whole whole' : Location) (ts : List Token) :
    Carries id (readAll whole ts) (readAll whole' ts) :=
  readWithin_ends whole whole' ts (.inl (Nat.le_refl _))

end Statement

/-! ## Section 5: Programs -/

/-- The functions and globals of one program and then those of another. -/
def Program.join (p q : Program) : Program :=
  ⟨p.routines ++ q.routines, p.globals ++ q.globals⟩

namespace Program

variable {p q : Program}

/-- Two programs that have no name of a function in common. -/
def Apart (p q : Program) : Prop :=
  ∀ r ∈ p.routines, ∀ s ∈ q.routines, r.name ≠ s.name

theorem find?_eq_none {name : String} :
    p.find? name = none ↔ ∀ r ∈ p.routines, r.name ≠ name := by
  simp [find?]

theorem find?_join (name : String) :
    (p.join q).find? name = (p.find? name).or (q.find? name) :=
  List.find?_append

/-- A function with a new name comes last. -/
theorem define_of_new {routine : Routine} (h : p.find? routine.name = none) :
    p.define routine = { p with routines := p.routines ++ [routine] } := by
  have hfilter : p.routines.filter (fun r => r.name != routine.name) = p.routines := by
    rw [List.filter_eq_self]
    simpa using find?_eq_none.mp h
  rw [define, hfilter]

end Program

namespace Loading

/-- Functions that were read before. -/
def behind (read : List Routine) (later : Loading) : Loading :=
  ⟨read ++ later.read, later.outcome⟩

section

variable {whole : Location} {first : Token} {ts rest : List Token} {routine : Routine}

/-- The braces of a function's body do not depend on what follows them. -/
theorem bodyOf_front {name : String} {e : Enclosed} (h : bodyOf whole name ts = .ok e)
    (whole' : Location) (us : List Token) :
    bodyOf whole' name (e.bracketed ++ us) = .ok { e with after := us } := by
  cases ts with
  | nil => cases h
  | cons t ts =>
    rw [bodyOf] at h
    split at h
    · next hopener =>
      have hfront := Extent.enclosed_front h whole' us
      have htokens := Extent.enclosed_tokens h
      rw [Enclosed.tokens, List.cons.injEq] at htokens
      rw [Enclosed.bracketed_append, htokens.1] at hfront ⊢
      rw [bodyOf, if_pos hopener, hfront]
    · cases h

theorem bodyOf_tokens {name : String} {e : Enclosed} (h : bodyOf whole name ts = .ok e) :
    e.tokens = ts := by
  cases ts with
  | nil => cases h
  | cons t ts =>
    rw [bodyOf] at h
    split at h
    · exact Extent.enclosed_tokens h
    · cases h

/-- A function takes in its parentheses and its braces, whatever follows them. -/
theorem routine_front (h : Loading.routine whole first ts = .ok (routine, rest)) :
    ∃ front, ts = front ++ rest ∧
      ∀ whole' us, Loading.routine whole' first (front ++ us) = .ok (routine, us) := by
  rw [Loading.routine] at h
  obtain ⟨name, hname, h⟩ := exists_of_bind_ok h
  obtain ⟨parens, hparens, h⟩ := exists_of_bind_ok h
  obtain ⟨params, hparams, h⟩ := exists_of_bind_ok h
  obtain ⟨braces, hbraces, h⟩ := exists_of_bind_ok h
  obtain ⟨body, hbody, h⟩ := exists_of_bind_ok h
  cases h
  refine ⟨parens.bracketed ++ braces.bracketed, ?_, fun whole' us => ?_⟩
  · rw [List.append_assoc, Enclosed.bracketed_append braces, Enclosed.bracketed_append parens,
      ← Extent.enclosed_tokens hparens, Enclosed.tokens, ← bodyOf_tokens hbraces, Enclosed.tokens]
  · rw [Loading.routine, List.append_assoc]
    refine ok_of_bind hname (ok_of_bind (Extent.enclosed_front hparens whole' _) ?_)
    refine ok_of_bind hparams (ok_of_bind (bodyOf_front hbraces whole' us) ?_)
    exact ok_of_bind (Statement.readAll_ends whole whole' braces.inside body hbody) rfl

/-- A function is read alike wherever faults at the end would have been reported. -/
theorem routine_ends (h : Loading.routine whole first ts = .ok (routine, rest))
    (whole' : Location) : Loading.routine whole' first ts = .ok (routine, rest) := by
  obtain ⟨front, rfl, hagain⟩ := routine_front h
  exact hagain whole' rest

/-- A function has the name of its first token, and its place. -/
theorem name_of_routine (h : Loading.routine whole first ts = .ok (routine, rest)) :
    routine.name = first.text ∧ routine.loc = first.loc := by
  rw [Loading.routine] at h
  obtain ⟨name, hname, h⟩ := exists_of_bind_ok h
  obtain ⟨parens, -, h⟩ := exists_of_bind_ok h
  obtain ⟨params, -, h⟩ := exists_of_bind_ok h
  obtain ⟨braces, -, h⟩ := exists_of_bind_ok h
  obtain ⟨body, -, h⟩ := exists_of_bind_ok h
  cases h
  rw [Declaration.name] at hname
  split at hname
  · exact ⟨(Except.ok.inj hname).symm, rfl⟩
  · cases hname

end

/-- The first item of some tokens is read into a program: the program with it, the functions that
were read and the tokens that follow. -/
inductive TakesItem (whole : Location) (program : Program) :
    List Token → Program → List Routine → List Token → Prop where
  | routine {t first : Token} {ts after rest : List Token} {routine : Routine}
      (ht : t.text = "int") (hstart : routineStart? ts = some (first, after))
      (hroutine : Loading.routine whole first after = .ok (routine, rest))
      (hnew : program.find? routine.name = none) :
      TakesItem whole program (t :: ts) (program.define routine) [routine] rest
  | declaration {t : Token} {ts rest : List Token} {nodes : List Node} (ht : t.text = "int")
      (hstart : routineStart? ts = none)
      (hread : Declaration.read whole t.loc ts = .ok (nodes, rest)) :
      TakesItem whole program (t :: ts) (program.addGlobals nodes) [] rest

section

variable {whole whole' : Location} {program program' p : Program} {ts rest : List Token}
  {read : List Routine} {bound : Nat}

/-- Loading reads one item, and then what follows it into the program that has the item. -/
theorem TakesItem.loadWithin (h : TakesItem whole program ts program' read rest) (bound : Nat) :
    loadWithin whole (bound + 1) program ts =
      (loadWithin whole bound program' rest).behind read := by
  cases h with
  | routine ht hstart hroutine hnew =>
    simp [Loading.loadWithin, ht, hstart, hroutine, hnew, behind]
  | declaration ht hstart hread => simp [Loading.loadWithin, ht, hstart, hread, behind]

/-- Loading that succeeds has taken a first item. -/
theorem exists_takesItem {t : Token}
    (h : (loadWithin whole (bound + 1) program (t :: ts)).outcome = .ok p) :
    ∃ program' read rest, TakesItem whole program (t :: ts) program' read rest := by
  rw [Loading.loadWithin] at h
  split at h
  · next ht =>
    split at h
    · next first after hstart =>
      split at h
      · cases h
      · next routine rest hroutine =>
        split at h
        · cases h
        · next hnew => exact ⟨_, _, _, .routine ht hstart hroutine (by simpa using hnew)⟩
    · next hstart =>
      split at h
      · cases h
      · next nodes rest hread => exact ⟨_, _, _, .declaration ht hstart hread⟩
  · cases h

/-- Whether an item is a function or a declaration is decided by the two tokens after its type. -/
theorem routineStart?_append (hts : 2 ≤ ts.length) (us : List Token) :
    routineStart? (ts ++ us) = (routineStart? ts).map (Prod.map id (· ++ us)) := by
  obtain ⟨first, t, ts, rfl⟩ : ∃ first t rest, ts = first :: t :: rest := by
    cases ts with
    | nil => cases hts
    | cons first ts =>
      cases ts with
      | nil => exact absurd hts (by simp)
      | cons t ts => exact ⟨first, t, ts, rfl⟩
  show (if t.text = "(" then _ else _) = _
  rw [routineStart?]
  split <;> rfl

/-- A function starts with its name and a parenthesis. -/
theorem exists_of_routineStart? (h : routineStart? ts = some (first, after)) :
    ∃ t us, t.text = "(" ∧ after = t :: us ∧ ts = first :: t :: us := by
  rcases ts with _ | ⟨name, _ | ⟨t, us⟩⟩
  · cases h
  · cases h
  · rw [routineStart?] at h
    split at h
    · next ht =>
      cases h
      exact ⟨t, us, ht, rfl, rfl⟩
    · cases h

/-- What an item takes in does not depend on what follows it. -/
theorem TakesItem.front (h : TakesItem whole program ts program' read rest) :
    ∃ front, front ≠ [] ∧ ts = front ++ rest ∧
      ∀ whole' us, TakesItem whole' program (front ++ us) program' read us := by
  cases h with
  | @routine t first ts after rest routine ht hstart hroutine hnew =>
    obtain ⟨paren, inside, hparen, rfl, rfl⟩ := exists_of_routineStart? hstart
    obtain ⟨front, hfront, hagain⟩ := routine_front hroutine
    cases front with
    | nil =>
      -- A function that took in nothing would be read from nothing.
      have hnothing := hagain whole []
      rw [Loading.routine] at hnothing
      obtain ⟨name, -, hnothing⟩ := exists_of_bind_ok hnothing
      cases hnothing
    | cons paren' front =>
      obtain ⟨rfl, rfl⟩ := List.cons.inj hfront
      exact ⟨t :: first :: paren :: front, List.cons_ne_nil _ _, rfl, fun whole' us =>
        .routine ht (if_pos hparen) (hagain whole' us) hnew⟩
  | @declaration t ts rest nodes ht hstart hread =>
    obtain ⟨front, rfl, hagain⟩ := Declaration.read_front hread
    have hlength : 2 ≤ front.length := by
      have halone := hagain whole []
      rw [List.append_nil] at halone
      exact Declaration.length_of_read halone
    refine ⟨t :: front, List.cons_ne_nil _ _, rfl, fun whole' us => .declaration ht ?_ (hagain whole' us)⟩
    show routineStart? (front ++ us) = none
    rw [routineStart?_append hlength, Option.map_eq_none_iff] at hstart ⊢
    exact hstart

/-- No function is lost by taking an item. -/
theorem TakesItem.routines (h : TakesItem whole program ts program' read rest) :
    program'.routines = program.routines ++ read := by
  cases h with
  | routine _ _ _ hnew => rw [Program.define_of_new hnew]
  | declaration _ _ _ => simp [Program.addGlobals]

/-- An item whose functions have other names is taken alike on top of another program. -/
theorem TakesItem.onto (h : TakesItem whole program ts program' read rest) {base : Program}
    (hapart : ∀ r ∈ base.routines, ∀ s ∈ read, r.name ≠ s.name) :
    TakesItem whole (base.join program) ts (base.join program') read rest := by
  cases h with
  | @routine t first ts after rest routine ht hstart hroutine hnew =>
    have hbase : base.find? routine.name = none :=
      Program.find?_eq_none.mpr fun r hr => hapart r hr routine (by simp)
    have hjoin : (base.join program).find? routine.name = none := by
      rw [Program.find?_join, hbase, hnew]
      rfl
    have hdefine : base.join (program.define routine) = (base.join program).define routine := by
      rw [Program.define_of_new hnew, Program.define_of_new hjoin]
      simp [Program.join]
    rw [hdefine]
    exact .routine ht hstart hroutine hjoin
  | @declaration t ts rest nodes ht hstart hread =>
    have hglobals :
        base.join (program.addGlobals nodes) = (base.join program).addGlobals nodes := by
      simp [Program.join, Program.addGlobals]
    rw [hglobals]
    exact .declaration ht hstart hread

theorem loadWithin_nil (whole : Location) (bound : Nat) (program : Program) :
    loadWithin whole bound program [] = ⟨[], .ok program⟩ := by
  cases bound <;> rfl

/-- All items of some tokens are read into a program, one after the other: how many there are, the
functions that were read and the program in the end. -/
inductive Loads (whole : Location) :
    Program → List Token → Nat → List Routine → Program → Prop where
  | nil {program : Program} : Loads whole program [] 0 [] program
  | item {program program' p : Program} {ts rest : List Token} {items : Nat}
      {read later : List Routine} (hitem : TakesItem whole program ts program' read rest)
      (hrest : Loads whole program' rest items later p) :
      Loads whole program ts (items + 1) (read ++ later) p

/-- Loading that succeeds has read all items one after the other. -/
theorem exists_loads (h : (loadWithin whole bound program ts).outcome = .ok p) :
    ∃ items ≤ bound,
      Loads whole program ts items (loadWithin whole bound program ts).read p := by
  induction bound generalizing program ts with
  | zero =>
    cases ts with
    | nil =>
      cases h
      exact ⟨0, Nat.le_refl 0, .nil⟩
    | cons t ts => cases h
  | succ bound ih =>
    cases ts with
    | nil =>
      cases h
      exact ⟨0, Nat.zero_le _, .nil⟩
    | cons t ts =>
      obtain ⟨program', read, rest, hitem⟩ := exists_takesItem h
      rw [hitem.loadWithin] at h ⊢
      obtain ⟨items, hle, hloads⟩ := ih h
      exact ⟨items + 1, Nat.succ_le_succ hle, .item hitem hloads⟩

variable {items : Nat}

/-- What has been loaded stays loaded when tokens are added, and the added ones are loaded into the
program that there is by then. -/
theorem Loads.loadWithin_append (h : Loads whole program ts items read p) (whole' : Location)
    (more : Nat) (us : List Token) :
    Loading.loadWithin whole' (items + more) program (ts ++ us) =
      (Loading.loadWithin whole' more p us).behind read := by
  induction h with
  | nil => simp [behind]
  | item hitem _ ih =>
    obtain ⟨front, -, rfl, hagain⟩ := hitem.front
    rw [Nat.add_right_comm, List.append_assoc, (hagain whole' _).loadWithin, ih]
    simp [behind]

/-- It is loaded within every bound that allows for its items, wherever faults would have been
reported. -/
theorem Loads.loadWithin (h : Loads whole program ts items read p) (whole' : Location)
    (hle : items ≤ bound) : Loading.loadWithin whole' bound program ts = ⟨read, .ok p⟩ := by
  have happend := h.loadWithin_append whole' (bound - items) []
  rw [List.append_nil, Nat.add_sub_cancel' hle, loadWithin_nil] at happend
  simp [happend, behind]

/-- The functions of a loaded program are those that it began with and those that were read. -/
theorem Loads.routines (h : Loads whole program ts items read p) :
    p.routines = program.routines ++ read := by
  induction h with
  | nil => simp
  | item hitem _ ih => rw [ih, hitem.routines, List.append_assoc]

/-- Functions with other names are loaded alike on top of another program. -/
theorem Loads.onto (h : Loads whole program ts items read p) {base : Program}
    (hapart : base.Apart p) : Loads whole (base.join program) ts items read (base.join p) := by
  induction h with
  | nil => exact .nil
  | @item program program' p ts rest items read later hitem hrest ih =>
    -- The functions that are read first are among those of the program in the end.
    have hread : ∀ s ∈ read, s ∈ p.routines := by
      intro s hs
      rw [hrest.routines, hitem.routines]
      simp [hs]
    exact .item (hitem.onto fun r hr s hs => hapart r hr s (hread s hs)) (ih hapart)

end

end Loading

/-- Two lists of tokens that are read as programs without a common name are read, one behind the
other, as both programs put together. -/
theorem Program.ofTokens_append {xs ys : List Token} {p q : Program}
    (hxs : Program.ofTokens xs = .ok p) (hys : Program.ofTokens ys = .ok q) (hapart : p.Apart q) :
    Program.ofTokens (xs ++ ys) = .ok (p.join q) := by
  obtain ⟨items, hitems, hloads⟩ := Loading.exists_loads hxs
  obtain ⟨items', hitems', hloads'⟩ := Loading.exists_loads hys
  have honto := hloads'.onto hapart
  rw [show p.join {} = p by simp [join]] at honto
  unfold ofTokens Loading.load
  rw [List.length_append, ← Nat.add_sub_cancel' hitems, Nat.add_assoc, hloads.loadWithin_append,
    honto.loadWithin _ (Nat.le_trans hitems' (Nat.le_add_left _ _))]
  rfl

end Stepwise
