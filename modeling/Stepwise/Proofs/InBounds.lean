import Stepwise.Proofs.Joining
import Stepwise.Proofs.Positions

/-!
# Readers by positions do not slip

Reading by positions and reading lists come to the same. Whatever a search finds in the list, it finds
at the position that belongs to it, and it finds it within the bounds: the closing bracket comes behind
the opening one, a statement has a token at least, and a separator in the header of a loop comes before
the end of the header. So every piece that is taken has its ends in order, every reader moves on, and
what stands inside a statement is shorter than the tokens that the statement is read from. Tokens need
not make sense for this. Brackets that are not balanced, and texts that end too early, are faults like
any other.

## Main results

* `Position.Agree.bind`: agreement is put together along the readers.
* `Position.closer_agrees`, `Position.statementEnd_agrees`: searches.
* `Position.readOne_agrees`: statements.
* `Position.readers_never_slip`: statements and programs.
-/

namespace Stepwise.Position

open Expression (Reading)
open Extent (Ends)

/-! ## Section 1: Agreement -/

section

variable {α β γ δ : Type} {R : α → β → Prop} {S : γ → δ → Prop}

/-- What is read by positions agrees with what is read from lists: it is the same, as far as `R` tells,
or the same fault is found. In particular it is no slip. -/
inductive Agree (R : α → β → Prop) : Checked α → Reading β → Prop where
  | ok {a : α} {b : β} (h : R a b) : Agree R (.ok a) (.ok b)
  | fault {fault : SyntaxFault} : Agree R (.error (.fault fault)) (.error fault)

namespace Agree

/-- One reader after another: the second one is given results that agree. -/
theorem bind {x : Checked α} {y : Reading β} {f : α → Checked γ} {g : β → Reading δ}
    (hx : Agree R x y) (hf : ∀ a b, R a b → Agree S (f a) (g b)) : Agree S (x >>= f) (y >>= g) := by
  cases hx with
  | ok h => exact hf _ _ h
  | fault => exact .fault

/-- What is made of the results may agree in another way. -/
theorem map {x : Checked α} {y : Reading β} {T : α → δ → Prop} {g : β → δ} (hx : Agree R x y)
    (h : ∀ a b, R a b → T a (g b)) : Agree T x (y.map g) := by
  cases hx with
  | ok hr => exact .ok (h _ _ hr)
  | fault => exact .fault

/-- Both readers ask the same question before they go on. -/
theorem ite {c : Prop} [Decidable c] {x x' : Checked α} {y y' : Reading β} (hx : c → Agree R x y)
    (hy : ¬ c → Agree R x' y') : Agree R (if c then x else x') (if c then y else y') := by
  split
  · next h => exact hx h
  · next h => exact hy h

/-- A piece that can be taken is taken, and reading goes on with it. -/
theorem piece {ts xs : List Token} {lo hi : Nat} {f : List Token → Checked γ} {y : Reading δ}
    (h : Position.piece ts lo hi = .ok xs) (hf : Agree S (f xs) y) :
    Agree S (Position.piece ts lo hi >>= f) y := by
  rw [h]
  exact hf

/-- A token that is there is taken, and reading goes on with it. -/
theorem tokenAt {ts : List Token} {i : Nat} {t : Token} {f : Token → Checked γ} {y : Reading δ}
    (h : ts[i]? = some t) (hf : Agree S (f t) y) : Agree S (Position.tokenAt ts i >>= f) y := by
  rw [Position.tokenAt, h]
  exact hf

/-- A reader that has moved on goes on, and does not slip. -/
theorem onward {i next : Nat} {go : i < next → Checked α} {y : Reading β} (hlt : i < next)
    (hgo : Agree R (go hlt) y) : Agree R (Position.onward i next go) y := by
  rw [Position.onward, dif_pos hlt]
  exact hgo

/-- A reader that descends to fewer tokens goes on, and does not slip. -/
theorem inward {outer inner : Nat} {go : inner < outer → Checked α} {y : Reading β}
    (hlt : inner < outer) (hgo : Agree R (go hlt) y) : Agree R (Position.inward outer inner go) y := by
  rw [Position.inward, dif_pos hlt]
  exact hgo

end Agree

/-- A reader of lists that is used by itself agrees with itself. -/
theorem agree_ofReading (x : Reading α) : Agree Eq (ofReading x) x := by
  cases x with
  | ok a => exact .ok rfl
  | error fault => exact .fault

/-- What agrees with a reading is a result, or is wrong with the text. -/
theorem Agree.exists_or {x : Checked α} {y : Reading α} (h : Agree Eq x y) :
    ((∃ a, x = .ok a) ∨ ∃ fault, x = .error (.fault fault)) ∧ x = ofReading y := by
  cases h with
  | ok h =>
    subst h
    exact ⟨.inl ⟨_, rfl⟩, rfl⟩
  | fault => exact ⟨.inr ⟨_, rfl⟩, rfl⟩

end

/-! ## Section 2: Positions and pieces -/

section

variable {ts xs ys : List Token} {t : Token} {lo start : Nat}

/-- The token at a position is the first one from there on. -/
theorem getElem?_of_drop (h : ts.drop lo = t :: ys) : ts[lo]? = some t := by
  rw [← List.head?_drop, h]
  rfl

theorem getElem?_of_drop_nil (h : ts.drop lo = []) : ts[lo]? = none := by
  rw [← List.head?_drop, h]
  rfl

theorem lt_length_of_drop (h : ts.drop lo = t :: ys) : lo < ts.length :=
  (List.getElem?_eq_some_iff.mp (getElem?_of_drop h)).1

theorem drop_eq_cons (h : ts[lo]? = some t) : ts.drop lo = t :: ts.drop (lo + 1) := by
  obtain ⟨hlt, rfl⟩ := List.getElem?_eq_some_iff.mp h
  exact List.drop_eq_getElem_cons hlt

/-- Behind a piece of a known length are the tokens that follow it. -/
theorem drop_of_drop (h : ts.drop lo = xs ++ ys) : ts.drop (lo + xs.length) = ys := by
  rw [← List.drop_drop, h, List.drop_left]

theorem drop_succ_of_drop (h : ts.drop lo = t :: ys) : ts.drop (lo + 1) = ys :=
  @drop_of_drop ts [t] ys lo h

theorem length_of_drop (h : ts.drop lo = xs) : ts.length - lo = xs.length := by
  rw [← h, List.length_drop]

/-- A piece, given by its two ends. -/
theorem drop_take_of_drop (h : ts.drop lo = xs ++ ys) : (ts.take (lo + xs.length)).drop lo = xs := by
  rw [List.drop_take, h, Nat.add_sub_cancel_left, List.take_left]

/-- A piece of the tokens from a position on is within the bounds, and is taken. -/
theorem piece_of_drop (h : ts.drop lo = xs ++ ys) (hle : lo ≤ ts.length) :
    piece ts lo (lo + xs.length) = .ok xs := by
  have hlength := length_of_drop h
  rw [List.length_append] at hlength
  rw [piece, if_pos ⟨Nat.le_add_right _ _, by omega⟩, drop_take_of_drop h]

/-- A list divided at one of its tokens, which is at the position `mark`. -/
structure Marks (ts : List Token) (start mark : Nat) (p : Parted) : Prop where
  drop : ts.drop start = p.tokens
  mark : mark = start + p.before.length

/-- A list divided at a closing bracket, which is at the position `close`. -/
structure Encloses (ts : List Token) (start close : Nat) (e : Enclosed) : Prop where
  drop : ts.drop start = e.tokens
  close : close = start + 1 + e.inside.length

/-- A list divided behind a statement, whose last token is at the position `last`. -/
structure Cuts (ts : List Token) (start last : Nat) (c : Cut) : Prop where
  drop : ts.drop start = c.tokens
  last : last + 1 = start + c.front.length

/-- What has been read is the same, and reading stopped behind it. -/
structure Leaves {α : Type} (ts : List Token) (start : Nat) (x : α × Nat) (y : α × List Token) :
    Prop where
  value : x.1 = y.1
  lt : start < x.2
  drop : ts.drop x.2 = y.2

variable {α β : Type} {mark close last : Nat} {p q : Parted} {e parens : Enclosed} {c : Cut}

/-- What has been read may be changed, and reading stopped at the same place. -/
theorem Leaves.map {x : α × Nat} {y : α × List Token} (h : Leaves ts start x y)
    (f : α → β) : Leaves ts start (f x.1, x.2) (f y.1, y.2) :=
  ⟨congrArg f h.value, h.lt, h.drop⟩

/-- What stands before a dividing token is taken. -/
theorem Marks.piece (h : Marks ts start mark p) : piece ts start mark = .ok p.before := by
  have hlt : start < ts.length := by
    have hlength := length_of_drop h.drop
    simp only [Parted.tokens, List.length_append, List.length_cons] at hlength
    omega
  rw [h.mark]
  exact piece_of_drop h.drop (Nat.le_of_lt hlt)

/-- From its position on there are the dividing token and those behind it. -/
theorem Marks.drop_mark (h : Marks ts start mark p) : ts.drop mark = p.mark :: p.after := by
  rw [h.mark]
  exact drop_of_drop h.drop

/-- Reading that goes on behind a dividing token has moved on. -/
theorem Marks.leaves (h : Marks ts start mark p)
    (start' : Nat) (hle : start' ≤ start) (a : α) : Leaves ts start' (a, mark + 1) (a, p.after) := by
  refine ⟨rfl, ?_, drop_succ_of_drop h.drop_mark⟩
  have hmark := h.mark
  show start' < mark + 1
  omega

/-- Behind the opening bracket is what it encloses. -/
theorem Encloses.drop_inside (h : Encloses ts start close e) :
    ts.drop (start + 1) = e.inside ++ e.closer :: e.after :=
  drop_succ_of_drop h.drop

/-- The closing bracket divides the tokens behind the opening one. -/
theorem Encloses.marks (h : Encloses ts start close e) :
    Marks ts (start + 1) close ⟨e.inside, e.closer, e.after⟩ :=
  ⟨h.drop_inside, h.close⟩

theorem Encloses.drop_after (h : Encloses ts start close e) : ts.drop (close + 1) = e.after :=
  drop_succ_of_drop h.marks.drop_mark

/-- A closing bracket is one of the tokens. -/
theorem Encloses.lt_length (h : Encloses ts start close e) : close < ts.length :=
  lt_length_of_drop h.marks.drop_mark

/-- It comes behind the opening one. -/
theorem Encloses.lt (h : Encloses ts start close e) : start < close := by
  have hclose := h.close
  omega

/-- Behind parentheses it goes on further behind the token before them. -/
theorem Encloses.lt_of_succ (h : Encloses ts (start + 1) close e) : start < close + 1 :=
  Nat.lt_succ_of_lt (Nat.lt_of_succ_lt h.lt)

/-- What is enclosed is cut behind the closing bracket. -/
theorem Encloses.cuts (h : Encloses ts start close e) : Cuts ts start close e.cut := by
  refine ⟨h.drop.trans e.tokens_cut.symm, ?_⟩
  rw [h.close]
  simp only [Enclosed.cut, Enclosed.bracketed, List.length_cons, List.length_append, List.length_nil]
  omega

/-- What a token divides is cut behind that token. -/
theorem Marks.cuts (h : Marks ts start mark p) : Cuts ts start mark p.cut := by
  refine ⟨h.drop.trans p.tokens_cut.symm, ?_⟩
  rw [h.mark]
  simp only [Parted.cut, List.length_append, List.length_cons, List.length_nil]
  omega

/-- What is cut behind some tokens, is cut behind them and more. -/
theorem Cuts.addFront {next : Nat} {front : List Token} (h : Cuts ts next last c)
    (hdrop : ts.drop start = front ++ ts.drop next) (hnext : next = start + front.length) :
    Cuts ts start last (c.addFront front) := by
  constructor
  · rw [Cut.tokens_addFront, ← h.drop, hdrop]
  · rw [h.last, hnext, Cut.addFront, List.length_append, Nat.add_assoc]

/-- What is cut behind a header, is cut with the header and the token before it. -/
theorem Cuts.header {header : Enclosed}
    (h : Cuts ts (close + 1) last c) (hdrop : ts.drop start = t :: ts.drop (start + 1))
    (hheader : Encloses ts (start + 1) close header) :
    Cuts ts start last (c.addFront (t :: header.bracketed)) := by
  refine h.addFront ?_ ?_
  · rw [hdrop, hheader.drop, ← header.tokens_cut, hheader.drop_after]
    rfl
  · have hclose : close + 1 = start + 1 + header.bracketed.length := hheader.cuts.last
    rw [List.length_cons]
    omega

/-- A statement is within the bounds, and is taken. -/
theorem Cuts.piece (h : Cuts ts start last c) (hle : start ≤ ts.length) :
    piece ts start (last + 1) = .ok c.front := by
  rw [h.last]
  exact piece_of_drop h.drop hle

theorem Cuts.drop_rest (h : Cuts ts start last c) : ts.drop (last + 1) = c.rest := by
  rw [h.last]
  exact drop_of_drop h.drop

/-- What is cut behind a position, is read behind those before it. -/
theorem Cuts.leaves {prev : Nat} (h : Cuts ts start last c)
    (hlt : prev < start) (a : α) : Leaves ts prev (a, last + 1) (a, c.rest) := by
  refine ⟨rfl, ?_, h.drop_rest⟩
  have hlast := h.last
  show prev < last + 1
  omega

/-- A division of some tokens is one of these tokens and more. -/
theorem Marks.within (h : ts.drop start = p.tokens ++ ys) :
    Marks ts start (start + p.before.length) { p with after := p.after ++ ys } :=
  ⟨by rw [h]; simp [Parted.tokens], rfl⟩

/-- The header of a for loop is divided at the positions `first` and `second`. -/
structure Divides (ts : List Token) (start close first second : Nat) (header : Statement.ForHeader) :
    Prop where
  init : Cuts ts start first ⟨header.init, ts.drop (first + 1)⟩
  condition : piece ts (first + 1) second = .ok header.condition
  step : piece ts (second + 1) close = .ok header.step

/-- Two separators within the parentheses are in order, and before the closing parenthesis. -/
theorem Encloses.divides (h : Encloses ts start close parens) (hp : p.tokens = parens.inside)
    (hq : q.tokens = p.after) :
    Divides ts (start + 1) close (start + 1 + p.before.length)
      (start + 1 + p.before.length + 1 + q.before.length)
      ⟨p.before ++ [p.mark], q.before, q.after⟩ := by
  have hfirst := Marks.within (p := p) (h.drop_inside.trans (by rw [hp]))
  have hsecond := Marks.within (p := q) ((drop_succ_of_drop hfirst.drop_mark).trans (by rw [hq]))
  have hlast : Marks ts (start + 1 + p.before.length + 1 + q.before.length + 1) close
      ⟨q.after, parens.closer, parens.after⟩ := by
    refine ⟨drop_succ_of_drop hsecond.drop_mark, ?_⟩
    rw [h.close, ← hp, Parted.tokens, ← hq, Parted.tokens]
    simp only [List.length_append, List.length_cons]
    omega
  refine ⟨⟨?_, hfirst.cuts.last⟩, hsecond.piece, hlast.piece⟩
  rw [hfirst.cuts.drop, Cut.tokens, Cut.tokens, hfirst.cuts.drop_rest]
  rfl

end

/-! ## Section 3: Searches -/

/-- The separators are the first one and those that come behind it. -/
theorem marksFrom_eq (separator : String) (depth i : Nat) (ts : List Token) :
    marksFrom separator depth i ts =
      match Extent.partAt separator depth ts with
      | none => []
      | some p =>
        (i + p.before.length) :: marksFrom separator 0 (i + p.before.length + 1) p.after := by
  induction ts generalizing depth i with
  | nil => rfl
  | cons t ts ih =>
    rw [marksFrom, Extent.partAt]
    split
    · next h => rw [h.2]; rfl
    · rw [ih]
      cases Extent.partAt separator (Extent.depthAfter depth t) ts with
      | none => rfl
      | some p =>
        have hlength : i + 1 + p.before.length = i + (p.cons t).before.length := by
          simp only [Parted.cons, List.length_cons]
          omega
        simp only [hlength, Option.map_some]
        rfl

/-- There are as many separators as are counted in the list. -/
theorem length_marksFrom (separator : String) (depth i : Nat) (ts : List Token) :
    (marksFrom separator depth i ts).length = Extent.countOf separator depth ts := by
  induction ts generalizing depth i with
  | nil => rfl
  | cons t ts ih =>
    rw [marksFrom, Extent.countOf]
    split
    · rw [List.length_cons, ih]
    · exact ih _ _

/-- A semicolon is found at its position. -/
theorem semicolon_agrees (loc : Location) (ts : List Token) (start : Nat) :
    Agree (Marks ts start) (semicolon loc ts start) (Extent.semicolon loc (ts.drop start)) := by
  rw [semicolon, Extent.semicolon, marksFrom_eq]
  cases hp : Extent.partAt ";" 0 (ts.drop start) with
  | none => exact .fault
  | some p => exact .ok ⟨(Extent.partAt_tokens hp).symm, rfl⟩

/-- As long as a bracket is open, one can be closed. (If none is open, the search slips at a closing
one.) -/
theorem closerFrom_succ (bracket : Bracket) (depth i : Nat) (ts : List Token) :
    closerFrom bracket (depth + 1) i ts =
      .ok ((Extent.partAtCloser bracket depth ts).map fun p => i + p.before.length) := by
  induction ts generalizing depth i with
  | nil => rfl
  | cons t ts ih =>
    -- The search goes on from the next token with `d + 1` brackets open.
    have put (d : Nat) : closerFrom bracket (d + 1) (i + 1) ts =
        .ok (((Extent.partAtCloser bracket d ts).map (Parted.cons t)).map
          fun p => i + p.before.length) := by
      rw [ih, Option.map_map]
      congr 2
      funext p
      simp only [Function.comp_apply, Parted.cons, List.length_cons]
      omega
    rw [closerFrom, Extent.partAtCloser]
    split_ifs with hopener hcloser hdepth
    · exact put _
    · subst hdepth
      rfl
    · obtain ⟨d, rfl⟩ : ∃ d, depth = d + 1 := ⟨depth - 1, by omega⟩
      exact put d
    · exact put _

example : closerFrom .paren 0 3 [⟨")", ⟨1, 1⟩⟩] = .error (.slip .belowZero) := rfl

/-- A closing bracket is found at its position, behind the opening one. -/
theorem closer_agrees (whole : Location) (bracket : Bracket) (ts : List Token) (start : Nat) :
    Agree (Encloses ts start) (closer whole bracket ts start)
      (Extent.enclosed whole bracket (ts.drop start)) := by
  rw [closer]
  cases hdrop : ts.drop start with
  | nil =>
    rw [getElem?_of_drop_nil hdrop]
    exact .fault
  | cons t us =>
    rw [getElem?_of_drop hdrop, Extent.enclosed]
    refine .ite (fun hopener => ?_) fun _ => .fault
    -- The search starts at the opening bracket, so that it is open when the search goes on behind it.
    rw [closerFrom, if_pos hopener, closerFrom_succ]
    cases hp : Extent.partAtCloser bracket 0 us with
    | none => exact .tokenAt (getElem?_of_drop hdrop) .fault
    | some p =>
      refine .ok ⟨?_, rfl⟩
      rw [hdrop, Enclosed.tokens, ← Extent.partAtCloser_tokens hp, Parted.tokens]

/-! ## Section 4: Ends of statements -/

section

variable {ts : List Token} {t : Token} {start : Nat}

/-- The places where faults at the end of `ts` are reported. -/
def endsOf (whole : Location) (ts : List Token) : Ends :=
  ⟨whole, endOf whole ts⟩

/-- The last token of all is the last one from any position on. -/
theorem endsOf_of_drop (whole : Location) {us : List Token} (h : ts.drop start = t :: us) :
    endsOf whole ts = ⟨whole, (us.getLastD t).loc⟩ := by
  have hlast : ts.getLast? = some (us.getLastD t) := by
    rw [← List.take_append_drop start ts, h, List.getLast?_append, List.getLast?_cons]
    cases us <;> rfl
  rw [endsOf, endOf, hlast]

/-- At the end of the tokens there is no statement to search. -/
theorem bareStatementEnd_none (whole : Location) (h : ts[start]? = none) :
    bareStatementEnd whole ts start = refuse .missingStatement (endOf whole ts) := by
  rw [bareStatementEnd]
  split
  · rfl
  · next hsome => cases h.symm.trans hsome

/-- The search for the end of a first branch, by the token that it begins with. -/
theorem bareStatementEnd_some (whole : Location) (h : ts[start]? = some t) :
    bareStatementEnd whole ts start =
      if t.text = "\x7b" then closer whole .brace ts start
      else if t.text = "if" ∨ t.text = "for" ∨ t.text = "while" then do
        let close ← closer whole .paren ts (start + 1)
        onward start (close + 1) fun _ => bareStatementEnd whole ts (close + 1)
      else semicolon t.loc ts start := by
  rw [bareStatementEnd]
  split
  · next hnone => cases h.symm.trans hnone
  · next hsome => cases h.symm.trans hsome; rfl

theorem statementEnd_none (whole : Location) (h : ts[start]? = none) :
    statementEnd whole ts start = refuse .missingStatement (endOf whole ts) := by
  rw [statementEnd]
  split
  · rfl
  · next hsome => cases h.symm.trans hsome

/-- The search for the end of a statement, by the token that it begins with. -/
theorem statementEnd_some (whole : Location) (h : ts[start]? = some t) :
    statementEnd whole ts start =
      if t.text = "\x7b" then closer whole .brace ts start
      else if t.text = "for" ∨ t.text = "while" then do
        let close ← closer whole .paren ts (start + 1)
        onward start (close + 1) fun _ => statementEnd whole ts (close + 1)
      else if t.text = "if" then do
        let last ← bareStatementEnd whole ts start
        match ts[last + 1]? with
        | some next =>
          if next.text = "else" then
            onward start (last + 2) fun _ => statementEnd whole ts (last + 2)
          else .ok last
        | none => .ok last
      else semicolon t.loc ts start := by
  rw [statementEnd]
  split
  · next hnone => cases h.symm.trans hnone
  · next hsome => cases h.symm.trans hsome; rfl

/-- A search behind a header in parentheses, if the search behind it agrees. -/
theorem header_agrees {whole : Location} {go : Nat → Checked Nat} {inner : List Token → Reading Cut}
    (ht : ts[start]? = some t)
    (hgo : ∀ next, start < next → Agree (Cuts ts next) (go next) (inner (ts.drop next))) :
    Agree (Cuts ts start)
      (do
        let close ← closer whole .paren ts (start + 1)
        onward start (close + 1) fun _ => go (close + 1))
      (do
        let header ← Extent.enclosed whole .paren (ts.drop (start + 1))
        (inner header.after).map (Cut.addFront (t :: header.bracketed))) := by
  refine (closer_agrees whole .paren ts (start + 1)).bind fun close header hheader => ?_
  have hnext := hgo (close + 1) hheader.lt_of_succ
  rw [hheader.drop_after] at hnext
  exact .onward hheader.lt_of_succ (hnext.map fun last c hc => hc.header (drop_eq_cons ht) hheader)

/-- The last token of a first branch is found at its position. -/
theorem bareStatementEnd_agrees (whole : Location) (ts : List Token) (start : Nat) :
    Agree (Cuts ts start) (bareStatementEnd whole ts start)
      (Extent.bareStatement (endsOf whole ts) (ts.drop start)) := by
  -- The search goes on behind a header, so the induction is on how much is left.
  induction hlength : ts.length - start using Nat.strongRecOn generalizing start with
  | ind n ih =>
    subst hlength
    cases ht : ts[start]? with
    | none =>
      rw [bareStatementEnd_none whole ht, List.drop_eq_nil_of_le (List.getElem?_eq_none_iff.mp ht),
        Extent.bareStatement]
      exact .fault
    | some t =>
      have hstart := (List.getElem?_eq_some_iff.mp ht).1
      rw [bareStatementEnd_some whole ht, drop_eq_cons ht, Extent.bareStatement_cons, ← drop_eq_cons ht]
      refine .ite (fun _ => ?_) fun _ => .ite (fun _ => ?_) fun _ => ?_
      · exact (closer_agrees whole .brace ts start).map fun _ _ h => h.cuts
      · exact header_agrees ht fun next hnext => ih _ (by omega) next rfl
      · exact (semicolon_agrees t.loc ts start).map fun _ _ h => h.cuts

/-- The last token of a statement is found at its position, a second branch included. -/
theorem statementEnd_agrees (whole : Location) (ts : List Token) (start : Nat) :
    Agree (Cuts ts start) (statementEnd whole ts start)
      (Extent.statement (endsOf whole ts) (ts.drop start)) := by
  induction hlength : ts.length - start using Nat.strongRecOn generalizing start with
  | ind n ih =>
    subst hlength
    cases ht : ts[start]? with
    | none =>
      rw [statementEnd_none whole ht, List.drop_eq_nil_of_le (List.getElem?_eq_none_iff.mp ht),
        Extent.statement]
      exact .fault
    | some t =>
      have hstart := (List.getElem?_eq_some_iff.mp ht).1
      rw [statementEnd_some whole ht, drop_eq_cons ht, Extent.statement_cons, ← drop_eq_cons ht]
      refine .ite (fun _ => ?_) fun _ => .ite (fun _ => ?_) fun _ => .ite (fun _ => ?_) fun _ => ?_
      · exact (closer_agrees whole .brace ts start).map fun _ _ h => h.cuts
      · exact header_agrees ht fun next hnext => ih _ (by omega) next rfl
      · refine (bareStatementEnd_agrees whole ts start).bind ?_
        rintro last ⟨front, rest⟩ hcut
        have hrest : ts.drop (last + 1) = rest := hcut.drop_rest
        cases rest with
        | nil =>
          rw [getElem?_of_drop_nil hrest]
          exact .ok hcut
        | cons next more =>
          rw [getElem?_of_drop hrest]
          refine .ite (fun _ => ?_) fun _ => .ok hcut
          -- The branch after the `else` is cut behind the first branch and the `else`.
          have hmore : ts.drop (last + 2) = more := drop_succ_of_drop hrest
          have hlast : last + 1 = start + front.length := hcut.last
          have hbranch := ih _ (by omega) (last + 2) rfl
          rw [hmore] at hbranch
          refine .onward (by omega) (hbranch.map fun _ c hc => hc.addFront ?_ ?_)
          · rw [hcut.drop, hmore, List.append_assoc]
            rfl
          · rw [List.length_append]
            simp only [List.length_cons, List.length_nil]
            omega
      · exact (semicolon_agrees t.loc ts start).map fun _ _ h => h.cuts

end

/-! ## Section 5: Declarations -/

section

variable {ts : List Token} {t : Token} {start : Nat}

/-- The pieces are the ones between the separators; the first of them began at `start`. -/
theorem exists_splitFrom (separator : String) (depth : Nat) {more : List Token} {i : Nat}
    (hmore : ts.drop i = more) (hle : start ≤ i) (hi : i ≤ ts.length) :
    ∃ first others, Extent.splitAt separator depth more = first :: others ∧
      splitFrom separator ts depth start i more =
        .ok (((ts.take i).drop start ++ first) :: others) := by
  -- The piece at hand grows with each token until a separator comes, and then the next one begins
  -- behind the separator.
  induction more generalizing depth start i with
  | nil =>
    have hlength := List.drop_eq_nil_iff.mp hmore
    obtain rfl : i = ts.length := Nat.le_antisymm hi hlength
    refine ⟨[], [], rfl, ?_⟩
    rw [splitFrom, piece, if_pos ⟨hle, Nat.le_refl _⟩, List.append_nil]
    rfl
  | cons t more ih =>
    have hlt := lt_length_of_drop hmore
    have hnext := drop_succ_of_drop hmore
    rw [splitFrom, Extent.splitAt]
    split
    · obtain ⟨first, others, hsplit, hfrom⟩ := ih depth hnext (Nat.le_refl (i + 1)) hlt
      refine ⟨[], first :: others, by rw [hsplit], ?_⟩
      rw [piece, if_pos ⟨hle, hi⟩, hfrom, List.drop_of_length_le (List.length_take_le _ _)]
      simp only [List.append_nil, List.nil_append]
      rfl
    · obtain ⟨first, others, hsplit, hfrom⟩ := ih _ hnext (Nat.le_succ_of_le hle) hlt
      refine ⟨t :: first, others, by rw [hsplit]; rfl, ?_⟩
      have hlast : (ts.take (i + 1)).drop start = (ts.take i).drop start ++ [t] := by
        rw [List.take_add_one, getElem?_of_drop hmore, List.drop_append_of_le_length]
        · rfl
        · rw [List.length_take]
          omega
      rw [hfrom, hlast, List.append_assoc]
      rfl

/-- All pieces between separators are taken. -/
theorem splitFrom_eq (separator : String) (ts : List Token) :
    splitFrom separator ts 0 0 0 ts = .ok (Extent.splitAt separator 0 ts) := by
  obtain ⟨first, others, hsplit, hfrom⟩ :=
    exists_splitFrom separator 0 (@List.drop_zero _ ts) (Nat.le_refl 0) (Nat.zero_le _)
  rw [hfrom, hsplit]
  rfl

theorem sizesEnd_none (whole : Location) (h : ts[start]? = none) :
    sizesEnd whole ts start = .ok start := by
  rw [sizesEnd]
  split
  · rfl
  · next hsome => cases h.symm.trans hsome

/-- One size in brackets is passed over, and then those behind it. -/
theorem sizesEnd_some (whole : Location) (h : ts[start]? = some t) : sizesEnd whole ts start =
      if t.text = "[" then do
        let close ← closer whole .square ts start
        onward start (close + 1) fun _ => sizesEnd whole ts (close + 1)
      else .ok start := by
  rw [sizesEnd]
  split
  · next hnone => cases h.symm.trans hnone
  · next hsome => cases h.symm.trans hsome; rfl

/-- What comes behind the sizes of an array is found at its position. -/
theorem sizesEnd_agrees (whole : Location) (ts : List Token) (start : Nat) :
    Agree (fun k rest => ts.drop k = rest) (sizesEnd whole ts start)
      (Declaration.skipSizes whole (ts.drop start)) := by
  induction hlength : ts.length - start using Nat.strongRecOn generalizing start with
  | ind n ih =>
    subst hlength
    cases ht : ts[start]? with
    | none =>
      have hnil := List.drop_eq_nil_of_le (List.getElem?_eq_none_iff.mp ht)
      rw [sizesEnd_none whole ht, hnil, Declaration.skipSizes]
      exact .ok hnil
    | some t =>
      have hstart := (List.getElem?_eq_some_iff.mp ht).1
      rw [sizesEnd_some whole ht, drop_eq_cons ht, Declaration.skipSizes_cons, ← drop_eq_cons ht]
      refine .ite (fun _ => ?_) fun _ => .ok rfl
      refine (closer_agrees whole .square ts start).bind fun close size hsize => ?_
      have hlt := hsize.lt
      rw [← hsize.drop_after]
      exact .onward (by omega) (ih _ (by omega) (close + 1) rfl)

/-- The value of a declarator is what stands behind its equals sign. -/
theorem initializer_agrees (first : Token) (ts : List Token) (k : Nat) :
    Agree Eq (initializer first ts k) (Declaration.initializer first (ts.drop k)) := by
  rw [initializer]
  cases hdrop : ts.drop k with
  | nil =>
    rw [getElem?_of_drop_nil hdrop]
    exact .ok rfl
  | cons t value =>
    rw [getElem?_of_drop hdrop, Declaration.initializer]
    have hlt := lt_length_of_drop hdrop
    -- The equals sign may be the last token, and then the piece is empty but within the bounds.
    have hvalue : piece ts (k + 1) ts.length = .ok value := by
      rw [piece, if_pos ⟨hlt, Nat.le_refl _⟩, List.take_length, drop_succ_of_drop hdrop]
    refine .ite (fun _ => .piece hvalue (.ite (fun _ => .fault) fun _ => ?_)) fun _ => .fault
    refine (agree_ofReading _).bind ?_
    rintro node _ rfl
    exact .ok rfl

/-- A declarator: a name, sizes that are passed over, and perhaps a value. -/
theorem declarator_agrees (whole loc : Location) (ts : List Token) :
    Agree Eq (declarator whole loc ts) (Declaration.declarator whole loc ts) := by
  cases ts with
  | nil => exact .fault
  | cons first rest =>
    refine (agree_ofReading (Declaration.name first)).bind ?_
    rintro name _ rfl
    refine (sizesEnd_agrees whole (first :: rest) 1).bind ?_
    rintro k _ rfl
    refine (initializer_agrees first (first :: rest) k).bind ?_
    rintro assigned _ rfl
    exact .ok rfl

/-- Declarators are read one after the other. -/
theorem declarators_agree (whole loc : Location) (pieces : List (List Token)) :
    Agree Eq (declarators whole loc pieces) (Declaration.declarators whole loc pieces) := by
  induction pieces with
  | nil => exact .ok rfl
  | cons first others ih =>
    refine (declarator_agrees whole loc first).bind ?_
    rintro nodes _ rfl
    refine ih.bind ?_
    rintro more _ rfl
    exact .ok rfl

/-- A declaration ends behind its semicolon, and its pieces are declarators. -/
theorem declaration_agrees (whole : Location) {us : List Token} (h : ts.drop start = t :: us) :
    Agree (Leaves ts start) (declaration whole ts start) (Declaration.read whole t.loc us) := by
  refine .tokenAt (getElem?_of_drop h) ?_
  rw [← drop_succ_of_drop h]
  refine (semicolon_agrees t.loc ts (start + 1)).bind fun last p hmark => ?_
  refine .piece hmark.piece ?_
  rw [splitFrom_eq]
  refine (declarators_agree whole t.loc _).bind ?_
  rintro nodes _ rfl
  exact .ok (hmark.leaves start (Nat.le_succ start) nodes)

end

/-! ## Section 6: Statements -/

section

variable {whole : Location} {ts us : List Token} {t : Token} {start lo : Nat}
variable {readInside : List Token → Checked (List Node)} {inner : List Token → Reading (List Node)}

/-- A return ends behind its semicolon. -/
theorem readReturn_agrees (h : ts.drop start = t :: us) :
    Agree (Leaves ts start) (readReturn t ts start) (Statement.readReturn t us) := by
  rw [← drop_succ_of_drop h]
  refine (semicolon_agrees t.loc ts (start + 1)).bind fun last p hmark => .piece hmark.piece ?_
  refine (agree_ofReading _).bind ?_
  rintro value _ rfl
  exact .ok (hmark.leaves start (Nat.le_succ start) _)

/-- So does an expression, which begins with the first token already. -/
theorem readExpression_agrees (h : ts.drop start = t :: us) :
    Agree (Leaves ts start) (readExpression t ts start) (Statement.readExpression t us) := by
  rw [Statement.readExpression, ← h]
  refine (semicolon_agrees t.loc ts start).bind fun last p hmark => .piece hmark.piece ?_
  refine (agree_ofReading _).bind ?_
  rintro node _ rfl
  exact .ok (hmark.leaves start (Nat.le_refl start) _)

variable (hinner : ∀ inside, start + inside.length < ts.length →
  Agree Eq (readInside inside) (inner inside))

include hinner

/-- What stands behind the first token is shorter than the tokens from there on. -/
theorem inside_agrees {xs ys : List Token} (h : ts.drop lo = xs ++ ys) (hlt : start < lo)
    (hle : lo ≤ ts.length) : Agree Eq (readInside xs) (inner xs) := by
  refine hinner xs ?_
  have hlength := length_of_drop h
  rw [List.length_append] at hlength
  omega

/-- The body of a loop is one statement, which is read from what stands inside. -/
theorem body_agrees (hlt : start < lo) (hle : lo ≤ ts.length) :
    Agree (Leaves ts start) (body whole readInside ts lo)
      (Statement.body (endsOf whole ts) inner (ts.drop lo)) := by
  refine (statementEnd_agrees whole ts lo).bind fun last c hcut => .piece (hcut.piece hle) ?_
  refine (inside_agrees hinner hcut.drop hlt hle).bind ?_
  rintro nodes _ rfl
  exact .ok (hcut.leaves hlt _)

/-- A while loop: what is in parentheses, and its body. -/
theorem readWhile_agrees (h : ts.drop start = t :: us) :
    Agree (Leaves ts start) (readWhile whole readInside t ts start)
      (Statement.readWhile (endsOf whole ts) inner t us) := by
  rw [← drop_succ_of_drop h]
  refine (closer_agrees whole .paren ts (start + 1)).bind fun close parens hparens => ?_
  refine .piece hparens.marks.piece ((agree_ofReading _).bind ?_)
  rintro condition _ rfl
  rw [← hparens.drop_after]
  refine (body_agrees hinner hparens.lt_of_succ hparens.lt_length).bind ?_
  rintro ⟨body, next⟩ ⟨body', rest⟩ hleaves
  exact .ok (hleaves.map fun body => [Node.whileLoop condition body t.loc])

/-- A second branch, if an `else` comes next; reading has moved on in any case. -/
theorem readElse_agrees (hlt : start < lo) :
    Agree (Leaves ts start) (readElse whole readInside ts lo)
      (Statement.readElse (endsOf whole ts) inner (ts.drop lo)) := by
  rw [readElse]
  cases hdrop : ts.drop lo with
  | nil =>
    rw [getElem?_of_drop_nil hdrop]
    exact .ok ⟨rfl, hlt, hdrop⟩
  | cons t us =>
    rw [getElem?_of_drop hdrop, Statement.readElse]
    refine .ite (fun _ => ?_) fun _ => .ok ⟨rfl, hlt, hdrop⟩
    rw [← drop_succ_of_drop hdrop]
    refine (body_agrees hinner (Nat.lt_succ_of_lt hlt) (lt_length_of_drop hdrop)).bind ?_
    rintro ⟨branch, next⟩ ⟨branch', rest⟩ hleaves
    exact .ok (hleaves.map some)

/-- An `if`: what is in parentheses, its first branch, and its second one if there is one. -/
theorem readIf_agrees (h : ts.drop start = t :: us) :
    Agree (Leaves ts start) (readIf whole readInside t ts start)
      (Statement.readIf (endsOf whole ts) inner t us) := by
  rw [← drop_succ_of_drop h]
  refine (closer_agrees whole .paren ts (start + 1)).bind fun close parens hparens => ?_
  have hlt : start < close + 1 := hparens.lt_of_succ
  have hle : close + 1 ≤ ts.length := hparens.lt_length
  refine .piece hparens.marks.piece ((agree_ofReading _).bind ?_)
  rintro condition _ rfl
  rw [← hparens.drop_after]
  refine (bareStatementEnd_agrees whole ts (close + 1)).bind fun last c hcut => ?_
  refine .piece (hcut.piece hle) ((inside_agrees hinner hcut.drop hlt hle).bind ?_)
  rintro thenBranch _ rfl
  have hlast : start < last + 1 := by
    have hfront := hcut.last
    omega
  rw [← hcut.drop_rest]
  refine (readElse_agrees hinner hlast).bind ?_
  rintro ⟨elseBranch, next⟩ ⟨elseBranch', rest⟩ hleaves
  exact .ok (hleaves.map fun elseBranch =>
    [Node.ifElse condition (.sequence thenBranch) elseBranch t.loc])

/-- A block ends behind its closing brace. -/
theorem readBlock_agrees (h : ts.drop start = t :: us) :
    Agree (Leaves ts start) (readBlock whole readInside t ts start)
      (Statement.readBlock (endsOf whole ts) inner t us) := by
  rw [Statement.readBlock, ← h]
  refine (closer_agrees whole .brace ts start).bind fun close braces hbraces => ?_
  have hinside := inside_agrees hinner hbraces.drop_inside (Nat.lt_succ_self _) (lt_length_of_drop h)
  refine .piece hbraces.marks.piece (hinside.bind ?_)
  rintro nodes _ rfl
  exact .ok (hbraces.marks.leaves start (Nat.le_succ start) _)

/-- A for loop: three parts in parentheses, and its body. -/
theorem readFor_agrees (h : ts.drop start = t :: us) :
    Agree (Leaves ts start) (readFor whole readInside ts start)
      (Statement.readFor (endsOf whole ts) inner t us) := by
  refine .tokenAt (getElem?_of_drop h) ?_
  rw [← drop_succ_of_drop h]
  refine (closer_agrees whole .paren ts (start + 1)).bind fun close parens hparens => ?_
  have hinside : (ts.take close).drop (start + 2) = parens.inside := by
    rw [hparens.close]
    exact drop_take_of_drop hparens.drop_inside
  -- There have to be two separators: a first one, one behind it, and none behind that.
  rw [hinside, marksFrom_eq, Statement.ForHeader.of]
  cases hfirst : Extent.partAt ";" 0 parens.inside with
  | none => exact .fault
  | some p =>
    dsimp only
    rw [marksFrom_eq]
    cases hsecond : Extent.partAt ";" 0 p.after with
    | none => exact .fault
    | some q =>
      dsimp only
      rw [← length_marksFrom ";" 0 (start + 2 + p.before.length + 1 + q.before.length + 1)]
      cases marksFrom ";" 0 (start + 2 + p.before.length + 1 + q.before.length + 1) q.after with
      | cons third more => exact .fault
      | nil =>
        have hparts := hparens.divides (Extent.partAt_tokens hfirst) (Extent.partAt_tokens hsecond)
        have hle : start + 2 ≤ ts.length := Nat.le_trans hparens.lt (Nat.le_of_lt hparens.lt_length)
        refine .piece (hparts.init.piece hle) ?_
        refine (inside_agrees hinner hparts.init.drop (Nat.lt_add_of_pos_right Nat.two_pos) hle).bind ?_
        rintro init _ rfl
        refine .piece hparts.condition ((agree_ofReading _).bind ?_)
        rintro condition _ rfl
        refine .piece hparts.step ((agree_ofReading _).bind ?_)
        rintro step _ rfl
        rw [← hparens.drop_after]
        refine (body_agrees hinner hparens.lt_of_succ hparens.lt_length).bind ?_
        rintro ⟨body, next⟩ ⟨body', rest⟩ hleaves
        exact .ok (hleaves.map fun body => [Node.forLoop (.sequence init) condition step body t.loc])

/-- One statement, by the token that it begins with. -/
theorem readOne_agrees (h : ts.drop start = t :: us) :
    Agree (Leaves ts start) (readOne whole readInside ts start) (Statement.readOne whole inner t us) := by
  refine .tokenAt (getElem?_of_drop h) ?_
  rw [Statement.readOne, ← endsOf_of_drop whole h]
  refine .ite (fun _ => readReturn_agrees h) fun _ => .ite (fun _ => readFor_agrees hinner h) fun _ =>
    .ite (fun _ => readWhile_agrees hinner h) fun _ => .ite (fun _ => readIf_agrees hinner h) fun _ =>
    .ite (fun _ => readBlock_agrees hinner h) fun _ => .ite (fun _ => declaration_agrees whole h) fun _ =>
    .ite (fun _ => .fault) fun _ => readExpression_agrees h

end

/-- Reading on from a position is reading the tokens from there on, within any bound that allows for
them. -/
theorem statementsFrom_agrees (whole : Location) (ts : List Token) (i : Nat) {bound : Nat}
    (hbound : (ts.drop i).length ≤ bound) :
    Agree Eq (statementsFrom whole ts i) (Statement.readWithin whole bound (ts.drop i)) := by
  -- The bound falls both from one statement to the next and from a statement to what is inside it.
  induction bound generalizing ts i with
  | zero =>
    have hnil := List.eq_nil_of_length_eq_zero (Nat.le_zero.mp hbound)
    rw [statementsFrom, if_neg (Nat.not_lt.mpr (List.drop_eq_nil_iff.mp hnil)), hnil]
    exact .ok rfl
  | succ bound ih =>
    rw [statementsFrom]
    cases hdrop : ts.drop i with
    | nil =>
      rw [if_neg (Nat.not_lt.mpr (List.drop_eq_nil_iff.mp hdrop))]
      exact .ok rfl
    | cons t us =>
      -- What stands inside is shorter than the tokens from `i` on, and so it is within the bound, and
      -- it is shorter than all tokens, and so the reader descends.
      have hinner (inside : List Token) (hinside : i + inside.length < ts.length) :
          Agree Eq (inward ts.length inside.length fun _ => statementsFrom whole inside 0)
            (Statement.readWithin whole bound inside) := by
        refine .inward (by omega) ?_
        have hagree := ih inside 0
        rw [List.drop_zero] at hagree
        rw [List.length_drop] at hbound
        exact hagree (by omega)
      rw [if_pos (lt_length_of_drop hdrop)]
      refine (readOne_agrees hinner hdrop).bind ?_
      rintro ⟨nodes, next⟩ ⟨nodes', rest⟩ ⟨hnodes, hlt, hrest⟩
      obtain rfl : nodes = nodes' := hnodes
      obtain rfl : ts.drop next = rest := hrest
      have hnext : (ts.drop next).length ≤ bound := by
        rw [List.length_drop] at hbound ⊢
        omega
      refine (Agree.onward hlt (ih ts next hnext)).bind ?_
      rintro more _ rfl
      exact .ok rfl

/-- All statements of a text. -/
theorem statements_agrees (whole : Location) (ts : List Token) :
    Agree Eq (statements whole ts) (Statement.readAll whole ts) :=
  statementsFrom_agrees whole ts 0 (Nat.le_refl _)

/-! ## Section 7: Programs -/

section

variable {whole : Location} {ts us : List Token} {t : Token} {start : Nat}

/-- The parameters of a function are what its parentheses enclose. -/
theorem params_agrees {close : Nat} {parens : Enclosed} (name : String)
    (h : Encloses ts start close parens) :
    Agree Eq (params name ts start close) (Loading.paramsOf name parens) := by
  refine .piece h.marks.piece (.ite (fun _ => .ok rfl) fun _ => ?_)
  exact .tokenAt (getElem?_of_drop h.marks.drop_mark) (agree_ofReading _)

/-- The closing brace of a function's body. -/
theorem bodyCloser_agrees (whole : Location) (name : String) (ts : List Token) (k : Nat) :
    Agree (Encloses ts k) (bodyCloser whole name ts k) (Loading.bodyOf whole name (ts.drop k)) := by
  rw [bodyCloser]
  cases hdrop : ts.drop k with
  | nil =>
    rw [getElem?_of_drop_nil hdrop]
    exact .fault
  | cons t us =>
    rw [getElem?_of_drop hdrop, Loading.bodyOf, ← hdrop]
    exact .ite (fun _ => closer_agrees whole .brace ts k) fun _ => .fault

/-- A function ends behind its closing brace. -/
theorem routine_agrees {first : Token} (h : ts.drop start = t :: first :: us) :
    Agree (Leaves ts start) (routine whole ts start) (Loading.routine whole first us) := by
  have hfirst : ts.drop (start + 1) = first :: us := drop_succ_of_drop h
  have hafter : ts.drop (start + 2) = us := drop_succ_of_drop hfirst
  rw [Loading.routine, ← hafter]
  -- The name is there because it has been seen that a parenthesis comes behind it.
  refine .tokenAt (getElem?_of_drop hfirst) ((agree_ofReading _).bind ?_)
  rintro name _ rfl
  refine (closer_agrees whole .paren ts (start + 2)).bind fun close parens hparens => ?_
  refine (params_agrees name hparens).bind ?_
  rintro params _ rfl
  rw [← hparens.drop_after]
  refine (bodyCloser_agrees whole name ts (close + 1)).bind fun last braces hbraces => ?_
  refine .piece hbraces.marks.piece ((statements_agrees whole _).bind ?_)
  rintro body _ rfl
  have hlt := hparens.lt
  exact .ok (hbraces.marks.leaves start (by omega) _)

/-- Two tokens further is a parenthesis exactly if a function starts. -/
theorem any_eq_isSome_routineStart? (h : ts.drop start = t :: us) :
    ((ts[start + 2]?).any fun u => u.text = "(") = (Loading.routineStart? us).isSome := by
  have hget : ts[start + 2]? = us[1]? := by
    rw [← drop_succ_of_drop h, List.getElem?_drop]
  rw [hget]
  rcases us with _ | ⟨first, _ | ⟨u, us⟩⟩
  · rfl
  · rfl
  · rw [Loading.routineStart?, List.getElem?_cons_succ, List.getElem?_cons_zero, Option.any_some]
    split <;> simp [*]

/-- Loading items as one reading after another. -/
theorem outcome_loadWithin_cons (whole : Location) (bound : Nat) (program : Program) (t : Token)
    (us : List Token) :
    (Loading.loadWithin whole (bound + 1) program (t :: us)).outcome =
      if t.text = "int" then
        match Loading.routineStart? us with
        | some (first, after) => do
          let (routine, rest) ← Loading.routine whole first after
          if (program.find? routine.name).isSome then .error ⟨.duplicate routine.name, routine.loc⟩
          else (Loading.loadWithin whole bound (program.define routine) rest).outcome
        | none => do
          let (nodes, rest) ← Declaration.read whole t.loc us
          (Loading.loadWithin whole bound (program.addGlobals nodes) rest).outcome
      else .error ⟨.badItem t.text, t.loc⟩ := by
  rw [Loading.loadWithin]
  split_ifs
  · cases Loading.routineStart? us with
    | none => cases Declaration.read whole t.loc us <;> rfl
    | some start =>
      obtain ⟨first, after⟩ := start
      dsimp only
      cases Loading.routine whole first after with
      | error fault => rfl
      | ok x => exact apply_ite Loading.outcome _ _ _
  · rfl

/-- The items of a program from a position on, within any bound that allows for them. -/
theorem itemsFrom_agrees (whole : Location) (ts : List Token) (program : Program) (i : Nat) {bound : Nat}
    (hbound : (ts.drop i).length ≤ bound) :
    Agree Eq (itemsFrom whole ts program i)
      (Loading.loadWithin whole bound program (ts.drop i)).outcome := by
  induction bound generalizing program i with
  | zero =>
    have hnil := List.eq_nil_of_length_eq_zero (Nat.le_zero.mp hbound)
    rw [itemsFrom, if_neg (Nat.not_lt.mpr (List.drop_eq_nil_iff.mp hnil)), hnil]
    exact .ok rfl
  | succ bound ih =>
    rw [itemsFrom]
    cases hdrop : ts.drop i with
    | nil =>
      rw [if_neg (Nat.not_lt.mpr (List.drop_eq_nil_iff.mp hdrop))]
      exact .ok rfl
    | cons t us =>
      -- Whichever item comes first, reading goes on behind it, where there is less left to read.
      have hnext (program' : Program) {next : Nat} (hlt : i < next) :
          Agree Eq (onward i next fun _ => itemsFrom whole ts program' next)
            (Loading.loadWithin whole bound program' (ts.drop next)).outcome := by
        refine .onward hlt (ih program' next ?_)
        rw [List.length_drop] at hbound ⊢
        omega
      rw [if_pos (lt_length_of_drop hdrop), outcome_loadWithin_cons]
      refine .tokenAt (getElem?_of_drop hdrop) ?_
      rw [any_eq_isSome_routineStart? hdrop]
      refine .ite (fun _ => ?_) fun _ => .fault
      cases hstart : Loading.routineStart? us with
      | none =>
        refine (declaration_agrees whole hdrop).bind ?_
        rintro ⟨nodes, next⟩ ⟨nodes', rest⟩ ⟨hnodes, hlt, hrest⟩
        obtain rfl : nodes = nodes' := hnodes
        obtain rfl : ts.drop next = rest := hrest
        exact hnext _ hlt
      | some start =>
        obtain ⟨first, after⟩ := start
        obtain ⟨paren, inside, -, rfl, rfl⟩ := Loading.exists_of_routineStart? hstart
        refine (routine_agrees hdrop).bind ?_
        rintro ⟨routine, next⟩ ⟨routine', rest⟩ ⟨hroutine, hlt, hrest⟩
        obtain rfl : routine = routine' := hroutine
        obtain rfl : ts.drop next = rest := hrest
        exact .ite (fun _ => .fault) fun _ => hnext _ hlt

end

/-- A program is loaded alike by positions and from the list. -/
theorem program_agrees (ts : List Token) : Agree Eq (program ts) (Program.ofTokens ts) :=
  itemsFrom_agrees (Loading.endOf ts) ts {} 0 (Nat.le_refl _)

/-- The readers by positions never slip, whatever the tokens are. They give a program, or statements, or
they say what is wrong with the text, and that is what the readers of lists give and say. So every piece
is within the bounds, no bracket is closed that is not open, and whatever goes on goes on further behind
or with fewer tokens. -/
theorem readers_never_slip (ts : List Token) :
    (((∃ p, program ts = .ok p) ∨ ∃ fault, program ts = .error (.fault fault)) ∧
      program ts = ofReading (Program.ofTokens ts)) ∧
    ∀ whole, ((∃ ns, statements whole ts = .ok ns) ∨
        ∃ fault, statements whole ts = .error (.fault fault)) ∧
      statements whole ts = ofReading (Statement.readAll whole ts) :=
  ⟨(program_agrees ts).exists_or, fun whole => (statements_agrees whole ts).exists_or⟩

end Stepwise.Position
