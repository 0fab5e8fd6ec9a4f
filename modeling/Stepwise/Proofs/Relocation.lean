import Mathlib.Tactic.SplitIfs
import Stepwise.Grammar.Loading
import Stepwise.Proofs.Relabeling

/-!
# Reading does not look at places

Tokens carry places, and trees and faults get theirs from tokens. No reader ever looks at a place: it
only hands places on. So if all tokens of a text are moved, then what is read of them is moved in the
same way, or the same fault is found and its place is moved.

Each function has an equation of this form, and the equations are put together along the definitions.
What is moved to where does not matter: if all tokens are moved to one place, then their places are
forgotten.

## Main results

* `Expression.read_moved`, `Statement.readAll_moved`: expressions and statements.
* `Loading.load_moved`, `Program.ofTokens_moved`: programs.
-/

namespace Stepwise

variable (f : Location → Location)

/-! ## Section 1: What is moved -/

/-- The relabeling that keeps all names and moves the places. -/
def Relabeling.moving : Relabeling :=
  ⟨fun name => name, fun routine => routine, f⟩

/-- The token at its new place. -/
def Token.moved (t : Token) : Token :=
  ⟨t.text, f t.loc⟩

/-- Each token of a list at its new place. -/
abbrev movedAll (ts : List Token) : List Token :=
  ts.map (Token.moved f)

theorem movedAll_cons (t : Token) (ts : List Token) :
    movedAll f (t :: ts) = t.moved f :: movedAll f ts :=
  rfl

/-- The last of some tokens, or the one before them, at its new place. -/
theorem getLastD_movedAll (ts : List Token) (t : Token) :
    (movedAll f ts).getLastD (t.moved f) = (ts.getLastD t).moved f := by
  induction ts generalizing t with
  | nil => rfl
  | cons u ts ih => simpa only [List.map_cons, List.getLastD_cons] using ih u

namespace Expression

/-- A reading after what it gives has been changed by `g` and the place of its fault by `f`. -/
def Reading.moved {α β : Type} (g : α → β) : Reading α → Reading β
  | .ok a => .ok (g a)
  | .error fault => .error ⟨fault.cause, f fault.loc⟩

namespace Reading

variable {f} {α β γ δ : Type} {g : α → β} {k : γ → δ}

/-- One reading after another: what the second one gets has been moved by the first one. -/
theorem moved_bind_of_ok {x : Reading α} {y : Reading β} {h : α → Reading γ} {h' : β → Reading δ}
    (hx : y = x.moved f g) (hh : ∀ a, x = .ok a → h' (g a) = (h a).moved f k) :
    (y >>= h') = (x >>= h).moved f k := by
  subst hx
  cases x with
  | ok a => exact hh a rfl
  | error fault => rfl

/-- One reading after another, whatever the first one gives. -/
theorem moved_bind {x : Reading α} {y : Reading β} {h : α → Reading γ} {h' : β → Reading δ}
    (hx : y = x.moved f g) (hh : ∀ a, h' (g a) = (h a).moved f k) :
    (y >>= h') = (x >>= h).moved f k :=
  moved_bind_of_ok hx fun a _ => hh a

/-- A question that is answered alike before and after the tokens have been moved. -/
theorem moved_ite {c : Prop} [Decidable c] {x y : Reading α} {x' y' : Reading β}
    (hx : c → x' = x.moved f g) (hy : ¬ c → y' = y.moved f g) :
    (if c then x' else y') = (if c then x else y).moved f g := by
  split
  · next h => exact hx h
  · next h => exact hy h

/-- What is made of a reading moves with it. -/
theorem moved_map {x : Reading α} {y : Reading β} {h : α → γ} {h' : β → δ}
    (hx : y = x.moved f g) (hh : ∀ a, h' (g a) = k (h a)) : y.map h' = moved f k (x.map h) := by
  subst hx
  cases x with
  | ok a => exact congrArg Except.ok (hh a)
  | error fault => rfl

end Reading

/-! ## Section 2: Expressions -/

/-- The operand with its new places. -/
def Operand.moved : Operand → Operand
  | .node value => .node (value.relabel (.moving f))
  | .arguments args => .arguments (relabelAll (.moving f) args)
  | .nothing => .nothing

/-- The operands with their new places. -/
abbrev movedOperands (operands : List Operand) : List Operand :=
  operands.map (Operand.moved f)

/-- What waits, with its new places. -/
abbrev movedPending (pending : List (Pending × Location)) : List (Pending × Location) :=
  pending.map (Prod.map id f)

/-- The stacks with their new places. -/
def Stacks.moved (s : Stacks) : Stacks :=
  ⟨movedPending f s.pending, movedOperands f s.operands, s.afterOperand⟩

open Reading

/-- Taking an expression off the stack. -/
theorem popNode_moved (loc : Location) (operands : List Operand) :
    popNode (f loc) (movedOperands f operands) =
      (popNode loc operands).moved f (Prod.map (Node.relabel (.moving f)) (movedOperands f)) := by
  cases operands with
  | nil => rfl
  | cons operand rest => cases operand <;> rfl

/-- Taking a variable off the stack. -/
theorem popVariable_moved (loc : Location) (operands : List Operand) :
    popVariable (f loc) (movedOperands f operands) =
      (popVariable loc operands).moved f (Prod.map (relabelRef (.moving f)) (movedOperands f)) := by
  refine moved_bind (popNode_moved f loc operands) ?_
  rintro ⟨node, rest⟩
  cases node <;> rfl

/-- An operator makes one tree of its operands, wherever they stand. -/
theorem apply_moved (op : Operator) (loc : Location) (operands : List Operand) :
    op.apply (f loc) (movedOperands f operands) =
      (op.apply loc operands).moved f (movedOperands f) := by
  cases op with
  | unary op =>
    refine moved_bind (popNode_moved f loc operands) ?_
    rintro ⟨operand, rest⟩
    rfl
  | binary op =>
    refine moved_bind (popNode_moved f loc operands) ?_
    rintro ⟨right, rest⟩
    refine moved_bind (popNode_moved f loc rest) ?_
    rintro ⟨left, rest⟩
    rfl
  | assign =>
    refine moved_bind (popNode_moved f loc operands) ?_
    rintro ⟨value, rest⟩
    refine moved_bind (popVariable_moved f loc rest) ?_
    rintro ⟨target, rest⟩
    rfl
  | extract =>
    refine moved_bind (popVariable_moved f loc operands) ?_
    rintro ⟨target, rest⟩
    -- Below the target lies the stream, which takes it in, or the fault is the same.
    match rest with
    | [] | .arguments _ :: _ | .nothing :: _ => rfl
    | .node below :: rest =>
      cases below with
      | input targets loc' =>
        show Except.ok (Operand.node (.input _ _) :: _) = Except.ok (Operand.node (.input _ _) :: _)
        rw [relabelRefs_append]
        rfl
      | _ => rfl
  | insert =>
    refine moved_bind (popNode_moved f loc operands) ?_
    rintro ⟨item, rest⟩
    match rest with
    | [] | .arguments _ :: _ | .nothing :: _ => rfl
    | .node below :: rest =>
      cases below with
      | output items loc' =>
        show Except.ok (Operand.node (.output _ _) :: _) = Except.ok (Operand.node (.output _ _) :: _)
        rw [relabelAll_append]
        rfl
      | _ => rfl
  | comma =>
    refine moved_bind (popNode_moved f loc operands) ?_
    rintro ⟨right, rest⟩
    -- A second comma adds to the list that the first one has begun.
    match rest with
    | [] | .node _ :: _ | .nothing :: _ => rfl
    | .arguments args :: rest =>
      show Except.ok (Operand.arguments _ :: _) = Except.ok (Operand.arguments _ :: _)
      rw [relabelAll_append]
      rfl

/-- Operators that yield are applied one after the other, each at its own place. -/
theorem unwind_moved (yields : Operator → Bool) (pending : List (Pending × Location))
    (operands : List Operand) :
    unwind yields (movedPending f pending) (movedOperands f operands) =
      (unwind yields pending operands).moved f (Prod.map (movedPending f) (movedOperands f)) := by
  induction pending generalizing operands with
  | nil => rfl
  | cons waiting pending ih =>
    match waiting with
    | (.opener _, _) => rfl
    | (.operator op, loc) =>
      exact moved_ite (fun _ => moved_bind (apply_moved f op loc operands) ih) fun _ => rfl

/-- The arguments of a call, whether there are none, one or more. -/
theorem popArguments_moved (operands : List Operand) :
    popArguments (movedOperands f operands) =
      Prod.map (relabelAll (.moving f)) (movedOperands f) (popArguments operands) := by
  match operands with
  | [] | .node _ :: _ | .arguments _ :: _ | .nothing :: _ => rfl

/-- Closing the parentheses of a call that hold something. -/
theorem closeParen_call (loc opened : Location) (pending : List (Pending × Location))
    (operands : List Operand) :
    closeParen loc ⟨(.opener .call, opened) :: pending, operands, true⟩ =
      match (popArguments operands).2 with
      | .node (.var ⟨callee, [], at?⟩) :: rest =>
        .ok ⟨pending, .node (.call callee (popArguments operands).1 at?) :: rest, true⟩
      | _ => .error ⟨.notCallable, loc⟩ :=
  rfl

/-- A closing parenthesis ends a group or a call. -/
theorem closeParen_moved (loc : Location) (s : Stacks) :
    closeParen (f loc) (s.moved f) = (closeParen loc s).moved f (Stacks.moved f) := by
  obtain ⟨pending, operands, afterOperand⟩ := s
  have hfilled : ∀ operands, closeParen (f loc) (Stacks.moved f ⟨pending, operands, true⟩) =
      (closeParen loc ⟨pending, operands, true⟩).moved f (Stacks.moved f) := by
    intro operands
    match pending with
    | [] | (.operator _, _) :: _ | (.opener .index, _) :: _ | (.opener .group, _) :: _ => rfl
    | (.opener .call, opened) :: pending =>
      show closeParen (f loc) ⟨(.opener .call, f opened) :: movedPending f pending,
        movedOperands f operands, true⟩ = _
      rw [closeParen_call, closeParen_call, popArguments_moved]
      obtain ⟨args, rest⟩ := popArguments operands
      match rest with
      | [] | .arguments _ :: _ | .nothing :: _ => rfl
      | .node callee :: rest =>
        cases callee with
        | var ref =>
          obtain ⟨name, indices, loc'⟩ := ref
          cases indices <;> rfl
        | _ => rfl
  -- Parentheses without content are closed as if they held nothing.
  cases afterOperand with
  | true => exact hfilled operands
  | false => exact hfilled (.nothing :: operands)

/-- A closing index bracket adds an index to the variable below. -/
theorem closeIndex_moved (loc : Location) (s : Stacks) :
    closeIndex (f loc) (s.moved f) = (closeIndex loc s).moved f (Stacks.moved f) := by
  obtain ⟨pending, operands, afterOperand⟩ := s
  match pending with
  | [] | (.operator _, _) :: _ | (.opener .call, _) :: _ | (.opener .group, _) :: _ => rfl
  | (.opener .index, _) :: pending =>
    refine moved_bind (popNode_moved f loc operands) ?_
    rintro ⟨index, rest⟩
    match rest with
    | [] | .arguments _ :: _ | .nothing :: _ => rfl
    | .node indexed :: rest =>
      cases indexed with
      | var ref =>
        obtain ⟨name, indices, loc'⟩ := ref
        show Except.ok (Stacks.mk _ (.node (.var ⟨_, _, _⟩) :: _) _) =
          Except.ok (Stacks.mk _ (.node (.var ⟨_, _, _⟩) :: _) _)
        rw [relabelAll_append]
        rfl
      | _ => rfl

/-- A symbol first applies what waits, and then takes its place. -/
theorem shift_moved (s : Stacks) (loc : Location) (symbol : Symbol) :
    (s.moved f).shift (f loc) symbol = (s.shift loc symbol).moved f (Stacks.moved f) := by
  cases symbol with
  | opener opener => rfl
  | operator op => exact moved_bind (unwind_moved f _ s.pending s.operands) fun _ => rfl
  | closeParen =>
    exact moved_bind (unwind_moved f _ s.pending s.operands) fun p =>
      closeParen_moved f loc ⟨p.1, p.2, s.afterOperand⟩
  | closeIndex =>
    exact moved_bind (unwind_moved f _ s.pending s.operands) fun p =>
      closeIndex_moved f loc ⟨p.1, p.2, s.afterOperand⟩

/-- Which kind of token it is, its text alone decides. -/
theorem step_moved (s : Stacks) (t : Token) :
    (s.moved f).step (t.moved f) = (s.step t).moved f (Stacks.moved f) := by
  refine moved_ite (fun _ => rfl) fun _ => moved_ite (fun _ => rfl) fun _ =>
    moved_ite (fun _ => rfl) fun _ => moved_ite (fun _ => ?_) fun _ =>
      moved_ite (fun _ => rfl) fun _ => ?_
  · -- The text of a numeral decides alone whether it can be read.
    rw [show (t.moved f).text = t.text from rfl]
    cases Text.int32? t.text.toList <;> rfl
  · rw [show (t.moved f).text = t.text from rfl,
      show (s.moved f).afterOperand = s.afterOperand from rfl]
    cases Symbol.of? s.afterOperand t.text with
    | none => rfl
    | some symbol => exact shift_moved f s t.loc symbol

/-- All tokens, one after the other. -/
theorem steps_moved (s : Stacks) (ts : List Token) :
    (s.moved f).steps (movedAll f ts) = (s.steps ts).moved f (Stacks.moved f) := by
  induction ts generalizing s with
  | nil => rfl
  | cons t ts ih => exact moved_bind (step_moved f s t) fun s => ih s

/-- The parenthesis around the whole is closed, and one tree has to be left. -/
theorem finish_moved (s : Stacks) (loc : Location) :
    (s.moved f).finish (f loc) = (s.finish loc).moved f (Node.relabel (.moving f)) := by
  refine moved_bind (shift_moved f s loc .closeParen) ?_
  rintro ⟨pending, operands, afterOperand⟩
  match pending, operands with
  | _ :: _, _ | [], [] | [], _ :: _ :: _ | [], [.node _] | [], [.arguments _] | [], [.nothing] => rfl

/-- An expression is read in the same way wherever its tokens stand. -/
theorem read_moved (ts : List Token) :
    read (movedAll f ts) = (read ts).moved f (Node.relabel (.moving f)) := by
  cases ts with
  | nil => rfl
  | cons t ts =>
    refine moved_bind (steps_moved f (.start t.loc) (t :: ts)) fun s => ?_
    rw [getLastD_movedAll]
    exact finish_moved f s (ts.getLastD t).loc

end Expression

/-! ## Section 3: Extents -/

/-- The pieces with their tokens at their new places. -/
def Parted.moved (p : Parted) : Parted :=
  ⟨movedAll f p.before, p.mark.moved f, movedAll f p.after⟩

/-- The pieces with their tokens at their new places. -/
def Cut.moved (c : Cut) : Cut :=
  ⟨movedAll f c.front, movedAll f c.rest⟩

/-- The pieces with their tokens at their new places. -/
def Enclosed.moved (e : Enclosed) : Enclosed :=
  ⟨e.opener.moved f, movedAll f e.inside, e.closer.moved f, movedAll f e.after⟩

theorem Parted.cut_moved (p : Parted) : (p.moved f).cut = p.cut.moved f := by
  simp [Parted.cut, Parted.moved, Cut.moved]

theorem Enclosed.bracketed_moved (e : Enclosed) :
    (e.moved f).bracketed = movedAll f e.bracketed := by
  simp [Enclosed.bracketed, Enclosed.moved]

theorem Enclosed.cut_moved (e : Enclosed) : (e.moved f).cut = e.cut.moved f :=
  congrArg (Cut.mk · (movedAll f e.after)) (e.bracketed_moved f)

theorem Cut.addFront_moved (ts : List Token) (c : Cut) :
    (c.moved f).addFront (movedAll f ts) = (c.addFront ts).moved f := by
  simp [Cut.addFront, Cut.moved]

namespace Extent

open Expression Reading

/-- A separator is found by its text, at the same depth. -/
theorem partAt_moved (separator : String) (depth : Nat) (ts : List Token) :
    partAt separator depth (movedAll f ts) = (partAt separator depth ts).map (Parted.moved f) := by
  induction ts generalizing depth with
  | nil => rfl
  | cons t ts ih =>
    show (if t.text = separator ∧ depth = 0 then some _ else
      (partAt separator (depthAfter depth t) (movedAll f ts)).map (Parted.cons (t.moved f))) = _
    rw [ih, partAt]
    split
    · rfl
    · rw [Option.map_map, Option.map_map]
      rfl

/-- Separators are as many as before. -/
theorem countOf_moved (separator : String) (depth : Nat) (ts : List Token) :
    countOf separator depth (movedAll f ts) = countOf separator depth ts := by
  induction ts generalizing depth with
  | nil => rfl
  | cons t ts ih =>
    show (if t.text = separator ∧ depth = 0 then countOf separator depth (movedAll f ts) + 1 else
      countOf separator (depthAfter depth t) (movedAll f ts)) = _
    rw [ih, ih, countOf]

theorem consFirst_moved (t : Token) (pieces : List (List Token)) :
    consFirst (t.moved f) (pieces.map (movedAll f)) = (consFirst t pieces).map (movedAll f) := by
  cases pieces <;> rfl

/-- A list is divided at the same separators. -/
theorem splitAt_moved (separator : String) (depth : Nat) (ts : List Token) :
    splitAt separator depth (movedAll f ts) = (splitAt separator depth ts).map (movedAll f) := by
  induction ts generalizing depth with
  | nil => rfl
  | cons t ts ih =>
    show (if t.text = separator ∧ depth = 0 then [] :: splitAt separator depth (movedAll f ts) else
      consFirst (t.moved f) (splitAt separator (depthAfter depth t) (movedAll f ts))) = _
    rw [ih, ih, splitAt]
    split
    · rfl
    · exact consFirst_moved f t _

/-- A closing bracket is found by its text. -/
theorem partAtCloser_moved (bracket : Bracket) (depth : Nat) (ts : List Token) :
    partAtCloser bracket depth (movedAll f ts) =
      (partAtCloser bracket depth ts).map (Parted.moved f) := by
  induction ts generalizing depth with
  | nil => rfl
  | cons t ts ih =>
    have hcons : ∀ depth, (partAtCloser bracket depth (movedAll f ts)).map (Parted.cons (t.moved f)) =
        ((partAtCloser bracket depth ts).map (Parted.cons t)).map (Parted.moved f) := by
      intro depth
      rw [ih, Option.map_map, Option.map_map]
      rfl
    show (if t.text = bracket.opener then _ else if t.text = bracket.closer then _ else _) = _
    rw [partAtCloser]
    split_ifs
    · exact hcons (depth + 1)
    · rfl
    · exact hcons (depth - 1)
    · exact hcons depth

/-- What brackets enclose, or at which place they are not closed. -/
theorem enclosed_moved (whole : Location) (bracket : Bracket) (ts : List Token) :
    enclosed (f whole) bracket (movedAll f ts) =
      Reading.moved f (Enclosed.moved f) (enclosed whole bracket ts) := by
  cases ts with
  | nil => rfl
  | cons t ts =>
    refine moved_ite (fun _ => ?_) fun _ => rfl
    rw [partAtCloser_moved]
    cases partAtCloser bracket 0 ts <;> rfl

/-- A semicolon, or the place where it is missing. -/
theorem semicolon_moved (loc : Location) (ts : List Token) :
    semicolon (f loc) (movedAll f ts) = Reading.moved f (Parted.moved f) (semicolon loc ts) := by
  unfold semicolon
  rw [partAt_moved]
  cases partAt ";" 0 ts <;> rfl

/-- The places of the ends after the tokens have been moved. -/
def Ends.moved (ends : Ends) : Ends :=
  ⟨f ends.whole, f ends.piece⟩

/-- The first statement without its else, as one reading after another. -/
theorem bareStatement_cons (ends : Ends) (t : Token) (ts : List Token) :
    bareStatement ends (t :: ts) =
      if t.text = "\x7b" then (enclosed ends.whole .brace (t :: ts)).map Enclosed.cut
      else if t.text = "if" ∨ t.text = "for" ∨ t.text = "while" then do
        let header ← enclosed ends.whole .paren ts
        (bareStatement ends header.after).map (Cut.addFront (t :: header.bracketed))
      else (semicolon t.loc (t :: ts)).map Parted.cut := by
  rw [bareStatement]
  split_ifs
  · rfl
  · split
    · next hfault => rw [hfault]; rfl
    · next hheader => rw [hheader]; rfl
  · rfl

/-- A statement behind a header in parentheses, if what is behind the header is cut alike. -/
theorem header_moved {inner inner' : List Token → Reading Cut} (ends : Ends) (t : Token)
    (ts : List Token) (hinner : ∀ header, enclosed ends.whole .paren ts = .ok header →
      inner' (movedAll f header.after) = (inner header.after).moved f (Cut.moved f)) :
    (do
      let header ← enclosed (f ends.whole) .paren (movedAll f ts)
      (inner' header.after).map (Cut.addFront (t.moved f :: header.bracketed)) : Reading Cut) =
    Reading.moved f (Cut.moved f) (do
      let header ← enclosed ends.whole .paren ts
      (inner header.after).map (Cut.addFront (t :: header.bracketed))) := by
  refine moved_bind_of_ok (enclosed_moved f ends.whole .paren ts) fun header hheader => ?_
  refine moved_map (hinner header hheader) fun c => ?_
  rw [← Cut.addFront_moved, movedAll_cons, Enclosed.bracketed_moved]

/-- The extent of a first branch. -/
theorem bareStatement_moved (ends : Ends) (ts : List Token) :
    bareStatement (ends.moved f) (movedAll f ts) =
      Reading.moved f (Cut.moved f) (bareStatement ends ts) := by
  -- The search goes on behind a header, which is no immediate part of the list, so the induction is
  -- on its length.
  induction hlength : ts.length using Nat.strongRecOn generalizing ts with
  | ind n ih =>
    subst hlength
    cases ts with
    | nil => simp [bareStatement, Reading.moved, Ends.moved]
    | cons t ts =>
      rw [movedAll_cons, bareStatement_cons, bareStatement_cons]
      refine moved_ite (fun _ => ?_) fun _ => moved_ite (fun _ => ?_) fun _ => ?_
      · exact moved_map (enclosed_moved f ends.whole .brace (t :: ts)) fun e => e.cut_moved f
      · refine header_moved f ends t ts fun header hheader => ?_
        exact ih _ (Nat.lt_succ_of_lt (length_after_lt hheader)) header.after rfl
      · exact moved_map (semicolon_moved f t.loc (t :: ts)) fun p => p.cut_moved f

/-- What follows an `else` is shorter than what was cut in front of it. -/
theorem length_more_lt {ends : Ends} {ts front more : List Token} {next : Token}
    (h : bareStatement ends ts = .ok ⟨front, next :: more⟩) : more.length < ts.length := by
  rw [← bareStatement_tokens h]
  simp only [Cut.tokens, List.length_append, List.length_cons]
  omega

/-- The first statement with its else, as one reading after another. -/
theorem statement_cons (ends : Ends) (t : Token) (ts : List Token) :
    statement ends (t :: ts) =
      if t.text = "\x7b" then (enclosed ends.whole .brace (t :: ts)).map Enclosed.cut
      else if t.text = "for" ∨ t.text = "while" then do
        let header ← enclosed ends.whole .paren ts
        (statement ends header.after).map (Cut.addFront (t :: header.bracketed))
      else if t.text = "if" then do
        let cut ← bareStatement ends (t :: ts)
        match cut.rest with
        | [] => .ok cut
        | next :: more =>
          if next.text = "else" then
            (statement ends more).map (Cut.addFront (cut.front ++ [next]))
          else .ok cut
      else (semicolon t.loc (t :: ts)).map Parted.cut := by
  rw [statement]
  split_ifs
  · rfl
  · split
    · next hfault => rw [hfault]; rfl
    · next hheader => rw [hheader]; rfl
  · split
    · next hfault => rw [hfault]; rfl
    · next hcut => rw [hcut]; rfl
    · next hcut => rw [hcut]; rfl
  · rfl

/-- The extent of a statement, a second branch included. -/
theorem statement_moved (ends : Ends) (ts : List Token) :
    statement (ends.moved f) (movedAll f ts) =
      Reading.moved f (Cut.moved f) (statement ends ts) := by
  induction hlength : ts.length using Nat.strongRecOn generalizing ts with
  | ind n ih =>
    subst hlength
    cases ts with
    | nil => simp [statement, Reading.moved, Ends.moved]
    | cons t ts =>
      rw [movedAll_cons, statement_cons, statement_cons]
      refine moved_ite (fun _ => ?_) fun _ => moved_ite (fun _ => ?_) fun _ =>
        moved_ite (fun _ => ?_) fun _ => ?_
      · exact moved_map (enclosed_moved f ends.whole .brace (t :: ts)) fun e => e.cut_moved f
      · refine header_moved f ends t ts fun header hheader => ?_
        exact ih _ (Nat.lt_succ_of_lt (length_after_lt hheader)) header.after rfl
      · refine moved_bind_of_ok (bareStatement_moved f ends (t :: ts)) ?_
        rintro ⟨front, rest⟩ hcut
        cases rest with
        | nil => rfl
        | cons next more =>
          refine moved_ite (fun _ => moved_map (ih _ (length_more_lt hcut) more rfl) fun c => ?_)
            fun _ => rfl
          rw [← Cut.addFront_moved]
          simp only [Cut.moved, List.map_append, List.map_cons, List.map_nil]
      · exact moved_map (semicolon_moved f t.loc (t :: ts)) fun p => p.cut_moved f

end Extent

/-! ## Section 4: Declarations -/

namespace Declaration

open Expression Reading

theorem name_moved (t : Token) : name (t.moved f) = (name t).moved f id :=
  moved_ite (fun _ => rfl) fun _ => rfl

/-- Passing over sizes as one reading after another. -/
theorem skipSizes_cons (whole : Location) (t : Token) (ts : List Token) :
    skipSizes whole (t :: ts) =
      if t.text = "[" then do
        let size ← Extent.enclosed whole .square (t :: ts)
        skipSizes whole size.after
      else .ok (t :: ts) := by
  rw [skipSizes]
  split_ifs
  · split
    · next hfault => rw [hfault]; rfl
    · next hsize => rw [hsize]; rfl
  · rfl

/-- Sizes of arrays are passed over. -/
theorem skipSizes_moved (whole : Location) (ts : List Token) :
    skipSizes (f whole) (movedAll f ts) = (skipSizes whole ts).moved f (movedAll f) := by
  induction hlength : ts.length using Nat.strongRecOn generalizing ts with
  | ind n ih =>
    subst hlength
    cases ts with
    | nil => simp [skipSizes, Reading.moved]
    | cons t ts =>
      rw [movedAll_cons, skipSizes_cons, skipSizes_cons]
      refine moved_ite (fun _ => ?_) fun _ => rfl
      refine moved_bind_of_ok (Extent.enclosed_moved f whole .square (t :: ts)) fun size hsize => ?_
      exact ih _ (Extent.length_after_lt hsize) size.after rfl

/-- The value of a declarator is an expression behind an equals sign. -/
theorem initializer_moved (first : Token) (ts : List Token) :
    initializer (first.moved f) (movedAll f ts) =
      (initializer first ts).moved f (relabelAll (.moving f)) := by
  cases ts with
  | nil => rfl
  | cons t value =>
    refine moved_ite (fun _ => ?_) fun _ => rfl
    rw [List.isEmpty_map]
    exact moved_ite (fun _ => rfl) fun _ => moved_bind (read_moved f value) fun _ => rfl

/-- A declarator is a name, its sizes, and perhaps a value. -/
theorem declarator_moved (whole loc : Location) (ts : List Token) :
    declarator (f whole) (f loc) (movedAll f ts) =
      (declarator whole loc ts).moved f (relabelAll (.moving f)) := by
  cases ts with
  | nil => rfl
  | cons first ts =>
    exact moved_bind (name_moved f first) fun _ => moved_bind (skipSizes_moved f whole ts) fun rest =>
      moved_bind (initializer_moved f first rest) fun _ => rfl

/-- Declarators one after the other. -/
theorem declarators_moved (whole loc : Location) (pieces : List (List Token)) :
    declarators (f whole) (f loc) (pieces.map (movedAll f)) =
      (declarators whole loc pieces).moved f (relabelAll (.moving f)) := by
  induction pieces with
  | nil => rfl
  | cons piece pieces ih =>
    refine moved_bind (declarator_moved f whole loc piece) fun nodes => moved_bind ih fun more => ?_
    exact congrArg Except.ok (relabelAll_append _ nodes more).symm

/-- A declaration is read in the same way wherever its tokens stand. -/
theorem read_moved (whole loc : Location) (ts : List Token) :
    read (f whole) (f loc) (movedAll f ts) =
      (read whole loc ts).moved f (Prod.map (relabelAll (.moving f)) (movedAll f)) := by
  refine moved_bind (Extent.semicolon_moved f loc ts) fun p => ?_
  rw [show (p.moved f).before = movedAll f p.before from rfl, Extent.splitAt_moved]
  exact moved_bind (declarators_moved f whole loc _) fun _ => rfl

end Declaration

/-! ## Section 5: Statements -/

namespace Statement

open Expression Reading
open Extent (Ends)

/-- The header with its tokens at their new places. -/
def ForHeader.moved (header : ForHeader) : ForHeader :=
  ⟨movedAll f header.init, movedAll f header.condition, movedAll f header.step⟩

/-- The header of a for loop falls into the same three parts. -/
theorem ForHeader.of_moved (ts : List Token) :
    ForHeader.of (movedAll f ts) = (ForHeader.of ts).map (ForHeader.moved f) := by
  unfold ForHeader.of
  rw [Extent.partAt_moved]
  cases Extent.partAt ";" 0 ts with
  | none => rfl
  | some first =>
    dsimp only [Option.map, Parted.moved]
    rw [Extent.partAt_moved]
    cases Extent.partAt ";" 0 first.after with
    | none => rfl
    | some second =>
      dsimp only [Option.map, Parted.moved]
      rw [Extent.countOf_moved]
      cases Extent.countOf ";" 0 second.after with
      | zero => simp [Except.map, ForHeader.moved]
      | succ more => rfl

/-- What has been read and the tokens that follow, with their new places. -/
abbrev movedStep : Step → Step :=
  Prod.map (relabelAll (.moving f)) (movedAll f)

variable {f} {ends : Ends} {inner inner' : List Token → Reading (List Node)}
  (hinner : ∀ ts, inner' (movedAll f ts) = (inner ts).moved f (relabelAll (.moving f)))

theorem readReturn_moved (t : Token) (ts : List Token) :
    readReturn (t.moved f) (movedAll f ts) = (readReturn t ts).moved f (movedStep f) :=
  moved_bind (Extent.semicolon_moved f t.loc ts) fun p =>
    moved_bind (Expression.read_moved f p.before) fun _ => rfl

theorem readExpression_moved (t : Token) (ts : List Token) :
    readExpression (t.moved f) (movedAll f ts) = (readExpression t ts).moved f (movedStep f) :=
  moved_bind (Extent.semicolon_moved f t.loc (t :: ts)) fun p =>
    moved_bind (Expression.read_moved f p.before) fun _ => rfl

include hinner

/-- A body is what the extent of one statement holds. -/
theorem body_moved (ts : List Token) :
    body (ends.moved f) inner' (movedAll f ts) =
      (body ends inner ts).moved f (Prod.map (Node.relabel (.moving f)) (movedAll f)) :=
  moved_bind (Extent.statement_moved f ends ts) fun cut =>
    moved_bind (hinner cut.front) fun _ => rfl

/-- A for loop, whose header is divided first. -/
theorem readFor_moved (t : Token) (ts : List Token) :
    readFor (ends.moved f) inner' (t.moved f) (movedAll f ts) =
      (readFor ends inner t ts).moved f (movedStep f) := by
  refine moved_bind (Extent.enclosed_moved f ends.whole .paren ts) fun parens => ?_
  rw [show (parens.moved f).inside = movedAll f parens.inside from rfl, ForHeader.of_moved]
  cases ForHeader.of parens.inside with
  | error found => rfl
  | ok header =>
    refine moved_bind (hinner header.init) fun init =>
      moved_bind (Expression.read_moved f header.condition) fun condition =>
        moved_bind (Expression.read_moved f header.step) fun step =>
          moved_bind (body_moved hinner parens.after) fun _ => rfl

theorem readWhile_moved (t : Token) (ts : List Token) :
    readWhile (ends.moved f) inner' (t.moved f) (movedAll f ts) =
      (readWhile ends inner t ts).moved f (movedStep f) :=
  moved_bind (Extent.enclosed_moved f ends.whole .paren ts) fun parens =>
    moved_bind (Expression.read_moved f parens.inside) fun _ =>
      moved_bind (body_moved hinner parens.after) fun _ => rfl

theorem readElse_moved (ts : List Token) :
    readElse (ends.moved f) inner' (movedAll f ts) =
      (readElse ends inner ts).moved f (Prod.map (relabelElse (.moving f)) (movedAll f)) := by
  cases ts with
  | nil => rfl
  | cons t ts =>
    exact moved_ite (fun _ => moved_bind (body_moved hinner ts) fun _ => rfl) fun _ => rfl

/-- An `if`, whose first branch ends before an `else`. -/
theorem readIf_moved (t : Token) (ts : List Token) :
    readIf (ends.moved f) inner' (t.moved f) (movedAll f ts) =
      (readIf ends inner t ts).moved f (movedStep f) :=
  moved_bind (Extent.enclosed_moved f ends.whole .paren ts) fun parens =>
    moved_bind (Expression.read_moved f parens.inside) fun _ =>
      moved_bind (Extent.bareStatement_moved f ends parens.after) fun cut =>
        moved_bind (hinner cut.front) fun _ =>
          moved_bind (readElse_moved hinner cut.rest) fun _ => rfl

theorem readBlock_moved (t : Token) (ts : List Token) :
    readBlock (ends.moved f) inner' (t.moved f) (movedAll f ts) =
      (readBlock ends inner t ts).moved f (movedStep f) :=
  moved_bind (Extent.enclosed_moved f ends.whole .brace (t :: ts)) fun braces =>
    moved_bind (hinner braces.inside) fun _ => rfl

/-- The first token of a statement decides by its text which kind it is. -/
theorem readOne_moved (whole : Location) (t : Token) (ts : List Token) :
    readOne (f whole) inner' (t.moved f) (movedAll f ts) =
      (readOne whole inner t ts).moved f (movedStep f) := by
  unfold readOne
  rw [getLastD_movedAll]
  -- The last token of the piece is moved like all others.
  generalize (ts.getLastD t) = last
  have hends : (⟨f whole, (last.moved f).loc⟩ : Ends) = Ends.moved f ⟨whole, last.loc⟩ := rfl
  dsimp only
  rw [hends]
  refine moved_ite (fun _ => readReturn_moved t ts) fun _ =>
    moved_ite (fun _ => readFor_moved hinner t ts) fun _ =>
      moved_ite (fun _ => readWhile_moved hinner t ts) fun _ =>
        moved_ite (fun _ => readIf_moved hinner t ts) fun _ =>
          moved_ite (fun _ => readBlock_moved hinner t ts) fun _ =>
            moved_ite (fun _ => Declaration.read_moved f whole t.loc ts) fun _ =>
              moved_ite (fun _ => rfl) fun _ => readExpression_moved t ts

omit hinner

/-- Statements are read alike within any bound. -/
theorem readWithin_moved (whole : Location) (bound : Nat) (ts : List Token) :
    readWithin (f whole) bound (movedAll f ts) =
      (readWithin whole bound ts).moved f (relabelAll (.moving f)) := by
  -- The statements inside the first one and those after it are read with a smaller bound.
  induction bound generalizing ts with
  | zero => cases ts <;> rfl
  | succ bound ih =>
    cases ts with
    | nil => rfl
    | cons t ts =>
      refine moved_bind (readOne_moved ih whole t ts) fun step => moved_bind (ih step.2) fun more => ?_
      exact congrArg Except.ok (relabelAll_append _ step.1 more).symm

/-- Statements are read in the same way wherever their tokens stand. -/
theorem readAll_moved (whole : Location) (ts : List Token) :
    readAll (f whole) (movedAll f ts) = (readAll whole ts).moved f (relabelAll (.moving f)) := by
  unfold readAll
  rw [List.length_map]
  exact readWithin_moved whole ts.length ts

end Statement

/-! ## Section 6: Programs -/

theorem Routine.relabel_moving (routine : Routine) :
    routine.relabel (.moving f) =
      ⟨routine.name, routine.params, routine.body.relabel (.moving f), f routine.loc⟩ := by
  simp [Routine.relabel, Relabeling.moving]

/-- Functions are found by their names, which stay. -/
theorem Program.find?_moved (program : Program) (name : String) :
    (program.relabel (.moving f)).find? name =
      (program.find? name).map (Routine.relabel (.moving f)) := by
  unfold Program.find? Program.relabel
  rw [List.find?_map]
  rfl

/-- A function that is added takes the place of those of its name. -/
theorem Program.define_moved (program : Program) (routine : Routine) :
    (program.relabel (.moving f)).define (routine.relabel (.moving f)) =
      (program.define routine).relabel (.moving f) := by
  unfold Program.define Program.relabel
  rw [List.map_append, List.filter_map]
  rfl

theorem Program.addGlobals_moved (program : Program) (nodes : List Node) :
    (program.relabel (.moving f)).addGlobals (relabelAll (.moving f) nodes) =
      (program.addGlobals nodes).relabel (.moving f) := by
  unfold Program.addGlobals Program.relabel
  rw [relabelAll_append]

/-- What became of loading, with its new places. -/
def Loading.moved (loading : Loading) : Loading :=
  ⟨loading.read.map (Routine.relabel (.moving f)),
    loading.outcome.moved f (Program.relabel (.moving f))⟩

namespace Loading

open Expression Reading

/-- The end of tokens moves with the last of them. Without tokens it is the start of the text. -/
theorem endOf_moved {ts : List Token} (h : ts ≠ []) : endOf (movedAll f ts) = f (endOf ts) := by
  unfold endOf
  rw [List.getLast?_map, List.getLast?_eq_some_getLast h]
  rfl

theorem pieces_moved (ts : List Token) : pieces (movedAll f ts) = (pieces ts).map (movedAll f) := by
  induction ts with
  | nil => rfl
  | cons t ts ih =>
    show (if t.text = "," then [] :: pieces (movedAll f ts) else
      Extent.consFirst (t.moved f) (pieces (movedAll f ts))) = _
    rw [ih, pieces]
    split
    · rfl
    · exact Extent.consFirst_moved f t _

theorem parameter_moved (name : String) (loc : Location) (ts : List Token) :
    parameter name (f loc) (movedAll f ts) = (parameter name loc ts).moved f id := by
  match ts with
  | [] | [_] | _ :: _ :: _ :: _ => rfl
  | [type, first] => exact moved_ite (fun _ => Declaration.name_moved f first) fun _ => rfl

theorem parameters_moved (name : String) (loc : Location) (pieces : List (List Token)) :
    parameters name (f loc) (pieces.map (movedAll f)) = (parameters name loc pieces).moved f id := by
  induction pieces with
  | nil => rfl
  | cons piece pieces ih =>
    exact moved_bind (parameter_moved f name loc piece) fun _ => moved_bind ih fun _ => rfl

theorem bodyOf_moved (whole : Location) (name : String) (ts : List Token) :
    bodyOf (f whole) name (movedAll f ts) = (bodyOf whole name ts).moved f (Enclosed.moved f) := by
  cases ts with
  | nil => rfl
  | cons t ts =>
    exact moved_ite (fun _ => Extent.enclosed_moved f whole .brace (t :: ts)) fun _ => rfl

/-- The parameters of a function. -/
theorem paramsOf_moved (name : String) (parens : Enclosed) :
    paramsOf name (parens.moved f) = (paramsOf name parens).moved f id := by
  rw [paramsOf, show (parens.moved f).inside = movedAll f parens.inside from rfl, List.isEmpty_map,
    pieces_moved]
  exact moved_ite (fun _ => rfl) fun _ => parameters_moved f name parens.closer.loc _

/-- A function, with its place where its name stands. -/
theorem routine_moved (whole : Location) (first : Token) (ts : List Token) :
    routine (f whole) (first.moved f) (movedAll f ts) =
      (routine whole first ts).moved f (Prod.map (Routine.relabel (.moving f)) (movedAll f)) := by
  rw [routine, routine]
  refine moved_bind (Declaration.name_moved f first) fun name =>
    moved_bind (Extent.enclosed_moved f whole .paren ts) fun parens =>
    moved_bind (paramsOf_moved f name parens) fun params =>
    moved_bind (bodyOf_moved f whole name parens.after) fun braces =>
    moved_bind (Statement.readAll_moved whole braces.inside) fun body => ?_
  show Except.ok _ = Except.ok (Routine.relabel (.moving f) _, _)
  rw [Routine.relabel_moving]
  rfl

theorem routineStart?_moved (ts : List Token) :
    routineStart? (movedAll f ts) =
      (routineStart? ts).map (Prod.map (Token.moved f) (movedAll f)) := by
  match ts with
  | [] | [_] => rfl
  | first :: t :: ts =>
    show (if t.text = "(" then _ else _) = _
    rw [routineStart?]
    split <;> rfl

/-- Items are loaded in the same way within any bound. -/
theorem loadWithin_moved (whole : Location) (bound : Nat) (program : Program) (ts : List Token) :
    loadWithin (f whole) bound (program.relabel (.moving f)) (movedAll f ts) =
      (loadWithin whole bound program ts).moved f := by
  induction bound generalizing program ts with
  | zero => cases ts <;> rfl
  | succ bound ih =>
    cases ts with
    | nil => rfl
    | cons t ts =>
      rw [movedAll_cons, loadWithin, loadWithin]
      by_cases ht : t.text = "int"
      · rw [if_pos ht, if_pos (show (t.moved f).text = "int" from ht), routineStart?_moved]
        cases routineStart? ts with
        | some start =>
          dsimp only [Option.map_some, Prod.map]
          rw [routine_moved]
          cases routine whole start.1 start.2 with
          | error fault => rfl
          | ok read =>
            obtain ⟨routine, rest⟩ := read
            dsimp only [Reading.moved, Prod.map]
            -- Names are not moved, and so a name is taken wherever it was taken before.
            rw [show (routine.relabel (.moving f)).name = routine.name from rfl, Program.find?_moved,
              Option.isSome_map, Program.define_moved, ih]
            split <;> rfl
        | none =>
          -- Whatever is no function is read as a declaration.
          have hread := Declaration.read_moved f whole t.loc ts
          dsimp only [Option.map_none]
          rw [show (t.moved f).loc = f t.loc from rfl, hread]
          cases Declaration.read whole t.loc ts with
          | error fault => rfl
          | ok read =>
            dsimp only [Reading.moved, Prod.map]
            rw [Program.addGlobals_moved, ih]
      · rw [if_neg ht, if_neg (show ¬ (t.moved f).text = "int" from ht)]
        rfl

/-- A program is loaded in the same way wherever its tokens stand. -/
theorem load_moved (ts : List Token) : load (movedAll f ts) = (load ts).moved f := by
  cases ts with
  | nil => rfl
  | cons t ts =>
    -- There is a last token, and faults at the end of all tokens move with it.
    have hwithin := loadWithin_moved f (endOf (t :: ts)) (t :: ts).length {} (t :: ts)
    unfold load
    rw [endOf_moved f (List.cons_ne_nil t ts), List.length_map]
    exact hwithin

end Loading

/-- A program is read in the same way wherever its tokens stand. -/
theorem Program.ofTokens_moved (ts : List Token) :
    Program.ofTokens (movedAll f ts) =
      (Program.ofTokens ts).moved f (Program.relabel (.moving f)) :=
  congrArg Loading.outcome (Loading.load_moved f ts)

end Stepwise
