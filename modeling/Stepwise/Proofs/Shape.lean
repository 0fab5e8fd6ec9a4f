import Mathlib.Tactic.SplitIfs
import Stepwise.Grammar.Loading
import Stepwise.Proofs.Stacks

/-!
# The shape of programs that have been read

A tree can put a statement where a value is needed. The readers never build such a tree: what they
read as an expression is one through and through, what they read as a body is a sequence of
statements, and all names are words. This holds for every token list that they accept, however odd,
since it is kept by each single step: by every operator that is applied to the operands on the stack,
and by every kind of statement.

## Main results

* `Expression.gives_read`: what is read as an expression is a value.
* `Statement.gives_readAll`: what is read as statements are statements.
* `Program.wellShaped_of_ofTokens`: every program that can be read is well shaped.
-/

namespace Stepwise

/-! ## Section 1: Well-shaped trees -/

/-- Whether a text is a name: a word that does not start with a digit. -/
def IsName (text : String) : Prop :=
  text.toList ≠ [] ∧ (∀ c ∈ text.toList, Token.isWordChar c) ∧
    ∀ c ∈ text.toList.head?, ¬ Text.isDigit c

/-- Whether a node stands for a value: an expression all of whose parts are values in turn. An
expression that has been left out counts too. -/
inductive Node.IsValue : Node → Prop where
  | empty : IsValue .empty
  | endl {loc : Location} : IsValue (.endl loc)
  | literal {value : Int32} {loc : Location} (hvalue : 0 ≤ value) : IsValue (.literal value loc)
  | var {ref : Reference Node} (hname : IsName ref.name)
      (hindices : ∀ index ∈ ref.indices, IsValue index) : IsValue (.var ref)
  | call {callee : String} {args : List Node} {loc : Location} (hname : IsName callee)
      (hargs : ∀ arg ∈ args, IsValue arg) : IsValue (.call callee args loc)
  | unary {op : UnaryOp} {operand : Node} {loc : Location} (hoperand : IsValue operand) :
      IsValue (.unary op operand loc)
  | binary {op : BinaryOp} {left right : Node} {loc : Location} (hleft : IsValue left)
      (hright : IsValue right) : IsValue (.binary op left right loc)
  | assignment {target : Reference Node} {value : Node} {loc : Location}
      (htarget : IsValue (.var target)) (hvalue : IsValue value) :
      IsValue (.assignment target value loc)
  | input {targets : List (Reference Node)} {loc : Location}
      (htargets : ∀ target ∈ targets, IsValue (.var target)) : IsValue (.input targets loc)
  | output {items : List Node} {loc : Location} (hitems : ∀ item ∈ items, IsValue item) :
      IsValue (.output items loc)

mutual

/-- Whether a node is a statement whose parts are what their places ask for. -/
inductive Node.IsStatement : Node → Prop where
  | value {node : Node} (h : node.IsValue) : IsStatement node
  | declaration {name : String} {loc : Location} (hname : IsName name) :
      IsStatement (.declaration name loc)
  | giveBack {value : Node} {loc : Location} (hvalue : value.IsValue) :
      IsStatement (.giveBack value loc)
  | block {body : Node} {loc : Location} (hbody : body.IsBody) : IsStatement (.block body loc)
  | whileLoop {condition body : Node} {loc : Location} (hcondition : condition.IsValue)
      (hbody : body.IsBody) : IsStatement (.whileLoop condition body loc)
  | forLoop {init condition step body : Node} {loc : Location} (hinit : init.IsBody)
      (hcondition : condition.IsValue) (hstep : step.IsValue) (hbody : body.IsBody) :
      IsStatement (.forLoop init condition step body loc)
  | ifElse {condition thenBranch : Node} {elseBranch : Option Node} {loc : Location}
      (hcondition : condition.IsValue) (hthen : thenBranch.IsBody)
      (helse : ∀ branch ∈ elseBranch, branch.IsBody) :
      IsStatement (.ifElse condition thenBranch elseBranch loc)

/-- Whether a node is a body: a sequence of statements. -/
inductive Node.IsBody : Node → Prop where
  | sequence {nodes : List Node} (hnodes : ∀ node ∈ nodes, node.IsStatement) :
      IsBody (.sequence nodes)

end

/-- Whether all nodes of a list are statements. -/
def AllStatements (nodes : List Node) : Prop :=
  ∀ node ∈ nodes, node.IsStatement

/-- A function whose names are names and whose body is one. -/
structure Routine.WellShaped (routine : Routine) : Prop where
  name : IsName routine.name
  params (param : String) (h : param ∈ routine.params) : IsName param
  body : routine.body.IsBody

/-- A program of well-shaped functions and statements. -/
structure Program.WellShaped (program : Program) : Prop where
  routines (routine : Routine) (h : routine ∈ program.routines) : routine.WellShaped
  globals : AllStatements program.globals

/-! ## Section 2: Tokens -/

theorem isName_of_token {t : Token} (h : t.isName = true) : IsName t.text := by
  simp only [Token.isName, Token.isWord, Token.isNumeral, Bool.and_eq_true, Bool.not_eq_true',
    List.all_eq_true, List.isEmpty_eq_false_iff] at h
  obtain ⟨⟨hne, hword⟩, hdigit⟩ := h
  refine ⟨hne, hword, fun c hc => ?_⟩
  obtain ⟨c', cs, hcs⟩ := List.exists_cons_of_ne_nil hne
  rw [hcs] at hc hdigit
  obtain rfl : c' = c := by simpa using hc
  simpa using hdigit

/-- A number that is not below zero stays so when it is narrowed. -/
theorem nonneg_of_narrow? {n : Nat} {value : Int32} (h : Text.narrow? n = some value) :
    0 ≤ value := by
  unfold Text.narrow? at h
  split at h
  · next hbound =>
    cases h
    rw [Int32.le_iff_toInt_le, Int32.toInt_ofInt_of_le (by omega) (by omega)]
    simp
  · cases h

/-- A numeral starts with a digit and not with a sign, and so it is not below zero. -/
theorem nonneg_of_numeral {t : Token} {value : Int32} (ht : t.isNumeral = true)
    (h : Text.int32? t.text.toList = some value) : 0 ≤ value := by
  unfold Token.isNumeral at ht
  unfold Text.int32? at h
  split at h
  · obtain ⟨n, -, hn⟩ := Option.bind_eq_some_iff.mp h
    exact nonneg_of_narrow? hn
  · next hminus =>
    rw [hminus] at ht
    have hdigit : Text.isDigit '-' = true := ht
    exact absurd hdigit (by decide)
  · obtain ⟨n, -, hn⟩ := Option.bind_eq_some_iff.mp h
    exact nonneg_of_narrow? hn

/-! ## Section 3: Expressions -/

namespace Expression

variable {α : Type}

/-- What has to hold of an operand on the stack. -/
def Operand.IsSound : Operand → Prop
  | .node value => value.IsValue
  | .arguments args => ∀ arg ∈ args, arg.IsValue
  | .nothing => True

/-- Every operand on the stack is sound. -/
def AllSound (operands : List Operand) : Prop :=
  ∀ operand ∈ operands, operand.IsSound

variable {loc : Location} {operands : List Operand}

theorem allSound_cons {operand : Operand} :
    AllSound (operand :: operands) ↔ operand.IsSound ∧ AllSound operands :=
  List.forall_mem_cons

theorem allSound_node {node : Node} :
    AllSound (.node node :: operands) ↔ node.IsValue ∧ AllSound operands :=
  allSound_cons

theorem allSound_arguments {args : List Node} :
    AllSound (.arguments args :: operands) ↔ (∀ arg ∈ args, arg.IsValue) ∧ AllSound operands :=
  allSound_cons

theorem forall_mem_concat {P : α → Prop} {as : List α} {a : α} (has : ∀ x ∈ as, P x) (ha : P a) :
    ∀ x ∈ as ++ [a], P x :=
  List.forall_mem_append.mpr ⟨has, List.forall_mem_singleton.mpr ha⟩

/-- Every operator makes values of values. -/
theorem Applied.sound {op : Operator} {operands' : List Operand} (h : Applied op loc operands operands')
    (hsound : AllSound operands) : AllSound operands' := by
  cases h with
  | unary =>
    obtain ⟨hoperand, hrest⟩ := allSound_node.mp hsound
    exact allSound_node.mpr ⟨.unary hoperand, hrest⟩
  | binary =>
    obtain ⟨hright, hsound⟩ := allSound_node.mp hsound
    obtain ⟨hleft, hrest⟩ := allSound_node.mp hsound
    exact allSound_node.mpr ⟨.binary hleft hright, hrest⟩
  | assign =>
    obtain ⟨hvalue, hsound⟩ := allSound_node.mp hsound
    obtain ⟨htarget, hrest⟩ := allSound_node.mp hsound
    exact allSound_node.mpr ⟨.assignment htarget hvalue, hrest⟩
  | extract =>
    obtain ⟨htarget, hsound⟩ := allSound_node.mp hsound
    obtain ⟨hinput, hrest⟩ := allSound_node.mp hsound
    -- The variable joins those that the input stream has already.
    cases hinput with
    | input htargets =>
      exact allSound_node.mpr ⟨.input (forall_mem_concat htargets htarget), hrest⟩
  | insert =>
    obtain ⟨hitem, hsound⟩ := allSound_node.mp hsound
    obtain ⟨houtput, hrest⟩ := allSound_node.mp hsound
    cases houtput with
    | output hitems =>
      exact allSound_node.mpr ⟨.output (forall_mem_concat hitems hitem), hrest⟩
  | commaFirst =>
    obtain ⟨hright, hsound⟩ := allSound_node.mp hsound
    obtain ⟨hleft, hrest⟩ := allSound_node.mp hsound
    refine allSound_arguments.mpr ⟨?_, hrest⟩
    simp [hleft, hright]
  | commaMore =>
    obtain ⟨hright, hsound⟩ := allSound_node.mp hsound
    obtain ⟨hargs, hrest⟩ := allSound_arguments.mp hsound
    exact allSound_arguments.mpr ⟨forall_mem_concat hargs hright, hrest⟩

/-- Unwinding applies operators one after the other, by induction on those that wait. -/
theorem gives_unwind (yields : Operator → Bool) (pending : List (Pending × Location))
    (h : AllSound operands) :
    Gives (fun p => AllSound p.2) (unwind yields pending operands) := by
  fun_induction unwind yields pending operands with
  | case1 op loc pending operands hyields ih =>
    have happly : Gives AllSound (op.apply loc operands) :=
      fun operands' happly => (applied_of_apply happly).sound h
    exact .bind happly fun operands hoperands => ih operands hoperands
  | case2 => exact .ok h
  | case3 => exact .ok h

/-! ### Brackets -/

/-- The arguments of a call are values, and so is what lies below them. -/
theorem allSound_popArguments (h : AllSound operands) :
    (∀ arg ∈ (popArguments operands).1, arg.IsValue) ∧ AllSound (popArguments operands).2 := by
  unfold popArguments
  split
  · exact allSound_arguments.mp h
  · obtain ⟨harg, hrest⟩ := allSound_node.mp h
    exact ⟨by simpa using harg, hrest⟩
  · exact ⟨by simp, (allSound_cons.mp h).2⟩
  · exact ⟨by simp, h⟩

/-- What a bracket has enclosed is a value, and so is what it becomes. -/
theorem Closed.sound {s s' : Stacks} (h : Closed s s') (hsound : AllSound s.operands) :
    AllSound s'.operands := by
  cases h with
  | group => exact hsound
  | groupOfNothing =>
    -- Parentheses without content leave a place that holds nothing, which is sound.
    exact allSound_cons.mpr ⟨trivial, hsound⟩
  | call hargs =>
    have harguments := allSound_popArguments hsound
    rw [hargs] at harguments
    obtain ⟨hcallee, hrest⟩ := allSound_node.mp harguments.2
    cases hcallee with
    | var hname _ => exact allSound_node.mpr ⟨.call hname harguments.1, hrest⟩
  | callOfNothing =>
    obtain ⟨hcallee, hrest⟩ := allSound_node.mp hsound
    cases hcallee with
    | var hname _ => exact allSound_node.mpr ⟨.call hname (List.forall_mem_nil _), hrest⟩
  | index =>
    obtain ⟨hindex, hsound⟩ := allSound_node.mp hsound
    obtain ⟨hvar, hrest⟩ := allSound_node.mp hsound
    cases hvar with
    | var hname hindices =>
      exact allSound_node.mpr ⟨.var hname (forall_mem_concat hindices hindex), hrest⟩

variable {s : Stacks}

/-! ### Tokens -/

/-- A symbol applies operators that wait, closes a bracket, or waits itself. -/
theorem gives_shift (symbol : Symbol) (h : AllSound s.operands) :
    Gives (fun s => AllSound s.operands) (s.shift loc symbol) := by
  cases symbol with
  | opener opener => exact .ok h
  | operator op => exact .bind (gives_unwind _ s.pending h) fun _ hoperands => .ok hoperands
  | closeParen =>
    exact .bind (gives_unwind _ s.pending h) fun _ hoperands _ hclose =>
      (closed_of_closeParen hclose).sound hoperands
  | closeIndex =>
    exact .bind (gives_unwind _ s.pending h) fun _ hoperands _ hclose =>
      (closed_of_closeIndex hclose).sound hoperands

theorem allSound_push {node : Node} (hnode : node.IsValue) (h : AllSound s.operands) :
    AllSound (s.push node).operands :=
  allSound_node.mpr ⟨hnode, h⟩

/-- Every token adds a value or does what its symbol does. -/
theorem gives_step (t : Token) (h : AllSound s.operands) :
    Gives (fun s => AllSound s.operands) (s.step t) := by
  unfold Stacks.step
  split
  · exact .ok (allSound_push (.input (by simp)) h)
  · split
    · exact .ok (allSound_push (.output (by simp)) h)
    · split
      · exact .ok (allSound_push .endl h)
      · split
        · next hnumeral =>
          split
          · next value hvalue =>
            exact .ok (allSound_push (.literal (nonneg_of_numeral hnumeral hvalue)) h)
          · exact .error
        · next hnumeral =>
          split
          · next hword =>
            have hname : t.isName = true := by simp [Token.isName, hword, hnumeral]
            exact .ok (allSound_push (.var (isName_of_token hname) (by simp [Reference.plain])) h)
          · split
            · exact gives_shift _ h
            · exact .error

/-- All tokens, one after the other. -/
theorem gives_steps (ts : List Token) (h : AllSound s.operands) :
    Gives (fun s => AllSound s.operands) (s.steps ts) := by
  induction ts generalizing s with
  | nil => exact .ok h
  | cons t ts ih => exact .bind (gives_step t h) fun s hs => ih hs

/-- The one tree that is left is a value. -/
theorem gives_finish (h : AllSound s.operands) : Gives Node.IsValue (s.finish loc) := by
  refine .bind (gives_shift .closeParen h) fun s hs => ?_
  split
  · exact .error
  · exact .error
  · next hoperands =>
    rw [hoperands] at hs
    exact .ok (allSound_node.mp hs).1
  · exact .error
  · exact .error

/-- What is read as an expression is a value. -/
theorem gives_read (ts : List Token) : Gives Node.IsValue (read ts) := by
  cases ts with
  | nil => exact .ok .empty
  | cons t ts =>
    have hstart : AllSound (Stacks.start t.loc).operands := List.forall_mem_nil _
    exact .bind (gives_steps (t :: ts) hstart) fun s hs => gives_finish hs

end Expression

/-! ## Section 4: Declarations -/

namespace Declaration

open Expression (Reading Gives)

/-- What is read as a name is one. -/
theorem gives_name (t : Token) : Gives (fun text => text = t.text ∧ IsName text) (name t) := by
  unfold name
  split
  · next h => exact .ok ⟨rfl, isName_of_token h⟩
  · exact .error

variable {whole loc : Location}

/-- A value that is assigned is an expression, and the variable has the name of its declarator. -/
theorem gives_initializer {first : Token} (hfirst : IsName first.text) (ts : List Token) :
    Gives AllStatements (initializer first ts) := by
  unfold initializer
  split
  · exact .ok (List.forall_mem_nil _)
  · split
    · split
      · exact .error
      · refine .bind (Expression.gives_read _) fun value hvalue => ?_
        have htarget : (Node.var (Reference.plain first.text first.loc)).IsValue :=
          .var hfirst (by simp [Reference.plain])
        exact .ok (List.forall_mem_singleton.mpr (.value (.assignment htarget hvalue)))
    · exact .error

/-- A declarator gives a declaration, and an assignment if it has a value. -/
theorem gives_declarator (ts : List Token) :
    Gives AllStatements (declarator whole loc ts) := by
  cases ts with
  | nil => exact .error
  | cons first ts =>
    refine .bind (gives_name first) ?_
    rintro _ ⟨rfl, hname⟩
    refine .bind (.any _) fun rest _ => .bind (gives_initializer hname rest) fun nodes hnodes => ?_
    exact .ok (List.forall_mem_cons.mpr ⟨.declaration hname, hnodes⟩)

theorem gives_declarators (pieces : List (List Token)) :
    Gives AllStatements (declarators whole loc pieces) := by
  induction pieces with
  | nil => exact .ok (List.forall_mem_nil _)
  | cons piece pieces ih =>
    refine .bind (gives_declarator piece) fun nodes hnodes => .bind ih fun more hmore => ?_
    exact .ok (List.forall_mem_append.mpr ⟨hnodes, hmore⟩)

/-- What is read as a declaration are statements. -/
theorem gives_read (ts : List Token) :
    Gives (fun p => AllStatements p.1) (read whole loc ts) := by
  refine .bind (.any _) fun p _ => .bind (gives_declarators _) fun nodes hnodes => ?_
  exact .ok hnodes

end Declaration

/-! ## Section 5: Statements -/

namespace Statement

open Expression (Reading Gives)
open Extent (Ends)

variable {ends : Ends} {inner : List Token → Reading (List Node)} {t : Token} {ts : List Token}

/-- A body is a sequence of what is read inside. -/
theorem gives_body
    (hinner : ∀ ts, Gives AllStatements (inner ts)) :
    Gives (fun p => p.1.IsBody) (body ends inner ts) := by
  refine .bind (.any _) fun cut _ => .bind (hinner cut.front) fun nodes hnodes => ?_
  exact .ok (.sequence hnodes)

/-- A second branch is a body, if there is one. -/
theorem gives_readElse
    (hinner : ∀ ts, Gives AllStatements (inner ts)) :
    Gives (fun p => ∀ branch ∈ p.1, branch.IsBody) (readElse ends inner ts) := by
  unfold readElse
  split
  · exact .ok (by simp)
  · split
    · refine .bind (gives_body hinner) ?_
      rintro ⟨branch, rest⟩ hbranch
      exact .ok (by simpa using hbranch)
    · exact .ok (by simp)

theorem allStatements_singleton {node : Node} (h : node.IsStatement) : AllStatements [node] :=
  List.forall_mem_singleton.mpr h

theorem gives_readReturn : Gives (fun step => AllStatements step.1) (readReturn t ts) := by
  refine .bind (.any _) fun p _ => .bind (Expression.gives_read p.before) fun value hvalue => ?_
  exact .ok (allStatements_singleton (.giveBack hvalue))

/-- The parts of a for loop are what their places ask for. -/
theorem gives_readFor (hinner : ∀ ts, Gives AllStatements (inner ts)) :
    Gives (fun step => AllStatements step.1) (readFor ends inner t ts) := by
  refine .bind (.any _) fun parens _ => ?_
  split
  · exact .error
  · next header _ =>
    refine .bind (hinner header.init) fun init hinit =>
      .bind (Expression.gives_read _) fun condition hcondition =>
        .bind (Expression.gives_read _) fun step hstep => .bind (gives_body hinner) ?_
    rintro ⟨body, rest⟩ hbody
    exact .ok (allStatements_singleton (.forLoop (.sequence hinit) hcondition hstep hbody))

theorem gives_readWhile (hinner : ∀ ts, Gives AllStatements (inner ts)) :
    Gives (fun step => AllStatements step.1) (readWhile ends inner t ts) := by
  refine .bind (.any _) fun parens _ =>
    .bind (Expression.gives_read _) fun condition hcondition => .bind (gives_body hinner) ?_
  rintro ⟨body, rest⟩ hbody
  exact .ok (allStatements_singleton (.whileLoop hcondition hbody))

/-- So are those of an `if`. -/
theorem gives_readIf (hinner : ∀ ts, Gives AllStatements (inner ts)) :
    Gives (fun step => AllStatements step.1) (readIf ends inner t ts) := by
  refine .bind (.any _) fun parens _ =>
    .bind (Expression.gives_read _) fun condition hcondition => .bind (.any _) fun cut _ =>
      .bind (hinner cut.front) fun thenBranch hthen => .bind (gives_readElse hinner) ?_
  rintro ⟨elseBranch, rest⟩ helse
  exact .ok (allStatements_singleton (.ifElse hcondition (.sequence hthen) helse))

theorem gives_readBlock (hinner : ∀ ts, Gives AllStatements (inner ts)) :
    Gives (fun step => AllStatements step.1) (readBlock ends inner t ts) := by
  refine .bind (.any _) fun braces _ => .bind (hinner braces.inside) fun nodes hnodes => ?_
  exact .ok (allStatements_singleton (.block (.sequence hnodes)))

theorem gives_readExpression : Gives (fun step => AllStatements step.1) (readExpression t ts) := by
  refine .bind (.any _) fun p _ => .bind (Expression.gives_read p.before) fun node hnode => ?_
  exact .ok (allStatements_singleton (.value hnode))

/-- Whatever token it begins with, what is read as a statement is one, if what is read inside is. -/
theorem gives_readOne {whole : Location} (hinner : ∀ ts, Gives AllStatements (inner ts)) :
    Gives (fun step => AllStatements step.1) (readOne whole inner t ts) := by
  unfold readOne
  dsimp only
  split_ifs
  · exact gives_readReturn
  · exact gives_readFor hinner
  · exact gives_readWhile hinner
  · exact gives_readIf hinner
  · exact gives_readBlock hinner
  · exact Declaration.gives_read ts
  · exact .error
  · exact gives_readExpression

/-- Statements are read within every bound. -/
theorem gives_readWithin (whole : Location) (bound : Nat) (ts : List Token) :
    Gives AllStatements (readWithin whole bound ts) := by
  -- The bound falls both from one statement to the next and from a statement to what is inside it.
  induction bound generalizing ts with
  | zero =>
    cases ts with
    | nil => exact .ok (List.forall_mem_nil _)
    | cons t ts => exact .error
  | succ bound ih =>
    cases ts with
    | nil => exact .ok (List.forall_mem_nil _)
    | cons t ts =>
      refine .bind (gives_readOne ih) ?_
      rintro ⟨nodes, rest⟩ hnodes
      refine .bind (ih rest) fun more hmore => ?_
      exact .ok (List.forall_mem_append.mpr ⟨hnodes, hmore⟩)

/-- What is read as statements are statements. -/
theorem gives_readAll (whole : Location) (ts : List Token) :
    Gives AllStatements (readAll whole ts) :=
  gives_readWithin whole ts.length ts

end Statement

/-! ## Section 6: Programs -/

namespace Loading

open Expression (Reading Gives)

variable {whole loc : Location} {name : String}

/-- What is read as a parameter is a name. -/
theorem gives_parameter (ts : List Token) : Gives IsName (parameter name loc ts) := by
  unfold parameter
  split
  · exact .error
  · split
    · exact fun text h => (Declaration.gives_name _ text h).2
    · exact .error
  · exact .error

theorem gives_parameters (pieces : List (List Token)) :
    Gives (fun params => ∀ param ∈ params, IsName param) (parameters name loc pieces) := by
  induction pieces with
  | nil => exact .ok (List.forall_mem_nil _)
  | cons piece pieces ih =>
    refine .bind (gives_parameter piece) fun param hparam => .bind ih fun params hparams => ?_
    exact .ok (List.forall_mem_cons.mpr ⟨hparam, hparams⟩)

theorem gives_paramsOf (parens : Enclosed) :
    Gives (fun params => ∀ param ∈ params, IsName param) (paramsOf name parens) := by
  -- A function without parameters has nothing between its parentheses, not even one empty piece.
  rw [paramsOf]
  split
  · exact .ok (List.forall_mem_nil _)
  · exact gives_parameters _

/-- What is read as a function is well shaped. -/
theorem gives_routine (first : Token) (ts : List Token) :
    Gives (fun p => p.1.WellShaped) (routine whole first ts) := by
  rw [routine]
  refine .bind (Declaration.gives_name first) fun name hname => .bind (.any _) fun parens _ =>
    .bind (gives_paramsOf parens) fun params hparams => .bind (.any _) fun braces _ =>
    .bind (Statement.gives_readAll whole braces.inside) fun body hbody => ?_
  exact .ok ⟨hname.2, hparams, .sequence hbody⟩

/-- A function takes the place of one of its name, and the others stay. -/
theorem wellShaped_define {program : Program} {routine : Routine} (h : program.WellShaped)
    (hroutine : routine.WellShaped) : (program.define routine).WellShaped := by
  refine ⟨fun r hr => ?_, h.globals⟩
  rcases List.mem_append.mp hr with hold | hnew
  · exact h.routines r (List.mem_filter.mp hold).1
  · rw [List.mem_singleton.mp hnew]
    exact hroutine

theorem wellShaped_addGlobals {program : Program} {nodes : List Node} (h : program.WellShaped)
    (hnodes : AllStatements nodes) : (program.addGlobals nodes).WellShaped :=
  ⟨h.routines, List.forall_mem_append.mpr ⟨h.globals, hnodes⟩⟩

/-- Loading adds what it reads to a program, item by item. -/
theorem gives_loadWithin (bound : Nat) {program : Program} (h : program.WellShaped)
    (ts : List Token) : Gives Program.WellShaped (loadWithin whole bound program ts).outcome := by
  fun_induction loadWithin whole bound program ts with
  | case1 => exact .ok h
  | case5 bound program t ts _ first ts' _ routine rest hroutine _ _ ih =>
    exact ih (wellShaped_define h (gives_routine first ts' _ hroutine))
  | case7 bound program t ts _ _ nodes rest hnodes ih =>
    exact ih (wellShaped_addGlobals h (Declaration.gives_read ts _ hnodes))
  | _ => exact .error

end Loading

/-- Every program that can be read is well shaped. -/
theorem Program.wellShaped_of_ofTokens {ts : List Token} {program : Program}
    (h : Program.ofTokens ts = .ok program) : program.WellShaped := by
  have hempty : ({} : Program).WellShaped :=
    ⟨List.forall_mem_nil _, List.forall_mem_nil _⟩
  exact Loading.gives_loadWithin ts.length hempty ts program h

end Stepwise
