import Stepwise.Proofs.ExpressionWriting

/-!
# How statements are written

`Statement.WrittenAll ns ts` says that the tokens `ts` are a way to write statements whose nodes are
`ns`. As for expressions, this is the grammar of the language and knows nothing of its reader, and
places play no part.

The language has a rule of its own for `else`: the first branch of an `if` takes no `else` with it, so
that the one that follows belongs to the outer `if`. A first branch can therefore be written only
if no `if` with an `else` ends it: `WrittenOne true` are the statements of which this holds.
-/

namespace Stepwise.Statement

/-! ## Section 1: Names and expressions inside statements -/

/-- The words that begin statements or their branches. -/
def keywords : List String := ["return", "for", "while", "if", "else", "int"]

/-- The ways to write an expression none of whose names is a keyword. -/
def WrittenExpression (e : Node) (ts : List Token) : Prop :=
  Expression.Written 3 e ts ∧ ∀ t ∈ ts, t.text ∉ keywords

/-- The ways to write an expression that may be left out. -/
def WrittenOptional (e : Node) (ts : List Token) : Prop :=
  e = .empty ∧ ts = [] ∨ WrittenExpression e ts

/-- Whether a text can be declared as a variable. -/
def IsDeclarable (text : String) : Prop :=
  Expression.IsVariableName text ∧ text ∉ keywords

/-! ## Section 2: Declarations -/

/-- The ways to declare one name. -/
inductive WrittenDeclarator : List Node → List Token → Prop where
  | plain {loc : Location} {t : Token} (ht : IsDeclarable t.text) :
      WrittenDeclarator [.declaration t.text loc] [t]
  /-- An initial value is assigned after the declaration. -/
  | initialized {e : Node} {loc loc' loc'' : Location} {ts : List Token} {t mark : Token}
      (ht : IsDeclarable t.text) (hmark : mark.text = "=") (he : WrittenExpression e ts) :
      WrittenDeclarator
        [.declaration t.text loc, .assignment ⟨t.text, [], loc'⟩ e loc''] (t :: mark :: ts)

/-- The ways to declare one or more names, separated by commas. -/
inductive WrittenDeclarators : List Node → List Token → Prop where
  | one {ns : List Node} {ts : List Token} (h : WrittenDeclarator ns ts) : WrittenDeclarators ns ts
  | more {ns ms : List Node} {ts us : List Token} {mark : Token} (h : WrittenDeclarator ns ts)
      (hmark : mark.text = ",") (hmore : WrittenDeclarators ms us) :
      WrittenDeclarators (ns ++ ms) (ts ++ mark :: us)

/-! ## Section 3: Statements -/

/-- The statements that may begin the header of a for loop. -/
inductive WrittenSimple : List Node → List Token → Prop where
  | empty {mark : Token} (hmark : mark.text = ";") : WrittenSimple [.empty] [mark]
  | expression {e : Node} {ts : List Token} {mark : Token} (he : WrittenExpression e ts)
      (hmark : mark.text = ";") : WrittenSimple [e] (ts ++ [mark])
  | declaration {ns : List Node} {ts : List Token} {t mark : Token} (ht : t.text = "int")
      (hns : WrittenDeclarators ns ts) (hmark : mark.text = ";") :
      WrittenSimple ns (t :: ts ++ [mark])

mutual

/-- The ways to write one statement. If `bare`, no `if` with an `else` ends it: it is none itself,
and none is reached through the bodies of loops and branches that have no braces. -/
inductive WrittenOne : Bool → List Node → List Token → Prop where
  | simple {bare : Bool} {ns : List Node} {ts : List Token} (h : WrittenSimple ns ts) :
      WrittenOne bare ns ts
  | giveBack {bare : Bool} {e : Node} {loc : Location} {ts : List Token} {t mark : Token}
      (ht : t.text = "return") (he : WrittenOptional e ts) (hmark : mark.text = ";") :
      WrittenOne bare [.giveBack e loc] (t :: ts ++ [mark])
  | block {bare : Bool} {ns : List Node} {loc : Location} {ts : List Token} {o c : Token}
      (ho : o.text = "\x7b") (hns : WrittenAll ns ts) (hc : c.text = "\x7d") :
      WrittenOne bare [.block (.sequence ns) loc] (o :: ts ++ [c])
  | whileLoop {bare : Bool} {e : Node} {ns : List Node} {loc : Location} {ts us : List Token}
      {t o c : Token} (ht : t.text = "while") (ho : o.text = "(") (he : WrittenExpression e ts)
      (hc : c.text = ")") (hbody : WrittenOne bare ns us) :
      WrittenOne bare [.whileLoop e (.sequence ns) loc] (t :: (o :: ts ++ c :: us))
  | forLoop {bare : Bool} {condition step : Node} {init ns : List Node} {loc : Location}
      {is cs ss us : List Token} {t o mark c : Token} (ht : t.text = "for") (ho : o.text = "(")
      (hinit : WrittenSimple init is) (hcondition : WrittenOptional condition cs)
      (hmark : mark.text = ";") (hstep : WrittenOptional step ss) (hc : c.text = ")")
      (hbody : WrittenOne bare ns us) :
      WrittenOne bare [.forLoop (.sequence init) condition step (.sequence ns) loc]
        (t :: (o :: (is ++ (cs ++ mark :: ss)) ++ c :: us))
  /-- The branch of an `if` takes no `else` with it. -/
  | ifThen {bare : Bool} {e : Node} {ns : List Node} {loc : Location} {ts us : List Token}
      {t o c : Token} (ht : t.text = "if") (ho : o.text = "(") (he : WrittenExpression e ts)
      (hc : c.text = ")") (hthen : WrittenOne true ns us) :
      WrittenOne bare [.ifElse e (.sequence ns) none loc] (t :: (o :: ts ++ c :: us))
  | ifElse {e : Node} {ns ms : List Node} {loc : Location} {ts us vs : List Token}
      {t o c mark : Token} (ht : t.text = "if") (ho : o.text = "(") (he : WrittenExpression e ts)
      (hc : c.text = ")") (hthen : WrittenOne true ns us) (hmark : mark.text = "else")
      (helse : WrittenOne false ms vs) :
      WrittenOne false [.ifElse e (.sequence ns) (some (.sequence ms)) loc]
        (t :: (o :: ts ++ c :: us) ++ mark :: vs)

/-- The ways to write statements one after the other. -/
inductive WrittenAll : List Node → List Token → Prop where
  | nil : WrittenAll [] []
  | cons {ns ms : List Node} {ts us : List Token} (h : WrittenOne false ns ts)
      (hmore : WrittenAll ms us) : WrittenAll (ns ++ ms) (ts ++ us)

end

end Stepwise.Statement
